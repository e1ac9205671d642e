import Listmaster.Proofs.Survey.Basic

/-!
What a survey asks about.

A survey asks about each address that it comes to and does not skip, and inside the groups
that it enters.  It fails if and only if one of these questions has no answer:
`explore_eq_error_iff`.
-/

namespace Listmaster.Survey

/-- The survey comes to ask about an address. -/
inductive Asks (groupAt : Lookups) (limit : Nat) : Nat → List Address → Survey → Address → Prop
  | here {levels earlier address later s t} :
      Explores groupAt limit levels earlier s t →
      t.skips address = false →
      Asks groupAt limit levels (earlier ++ address :: later) s address
  | inside {levels earlier address group later s t x} :
      Explores groupAt limit (levels + 1) earlier s t →
      t.skips address = false → groupAt address = .ok (some group) →
      Asks groupAt limit levels group.members.toList (t.enter address) x →
      Asks groupAt limit (levels + 1) (earlier ++ address :: later) s x

variable {groupAt : Lookups} {limit levels : Nat} {references earlier later : List Address}
  {s t : Survey} {address x : Address}

theorem asks_head (visited : s.skips address = false) :
    Asks groupAt limit levels (address :: references) s address :=
  @Asks.here groupAt limit levels [] address references s s .done visited

theorem asks_inside {group : Group} (visited : s.skips address = false)
    (found : groupAt address = .ok (some group))
    (asks : Asks groupAt limit levels group.members.toList (s.enter address) x) :
    Asks groupAt limit (levels + 1) (address :: references) s x :=
  @Asks.inside groupAt limit levels [] address group references s s x .done visited found asks

theorem Asks.cons {next : Survey}
    (step : ∀ {earlier t}, Explores groupAt limit levels earlier next t →
      Explores groupAt limit levels (address :: earlier) s t)
    (asks : Asks groupAt limit levels references next x) :
    Asks groupAt limit levels (address :: references) s x := by
  cases asks with
  | here explored visited => exact .here (step explored) visited
  | inside explored visited found asks => exact .inside (step explored) visited found asks

theorem explore_append (explored : Explores groupAt limit levels earlier s t)
    (later : List Address) :
    explore groupAt limit levels (earlier ++ later) s = explore groupAt limit levels later t := by
  induction explored with
  | done => rfl
  | skip skipped _ along => rw [List.cons_append, explore, if_pos skipped, along]
  | leaf visited leaf _ along =>
      simp only [List.cons_append, explore, visited, leaf, along, Bool.false_eq_true, if_false]
  | deep visited found _ along =>
      simp only [List.cons_append, explore, visited, found, along, Bool.false_eq_true, if_false]
  | nest visited found inside _ _ along =>
      simp only [List.cons_append, explore, visited, found, inside.explore, along,
        Bool.false_eq_true, if_false]

theorem asks_of_explore {error : DirectoryError}
    (failed : explore groupAt limit levels references s = .error error) :
    ∃ x, Asks groupAt limit levels references s x ∧ groupAt x = .error error := by
  fun_induction explore groupAt limit levels references s with
  | case1 => cases failed
  | case2 levels address rest s skipped inductionHypothesis =>
      obtain ⟨x, asks, unanswered⟩ := inductionHypothesis failed
      exact ⟨x, asks.cons (.skip skipped), unanswered⟩
  | case3 levels address rest s visited error unanswered =>
      cases failed
      exact ⟨address, asks_head (by simpa using visited), unanswered⟩
  | case4 levels address rest s visited leaf inductionHypothesis =>
      obtain ⟨x, asks, unanswered⟩ := inductionHypothesis failed
      exact ⟨x, asks.cons (.leaf (by simpa using visited) leaf), unanswered⟩
  | case5 address rest s visited group found inductionHypothesis =>
      obtain ⟨x, asks, unanswered⟩ := inductionHypothesis failed
      exact ⟨x, asks.cons (.deep (by simpa using visited) found), unanswered⟩
  | case6 address rest s visited group found levels error within inductionHypothesis =>
      cases failed
      obtain ⟨x, asks, unanswered⟩ := inductionHypothesis within
      exact ⟨x, asks_inside (by simpa using visited) found asks, unanswered⟩
  | case7 address rest s visited group found levels inside explored _ along =>
      obtain ⟨x, asks, unanswered⟩ := along failed
      exact ⟨x, asks.cons (.nest (by simpa using visited) found
        (explore_eq_ok_iff.mp explored)), unanswered⟩

theorem Asks.explore {error : DirectoryError}
    (asks : Asks groupAt limit levels references s x) (unanswered : groupAt x = .error error) :
    explore groupAt limit levels references s = .error error := by
  induction asks with
  | here explored visited =>
      rw [explore_append explored, Survey.explore]
      simp only [visited, unanswered, Bool.false_eq_true, if_false]
  | inside explored visited found _ inductionHypothesis =>
      rw [explore_append explored, Survey.explore]
      simp only [visited, found, inductionHypothesis unanswered, Bool.false_eq_true, if_false]

/-- A survey fails if and only if it asks about an address that has no answer. -/
theorem explore_eq_error_iff {error : DirectoryError} :
    explore groupAt limit levels references s = .error error ↔
      ∃ x, Asks groupAt limit levels references s x ∧ groupAt x = .error error :=
  ⟨asks_of_explore, fun ⟨_, asks, unanswered⟩ => asks.explore unanswered⟩

end Listmaster.Survey
