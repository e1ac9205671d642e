import Listmaster.Proofs.Survey.Asking
import Listmaster.Proofs.Survey.Chain

/-!
Which groups a survey enters.

A survey enters each group that it comes to and does not skip, as long as it has a level left, and
then the groups among its members.  These are the groups that it records
(`Explores.mem_recorded_iff_enters`), and none of them is nested more deeply than the levels allow
(`Enters.deep`).
-/

namespace Listmaster.Survey

/-- The survey comes to enter a group. -/
inductive Enters (groupAt : Lookups) (limit : Nat) : Nat → List Address → Survey → Address → Prop
  | here {levels earlier address group later s t} :
      Explores groupAt limit (levels + 1) earlier s t →
      t.skips address = false → groupAt address = .ok (some group) →
      Enters groupAt limit (levels + 1) (earlier ++ address :: later) s address
  | inside {levels earlier address group later s t x} :
      Explores groupAt limit (levels + 1) earlier s t →
      t.skips address = false → groupAt address = .ok (some group) →
      Enters groupAt limit levels group.members.toList (t.enter address) x →
      Enters groupAt limit (levels + 1) (earlier ++ address :: later) s x

variable {groupAt : Lookups} {limit levels : Nat} {references earlier later rest : List Address}
  {s t middle : Survey} {address x : Address}

theorem enters_head {group : Group} (visited : s.skips address = false)
    (found : groupAt address = .ok (some group)) :
    Enters groupAt limit (levels + 1) (address :: references) s address :=
  @Enters.here groupAt limit levels [] address group references s s .done visited found

theorem enters_inside {group : Group} (visited : s.skips address = false)
    (found : groupAt address = .ok (some group))
    (enters : Enters groupAt limit levels group.members.toList (s.enter address) x) :
    Enters groupAt limit (levels + 1) (address :: references) s x :=
  @Enters.inside groupAt limit levels [] address group references s s x .done visited found enters

theorem Enters.cons {next : Survey}
    (step : ∀ {earlier t}, Explores groupAt limit levels earlier next t →
      Explores groupAt limit levels (address :: earlier) s t)
    (enters : Enters groupAt limit levels references next x) :
    Enters groupAt limit levels (address :: references) s x := by
  cases enters with
  | here explored visited found => exact .here (step explored) visited found
  | inside explored visited found enters => exact .inside (step explored) visited found enters

theorem Explores.after (first : Explores groupAt limit levels earlier s middle)
    (explored : Explores groupAt limit levels (earlier ++ later) s t) :
    Explores groupAt limit levels later middle t := by
  rw [← explore_eq_ok_iff, ← explore_append first later]
  exact explored.explore

/-- A group that is not skipped is entered, and then its members are visited. -/
theorem Explores.enter {group : Group} (visited : s.skips address = false)
    (found : groupAt address = .ok (some group))
    (explored : Explores groupAt limit (levels + 1) (address :: references) s t) :
    ∃ inside, Explores groupAt limit levels group.members.toList (s.enter address) inside ∧
      Explores groupAt limit (levels + 1) references inside t := by
  cases explored with
  | skip skipped => simp [visited] at skipped
  | leaf _ leaf => simp [found] at leaf
  | nest _ foundToo within rest =>
      rw [found] at foundToo
      cases foundToo
      exact ⟨_, within, rest⟩

theorem Enters.recorded (enters : Enters groupAt limit levels references s x)
    (explored : Explores groupAt limit levels references s t) : x ∈ t.guard.recorded := by
  induction enters generalizing t with
  | @here levels earlier address group later s middle first visited found =>
      obtain ⟨inside, within, rest⟩ := (first.after explored).enter visited found
      apply (within.growth.trans rest.growth).guard
      exact LoopGuard.mem_record.mpr (.inl rfl)
  | inside first visited found _ inductionHypothesis =>
      obtain ⟨inside, within, rest⟩ := (first.after explored).enter visited found
      exact rest.growth.guard _ (inductionHypothesis within)

theorem Explores.enters_of_recorded (explored : Explores groupAt limit levels references s t)
    (recorded : x ∈ t.guard.recorded) :
    x ∈ s.guard.recorded ∨ Enters groupAt limit levels references s x := by
  induction explored with
  | done => exact .inl recorded
  | skip skipped _ along => exact (along recorded).imp_right (.cons (.skip skipped))
  | leaf visited leaf _ along =>
      rcases along recorded with before | enters
      · rw [guard_add] at before
        exact .inl before
      · exact .inr (enters.cons (.leaf visited leaf))
  | deep visited found _ along =>
      exact (along recorded).imp_right (.cons (.deep visited found))
  | nest visited found within _ down along =>
      rcases along recorded with before | enters
      · rcases down before with entered | enters
        · rcases LoopGuard.mem_record.mp entered with same | old
          · rw [same]
            exact .inr (enters_head visited found)
          · exact .inl old
        · exact .inr (enters_inside visited found enters)
      · exact .inr (enters.cons (.nest visited found within))

/-- A survey records the groups that it enters. -/
theorem Explores.mem_recorded_iff_enters
    (explored : Explores groupAt limit levels references s t) :
    x ∈ t.guard.recorded ↔
      x ∈ s.guard.recorded ∨ Enters groupAt limit levels references s x := by
  constructor
  · exact explored.enters_of_recorded
  · rintro (before | enters)
    · exact explored.growth.guard x before
    · exact enters.recorded explored

theorem Stands.after {guard : LoopGuard} {roots : AddressSet} {chain : List Address}
    (stands : Stands groupAt guard roots chain (earlier ++ rest) s)
    (first : Explores groupAt limit levels earlier s t) :
    Stands groupAt guard roots chain rest t where
  chained := by
    obtain ⟨members, chained, among⟩ := stands.chained
    exact ⟨members, chained, fun reference later =>
      among reference (List.mem_append_right earlier later)⟩
  distinct := stands.distinct
  recorded x here := first.growth.guard x (stands.recorded x here)

theorem Enters.deep {guard : LoopGuard} {roots : AddressSet} {chain : List Address}
    (enters : Enters groupAt limit levels references s x)
    (stands : Stands groupAt guard roots chain references s) :
    ∃ count, count ≤ chain.length + levels ∧ Deep groupAt guard roots count x := by
  induction enters generalizing chain with
  | here first visited found =>
      exact ⟨chain.length + 1, by omega, (stands.after first).deep visited found⟩
  | inside first visited found _ inductionHypothesis =>
      obtain ⟨count, allowed, deep⟩ :=
        inductionHypothesis ((stands.after first).enter visited found)
      exact ⟨count, by simp only [List.length_cons] at allowed; omega, deep⟩

end Listmaster.Survey
