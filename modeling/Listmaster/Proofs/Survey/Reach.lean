import Listmaster.Proofs.Survey.Growth

/-!
What a survey reaches.

An address reaches another one through the members of groups that are not recorded.  A
survey sees nothing else (`Explores.sound`), and so it depends on nothing else
(`Explores.transfer`, `explore_congr`).
-/

namespace Listmaster

/-- The way from an address to another one through groups, past those that are recorded. -/
inductive Reaches (groupAt : Lookups) (guard : LoopGuard) : Address → Address → Prop
  | self {x} : ¬ x ∈ guard.recorded → Reaches groupAt guard x x
  | member {list group member x} :
      ¬ list ∈ guard.recorded → groupAt list = .ok (some group) → member ∈ group.members →
      Reaches groupAt guard member x → Reaches groupAt guard list x

/-- Addresses with all members of the groups among them: these groups, and these others. -/
structure Region (groupAt : Lookups) (near : Address → Prop) (groups others : AddressSet) :
    Prop where
  closed : ∀ list group member, near list → groupAt list = .ok (some group) →
    member ∈ group.members → near member
  group : ∀ x group, near x → groupAt x = .ok (some group) → x ∈ groups
  other : ∀ x, near x → groupAt x = .ok none → x ∈ others

/-- The answers are groups with the same members, or are the same otherwise. -/
def SameMembers (first second : Except DirectoryError (Option Group)) : Prop :=
  first.map (Option.map Group.members) = second.map (Option.map Group.members)

namespace SameMembers

variable {answer : Except DirectoryError (Option Group)} {group : Group}

theorem of_leaf (same : SameMembers (.ok none) answer) : answer = .ok none := by
  unfold SameMembers at same
  cases answer with
  | error error => cases same
  | ok known =>
      cases known with
      | none => rfl
      | some other => cases same

theorem of_error {error : DirectoryError} (same : SameMembers (.error error) answer) :
    answer = .error error := by
  unfold SameMembers at same
  cases answer with
  | error other => exact congrArg Except.error (Except.error.inj same.symm)
  | ok known => cases same

theorem of_group (same : SameMembers (.ok (some group)) answer) :
    ∃ other, answer = .ok (some other) ∧ other.members = group.members := by
  unfold SameMembers at same
  cases answer with
  | error error => cases same
  | ok known =>
      cases known with
      | none => cases same
      | some other => exact ⟨other, rfl, (Option.some.inj (Except.ok.inj same)).symm⟩

end SameMembers

namespace Reaches

variable {groupAt : Lookups} {guard larger : LoopGuard} {x y z : Address}

theorem mono (included : guard.recorded ⊆ larger.recorded) (reaches : Reaches groupAt larger x y) :
    Reaches groupAt guard x y := by
  induction reaches with
  | self fresh => exact .self fun recorded => fresh (included _ recorded)
  | member fresh found here _ inductionHypothesis =>
      exact .member (fun recorded => fresh (included _ recorded)) found here inductionHypothesis

theorem trans (first : Reaches groupAt guard x y) (second : Reaches groupAt guard y z) :
    Reaches groupAt guard x z := by
  induction first with
  | self _ => exact second
  | member fresh found here _ inductionHypothesis =>
      exact .member fresh found here (inductionHypothesis second)

theorem start_fresh (reaches : Reaches groupAt guard x y) : ¬ x ∈ guard.recorded := by
  cases reaches with
  | self fresh => exact fresh
  | member fresh => exact fresh

theorem end_fresh (reaches : Reaches groupAt guard x y) : ¬ y ∈ guard.recorded := by
  induction reaches with
  | self fresh => exact fresh
  | member _ _ _ _ inductionHypothesis => exact inductionHypothesis

theorem eq_of_leaf (leaf : groupAt x = .ok none) (reaches : Reaches groupAt guard x y) :
    x = y := by
  cases reaches with
  | self _ => rfl
  | member _ found =>
      rw [leaf] at found
      cases found

theorem near {near : Address → Prop} {groups others : AddressSet}
    (region : Region groupAt near groups others) (start : near x)
    (reaches : Reaches groupAt guard x y) : near y := by
  induction reaches with
  | self _ => exact start
  | member _ found here _ inductionHypothesis =>
      exact inductionHypothesis (region.closed _ _ _ start found here)

end Reaches

namespace Survey

variable {groupAt : Lookups} {limit levels : Nat} {references : List Address} {s t : Survey}
  {address : Address}

/-- The address was found or recorded. -/
def Seen (s : Survey) (x : Address) : Prop := x ∈ s.found ∨ x ∈ s.guard.recorded

theorem Extends.seen (growth : Extends groupAt s t) {x : Address} (seen : s.Seen x) : t.Seen x :=
  seen.imp (growth.found x) (growth.guard x)

theorem Explores.found_of_seen {guard : LoopGuard} {x : Address}
    (explored : Explores groupAt limit levels references (.start guard) t) (seen : t.Seen x)
    (fresh : ¬ x ∈ guard.recorded) (leaf : groupAt x = .ok none) : x ∈ t.found := by
  rcases seen with found | recorded
  · exact found
  · rcases explored.growth.newlyRecorded x recorded with before | ⟨group, found⟩
    · exact absurd before fresh
    · rw [leaf] at found
      cases found

theorem seen_add {x : Address} (seen : (s.add limit address).Seen x) : x = address ∨ s.Seen x := by
  rcases seen with found | recorded
  · rcases mem_found_add found with same | before
    · exact .inl same
    · exact .inr (.inl before)
  · rw [guard_add] at recorded
    exact .inr (.inr recorded)

/-- A survey sees what its references reach. -/
theorem Explores.sound (explored : Explores groupAt limit levels references s t) {x : Address}
    (seen : t.Seen x) :
    s.Seen x ∨ ∃ reference ∈ references, Reaches groupAt s.guard reference x := by
  induction explored with
  | done => exact .inl seen
  | skip _ _ along =>
      rcases along seen with before | ⟨reference, here, reaches⟩
      · exact .inl before
      · exact .inr ⟨reference, List.mem_cons_of_mem _ here, reaches⟩
  | leaf visited _ _ along =>
      rcases along seen with before | ⟨reference, here, reaches⟩
      · rcases seen_add before with same | old
        · rw [same]
          exact .inr ⟨_, List.mem_cons_self, .self (not_mem_of_skips visited)⟩
        · exact .inl old
      · rw [guard_add] at reaches
        exact .inr ⟨reference, List.mem_cons_of_mem _ here, reaches⟩
  | deep _ _ _ along =>
      rcases along seen with before | ⟨reference, here, reaches⟩
      · exact .inl before
      · exact .inr ⟨reference, List.mem_cons_of_mem _ here, reaches⟩
  | @nest levels address group rest s inside t visited found explored _ down along =>
      have fresh := not_mem_of_skips visited
      have entering : Extends groupAt s (s.enter address) := .enter visited found
      rcases along seen with before | ⟨reference, here, reaches⟩
      · rcases down before with entered | ⟨member, here, reaches⟩
        · rcases entered with old | recorded
          · exact .inl (.inl old)
          · rcases LoopGuard.mem_record.mp recorded with same | old
            · rw [same]
              exact .inr ⟨address, List.mem_cons_self, .self fresh⟩
            · exact .inl (.inr old)
        · exact .inr ⟨address, List.mem_cons_self,
            .member fresh found here (reaches.mono entering.guard)⟩
      · exact .inr ⟨reference, List.mem_cons_of_mem _ here,
          reaches.mono (entering.trans explored.growth).guard⟩

/-- A survey that succeeds is the same with other answers, if the groups that it can reach keep
their members. -/
theorem Explores.transfer {other : Lookups}
    (explored : Explores groupAt limit levels references s t)
    (same : ∀ reference ∈ references, ∀ x known, Reaches groupAt s.guard reference x →
      groupAt x = .ok known → SameMembers (.ok known) (other x)) :
    Explores other limit levels references s t := by
  induction explored with
  | done => exact .done
  | skip skipped _ along =>
      exact .skip skipped (along fun reference later =>
        same reference (List.mem_cons_of_mem _ later))
  | leaf visited leaf _ along =>
      have first := same _ List.mem_cons_self _ none (.self (not_mem_of_skips visited)) leaf
      refine .leaf visited first.of_leaf (along ?_)
      rw [guard_add]
      exact fun reference later => same reference (List.mem_cons_of_mem _ later)
  | deep visited found _ along =>
      have first := same _ List.mem_cons_self _ _ (.self (not_mem_of_skips visited)) found
      obtain ⟨_, foundToo, _⟩ := first.of_group
      exact .deep visited foundToo (along fun reference later =>
        same reference (List.mem_cons_of_mem _ later))
  | @nest levels address group rest s inside t visited found explored _ down along =>
      have fresh := not_mem_of_skips visited
      have entering : Extends groupAt s (s.enter address) := .enter visited found
      have first := same _ List.mem_cons_self _ _ (.self fresh) found
      obtain ⟨_, foundToo, members⟩ := first.of_group
      refine .nest visited foundToo ?_ (along ?_)
      · rw [members]
        apply down
        intro member here x known reaches
        exact same address List.mem_cons_self x known
          (.member fresh found here (reaches.mono entering.guard))
      · intro reference later x known reaches
        exact same reference (List.mem_cons_of_mem _ later) x known
          (reaches.mono (entering.trans explored.growth).guard)

/-- Of the groups that it can reach a survey sees the members only. -/
theorem explore_congr {other : Lookups}
    (same : ∀ reference ∈ references, ∀ x, Reaches groupAt s.guard reference x →
      SameMembers (groupAt x) (other x)) :
    explore groupAt limit levels references s = explore other limit levels references s := by
  fun_induction explore groupAt limit levels references s with
  | case1 => rw [explore]
  | case2 levels address rest s skipped along =>
      rw [explore, if_pos skipped]
      exact along fun reference later => same reference (List.mem_cons_of_mem _ later)
  | case3 levels address rest s visited error failed =>
      have fresh := not_mem_of_not_skips visited
      have first := same address List.mem_cons_self address (.self fresh)
      rw [failed] at first
      rw [explore, if_neg visited, first.of_error]
  | case4 levels address rest s visited leaf along =>
      have fresh := not_mem_of_not_skips visited
      have first := same address List.mem_cons_self address (.self fresh)
      rw [leaf] at first
      rw [explore, if_neg visited, first.of_leaf]
      apply along
      rw [guard_add]
      exact fun reference later => same reference (List.mem_cons_of_mem _ later)
  | case5 address rest s visited group found along =>
      have fresh := not_mem_of_not_skips visited
      have first := same address List.mem_cons_self address (.self fresh)
      rw [found] at first
      obtain ⟨_, foundToo, _⟩ := first.of_group
      rw [explore, if_neg visited, foundToo]
      exact along fun reference later => same reference (List.mem_cons_of_mem _ later)
  | case6 address rest s visited group found levels error failed inside =>
      have fresh := not_mem_of_not_skips visited
      have first := same address List.mem_cons_self address (.self fresh)
      rw [found] at first
      obtain ⟨_, foundToo, members⟩ := first.of_group
      rw [explore, if_neg visited, foundToo]
      rw [inside fun member here x reaches => same address List.mem_cons_self x
        (.member fresh found here (reaches.mono (subset_enter s address)))] at failed
      simp only [members, failed]
  | case7 address rest s visited group found levels entered explored inside along =>
      have fresh := not_mem_of_not_skips visited
      have first := same address List.mem_cons_self address (.self fresh)
      have growth := (explore_eq_ok_iff.mp explored).growth
      rw [found] at first
      obtain ⟨_, foundToo, members⟩ := first.of_group
      rw [explore, if_neg visited, foundToo]
      rw [inside fun member here x reaches => same address List.mem_cons_self x
        (.member fresh found here (reaches.mono (subset_enter s address)))] at explored
      simp only [members, explored]
      exact along fun reference later x reaches =>
        same reference (List.mem_cons_of_mem _ later) x
          (reaches.mono (SortedSet.Subset.trans (subset_enter s address) growth.guard))

theorem explore_total (answers : ∀ x, ∃ known, groupAt x = .ok known) (limit levels : Nat)
    (references : List Address) (s : Survey) :
    ∃ t, explore groupAt limit levels references s = .ok t := by
  fun_induction explore groupAt limit levels references s with
  | case1 => exact ⟨_, rfl⟩
  | case2 levels address rest s skipped inductionHypothesis => exact inductionHypothesis
  | case3 levels address rest s visited error failed =>
      obtain ⟨known, answer⟩ := answers address
      rw [failed] at answer
      cases answer
  | case4 levels address rest s visited leaf inductionHypothesis => exact inductionHypothesis
  | case5 address rest s visited group found inductionHypothesis => exact inductionHypothesis
  | case6 address rest s visited group found levels error failed inside =>
      obtain ⟨t, explored⟩ := inside
      rw [failed] at explored
      cases explored
  | case7 address rest s visited group found levels entered explored inside along => exact along

end Survey

end Listmaster
