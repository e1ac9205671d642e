import Listmaster.Proofs.LoopGuard
import Listmaster.Proofs.Survey.Basic

/-!
What a survey adds.

A survey forgets nothing.  It records groups only, those that it enters, and finds
addresses that are no groups and were not recorded.  `Extends` says so of two
points of a survey; each step extends, and so does a whole course.
-/

namespace Listmaster.Survey

/-- What a survey has added between two points. -/
structure Extends (groupAt : Lookups) (s t : Survey) : Prop where
  guard : s.guard.recorded ⊆ t.guard.recorded
  found : s.found ⊆ t.found
  newlyRecorded : ∀ x, x ∈ t.guard.recorded →
    x ∈ s.guard.recorded ∨ ∃ group, groupAt x = .ok (some group)
  newlyFound : ∀ x, x ∈ t.found →
    x ∈ s.found ∨ (¬ x ∈ s.guard.recorded ∧ groupAt x = .ok none)
  newlyEntered : ∀ x, x ∈ t.entered →
    x ∈ s.entered ∨ (¬ x ∈ s.guard.recorded ∧ x ∈ t.guard.recorded)

variable {groupAt : Lookups} {limit levels : Nat} {references : List Address} {s t u : Survey}
  {address : Address}

theorem skips_iff :
    s.skips address = true ↔ s.isTruncated = true ∨ address ∈ s.guard.recorded := by
  simp [skips]

theorem not_mem_of_skips (visited : s.skips address = false) :
    ¬ address ∈ s.guard.recorded := by
  intro here
  simp [skips_iff.mpr (.inr here)] at visited

theorem not_mem_of_not_skips (visited : ¬ s.skips address = true) :
    ¬ address ∈ s.guard.recorded := not_mem_of_skips (Bool.not_eq_true _ ▸ visited)

theorem add_of_room (room : s.found.size < limit) :
    s.add limit address = { s with found := s.found.insert address } := if_pos room

theorem add_of_mem (here : address ∈ s.found) : s.add limit address = s := by
  unfold add
  split
  · rw [SortedSet.insert_of_mem here]
  · rw [if_pos (SortedSet.contains_iff.mpr here)]

theorem add_of_full (full : limit ≤ s.found.size) (absent : ¬ address ∈ s.found) :
    s.add limit address = { s with isTruncated := true } := by
  unfold add
  rw [if_neg (Nat.not_lt.mpr full), if_neg (fun here => absent (SortedSet.contains_iff.mp here))]

theorem add_cases (limit : Nat) (address : Address) (s : Survey) :
    (s.found.size < limit ∧ s.add limit address = { s with found := s.found.insert address }) ∨
      (address ∈ s.found ∧ s.add limit address = s) ∨
      (limit ≤ s.found.size ∧ ¬ address ∈ s.found ∧
        s.add limit address = { s with isTruncated := true }) := by
  by_cases here : address ∈ s.found
  · exact .inr (.inl ⟨here, add_of_mem here⟩)
  · rcases Nat.lt_or_ge s.found.size limit with room | full
    · exact .inl ⟨room, add_of_room room⟩
    · exact .inr (.inr ⟨full, here, add_of_full full here⟩)

@[simp]
theorem guard_add : (s.add limit address).guard = s.guard := by
  rcases add_cases limit address s with ⟨_, same⟩ | ⟨_, same⟩ | ⟨_, _, same⟩ <;> rw [same]

@[simp]
theorem entered_add : (s.add limit address).entered = s.entered := by
  rcases add_cases limit address s with ⟨_, same⟩ | ⟨_, same⟩ | ⟨_, _, same⟩ <;> rw [same]

@[simp]
theorem tooDeep_add : (s.add limit address).tooDeep = s.tooDeep := by
  rcases add_cases limit address s with ⟨_, same⟩ | ⟨_, same⟩ | ⟨_, _, same⟩ <;> rw [same]

theorem mem_found_add {x : Address} (here : x ∈ (s.add limit address).found) :
    x = address ∨ x ∈ s.found := by
  rcases add_cases limit address s with ⟨_, same⟩ | ⟨_, same⟩ | ⟨_, _, same⟩
  · rw [same] at here
    exact SortedSet.mem_insert.mp here
  · exact .inr (same ▸ here)
  · rw [same] at here
    exact .inr here

theorem found_subset_add : s.found ⊆ (s.add limit address).found := by
  intro x here
  rcases add_cases limit address s with ⟨_, same⟩ | ⟨_, same⟩ | ⟨_, _, same⟩ <;> rw [same]
  · exact SortedSet.mem_insert.mpr (.inr here)
  · exact here
  · exact here

theorem size_add_le (small : s.found.size ≤ limit) : (s.add limit address).found.size ≤ limit := by
  rcases add_cases limit address s with ⟨room, same⟩ | ⟨_, same⟩ | ⟨_, _, same⟩ <;> rw [same]
  · exact Nat.le_trans (s.found.size_insert_le address) room
  · exact small
  · exact small

theorem subset_enter (s : Survey) (address : Address) :
    s.guard.recorded ⊆ (s.enter address).guard.recorded :=
  fun _ recorded => LoopGuard.mem_record.mpr (.inr recorded)

namespace Extends

theorem refl (s : Survey) : Extends groupAt s s where
  guard := SortedSet.Subset.refl _
  found := SortedSet.Subset.refl _
  newlyRecorded _ here := .inl here
  newlyFound _ here := .inl here
  newlyEntered _ here := .inl here

theorem trans (first : Extends groupAt s t) (second : Extends groupAt t u) :
    Extends groupAt s u where
  guard := SortedSet.Subset.trans first.guard second.guard
  found := SortedSet.Subset.trans first.found second.found
  newlyRecorded x here := by
    rcases second.newlyRecorded x here with before | group
    · exact first.newlyRecorded x before
    · exact .inr group
  newlyFound x here := by
    rcases second.newlyFound x here with before | ⟨fresh, leaf⟩
    · exact first.newlyFound x before
    · exact .inr ⟨fun recorded => fresh (first.guard x recorded), leaf⟩
  newlyEntered x here := by
    rcases second.newlyEntered x here with before | ⟨fresh, recorded⟩
    · rcases first.newlyEntered x before with old | ⟨fresh, recorded⟩
      · exact .inl old
      · exact .inr ⟨fresh, second.guard x recorded⟩
    · exact .inr ⟨fun recorded => fresh (first.guard x recorded), recorded⟩

theorem add (visited : s.skips address = false) (leaf : groupAt address = .ok none) :
    Extends groupAt s (s.add limit address) where
  guard := by
    rw [guard_add]
    exact SortedSet.Subset.refl _
  found := found_subset_add
  newlyRecorded x here := by
    rw [guard_add] at here
    exact .inl here
  newlyFound x here := by
    rcases mem_found_add here with same | before
    · rw [same]
      exact .inr ⟨not_mem_of_skips visited, leaf⟩
    · exact .inl before
  newlyEntered x here := by
    rw [entered_add] at here
    exact .inl here

theorem passOver : Extends groupAt s s.passOver where
  guard := SortedSet.Subset.refl _
  found := SortedSet.Subset.refl _
  newlyRecorded _ here := .inl here
  newlyFound _ here := .inl here
  newlyEntered _ here := .inl here

theorem enter {group : Group} (visited : s.skips address = false)
    (found : groupAt address = .ok (some group)) : Extends groupAt s (s.enter address) where
  guard := subset_enter s address
  found := SortedSet.Subset.refl _
  newlyRecorded x here := by
    rcases LoopGuard.mem_record.mp here with same | before
    · rw [same]
      exact .inr ⟨group, found⟩
    · exact .inl before
  newlyFound _ here := .inl here
  newlyEntered x here := by
    rcases List.mem_cons.mp here with same | before
    · rw [same]
      exact .inr ⟨not_mem_of_skips visited, LoopGuard.mem_record.mpr (.inl rfl)⟩
    · exact .inl before

end Extends

theorem Explores.growth (explored : Explores groupAt limit levels references s t) :
    Extends groupAt s t := by
  induction explored with
  | done => exact .refl _
  | skip _ _ inductionHypothesis => exact inductionHypothesis
  | leaf visited leaf _ inductionHypothesis =>
      exact (Extends.add visited leaf).trans inductionHypothesis
  | deep _ _ _ inductionHypothesis => exact Extends.passOver.trans inductionHypothesis
  | nest visited found _ _ inside along =>
      exact ((Extends.enter visited found).trans inside).trans along

/-- What a survey finds from its start on is no group, and was not recorded. -/
theorem Explores.leaf_of_found {guard : LoopGuard}
    (explored : Explores groupAt limit levels references (.start guard) t) {x : Address}
    (found : x ∈ t.found) : ¬ x ∈ guard.recorded ∧ groupAt x = .ok none := by
  rcases explored.growth.newlyFound x found with none | leaf
  · exact absurd none (SortedSet.not_mem_empty x)
  · exact leaf

end Listmaster.Survey
