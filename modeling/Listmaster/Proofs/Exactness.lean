import Listmaster.Proofs.Parts
import Listmaster.Proofs.Survey.Warnings
import Listmaster.Proofs.Survey.Whole

/-!
Expansions that leave nothing out.

An expansion that ends without a warning finds all that the references reach past the guard, and
records the groups on the way; it ends so whenever its limits leave room for them
(`Resolver.expand_exact`).  So nothing is left out in silence.
-/

namespace Listmaster

namespace Survey

variable {groupAt : Lookups} {limit levels : Nat} {guard : LoopGuard} {roots : AddressSet}
  {t : Survey} {x : Address}
  (explored : Explores groupAt limit levels roots.toList (.start guard) t)
  (whole : t.isTruncated = false) (shallow : t.tooDeep = 0)
include explored whole shallow

theorem Explores.mem_found_iff :
    x ∈ t.found ↔ groupAt x = .ok none ∧ ReachedFrom groupAt guard roots x := by
  constructor
  · intro found
    obtain ⟨fresh, leaf⟩ := explored.leaf_of_found found
    have seen := (explored.seen_iff_reached whole shallow).mp (.inl found)
    exact ⟨leaf, seen.resolve_left fresh⟩
  · rintro ⟨leaf, reached⟩
    have seen := (explored.seen_iff_reached whole shallow).mpr (.inr reached)
    obtain ⟨_, _, reaches⟩ := reached
    exact explored.found_of_seen seen reaches.end_fresh leaf

theorem Explores.mem_recorded_iff :
    x ∈ t.guard.recorded ↔ x ∈ guard.recorded ∨
      ((∃ group, groupAt x = .ok (some group)) ∧ ReachedFrom groupAt guard roots x) := by
  constructor
  · intro recorded
    rcases explored.growth.newlyRecorded x recorded with before | isGroup
    · exact .inl before
    · rcases (explored.seen_iff_reached whole shallow).mp (.inr recorded) with before | reached
      · exact .inl before
      · exact .inr ⟨isGroup, reached⟩
  · rintro (before | ⟨⟨group, isGroup⟩, reached⟩)
    · exact explored.growth.guard x before
    · rcases (explored.seen_iff_reached whole shallow).mpr (.inr reached) with found | recorded
      · rw [(explored.leaf_of_found found).2] at isGroup
        cases isGroup
      · exact recorded

end Survey

/-- Of the references of whatever group and role: an expansion that tells of no limit finds exactly
the addresses that are no groups and that the references reach past the guard, and records
exactly the groups among what they reach.  It tells nothing if it may go deeper than there are
such groups and if there is room for these addresses. -/
theorem Resolver.expand_exact (r : Resolver) (limits : Limits) (references : AddressSet)
    (guard : LoopGuard) (session : Session)
    (answers : ∀ question, ∃ known, (r.directory question).outcome = .ok known)
    (faithful : session.Faithful r) :
    ∃ found notices,
      (r.expand limits references guard session).outcome = .ok found ∧
      r.Warns limits references guard session notices ∧
      (¬ .nestedTooDeeply ∈ notices → ¬ .tooManyAddresses ∈ notices →
        ∀ x, (x ∈ found ↔
            r.groupAt x = .ok none ∧ ReachedFrom r.groupAt guard references x) ∧
          (x ∈ (r.expand limits references guard session).guard.recorded ↔
            x ∈ guard.recorded ∨ ((∃ nested, r.groupAt x = .ok (some nested)) ∧
              ReachedFrom r.groupAt guard references x))) ∧
      ∀ groups others : AddressSet,
        (∀ x nested, ReachedFrom r.groupAt guard references x →
          r.groupAt x = .ok (some nested) → x ∈ groups) →
        (∀ x, ReachedFrom r.groupAt guard references x →
          r.groupAt x = .ok none → x ∈ others) →
        groups.size < limits.depth → others.size ≤ limits.members → notices = [] := by
  obtain ⟨s, gathered⟩ := gather_total answers limits references guard
  have explored := Survey.explore_eq_ok_iff.mp gathered
  obtain ⟨outcome, recorded⟩ := expand_of_gather faithful gathered
  obtain ⟨notices, warns, told⟩ := exists_warns faithful gathered
  refine ⟨s.found, notices, outcome, warns, ?_, ?_⟩
  · intro silent quiet x
    have shallow := told.shallow silent
    have whole := told.whole quiet
    rw [recorded]
    exact ⟨explored.mem_found_iff whole shallow, explored.mem_recorded_iff whole shallow⟩
  · intro groups others allGroups allOthers depth members
    refine told.eq_nil (explored.shallow fun list deep => ?_)
      (explored.whole_of_room allOthers members)
    have few := deep.le_size allGroups
    omega

namespace Sample

def teamGroup : Group := openGroup [crew, reader]

theorem near_of_reached {x : Address}
    (reached : ReachedFrom service.resolver.groupAt .empty (teamGroup.references .members) x) :
    x ∈ [team, crew, reader, writer] := by
  obtain ⟨root, here, reaches⟩ := reached
  have here : root ∈ [crew, reader] := SortedSet.mem_ofList.mp here
  apply reaches.near region
  rcases List.mem_pair.mp here with rfl | rfl <;> simp

end Sample

open Sample in
theorem Resolver.expand_exact_sample :
    ∃ found,
      (service.resolver.expand ⟨3, 2⟩ (teamGroup.references .members) .empty .empty).outcome =
        .ok found ∧
      service.resolver.Warns ⟨3, 2⟩ (teamGroup.references .members) .empty .empty [] ∧
      ∀ x, x ∈ found ↔ service.resolver.groupAt x = .ok none ∧
        ReachedFrom service.resolver.groupAt .empty (teamGroup.references .members) x := by
  obtain ⟨found, notices, outcome, warns, exact, roomy⟩ := expand_exact service.resolver ⟨3, 2⟩
    (teamGroup.references .members) .empty .empty (fun _ => ⟨_, rfl⟩) (.empty _)
  have silent := roomy (.ofList [team, crew]) (.ofList [reader, writer])
    (fun x nested reached => region.group x nested (near_of_reached reached))
    (fun x reached => region.other x (near_of_reached reached)) (by decide) (by decide)
  subst silent
  exact ⟨found, outcome, warns,
    fun x => (exact List.not_mem_nil List.not_mem_nil x).1⟩

end Listmaster
