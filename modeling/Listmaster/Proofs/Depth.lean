import Listmaster.Proofs.Process
import Listmaster.Proofs.Survey.Chain
import Listmaster.Proofs.Survey.Warnings

/-!
Expansions that do not go deep enough.

An expansion enters a group where it first comes to it.  If that is at its deepest level, the
groups in this group are passed over, and they are not tried again from a level above, so that
addresses can be missed that the depth allows (`Resolver.expand_misses`).  Where no group is
both within the depth and beyond it, the expansion finds what the depth allows, and a larger
depth takes nothing away: `Resolver.expand_within`.
-/

namespace Listmaster

/-- No group of a chain that the levels allow is also one group too deep on another way. -/
def Layered (groupAt : Lookups) (guard : LoopGuard) (roots : AddressSet) (levels : Nat) : Prop :=
  ∀ chain members, Chain groupAt guard roots chain members → chain.length ≤ levels →
    ∀ list ∈ chain, ¬ Deep groupAt guard roots (levels + 1) list

namespace Survey

variable {groupAt : Lookups} {limit levels : Nat} {guard : LoopGuard} {roots members : AddressSet}
  {chain : List Address} {t : Survey} {x : Address}

theorem Explores.within_of_found
    (explored : Explores groupAt limit levels roots.toList (.start guard) t)
    (found : x ∈ t.found) : Within groupAt guard roots levels x := by
  rcases explored.within (.start groupAt guard roots) found with none | within
  · exact absurd none (SortedSet.not_mem_empty x)
  · rwa [List.length_nil, Nat.zero_add] at within

section Whole

variable (explored : Explores groupAt limit levels roots.toList (.start guard) t)
  (whole : t.isTruncated = false)
include explored whole

/-- What lies behind a chain is seen or too deep, if no group of the chain is too deep. -/
theorem Explores.seen_of_chain (chained : Chain groupAt guard roots chain members)
    (shallow : ∀ list ∈ chain, ¬ Deep groupAt guard roots (levels + 1) list)
    (here : x ∈ members) : t.Seen x ∨ Deep groupAt guard roots (levels + 1) x := by
  have misses := explored.misses (.start groupAt guard roots) whole
  rw [List.length_nil, Nat.zero_add] at misses
  induction chained generalizing x with
  | root => exact (misses.references x here).imp_right And.right
  | @inner chain members list group _ among fresh found inductionHypothesis =>
      have seen := inductionHypothesis
        (fun outer around => shallow outer (List.mem_cons_of_mem list around)) among
      rcases seen.resolve_right (shallow list List.mem_cons_self) with leaf | recorded
      · rw [(explored.leaf_of_found leaf).2] at found
        cases found
      · rcases misses.members list recorded with before | ⟨other, answer, all⟩
        · exact absurd before fresh
        · rw [found] at answer
          cases answer
          exact (all x here).imp_right And.right

theorem Explores.found_of_within (layered : Layered groupAt guard roots levels)
    (within : Within groupAt guard roots levels x) (fresh : ¬ x ∈ guard.recorded)
    (leaf : groupAt x = .ok none) : x ∈ t.found := by
  obtain ⟨chain, members, chained, short, here⟩ := within
  rcases explored.seen_of_chain whole chained (layered chain members chained short) here with
    seen | ⟨_, _, deep, _, _⟩
  · exact explored.found_of_seen seen fresh leaf
  · obtain ⟨⟨group, found⟩, _⟩ := deep.group_of_mem List.mem_cons_self
    rw [leaf] at found
    cases found

end Whole

end Survey

/-- What an expansion finds is no group, is not recorded and lies behind a chain of fewer groups
than its depth.  If it tells of no truncation, and no group of such a chain is also one too deep on
another way, it finds all these addresses, and those that it finds with a smaller depth. -/
theorem Resolver.expand_within (r : Resolver) (limits : Limits) (references : AddressSet)
    (guard : LoopGuard) (session : Session)
    (answers : ∀ question, ∃ known, (r.directory question).outcome = .ok known)
    (faithful : session.Faithful r) :
    ∃ found notices,
      (r.expand limits references guard session).outcome = .ok found ∧
      r.Warns limits references guard session notices ∧
      (∀ x ∈ found, ¬ x ∈ guard.recorded ∧ r.groupAt x = .ok none ∧
        Within r.groupAt guard references (limits.depth - 1) x) ∧
      (¬ .tooManyAddresses ∈ notices →
        Layered r.groupAt guard references (limits.depth - 1) →
        (∀ x, ¬ x ∈ guard.recorded → r.groupAt x = .ok none →
          (x ∈ found ↔ Within r.groupAt guard references (limits.depth - 1) x)) ∧
        ∀ depth ≤ limits.depth, ∀ fewer,
          (r.expand { limits with depth } references guard session).outcome = .ok fewer →
          fewer ⊆ found) := by
  obtain ⟨s, gathered⟩ := gather_total answers limits references guard
  have explored := Survey.explore_eq_ok_iff.mp gathered
  obtain ⟨outcome, _⟩ := expand_of_gather faithful gathered
  obtain ⟨notices, warns, told⟩ := exists_warns faithful gathered
  refine ⟨s.found, notices, outcome, warns, ?_, ?_⟩
  · intro x found
    obtain ⟨fresh, leaf⟩ := explored.leaf_of_found found
    exact ⟨fresh, leaf, explored.within_of_found found⟩
  · intro silent layered
    have whole := told.whole silent
    refine ⟨fun x fresh leaf => ⟨explored.within_of_found, fun within =>
      explored.found_of_within whole layered within fresh leaf⟩, ?_⟩
    intro depth smaller fewer lower x here
    obtain ⟨less, gatheredToo⟩ := gather_total answers { limits with depth } references guard
    have exploredToo := Survey.explore_eq_ok_iff.mp gatheredToo
    rw [(expand_of_gather faithful gatheredToo).1] at lower
    cases lower
    obtain ⟨fresh, leaf⟩ := exploredToo.leaf_of_found here
    have within := (exploredToo.within_of_found here).mono (Nat.sub_le_sub_right smaller 1)
    exact explored.found_of_within whole layered within fresh leaf

/-! The lists that contain each other, and a list in which a group is near on one way and far on
another. -/

namespace Sample

theorem eq_crew_of_chain {list : Address} {members : AddressSet}
    (chained : Chain service.resolver.groupAt .empty (.ofList [crew, reader]) [list] members) :
    list = crew := by
  cases chained with
  | inner outer among _ found =>
      cases outer
      have among : list ∈ [crew, reader] := SortedSet.mem_ofList.mp among
      rcases List.mem_pair.mp among with same | rfl
      · exact same
      · have leaf : service.resolver.groupAt reader = .ok none := by decide
        rw [leaf] at found
        cases found

theorem layered : Layered service.resolver.groupAt .empty (.ofList [crew, reader]) 1 := by
  intro chain members chained short list here deep
  have single : chain = [list] := by
    obtain ⟨first, rfl⟩ := List.length_eq_one_iff.mp
      (Nat.le_antisymm short (List.length_pos_of_mem here))
    rw [List.mem_singleton.mp here]
  subst single
  obtain ⟨rest, inside, longer, distinct, count⟩ := deep
  obtain ⟨outer, rfl⟩ := List.length_eq_one_iff.mp (Nat.succ.inj count)
  -- The only list among the references is at both ends of the longer way.
  cases longer with
  | inner first =>
      rw [eq_crew_of_chain chained, eq_crew_of_chain first] at distinct
      simp at distinct

def forum : Address :=
  ⟨"forum@lists.example.org", "forum@lists.example.org".toList, by decide, by decide⟩

def panel : Address :=
  ⟨"panel@lists.example.org", "panel@lists.example.org".toList, by decide, by decide⟩

def press : Address :=
  ⟨"press@lists.example.org", "press@lists.example.org".toList, by decide, by decide⟩

/-- The team has the forum as a member, and the crew, whose press has it too. -/
def relay : Resolver :=
  { service.resolver with
    directory := (((((StaticDirectory.empty.withGroup team (openGroup [crew, forum])).withGroup
      crew (openGroup [press])).withGroup press (openGroup [forum])).withGroup
      forum (openGroup [panel])).withGroup panel (openGroup [reader])).toDirectory }

end Sample

open Sample in
theorem Resolver.expand_within_sample :
    ∃ found,
      (service.resolver.expand ⟨2, 2⟩ (.ofList [crew, reader]) .empty .empty).outcome =
        .ok found ∧
      service.resolver.Warns ⟨2, 2⟩ (.ofList [crew, reader]) .empty .empty [.nestedTooDeeply] ∧
      ∀ x, ¬ x ∈ LoopGuard.empty.recorded → service.resolver.groupAt x = .ok none →
        (x ∈ found ↔ Within service.resolver.groupAt .empty (.ofList [crew, reader]) 1 x) := by
  obtain ⟨found, notices, outcome, warns, _, complete⟩ := expand_within service.resolver ⟨2, 2⟩
    (.ofList [crew, reader]) .empty .empty (fun _ => ⟨_, rfl⟩) (.empty _)
  have deep : service.resolver.Warns ⟨2, 2⟩ (.ofList [crew, reader]) .empty .empty
      [.nestedTooDeeply] := ⟨_, rfl, rfl⟩
  cases warns.unique deep
  exact ⟨found, outcome, deep, (complete (by decide) layered).1⟩

open Sample in
/-- The forum and the panel are no more than the depth allows, but the forum is entered first at the
deepest level, where the panel is passed over.  With one level less it is entered later. -/
theorem Resolver.expand_misses :
    ¬ reader ∈ (LoopGuard.empty.record team).recorded ∧
      relay.groupAt reader = .ok none ∧
      Chain relay.groupAt (.record .empty team) (.ofList [crew, forum]) [panel, forum]
        (openGroup [reader]).members ∧
      reader ∈ (openGroup [reader]).members ∧
      (relay.expand ⟨4, 10⟩ (.ofList [crew, forum]) (.record .empty team) .empty).outcome =
        .ok ∅ ∧
      relay.Warns ⟨4, 10⟩ (.ofList [crew, forum]) (.record .empty team) .empty
        [.nestedTooDeeply] ∧
      (relay.expand ⟨3, 10⟩ (.ofList [crew, forum]) (.record .empty team) .empty).outcome =
        .ok (.ofList [reader]) := by
  have forumGroup : relay.groupAt forum = .ok (some (openGroup [panel])) := by decide +kernel
  have panelGroup : relay.groupAt panel = .ok (some (openGroup [reader])) := by decide +kernel
  refine ⟨by decide, by decide +kernel, ?_, by decide, by decide +kernel, ⟨_, rfl, rfl⟩,
    by decide +kernel⟩
  exact .inner (.inner .root (by decide) (by decide) forumGroup) (by decide) (by decide) panelGroup

end Listmaster
