import Listmaster.Proofs.Survey.Reach

/-!
How deep a survey goes.

A survey comes to an address through a chain of groups that it has entered, each of them once.
What it finds lies behind a chain that its levels allow (`Explores.within`).  It passes over a
group only at the end of a chain of one group more (`Explores.deep_of_tooDeep`), and unless it is
truncated it leaves out nothing else (`Explores.misses`).
-/

namespace Listmaster

/-- A chain of groups that are not recorded, the innermost one first, and what the innermost one
refers to: the outermost group is among the roots, each other one a member of the one around
it. -/
inductive Chain (groupAt : Lookups) (guard : LoopGuard) (roots : AddressSet) :
    List Address → AddressSet → Prop
  | root : Chain groupAt guard roots [] roots
  | inner {chain members list group} :
      Chain groupAt guard roots chain members → list ∈ members →
      ¬ list ∈ guard.recorded → groupAt list = .ok (some group) →
      Chain groupAt guard roots (list :: chain) group.members

/-- The address lies behind a chain of no more than `count` groups. -/
def Within (groupAt : Lookups) (guard : LoopGuard) (roots : AddressSet) (count : Nat)
    (x : Address) : Prop :=
  ∃ chain members, Chain groupAt guard roots chain members ∧ chain.length ≤ count ∧ x ∈ members

/-- The address is the innermost group of a chain of `count` groups, all of them different. -/
def Deep (groupAt : Lookups) (guard : LoopGuard) (roots : AddressSet) (count : Nat)
    (list : Address) : Prop :=
  ∃ chain members, Chain groupAt guard roots (list :: chain) members ∧
    (list :: chain).Nodup ∧ (list :: chain).length = count

variable {groupAt : Lookups} {guard : LoopGuard} {roots members : AddressSet}
  {chain : List Address} {x y : Address}

theorem Within.mono {count more : Nat} (within : Within groupAt guard roots count x)
    (larger : count ≤ more) : Within groupAt guard roots more x := by
  obtain ⟨chain, members, chained, short, here⟩ := within
  exact ⟨chain, members, chained, Nat.le_trans short larger, here⟩

namespace Chain

theorem reaches (chained : Chain groupAt guard roots chain members) (here : x ∈ members)
    (fresh : ¬ x ∈ guard.recorded) : ∃ root ∈ roots, Reaches groupAt guard root x := by
  induction chained generalizing x with
  | root => exact ⟨x, here, .self fresh⟩
  | inner _ among freshList found inductionHypothesis =>
      obtain ⟨root, start, reaches⟩ := inductionHypothesis among freshList
      exact ⟨root, start, reaches.trans (.member freshList found here (.self fresh))⟩

theorem group_of_mem (chained : Chain groupAt guard roots chain members) (here : x ∈ chain) :
    (∃ group, groupAt x = .ok (some group)) ∧ ∃ root ∈ roots, Reaches groupAt guard root x := by
  induction chained with
  | root => cases here
  | inner outer among fresh found inductionHypothesis =>
      rcases List.mem_cons.mp here with rfl | earlier
      · exact ⟨⟨_, found⟩, outer.reaches among fresh⟩
      · exact inductionHypothesis earlier

end Chain

namespace Deep

variable {count : Nat} {groups : AddressSet} (deep : Deep groupAt guard roots count x)
  (all : ∀ y group, (∃ root ∈ roots, Reaches groupAt guard root y) →
    groupAt y = .ok (some group) → y ∈ groups)
include deep all

theorem exists_nodup : ∃ chain : List Address, chain.Nodup ∧ chain.length = count ∧
    ∀ y ∈ chain, y ∈ groups ∧ ¬ y ∈ guard.recorded := by
  obtain ⟨chain, members, chained, distinct, count⟩ := deep
  refine ⟨_, distinct, count, fun y here => ?_⟩
  obtain ⟨⟨group, found⟩, root, start, reaches⟩ := chained.group_of_mem here
  exact ⟨all y group ⟨root, start, reaches⟩ found, reaches.end_fresh⟩

theorem le_size : count ≤ groups.size := by
  obtain ⟨chain, distinct, rfl, inside⟩ := deep.exists_nodup all
  exact (List.subperm_of_subset distinct fun y here => (inside y here).1).length_le

theorem lt_size {list : Address} (here : list ∈ groups) (recorded : list ∈ guard.recorded) :
    count < groups.size := by
  obtain ⟨chain, distinct, rfl, inside⟩ := deep.exists_nodup all
  have apart : ¬ list ∈ chain := fun among => (inside list among).2 recorded
  have included : (list :: chain) ⊆ groups.toList := by
    intro y among
    rcases List.mem_cons.mp among with rfl | later
    · exact here
    · exact (inside y later).1
  exact (List.subperm_of_subset (List.nodup_cons.mpr ⟨apart, distinct⟩) included).length_le

end Deep

namespace Survey

variable {limit levels : Nat} {references rest : List Address} {s t : Survey} {address : Address}

/-- The survey has entered the groups of a chain, and the references are among what the innermost
one refers to. -/
structure Stands (groupAt : Lookups) (guard : LoopGuard) (roots : AddressSet)
    (chain references : List Address) (s : Survey) : Prop where
  chained : ∃ members, Chain groupAt guard roots chain members ∧
    ∀ reference ∈ references, reference ∈ members
  distinct : chain.Nodup
  recorded : ∀ x, x ∈ chain ∨ x ∈ guard.recorded → x ∈ s.guard.recorded

namespace Stands

theorem start (groupAt : Lookups) (guard : LoopGuard) (roots : AddressSet) :
    Stands groupAt guard roots [] roots.toList (.start guard) where
  chained := ⟨roots, .root, fun _ here => here⟩
  distinct := .nil
  recorded _ here := here.resolve_left nofun

variable (stands : Stands groupAt guard roots chain (address :: rest) s)
include stands

theorem later (grown : s.guard.recorded ⊆ t.guard.recorded) :
    Stands groupAt guard roots chain rest t where
  chained := by
    obtain ⟨members, chained, among⟩ := stands.chained
    exact ⟨members, chained, fun reference later =>
      among reference (List.mem_cons_of_mem address later)⟩
  distinct := stands.distinct
  recorded x here := grown x (stands.recorded x here)

theorem within : Within groupAt guard roots chain.length address := by
  obtain ⟨members, chained, among⟩ := stands.chained
  exact ⟨chain, members, chained, Nat.le_refl _, among address List.mem_cons_self⟩

variable (visited : s.skips address = false)
include visited

theorem not_recorded : ¬ address ∈ guard.recorded :=
  fun recorded => not_mem_of_skips visited (stands.recorded address (.inr recorded))

variable {group : Group} (found : groupAt address = .ok (some group))
include found

theorem inner : Chain groupAt guard roots (address :: chain) group.members ∧
    (address :: chain).Nodup := by
  obtain ⟨members, chained, among⟩ := stands.chained
  refine ⟨.inner chained (among address List.mem_cons_self) (stands.not_recorded visited) found,
    List.nodup_cons.mpr ⟨?_, stands.distinct⟩⟩
  exact fun around => not_mem_of_skips visited (stands.recorded address (.inl around))

theorem enter :
    Stands groupAt guard roots (address :: chain) group.members.toList (s.enter address) where
  chained := ⟨group.members, (stands.inner visited found).1, fun _ here => here⟩
  distinct := (stands.inner visited found).2
  recorded x here := by
    apply LoopGuard.mem_record.mpr
    rcases here with here | recorded
    · rcases List.mem_cons.mp here with same | around
      · exact .inl same
      · exact .inr (stands.recorded x (.inl around))
    · exact .inr (stands.recorded x (.inr recorded))

theorem deep : Deep groupAt guard roots (chain.length + 1) address :=
  ⟨chain, group.members, (stands.inner visited found).1, (stands.inner visited found).2, rfl⟩

end Stands

/-- What a survey finds lies behind a chain of no more groups than its levels allow. -/
theorem Explores.within (explored : Explores groupAt limit levels references s t)
    (stands : Stands groupAt guard roots chain references s) (found : x ∈ t.found) :
    x ∈ s.found ∨ Within groupAt guard roots (chain.length + levels) x := by
  induction explored generalizing chain with
  | done => exact .inl found
  | skip _ _ along => exact along (stands.later (SortedSet.Subset.refl _)) found
  | leaf visited leaf _ along =>
      rcases along (stands.later (Extends.add visited leaf).guard) found with before | later
      · rcases mem_found_add before with rfl | old
        · exact .inr (stands.within.mono (Nat.le_add_right _ _))
        · exact .inl old
      · exact .inr later
  | deep _ _ _ along => exact along (stands.later (SortedSet.Subset.refl _)) found
  | @nest levels address group rest s inside t visited isGroup first _ down along =>
      have entering : Extends groupAt s (s.enter address) := .enter visited isGroup
      rcases along (stands.later (entering.trans first.growth).guard) found with before | later
      · rcases down (stands.enter visited isGroup) before with old | inner
        · exact .inl old
        · exact .inr (inner.mono (by simp only [List.length_cons]; omega))
      · exact .inr later

theorem Explores.of_truncated (explored : Explores groupAt limit levels references s t)
    (truncated : s.isTruncated = true) : t = s := by
  induction explored with
  | done => rfl
  | skip _ _ along => exact along truncated
  | leaf visited | deep visited | nest visited => simp [skips, truncated] at visited

theorem Explores.tooDeep_mono (explored : Explores groupAt limit levels references s t) :
    s.tooDeep ≤ t.tooDeep := by
  induction explored with
  | done => exact Nat.le_refl _
  | skip _ _ along => exact along
  | leaf _ _ _ along => rwa [tooDeep_add] at along
  | deep _ _ _ along => exact Nat.le_of_succ_le along
  | nest _ _ _ _ down along => exact Nat.le_trans down along

/-- A survey passes over nothing, or over a group at the end of a chain that its levels do not
allow. -/
theorem Explores.deep_of_tooDeep (explored : Explores groupAt limit levels references s t)
    (stands : Stands groupAt guard roots chain references s) :
    t.tooDeep = s.tooDeep ∨
      ∃ list, Deep groupAt guard roots (chain.length + levels + 1) list := by
  induction explored generalizing chain with
  | done => exact .inl rfl
  | skip _ _ along => exact along (stands.later (SortedSet.Subset.refl _))
  | leaf visited leaf _ along =>
      have later := along (stands.later (Extends.add visited leaf).guard)
      rwa [tooDeep_add] at later
  | deep visited found => exact .inr ⟨_, stands.deep visited found⟩
  | @nest levels address group rest s inside t visited found first _ down along =>
      have entering : Extends groupAt s (s.enter address) := .enter visited found
      rcases down (stands.enter visited found) with same | ⟨list, deep⟩
      · rcases along (stands.later (entering.trans first.growth).guard) with sameToo | deep
        · exact .inl (sameToo.trans same)
        · exact .inr deep
      · rw [List.length_cons, Nat.add_right_comm chain.length 1 levels] at deep
        exact .inr ⟨list, deep⟩

/-- What a survey has not seen between two points, of the references and of the members of the
groups that were recorded, it has missed. -/
structure Misses (groupAt : Lookups) (missed : Address → Prop) (references : List Address)
    (s t : Survey) : Prop where
  references : ∀ reference ∈ references, t.Seen reference ∨ missed reference
  members : ∀ x, x ∈ t.guard.recorded → x ∈ s.guard.recorded ∨
    ∃ group, groupAt x = .ok (some group) ∧ ∀ member ∈ group.members, t.Seen member ∨ missed member

namespace Misses

variable {missed fewer : Address → Prop}

theorem cons {before : Survey} (misses : Misses groupAt fewer references before t)
    (implies : ∀ x, fewer x → missed x) (seen : t.Seen address ∨ missed address)
    (recorded : ∀ x, x ∈ before.guard.recorded → x ∈ s.guard.recorded ∨
      ∃ group, groupAt x = .ok (some group) ∧
        ∀ member ∈ group.members, t.Seen member ∨ missed member) :
    Misses groupAt missed (address :: references) s t where
  references reference here := by
    rcases List.mem_cons.mp here with same | later
    · exact same ▸ seen
    · exact (misses.references reference later).imp_right (implies reference)
  members x here := by
    rcases misses.members x here with earlier | ⟨group, found, members⟩
    · exact recorded x earlier
    · exact .inr ⟨group, found, fun member among =>
        (members member among).imp_right (implies member)⟩

end Misses

theorem mem_found_add_of_whole (whole : (s.add limit address).isTruncated = false) :
    address ∈ (s.add limit address).found := by
  rcases add_cases limit address s with ⟨_, same⟩ | ⟨here, same⟩ | ⟨_, _, same⟩ <;>
    rw [same] at whole ⊢
  · exact SortedSet.mem_insert.mpr (.inl rfl)
  · exact here
  · cases whole

theorem Explores.whole_of_whole (explored : Explores groupAt limit levels references s t)
    (whole : t.isTruncated = false) : s.isTruncated = false := by
  cases truncated : s.isTruncated with
  | false => rfl
  | true => rw [explored.of_truncated truncated, truncated] at whole; exact whole

/-- A survey that is not truncated misses only groups that it passes over. -/
theorem Explores.misses (explored : Explores groupAt limit levels references s t)
    (stands : Stands groupAt guard roots chain references s) (whole : t.isTruncated = false) :
    Misses groupAt (fun list => s.tooDeep < t.tooDeep ∧
      Deep groupAt guard roots (chain.length + levels + 1) list) references s t := by
  induction explored generalizing chain with
  | done => exact ⟨nofun, fun x recorded => .inl recorded⟩
  | @skip levels address rest s t skipped explored along =>
      refine (along (stands.later (SortedSet.Subset.refl _)) whole).cons (fun _ => id) (.inl ?_)
        fun x before => .inl before
      apply explored.growth.seen
      rcases skips_iff.mp skipped with truncated | recorded
      · rw [explored.whole_of_whole whole] at truncated
        cases truncated
      · exact .inr recorded
  | @leaf levels address rest s t visited leaf explored along =>
      refine (along (stands.later (Extends.add visited leaf).guard) whole).cons ?_ (.inl ?_) ?_
      · rw [tooDeep_add]
        exact fun _ => id
      · exact explored.growth.seen (.inl (mem_found_add_of_whole (explored.whole_of_whole whole)))
      · intro x before
        rw [guard_add] at before
        exact .inl before
  | @deep address group rest s t visited found explored along =>
      have deeper : s.tooDeep < t.tooDeep := explored.tooDeep_mono
      exact (along (stands.later (SortedSet.Subset.refl _)) whole).cons
        (fun _ missed => ⟨deeper, missed.2⟩) (.inr ⟨deeper, stands.deep visited found⟩)
        fun x before => .inl before
  | @nest levels address group rest s inside t visited found first second down along =>
      have entering : Extends groupAt s (s.enter address) := .enter visited found
      have below := down (stands.enter visited found) (second.whole_of_whole whole)
      have deeper := first.tooDeep_mono
      have deepest := second.tooDeep_mono
      have implies (x : Address)
          (missed : s.tooDeep < inside.tooDeep ∧
            Deep groupAt guard roots ((address :: chain).length + levels + 1) x) :
          s.tooDeep < t.tooDeep ∧ Deep groupAt guard roots (chain.length + (levels + 1) + 1) x := by
        rw [List.length_cons, Nat.add_right_comm chain.length 1 levels] at missed
        exact ⟨Nat.lt_of_lt_of_le missed.1 deepest, missed.2⟩
      have seen (x : Address) : inside.Seen x ∨ _ → t.Seen x ∨ _ :=
        Or.imp second.growth.seen (implies x)
      refine (along (stands.later (entering.trans first.growth).guard) whole).cons
        (fun x missed => ⟨Nat.lt_of_le_of_lt deeper missed.1, missed.2⟩) (.inl ?_) ?_
      · apply second.growth.seen
        exact first.growth.seen (.inr (LoopGuard.mem_record.mpr (.inl rfl)))
      · intro x before
        rcases below.members x before with entered | ⟨other, answer, members⟩
        · rcases LoopGuard.mem_record.mp entered with rfl | old
          · exact .inr ⟨group, found, fun member here => seen member (below.references member here)⟩
          · exact .inl old
        · exact .inr ⟨other, answer, fun member here => seen member (members member here)⟩

/-- A survey that is truncated has found as many addresses as the limit allows, and has come to one
more. -/
theorem Explores.full_of_truncated (explored : Explores groupAt limit levels references s t)
    (stands : Stands groupAt guard roots chain references s) (start : s.isTruncated = false)
    (truncated : t.isTruncated = true) :
    limit ≤ t.found.size ∧ ∃ x, ¬ x ∈ t.found ∧ ¬ x ∈ guard.recorded ∧ groupAt x = .ok none ∧
      Within groupAt guard roots (chain.length + levels) x := by
  induction explored generalizing chain with
  | done => simp [start] at truncated
  | skip _ _ along => exact along (stands.later (SortedSet.Subset.refl _)) start truncated
  | @leaf levels address rest s t visited leaf explored along =>
      cases added : (s.add limit address).isTruncated with
      | false => exact along (stands.later (Extends.add visited leaf).guard) added truncated
      | true =>
          rw [explored.of_truncated added]
          rcases add_cases limit address s with ⟨_, same⟩ | ⟨_, same⟩ | ⟨full, absent, same⟩ <;>
            rw [same] at added ⊢
          · simp [start] at added
          · simp [start] at added
          · exact ⟨full, address, absent, stands.not_recorded visited, leaf,
              stands.within.mono (Nat.le_add_right _ _)⟩
  | deep _ _ _ along => exact along (stands.later (SortedSet.Subset.refl _)) start truncated
  | @nest levels address group rest s inside t visited found first second down along =>
      have entering : Extends groupAt s (s.enter address) := .enter visited found
      cases middle : inside.isTruncated with
      | false =>
          exact along (stands.later (entering.trans first.growth).guard) middle truncated
      | true =>
          obtain ⟨full, x, absent, fresh, leaf, within⟩ :=
            down (stands.enter visited found) start middle
          rw [second.of_truncated middle]
          exact ⟨full, x, absent, fresh, leaf,
            within.mono (by simp only [List.length_cons]; omega)⟩

end Survey

end Listmaster
