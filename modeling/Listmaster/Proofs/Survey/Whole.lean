import Listmaster.Proofs.Survey.Chain

/-!
Surveys that leave nothing out.

A survey that passes over no group and is not truncated sees all that its references reach
(`Explores.seen_iff_reached`).  It passes over none if no chain of groups is too long
(`Explores.shallow`), and is not truncated if its limit leaves room for all addresses
(`Explores.whole_of_room`).
-/

namespace Listmaster

/-- The address is one of the roots or is reached from one of them. -/
def ReachedFrom (groupAt : Lookups) (guard : LoopGuard) (roots : AddressSet) (x : Address) :
    Prop :=
  ∃ root ∈ roots, Reaches groupAt guard root x

namespace Survey

variable {groupAt : Lookups} {limit levels : Nat} {references : List Address} {s t : Survey}
  {guard : LoopGuard} {roots groups others : AddressSet} {x y : Address}

/-- The survey has left nothing out between two points: the references are seen, and so are
the members of the groups that were recorded. -/
structure Covers (groupAt : Lookups) (references : List Address) (s t : Survey) : Prop where
  references : ∀ reference ∈ references, t.Seen reference
  members : ∀ x, x ∈ t.guard.recorded → x ∈ s.guard.recorded ∨
    ∃ group, groupAt x = .ok (some group) ∧ ∀ member ∈ group.members, t.Seen member

theorem Misses.covers {missed : Address → Prop} (misses : Misses groupAt missed references s t)
    (nothing : ∀ x, ¬ missed x) : Covers groupAt references s t where
  references reference here := (misses.references reference here).resolve_right (nothing reference)
  members x recorded := (misses.members x recorded).imp_right fun ⟨group, found, members⟩ =>
    ⟨group, found, fun member here => (members member here).resolve_right (nothing member)⟩

theorem Covers.reaches (covers : Covers groupAt references (.start guard) t)
    (found : ∀ z, z ∈ t.found → groupAt z = .ok none) (seen : t.Seen x)
    (reaches : Reaches groupAt guard x y) : t.Seen y := by
  induction reaches with
  | self _ => exact seen
  | @member list group member y fresh answer here _ inductionHypothesis =>
      apply inductionHypothesis
      rcases seen with leaf | recorded
      · rw [found list leaf] at answer
        cases answer
      · rcases covers.members list recorded with before | ⟨other, known, all⟩
        · exact absurd before fresh
        · rw [answer] at known
          cases known
          exact all member here

variable (explored : Explores groupAt limit levels roots.toList (.start guard) t)
include explored

theorem Explores.shallow (short : ∀ list, ¬ Deep groupAt guard roots (levels + 1) list) :
    t.tooDeep = 0 := by
  rcases explored.deep_of_tooDeep (.start groupAt guard roots) with none | ⟨list, deep⟩
  · exact none
  · rw [List.length_nil, Nat.zero_add] at deep
    exact absurd deep (short list)

/-- A survey is not truncated if there is room for all addresses that are reached. -/
theorem Explores.whole_of_room
    (all : ∀ x, ReachedFrom groupAt guard roots x → groupAt x = .ok none → x ∈ others)
    (room : others.size ≤ limit) : t.isTruncated = false := by
  cases truncated : t.isTruncated with
  | false => rfl
  | true =>
      have stands := Stands.start groupAt guard roots
      obtain ⟨full, x, absent, fresh, leaf, _, _, chained, _, here⟩ :=
        explored.full_of_truncated stands rfl truncated
      have included : t.found ⊆ others := by
        intro y found
        obtain ⟨freshToo, leafToo⟩ := explored.leaf_of_found found
        rcases explored.within stands found with none | ⟨_, _, chainedToo, _, hereToo⟩
        · exact absurd none (SortedSet.not_mem_empty y)
        · exact all y (chainedToo.reaches hereToo freshToo) leafToo
      have larger := SortedSet.size_lt_of_subset included
        (all x (chained.reaches here fresh) leaf) absent
      omega

variable (whole : t.isTruncated = false) (shallow : t.tooDeep = 0)
include whole shallow

theorem Explores.covers : Covers groupAt roots.toList (.start guard) t := by
  apply (explored.misses (.start groupAt guard roots) whole).covers
  rintro _ ⟨deeper, _⟩
  rw [shallow] at deeper
  exact Nat.not_lt_zero _ deeper

/-- A survey that leaves nothing out sees what its references reach. -/
theorem Explores.seen_iff_reached :
    t.Seen x ↔ x ∈ guard.recorded ∨ ReachedFrom groupAt guard roots x := by
  constructor
  · intro seen
    rcases explored.sound seen with (none | recorded) | reached
    · exact absurd none (SortedSet.not_mem_empty x)
    · exact .inl recorded
    · exact .inr reached
  · rintro (recorded | ⟨root, start, reaches⟩)
    · exact .inr (explored.growth.guard x recorded)
    · have covers := explored.covers whole shallow
      exact covers.reaches (fun z found => (explored.leaf_of_found found).2)
        (covers.references root start) reaches

omit explored whole shallow

theorem reaches_record {list : Address} {group : Group}
    (answer : groupAt list = .ok (some group)) (reaches : Reaches groupAt guard x y) :
    y = list ∨ Reaches groupAt (guard.record list) x y ∨
      ReachedFrom groupAt (guard.record list) group.members y := by
  induction reaches with
  | @self x fresh =>
      by_cases same : x = list
      · exact .inl same
      · exact .inr (.inl (.self fun recorded =>
          (LoopGuard.mem_record.mp recorded).elim same fresh))
  | @member outer other member y fresh found here _ inductionHypothesis =>
      rcases inductionHypothesis with same | reaches | reached
      · exact .inl same
      · by_cases same : outer = list
        · subst same
          rw [answer] at found
          cases found
          exact .inr (.inr ⟨member, here, reaches⟩)
        · exact .inr (.inl (.member
            (fun recorded => (LoopGuard.mem_record.mp recorded).elim same fresh) found here
            reaches))
      · exact .inr (.inr reached)

/-- In a region that fits the limits, a survey leaves nothing out that begins after a group of the
region was recorded. -/
theorem Explores.complete {near : Address → Prop} {list : Address} {group : Group}
    (region : Region groupAt near groups others) (room : others.size ≤ limit)
    (deep : groups.size ≤ levels + 1) (here : near list)
    (answer : groupAt list = .ok (some group)) (recorded : list ∈ guard.recorded)
    (start : ∀ root ∈ roots, near root)
    (explored : Explores groupAt limit levels roots.toList (.start guard) t) :
    t.isTruncated = false ∧ t.tooDeep = 0 := by
  have inside {y : Address} (reached : ReachedFrom groupAt guard roots y) : near y := by
    obtain ⟨root, among, reaches⟩ := reached
    exact reaches.near region (start root among)
  refine ⟨explored.whole_of_room (fun y reached => region.other y (inside reached)) room, ?_⟩
  apply explored.shallow
  intro y deepest
  -- The recorded group is one more group of the region.
  have larger := deepest.lt_size (fun z nested reached => region.group z nested (inside reached))
    (region.group list group here answer) recorded
  omega

/-- In a region that fits the limits, the survey of a group sees what its address reaches. -/
theorem Explores.seen_iff {near : Address → Prop} {list : Address} {group : Group}
    (region : Region groupAt near groups others) (room : others.size ≤ limit)
    (deep : groups.size ≤ levels + 1) (fresh : ¬ list ∈ guard.recorded) (here : near list)
    (answer : groupAt list = .ok (some group))
    (explored : Explores groupAt limit levels group.members.toList (.start (guard.record list)) t) :
    t.Seen x ↔ x ∈ guard.recorded ∨ Reaches groupAt guard list x := by
  obtain ⟨whole, shallow⟩ := explored.complete region room deep here answer
    (LoopGuard.mem_record.mpr (.inl rfl))
    (fun member among => region.closed list group member here answer among)
  rw [explored.seen_iff_reached whole shallow, LoopGuard.mem_record]
  constructor
  · rintro ((rfl | recorded) | ⟨member, among, reaches⟩)
    · exact .inr (.self fresh)
    · exact .inl recorded
    · refine .inr (.member fresh answer among (reaches.mono ?_))
      exact fun y recorded => LoopGuard.mem_record.mpr (.inr recorded)
  · rintro (recorded | reaches)
    · exact .inl (.inr recorded)
    · rcases reaches_record answer reaches with same | past | reached
      · exact .inl (.inl same)
      · exact absurd (LoopGuard.mem_record.mpr (.inl rfl)) past.start_fresh
      · exact .inr reached

end Survey

end Listmaster
