import Listmaster.Proofs.Depth

/-!
How far a walk goes.

`Traverses` follows a walk from address to address, with one rule for each way to treat an address.
Its depth counts up as the groups are nested, and nothing in the rules bounds the way that it takes;
the groups whose members are visited are listed in their order.  Every walk has such a course, which
is finite and ends where the walk ends, whatever the directory answers: no group is listed twice or
beyond the depth, and the guard grows by those that are listed (`Resolver.walk_bounded`).
-/

namespace Listmaster

/-- The guard has grown by these groups, each of which it had not recorded before. -/
structure LoopGuard.GrowsBy (before : LoopGuard) (groups : List Address) (after : LoopGuard) :
    Prop where
  recorded : ∀ x, x ∈ after.recorded ↔ x ∈ before.recorded ∨ x ∈ groups
  fresh : ∀ x ∈ groups, ¬ x ∈ before.recorded
  once : groups.Nodup

namespace LoopGuard.GrowsBy

variable {guard before after : LoopGuard} {groups others : List Address} {address : Address}

theorem refl (guard : LoopGuard) : GrowsBy guard [] guard where
  recorded _ := by simp
  fresh := nofun
  once := List.nodup_nil

theorem record (absent : ¬ address ∈ guard.recorded) :
    GrowsBy guard [address] (guard.record address) where
  recorded x := by rw [mem_record, List.mem_singleton, or_comm]
  fresh x here := List.mem_singleton.mp here ▸ absent
  once := List.nodup_singleton address

theorem trans (first : GrowsBy before groups guard) (second : GrowsBy guard others after) :
    GrowsBy before (groups ++ others) after where
  recorded x := by rw [second.recorded, first.recorded, List.mem_append, or_assoc]
  fresh x here recorded := by
    rcases List.mem_append.mp here with earlier | later
    · exact first.fresh x earlier recorded
    · exact second.fresh x later ((first.recorded x).mpr (.inl recorded))
  once := by
    refine List.nodup_append.mpr ⟨first.once, second.once, ?_⟩
    rintro x earlier _ later rfl
    exact second.fresh x later ((first.recorded x).mpr (.inr earlier))

end LoopGuard.GrowsBy

/-- The visit of the members of a group, at this depth. -/
structure Descent where
  group : Address
  depth : Nat
  members : AddressSet

namespace Resolver

/-- The course of a walk over a list of addresses, and how it ends. -/
inductive Traverses (r : Resolver) (limits : Limits) :
    Nat → List Address → Walk → List Descent → EStateM.Result DirectoryError Walk Unit → Prop
  | done {depth walk} : Traverses r limits depth [] walk [] (.ok () walk)
  | full {depth address rest walk} :
      walk.isTruncated = true →
      Traverses r limits depth (address :: rest) walk [] (.ok () walk)
  | cut {depth address rest walk descents result} :
      walk.isTruncated = false → walk.guard.wasVisited address = true →
      Traverses r limits depth rest walk descents result →
      Traverses r limits depth (address :: rest) walk descents result
  | unanswered {depth address rest walk error session} :
      walk.isTruncated = false → walk.guard.wasVisited address = false →
      r.resolve address walk.session = .error error session →
      Traverses r limits depth (address :: rest) walk [] (.error error { walk with session })
  | leaf {depth address rest walk session descents result} :
      walk.isTruncated = false → walk.guard.wasVisited address = false →
      r.resolve address walk.session = .ok none session →
      Traverses r limits depth rest (Walk.add limits.members address { walk with session })
        descents result →
      Traverses r limits depth (address :: rest) walk descents result
  | deep {depth address rest walk group session descents result} :
      walk.isTruncated = false → walk.guard.wasVisited address = false →
      r.resolve address walk.session = .ok (some group) session →
      limits.depth ≤ depth →
      Traverses r limits depth rest { walk with session, tooDeep := walk.tooDeep + 1 }
        descents result →
      Traverses r limits depth (address :: rest) walk descents result
  | nested {depth address rest walk group session inner inside later result} :
      walk.isTruncated = false → walk.guard.wasVisited address = false →
      r.resolve address walk.session = .ok (some group) session →
      depth < limits.depth →
      Traverses r limits (depth + 1) group.members.toList
        { walk with session, guard := walk.guard.record address } inner (.ok () inside) →
      Traverses r limits depth rest inside later result →
      Traverses r limits depth (address :: rest) walk
        (⟨address, depth + 1, group.members⟩ :: (inner ++ later)) result
  | failed {depth address rest walk group session inner error inside} :
      walk.isTruncated = false → walk.guard.wasVisited address = false →
      r.resolve address walk.session = .ok (some group) session →
      depth < limits.depth →
      Traverses r limits (depth + 1) group.members.toList
        { walk with session, guard := walk.guard.record address } inner (.error error inside) →
      Traverses r limits depth (address :: rest) walk
        (⟨address, depth + 1, group.members⟩ :: inner) (.error error inside)

end Resolver

/-- Where a walk stands at its end, after an error too. -/
def Walk.ofResult : EStateM.Result DirectoryError Walk Unit → Walk
  | .ok _ walk => walk
  | .error _ walk => walk

namespace Resolver

variable {r : Resolver} {limits : Limits} {depth : Nat} {references : List Address}
  {walk : Walk} {descents : List Descent} {address : Address}
  {result : EStateM.Result DirectoryError Walk Unit}

/-- The course of a walk does not exceed the depth. -/
theorem Traverses.depth_le (traverses : Traverses r limits depth references walk descents result) :
    ∀ descent ∈ descents, depth < descent.depth ∧ descent.depth ≤ limits.depth := by
  induction traverses with
  | done => exact nofun
  | full => exact nofun
  | cut _ _ _ along => exact along
  | unanswered => exact nofun
  | leaf _ _ _ _ along => exact along
  | deep _ _ _ _ _ along => exact along
  | nested _ _ _ room _ _ down along =>
      intro descent here
      rcases List.mem_cons.mp here with rfl | here
      · exact ⟨Nat.lt_succ_self _, room⟩
      · rcases List.mem_append.mp here with inside | later
        · exact ⟨Nat.lt_of_succ_lt (down descent inside).1, (down descent inside).2⟩
        · exact along descent later
  | failed _ _ _ room _ down =>
      intro descent here
      rcases List.mem_cons.mp here with rfl | inside
      · exact ⟨Nat.lt_succ_self _, room⟩
      · exact ⟨Nat.lt_of_succ_lt (down descent inside).1, (down descent inside).2⟩

theorem record_of_not_visited (visited : walk.guard.wasVisited address = false) :
    walk.guard.GrowsBy [address] (walk.guard.record address) :=
  .record (LoopGuard.wasVisited_eq_false_iff.mp visited)

theorem Traverses.growsBy (traverses : Traverses r limits depth references walk descents result) :
    walk.guard.GrowsBy (descents.map Descent.group) (Walk.ofResult result).guard := by
  induction traverses with
  | done => exact .refl _
  | full => exact .refl _
  | cut _ _ _ along => exact along
  | unanswered => exact .refl _
  | leaf _ _ _ _ along =>
      rw [Walk.guard_add] at along
      exact along
  | deep _ _ _ _ _ along => exact along
  | nested _ visited _ _ _ _ down along =>
      rw [List.map_cons, List.map_append]
      exact (record_of_not_visited visited).trans (down.trans along)
  | failed _ visited _ _ _ down => exact (record_of_not_visited visited).trans down

theorem forM_visitAt_cons (levels : Nat) (address : Address) (rest : List Address) (walk : Walk) :
    (address :: rest).forM (r.visitAt limits.members levels) walk =
      match r.visitAt limits.members levels address walk with
      | .ok _ next => rest.forM (r.visitAt limits.members levels) next
      | .error error next => .error error next := by
  change EStateM.bind (r.visitAt limits.members levels address)
    (fun _ => rest.forM (r.visitAt limits.members levels)) walk = _
  unfold EStateM.bind
  cases r.visitAt limits.members levels address walk <;> rfl

theorem forM_visitAt_of_skips (levels : Nat) (rest : List Address)
    (skipped : (walk.isTruncated || walk.guard.wasVisited address) = true) :
    (address :: rest).forM (r.visitAt limits.members levels) walk =
      rest.forM (r.visitAt limits.members levels) walk := by
  rw [forM_visitAt_cons, visitAt_of_skips limits.members levels skipped]

theorem forM_visitAt_of_truncated (levels : Nat) (references : List Address)
    (full : walk.isTruncated = true) :
    references.forM (r.visitAt limits.members levels) walk = .ok () walk := by
  induction references with
  | nil => rfl
  | cons address rest inductionHypothesis =>
      rw [forM_visitAt_of_skips levels rest (by rw [full, Bool.true_or]), inductionHypothesis]

theorem forM_visitAt_of_not_skips (levels : Nat) (rest : List Address)
    (full : walk.isTruncated = false) (visited : walk.guard.wasVisited address = false) :
    (address :: rest).forM (r.visitAt limits.members levels) walk =
      match r.resolve address walk.session with
      | .error error session => .error error { walk with session }
      | .ok none session =>
          rest.forM (r.visitAt limits.members levels)
            (Walk.add limits.members address { walk with session })
      | .ok (some group) session =>
          match levels with
          | 0 =>
              rest.forM (r.visitAt limits.members 0)
                { walk with session, tooDeep := walk.tooDeep + 1 }
          | levels + 1 =>
              match group.members.toList.forM (r.visitAt limits.members levels)
                  { walk with session, guard := walk.guard.record address } with
              | .ok _ inside => rest.forM (r.visitAt limits.members (levels + 1)) inside
              | .error error inside => .error error inside := by
  have open? : (walk.isTruncated || walk.guard.wasVisited address) = false := by
    rw [full, visited, Bool.or_false]
  rw [forM_visitAt_cons, visitAt_of_not_skips limits.members levels open?]
  cases r.resolve address walk.session with
  | error error session => rfl
  | ok known session =>
      cases known with
      | none => rfl
      | some group =>
          cases levels with
          | zero => rfl
          | succ levels =>
              simp only [walk_eq_forM]
              rfl

/-- The course of a walk ends where the walk ends. -/
theorem Traverses.eq (traverses : Traverses r limits depth references walk descents result) :
    references.forM (r.visitAt limits.members (limits.depth - depth)) walk = result := by
  induction traverses with
  | done => rfl
  | full full => exact forM_visitAt_of_truncated _ _ full
  | cut _ visited _ along =>
      rw [forM_visitAt_of_skips _ _ (by rw [visited, Bool.or_true]), along]
  | unanswered full visited failed => rw [forM_visitAt_of_not_skips _ _ full visited, failed]
  | leaf full visited resolved _ along =>
      rw [forM_visitAt_of_not_skips _ _ full visited, resolved]
      exact along
  | deep full visited resolved reached _ along =>
      rw [Nat.sub_eq_zero_of_le reached] at along ⊢
      rw [forM_visitAt_of_not_skips _ _ full visited, resolved]
      exact along
  | @nested depth _ _ _ _ _ _ _ _ _ full visited resolved room _ _ down along =>
      have levels : limits.depth - depth = limits.depth - (depth + 1) + 1 := by omega
      rw [levels] at along ⊢
      rw [forM_visitAt_of_not_skips _ _ full visited, resolved]
      simp only [down, along]
  | @failed depth _ _ _ _ _ _ _ _ full visited resolved room _ down =>
      have levels : limits.depth - depth = limits.depth - (depth + 1) + 1 := by omega
      rw [levels, forM_visitAt_of_not_skips _ _ full visited, resolved]
      simp only [down]

/-- Every walk has a course, which ends. -/
theorem exists_traverses (r : Resolver) (limits : Limits) (depth : Nat)
    (references : List Address) (walk : Walk) :
    ∃ descents result, Traverses r limits depth references walk descents result := by
  -- The groups that are nested lead one level down, the other addresses along the list.
  induction levels : limits.depth - depth using Nat.strongRecOn generalizing depth references walk with
  | _ levels deeper =>
      induction references generalizing walk with
      | nil => exact ⟨_, _, .done⟩
      | cons address rest along =>
          cases full : walk.isTruncated with
          | true => exact ⟨_, _, .full full⟩
          | false =>
              cases visited : walk.guard.wasVisited address with
              | true =>
                  obtain ⟨descents, result, course⟩ := along walk
                  exact ⟨descents, result, .cut full visited course⟩
              | false =>
                  cases answer : r.resolve address walk.session with
                  | error error session => exact ⟨_, _, .unanswered full visited answer⟩
                  | ok known session =>
                      cases known with
                      | none =>
                          obtain ⟨descents, result, course⟩ := along _
                          exact ⟨descents, result, .leaf full visited answer course⟩
                      | some group =>
                          by_cases room : depth < limits.depth
                          · obtain ⟨inner, inside, down⟩ := deeper (limits.depth - (depth + 1))
                              (by omega) (depth + 1) group.members.toList
                              { walk with session, guard := walk.guard.record address } rfl
                            cases inside with
                            | error error inside =>
                                exact ⟨_, _, .failed full visited answer room down⟩
                            | ok _ inside =>
                                obtain ⟨later, result, course⟩ := along inside
                                exact ⟨_, result, .nested full visited answer room down course⟩
                          · obtain ⟨descents, result, course⟩ := along _
                            exact ⟨descents, result,
                              .deep full visited answer (Nat.le_of_not_lt room) course⟩

theorem guard_expand (r : Resolver) (limits : Limits) (references : AddressSet)
    (guard : LoopGuard) (session : Session) :
    (r.expand limits references guard session).guard =
      (Walk.ofResult
        (r.walk limits.members (limits.depth - 1) references (.start session guard))).guard := by
  unfold expand
  cases r.walk limits.members (limits.depth - 1) references (.start session guard) <;> rfl

/-- Every walk has a course, which ends where the walk ends.  In its course the members of a group
are visited only within the depth, only once, and only if the guard had not recorded the group, so
that a list whose own members are expanded is not entered again if it is recorded; and the guard
then has grown by exactly these groups.  An expansion is a walk that begins at the first level, and
leaves its guard behind, whether it fails or not. -/
theorem walk_bounded (r : Resolver) (limits : Limits) :
    (∀ depth (references : AddressSet) walk,
      (∃ descents result,
        Traverses r limits depth references.toList walk descents result) ∧
      ∀ descents result, Traverses r limits depth references.toList walk descents result →
        r.walk limits.members (limits.depth - depth) references walk = result ∧
        (∀ descent ∈ descents, depth < descent.depth ∧ descent.depth ≤ limits.depth) ∧
        (descents.map Descent.group).Nodup ∧
        (∀ descent ∈ descents, ¬ descent.group ∈ walk.guard.recorded) ∧
        ∀ x, x ∈ (Walk.ofResult result).guard.recorded ↔
          x ∈ walk.guard.recorded ∨ ∃ descent ∈ descents, descent.group = x) ∧
    ∀ references guard session,
      (r.expand limits references guard session).guard =
        (Walk.ofResult
          (r.walk limits.members (limits.depth - 1) references (.start session guard))).guard := by
  constructor
  · intro depth references walk
    refine ⟨exists_traverses r limits depth references.toList walk, ?_⟩
    intro descents result traverses
    have grows := traverses.growsBy
    refine ⟨?_, traverses.depth_le, grows.once, ?_, ?_⟩
    · rw [walk_eq_forM]
      exact traverses.eq
    · intro descent here
      exact grows.fresh descent.group (List.mem_map_of_mem here)
    · intro x
      rw [grows.recorded, List.mem_map]
  · exact guard_expand r limits

end Resolver

/-! The team, in which the forum is reached on two ways. -/

namespace Sample

theorem guard_expand_relay :
    (relay.expand ⟨10, 10⟩ (.ofList [crew, forum]) (.record .empty team) .empty).guard =
      ⟨.ofList [team, crew, press, forum, panel]⟩ := by decide +kernel

end Sample

open Sample in
theorem Resolver.walk_bounded_sample :
    ∃ descents result,
      Traverses relay ⟨10, 10⟩ 1 (SortedSet.ofList [crew, forum]).toList
        (.start .empty (.record .empty team)) descents result ∧
      (descents.map Descent.group).Nodup ∧
      (∀ descent ∈ descents, descent.depth ≤ 10) ∧
      (∃ descent ∈ descents, descent.group = forum) ∧
      ¬ ∃ descent ∈ descents, descent.group = team := by
  obtain ⟨walks, expands⟩ := Resolver.walk_bounded relay ⟨10, 10⟩
  obtain ⟨⟨descents, result, course⟩, bounded⟩ :=
    walks 1 (.ofList [crew, forum]) (.start .empty (.record .empty team))
  obtain ⟨ends, deep, once, fresh, recorded⟩ := bounded descents result course
  have recordedTeam : team ∈ (LoopGuard.empty.record team).recorded :=
    LoopGuard.mem_record.mpr (.inl rfl)
  refine ⟨descents, result, course, once, fun descent here => (deep descent here).2, ?_, ?_⟩
  · have grown := recorded forum
    rw [← ends, ← expands, guard_expand_relay, SortedSet.mem_ofList] at grown
    exact (grown.mp (by decide)).resolve_left (by decide)
  · rintro ⟨descent, here, same⟩
    exact fresh descent here (same ▸ recordedTeam)

end Listmaster
