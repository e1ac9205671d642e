import Listmaster.Proofs.Survey.Reach
import Listmaster.Proofs.Survey.Walk

/-!
What an expansion warns of.

An expansion that leaves something out tells it at its end, behind the events of its walk
(`Resolver.Warns`).  What it finds, what it records and what it warns of is what the survey of
the references says: `Resolver.expand_of_gather` and `Resolver.exists_warns`.
-/

namespace Listmaster

/-- The expansion ends without an error, and these are the notices that it adds to the events of
its walk. -/
def Resolver.Warns (r : Resolver) (limits : Limits) (references : AddressSet)
    (guard : LoopGuard) (session : Session) (notices : List Notice) : Prop :=
  ∃ walk,
    r.walk limits.members (limits.depth - 1) references (.start session guard) = .ok () walk ∧
      (r.expand limits references guard session).session.events.toList =
        walk.session.events.toList ++ notices.map Event.notice

/-- The notices tell which of its limits a survey has reached, and nothing else. -/
structure Survey.Told (s : Survey) (notices : List Notice) : Prop where
  depth : .nestedTooDeeply ∈ notices ↔ s.tooDeep ≠ 0
  members : .tooManyAddresses ∈ notices ↔ s.isTruncated = true
  only : ∀ notice ∈ notices, notice = .nestedTooDeeply ∨ notice = .tooManyAddresses

namespace Survey.Told

variable {s : Survey} {notices : List Notice} (told : s.Told notices)
include told

theorem shallow (silent : ¬ .nestedTooDeeply ∈ notices) : s.tooDeep = 0 :=
  Decidable.not_not.mp (mt told.depth.mpr silent)

theorem whole (silent : ¬ .tooManyAddresses ∈ notices) : s.isTruncated = false := by
  rw [← Bool.not_eq_true]
  exact mt told.members.mpr silent

theorem eq_nil (shallow : s.tooDeep = 0) (whole : s.isTruncated = false) : notices = [] := by
  apply List.eq_nil_iff_forall_not_mem.mpr
  intro notice here
  rcases told.only notice here with rfl | rfl
  · exact told.depth.mp here shallow
  · rw [told.members.mp here] at whole
    cases whole

end Survey.Told

theorem Walk.exists_told (walk : Walk) (entered : List Address) :
    ∃ notices,
      walk.finish.session.events.toList =
        walk.session.events.toList ++ notices.map Event.notice ∧
      (walk.survey entered).Told notices := by
  unfold finish survey
  cases deep : walk.tooDeep with
  | zero =>
      cases truncated : walk.isTruncated with
      | false => exact ⟨[], by simp, by simp, by simp, by simp⟩
      | true => exact ⟨[.tooManyAddresses], by simp [Session.tell], by simp, by simp, by simp⟩
  | succ others =>
      cases truncated : walk.isTruncated with
      | false => exact ⟨[.nestedTooDeeply], by simp [Session.tell], by simp, by simp, by simp⟩
      | true =>
          exact ⟨[.nestedTooDeeply, .tooManyAddresses], by simp [Session.tell], by simp, by simp,
            by simp⟩

namespace Resolver

variable {r : Resolver} {limits : Limits} {references : AddressSet} {guard : LoopGuard}
  {session : Session} {notices : List Notice} {s : Survey}

theorem expand_of_walk {walk : Walk}
    (walked : r.walk limits.members (limits.depth - 1) references (.start session guard) =
      .ok () walk) :
    r.expand limits references guard session = walk.finish := by
  unfold expand
  rw [walked]

theorem exists_walk (faithful : session.Faithful r)
    (gathered : r.gather limits references guard = .ok s) :
    ∃ walk entered,
      r.walk limits.members (limits.depth - 1) references (.start session guard) = .ok () walk ∧
        walk.survey entered = s := by
  have spec := walk_spec limits.members (limits.depth - 1) references (.start session guard) []
    faithful
  cases result : r.walk limits.members (limits.depth - 1) references (.start session guard) with
  | ok value walk =>
      obtain ⟨⟨entered, explored⟩, _⟩ := spec.of_ok result
      cases gathered.symm.trans explored
      exact ⟨walk, entered, rfl, rfl⟩
  | error error walk => cases gathered.symm.trans (spec.of_error result).1

/-- From a faithful session an expansion is what the survey of the references says. -/
theorem expand_of_gather (faithful : session.Faithful r)
    (gathered : r.gather limits references guard = .ok s) :
    (r.expand limits references guard session).outcome = .ok s.found ∧
      (r.expand limits references guard session).guard = s.guard := by
  obtain ⟨walk, _, walked, rfl⟩ := exists_walk faithful gathered
  rw [expand_of_walk walked]
  exact ⟨rfl, rfl⟩

/-- From a faithful session an expansion tells what its survey left out. -/
theorem exists_warns (faithful : session.Faithful r)
    (gathered : r.gather limits references guard = .ok s) :
    ∃ notices, r.Warns limits references guard session notices ∧ s.Told notices := by
  obtain ⟨walk, entered, walked, rfl⟩ := exists_walk faithful gathered
  obtain ⟨notices, events, told⟩ := walk.exists_told entered
  exact ⟨notices, ⟨walk, walked, by rw [expand_of_walk walked, events]⟩, told⟩

theorem Warns.unique {others : List Notice}
    (warns : r.Warns limits references guard session notices)
    (also : r.Warns limits references guard session others) : notices = others := by
  obtain ⟨walk, walked, events⟩ := warns
  obtain ⟨_, same, eventsToo⟩ := also
  cases walked.symm.trans same
  have added := List.append_cancel_left (events.symm.trans eventsToo)
  exact (List.map_inj_right fun _ _ => Event.notice.inj).mp added

theorem Warns.told (warns : r.Warns limits references guard session notices)
    (faithful : session.Faithful r) (gathered : r.gather limits references guard = .ok s) :
    s.Told notices := by
  obtain ⟨others, also, told⟩ := exists_warns faithful gathered
  exact warns.unique also ▸ told

theorem gather_total (answers : ∀ question, ∃ known, (r.directory question).outcome = .ok known)
    (limits : Limits) (references : AddressSet) (guard : LoopGuard) :
    ∃ s, r.gather limits references guard = .ok s :=
  Survey.explore_total (groupAt_total answers) _ _ _ _

end Resolver

end Listmaster
