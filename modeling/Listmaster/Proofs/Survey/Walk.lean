import Listmaster.Proofs.Survey.Basic

/-!
Walks are surveys.

What a session remembers makes no difference to a walk: from a faithful session it
ends where the survey ends that asks the directory for every address (`walk_spec`),
and so does an expansion (`expand_spec`).
-/

namespace Listmaster

/-- Where a walk stands that has entered these groups. -/
def Walk.survey (walk : Walk) (entered : List Address) : Survey :=
  ⟨walk.guard, walk.found, walk.tooDeep, walk.isTruncated, entered⟩

theorem Walk.survey_add (limit : Nat) (address : Address) (walk : Walk) (session : Session)
    (entered : List Address) :
    (Walk.add limit address { walk with session }).survey entered =
      (walk.survey entered).add limit address := by
  unfold Walk.add Survey.add Walk.survey
  split
  · rfl
  · split <;> rfl

theorem Walk.guard_add (limit : Nat) (address : Address) (walk : Walk) :
    (walk.add limit address).guard = walk.guard := by
  unfold Walk.add
  split
  · rfl
  · split <;> rfl

theorem Walk.session_add (limit : Nat) (address : Address) (walk : Walk) :
    (walk.add limit address).session = walk.session := by
  unfold Walk.add
  split
  · rfl
  · split <;> rfl

namespace Resolver

variable {r : Resolver} {limit levels : Nat}

/-- Visit an address where `levels` levels may follow. -/
def visitAt (r : Resolver) (limit levels : Nat) : Address → WalkM Unit :=
  match levels with
  | 0 => r.visit limit none
  | levels + 1 => r.visit limit (some (r.walk limit levels))

theorem walk_eq_forM (references : AddressSet) :
    r.walk limit levels references = references.toList.forM (r.visitAt limit levels) := by
  cases levels <;> rfl

theorem visit_eq (descend : Option (AddressSet → WalkM Unit)) (address : Address) (walk : Walk) :
    r.visit limit descend address walk =
      if walk.isTruncated || walk.guard.wasVisited address then .ok () walk
      else
        match r.resolve address walk.session with
        | .error error session => .error error { walk with session }
        | .ok none session => .ok () (Walk.add limit address { walk with session })
        | .ok (some group) session =>
            match descend with
            | none => .ok () { walk with session, tooDeep := walk.tooDeep + 1 }
            | some descend =>
                descend group.members
                  { walk with session, guard := walk.guard.record address } := by
  change (if walk.isTruncated || walk.guard.wasVisited address then pure () else _ :
    WalkM Unit) walk = _
  by_cases skipped : (walk.isTruncated || walk.guard.wasVisited address) = true
  · rw [if_pos skipped, if_pos skipped]
    rfl
  · rw [if_neg skipped, if_neg skipped]
    simp only [bind, EStateM.bind, resolveOnWalk]
    cases r.resolve address walk.session with
    | error error session => rfl
    | ok known session =>
        cases known with
        | none => rfl
        | some group => cases descend <;> rfl

theorem visitAt_of_skips (limit levels : Nat) {address : Address} {walk : Walk}
    (skipped : (walk.isTruncated || walk.guard.wasVisited address) = true) :
    r.visitAt limit levels address walk = .ok () walk := by
  cases levels with
  | zero => exact (visit_eq none address walk).trans (if_pos skipped)
  | succ levels =>
      exact (visit_eq (some (r.walk limit levels)) address walk).trans (if_pos skipped)

theorem visitAt_of_not_skips (limit levels : Nat) {address : Address} {walk : Walk}
    (visited : (walk.isTruncated || walk.guard.wasVisited address) = false) :
    r.visitAt limit levels address walk =
      match r.resolve address walk.session with
      | .error error session => .error error { walk with session }
      | .ok none session => .ok () (Walk.add limit address { walk with session })
      | .ok (some group) session =>
          match levels with
          | 0 => .ok () { walk with session, tooDeep := walk.tooDeep + 1 }
          | levels + 1 =>
              r.walk limit levels group.members
                { walk with session, guard := walk.guard.record address } := by
  have notSkipped : ¬ (walk.isTruncated || walk.guard.wasVisited address) = true := by
    rw [visited]
    exact Bool.false_ne_true
  cases levels with
  | zero => exact (visit_eq none address walk).trans (if_neg notSkipped)
  | succ levels =>
      exact (visit_eq (some (r.walk limit levels)) address walk).trans (if_neg notSkipped)

/-- From a faithful session the visits to a list of addresses are a survey of it. -/
theorem forM_visitAt_spec (limit levels : Nat) (references : List Address) (walk : Walk)
    (entered : List Address)
    (faithful : walk.session.Faithful r) :
    Ensures (references.forM (r.visitAt limit levels)) walk
      (fun _ after =>
        (∃ entered', Survey.explore r.groupAt limit levels references (walk.survey entered) =
          .ok (after.survey entered')) ∧ after.session.Faithful r)
      (fun error after =>
        Survey.explore r.groupAt limit levels references (walk.survey entered) = .error error ∧
          after.session.Faithful r) := by
  -- The groups that are entered lead one level down, the other addresses along the list.
  induction levels using Nat.strongRecOn generalizing references walk entered with
  | _ levels deeper =>
      induction references generalizing walk entered with
      | nil => exact ⟨⟨entered, by rw [Survey.explore]⟩, faithful⟩
      | cons address rest along =>
          change Ensures (r.visitAt limit levels address >>= fun _ =>
            rest.forM (r.visitAt limit levels)) walk _ _
          apply Ensures.bind
          cases skips : (walk.survey entered).skips address with
          | true =>
              apply Ensures.intro_ok (visitAt_of_skips limit levels skips)
              rw [Survey.explore, if_pos skips]
              exact along walk entered faithful
          | false =>
              have visit := visitAt_of_not_skips (r := r) limit levels skips
              have resolved := resolve_spec address faithful
              cases answer : r.resolve address walk.session with
              | error error session =>
                  obtain ⟨failed, still⟩ := resolved.of_error answer
                  rw [answer] at visit
                  apply Ensures.intro_error visit
                  rw [Survey.explore, if_neg (by simp [skips]), failed]
                  exact ⟨rfl, still⟩
              | ok known session =>
                  obtain ⟨known?, still⟩ := resolved.of_ok answer
                  rw [answer] at visit
                  rw [Survey.explore, if_neg (by simp [skips]), known?]
                  cases known with
                  | none =>
                      apply Ensures.intro_ok visit
                      simp only [← Walk.survey_add limit address walk session entered]
                      apply along
                      rw [Walk.session_add]
                      exact still
                  | some group =>
                      cases levels with
                      | zero =>
                          apply Ensures.intro_ok visit
                          exact along { walk with session, tooDeep := walk.tooDeep + 1 }
                            entered still
                      | succ levels =>
                          apply Ensures.of_eq visit
                          rw [walk_eq_forM]
                          apply (deeper levels (Nat.lt_succ_self levels) group.members.toList
                            { walk with session, guard := walk.guard.record address }
                            (address :: entered) still).mono
                          · rintro _ after ⟨⟨inside, explored⟩, faithful⟩
                            simp only [show (walk.survey entered).enter address =
                              Walk.survey { walk with session, guard := walk.guard.record address }
                                (address :: entered) from rfl, explored]
                            exact along after inside faithful
                          · rintro error after ⟨failed, faithful⟩
                            simp only [show (walk.survey entered).enter address =
                              Walk.survey { walk with session, guard := walk.guard.record address }
                                (address :: entered) from rfl, failed]
                            exact ⟨trivial, faithful⟩

/-- From a faithful session a walk is a survey of its references. -/
theorem walk_spec (limit levels : Nat) (references : AddressSet) (walk : Walk)
    (entered : List Address)
    (faithful : walk.session.Faithful r) :
    Ensures (r.walk limit levels references) walk
      (fun _ after =>
        (∃ entered', Survey.explore r.groupAt limit levels references.toList
          (walk.survey entered) = .ok (after.survey entered')) ∧ after.session.Faithful r)
      (fun error after =>
        Survey.explore r.groupAt limit levels references.toList (walk.survey entered) =
          .error error ∧ after.session.Faithful r) := by
  rw [walk_eq_forM]
  exact forM_visitAt_spec limit levels references.toList walk entered faithful

/-- The survey of the references of a group. -/
def gather (r : Resolver) (limits : Limits) (references : AddressSet) (guard : LoopGuard) :
    Except DirectoryError Survey :=
  Survey.explore r.groupAt limits.members (limits.depth - 1) references.toList (.start guard)

variable {session : Session}

theorem finish_faithful {walk : Walk} (faithful : walk.session.Faithful r) :
    walk.finish.session.Faithful r := by
  unfold Walk.finish
  dsimp only
  split <;> split <;> exact faithful

/-- From a faithful session an expansion ends where the survey ends. -/
theorem expand_spec (limits : Limits) (references : AddressSet) (guard : LoopGuard)
    (faithful : session.Faithful r) :
    (r.expand limits references guard session).session.Faithful r ∧
      ((∃ s, r.gather limits references guard = .ok s ∧
          (r.expand limits references guard session).outcome = .ok s.found ∧
          (r.expand limits references guard session).guard = s.guard) ∨
        ∃ error, r.gather limits references guard = .error error ∧
          (r.expand limits references guard session).outcome = .error error) := by
  have spec := walk_spec limits.members (limits.depth - 1) references
    (.start session guard) [] faithful
  unfold expand
  cases result : r.walk limits.members (limits.depth - 1) references (.start session guard) with
  | ok value walk =>
      obtain ⟨⟨entered, explored⟩, still⟩ := spec.of_ok result
      exact ⟨finish_faithful still, .inl ⟨walk.survey entered, explored, rfl, rfl⟩⟩
  | error error walk =>
      obtain ⟨failed, still⟩ := spec.of_error result
      exact ⟨still, .inr ⟨error, failed, rfl⟩⟩

theorem expand_outcome (limits : Limits) (references : AddressSet) (guard : LoopGuard)
    (faithful : session.Faithful r) :
    (r.expand limits references guard session).outcome =
      (r.gather limits references guard).map Survey.found := by
  rcases (expand_spec limits references guard faithful).2 with
    ⟨s, gathered, outcome, _⟩ | ⟨error, failed, outcome⟩
  · rw [gathered, outcome]
    rfl
  · rw [failed, outcome]
    rfl

end Resolver

end Listmaster
