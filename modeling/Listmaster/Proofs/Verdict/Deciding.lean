import Listmaster.Proofs.Verdict.Basic

/-!
A service decides what the verdicts say.

Whatever the session of a service remembers, as long as the directory answered it, the
service decides about a recipient what is decided about it on its own (`decide_spec`), and
so about all recipients of a mail, one after another (`decideAll_spec`).
-/

namespace Listmaster

/-- What a roster knows of a group is what the surveys of the group find. -/
structure Roster.Faithful (roster : Roster) (service : Service) (group : Group)
    (guard : LoopGuard) : Prop where
  session : roster.session.Faithful service.resolver
  members : ∀ found visited, roster.members = some (found, visited) →
    ∃ survey, service.resolver.gather service.limits group.members guard = .ok survey ∧
      survey.found = found ∧ survey.guard = visited
  owners : ∀ found, roster.owners = some found →
    ∃ survey, service.resolver.gather service.limits group.owners guard = .ok survey ∧
      survey.found = found

namespace Service

variable {service : Service} {sender : Option Address} {guard : LoopGuard}
  {group : Group} {list recipient : Address} {roster : Roster} {session : Session}

theorem members_spec (faithful : roster.Faithful service group guard) :
    Ensures (service.members group guard) roster
      (fun members after => after.Faithful service group guard ∧
        ∃ survey, service.resolver.gather service.limits group.members guard = .ok survey ∧
          members = survey.found ∧ after.members = some (survey.found, survey.guard))
      (fun error after => after.session.Faithful service.resolver ∧
        service.resolver.gather service.limits group.members guard = .error error) := by
  cases known : roster.members with
  | some pair =>
      obtain ⟨found, visited⟩ := pair
      have result : service.members group guard roster = .ok found roster := by
        simp [members, known]
      obtain ⟨survey, gathered, sameFound, sameGuard⟩ := faithful.members found visited known
      refine Ensures.intro_ok result ⟨faithful, survey, gathered, sameFound.symm, ?_⟩
      rw [known, sameFound, sameGuard]
  | none =>
      have spec := Resolver.expand_spec service.limits group.members guard faithful.session
      obtain ⟨still, ⟨survey, gathered, outcome, visited⟩ | ⟨error, failed, outcome⟩⟩ := spec
      · have result : service.members group guard roster = .ok survey.found
            { roster with
              session := (service.resolver.expand service.limits group.members guard
                roster.session).session
              members := some (survey.found, survey.guard) } := by
          simp [members, known, outcome, visited]
        refine Ensures.intro_ok result ⟨⟨still, ?_, faithful.owners⟩, survey, gathered, rfl, rfl⟩
        intro found visited same
        cases same
        exact ⟨survey, gathered, rfl, rfl⟩
      · have result : service.members group guard roster = .error error
            { roster with
              session := (service.resolver.expand service.limits group.members guard
                roster.session).session } := by
          simp [members, known, outcome]
        exact Ensures.intro_error result ⟨still, failed⟩

theorem owners_spec (faithful : roster.Faithful service group guard) :
    Ensures (service.owners group guard) roster
      (fun owners after => after.Faithful service group guard ∧
        (service.resolver.gather service.limits group.owners guard).map Survey.found = .ok owners)
      (fun error after => after.session.Faithful service.resolver ∧
        service.resolver.gather service.limits group.owners guard = .error error) := by
  cases known : roster.owners with
  | some found =>
      have result : service.owners group guard roster = .ok found roster := by
        simp [owners, known]
      obtain ⟨survey, gathered, same⟩ := faithful.owners found known
      refine Ensures.intro_ok result ⟨faithful, ?_⟩
      rw [gathered, ← same]
      rfl
  | none =>
      have spec := Resolver.expand_spec service.limits group.owners guard faithful.session
      obtain ⟨still, ⟨survey, gathered, outcome, visited⟩ | ⟨error, failed, outcome⟩⟩ := spec
      · have result : service.owners group guard roster = .ok survey.found
            { roster with
              session := (service.resolver.expand service.limits group.owners guard
                roster.session).session
              owners := some survey.found } := by
          simp [owners, known, outcome]
        refine Ensures.intro_ok result ⟨⟨still, faithful.members, ?_⟩, by rw [gathered]; rfl⟩
        intro found same
        cases same
        exact ⟨survey, gathered, rfl⟩
      · have result : service.owners group guard roster = .error error
            { roster with
              session := (service.resolver.expand service.limits group.owners guard
                roster.session).session } := by
          simp [owners, known, outcome]
        exact Ensures.intro_error result ⟨still, failed⟩

theorem effective_classify (service : Service) (group : Group) :
    service.authorization.effective (Category.classify group.category) =
      (service.policy group).filter (· != .unrecognized) := by
  unfold policy
  cases Category.classify group.category <;> rfl

theorem isAllowed_spec (faithful : roster.Faithful service group guard) :
    Ensures (service.authorization.isAllowed (Category.classify group.category)
        (service.posting sender list) (service.membership group guard)) roster
      (fun allowed after => after.Faithful service group guard ∧
        service.accepts sender guard list group = .ok allowed)
      (fun error after => after.session.Faithful service.resolver ∧
        service.accepts sender guard list group = .error error) := by
  have settled {allowed : Bool} (accepted : service.accepts sender guard list group = .ok allowed) :
      Ensures (pure allowed : RosterM Bool) roster
        (fun allowed after => after.Faithful service group guard ∧
          service.accepts sender guard list group = .ok allowed)
        (fun error after => after.session.Faithful service.resolver ∧
          service.accepts sender guard list group = .error error) :=
    ⟨faithful, accepted⟩
  unfold Authorization.isAllowed
  rw [effective_classify]
  cases policy : service.policy group with
  | none => exact settled (by simp [accepts, policy])
  | some category =>
      cases sender with
      | none =>
          cases category <;> exact settled (by simp [accepts, policy])
      | some sender =>
          cases category with
          | everyone => exact settled (by simp [accepts, policy])
          | internal => exact settled (by simp [accepts, policy]; rfl)
          | anyLocal => exact settled (by simp [accepts, policy]; rfl)
          | domainRestricted => exact settled (by simp [accepts, policy]; rfl)
          | unrecognized => exact settled (by simp [accepts, policy])
          | memberRestricted =>
              apply Ensures.bind
              apply (members_spec faithful).mono
              · rintro members after ⟨still, survey, gathered, same, _⟩
                refine ⟨still, ?_⟩
                simp only [accepts, policy, gathered, same]
                rfl
              · rintro error after ⟨still, failed⟩
                refine ⟨still, ?_⟩
                simp only [accepts, policy, failed]
                rfl
          | ownerRestricted =>
              apply Ensures.bind
              apply (owners_spec faithful).mono
              · rintro owners after ⟨still, gathered⟩
                refine ⟨still, ?_⟩
                simp only [accepts, policy, gathered]
                exact congrArg Except.ok (SortedSet.not_isEmpty_and_contains owners sender).symm
              · rintro error after ⟨still, failed⟩
                refine ⟨still, ?_⟩
                simp only [accepts, policy, failed]
                rfl

/-- A mail to a list goes to its members if the sender is accepted. -/
theorem authorize_spec (sender : Option Address) (list : Address)
    (faithful : roster.Faithful service group guard) :
    Ensures (service.authorization.authorize (Category.classify group.category)
        (service.posting sender list) (service.membership group guard)) roster
      (fun resolution after => after.session.Faithful service.resolver ∧
        match resolution with
        | .resolved members => service.accepts sender guard list group = .ok true ∧
            ∃ survey, service.resolver.gather service.limits group.members guard = .ok survey ∧
              members = survey.found ∧ after.members = some (survey.found, survey.guard)
        | .rejected _ => service.accepts sender guard list group = .ok false)
      (fun error after => after.session.Faithful service.resolver ∧
        service.listVerdict sender guard list group = .error error) := by
  unfold Authorization.authorize
  apply Ensures.bind
  apply (isAllowed_spec faithful).mono
  · rintro allowed middle ⟨still, accepted⟩
    cases allowed with
    | false => exact ⟨still.session, accepted⟩
    | true =>
        apply Ensures.bind
        apply (members_spec still).mono
        · rintro members after ⟨last, survey, gathered, same, cached⟩
          exact ⟨last.session, accepted, survey, gathered, same, cached⟩
        · rintro error after ⟨last, failed⟩
          refine ⟨last, ?_⟩
          simp only [listVerdict, accepted, failed]
          rfl
  · rintro error after ⟨still, failed⟩
    refine ⟨still, ?_⟩
    simp only [listVerdict, failed]

theorem classify_spec (faithful : session.Faithful service.resolver) :
    Ensures (classify group) session
      (fun category after => category = Category.classify group.category ∧
        after.Faithful service.resolver)
      (fun _ _ => False) := by
  unfold classify
  dsimp only
  split
  · exact ⟨rfl, faithful.tell _⟩
  · exact ⟨rfl, faithful⟩

theorem decideList_spec (faithful : session.Faithful service.resolver) :
    Ensures (service.decideList sender guard list group) session
      (fun decision after => service.listVerdict sender guard list group = .ok decision ∧
        after.Faithful service.resolver)
      (fun error after => service.listVerdict sender guard list group = .error error ∧
        after.Faithful service.resolver) := by
  unfold decideList
  apply Ensures.bind
  apply (classify_spec faithful).mono
  · rintro category middle ⟨rfl, still⟩
    have known : Roster.Faithful ⟨middle, none, none⟩ service group guard :=
      ⟨still, nofun, nofun⟩
    have spec := authorize_spec sender list known
    cases result : service.authorization.authorize (Category.classify group.category)
        (service.posting sender list) (service.membership group guard) ⟨middle, none, none⟩ with
    | error error after =>
        obtain ⟨last, failed⟩ := spec.of_error result
        refine Ensures.intro_error
          (show _ = EStateM.Result.error error after.session from ?_) ⟨failed, last⟩
        simp only [result]
    | ok resolution after =>
        obtain ⟨last, resolved⟩ := spec.of_ok result
        cases resolution with
        | rejected lists =>
            have rejected : service.listVerdict sender guard list group =
                .ok ⟨.reject, .empty⟩ := by
              simp only [listVerdict, resolved]
            refine Ensures.intro_ok (show _ = EStateM.Result.ok ⟨.reject, .empty⟩
              (after.session.tell .senderNotAllowed) from ?_) ⟨rejected, last.tell _⟩
            simp only [result]
        | resolved members =>
            obtain ⟨accepted, survey, gathered, same, cached⟩ := resolved
            have expanded : service.listVerdict sender guard list group =
                .ok ⟨.expand survey.found, survey.guard⟩ := by
              simp only [listVerdict, accepted, gathered]
              rfl
            refine Ensures.intro_ok (show _ = EStateM.Result.ok ⟨.expand survey.found, survey.guard⟩
              (after.session.tell .listExpanded) from ?_) ⟨expanded, last.tell _⟩
            simp only [result, cached, same]
            rfl
  · rintro error after ⟨⟩

/-- A service decides about a recipient what is decided about it on its own. -/
theorem decide_spec (sender : Option Address) (guard : LoopGuard) (recipient : Address)
    (faithful : session.Faithful service.resolver) :
    Ensures (service.decide sender guard recipient) session
      (fun decision after => service.verdict sender guard recipient = .ok decision ∧
        after.Faithful service.resolver)
      (fun error after => service.verdict sender guard recipient = .error error ∧
        after.Faithful service.resolver) := by
  unfold decide verdict
  cases candidate : service.resolver.classifier.isCandidate recipient with
  | false => exact ⟨rfl, faithful⟩
  | true =>
      simp only [Bool.not_true, Bool.false_eq_true, if_false, if_true]
      cases visited : guard.wasVisited recipient with
      | true => exact ⟨rfl, faithful.tell _⟩
      | false =>
          simp only [Bool.false_eq_true, if_false]
          apply Ensures.bind
          apply (Resolver.resolve_spec recipient faithful).mono
          · rintro known middle ⟨answer, still⟩
            rw [answer]
            cases known with
            | none => exact ⟨rfl, still⟩
            | some group => exact decideList_spec still
          · rintro error after ⟨answer, still⟩
            rw [answer]
            exact ⟨rfl, still⟩

theorem attributed_spec {α : Type} {address : Address} {step : SessionM α}
    {ok : α → Session → Prop} {error : DirectoryError → Session → Prop}
    (ensured : Ensures step session ok error) :
    Ensures (attributed address step) session ok
      (fun failure after => ∃ cause, failure = .ofDirectory address cause ∧ error cause after) := by
  cases result : step session with
  | ok value after =>
      have same : attributed address step session = .ok value after := by
        simp only [attributed, result]
      exact Ensures.intro_ok same (ensured.of_ok result)
  | error cause after =>
      have same : attributed address step session = .error (.ofDirectory address cause) after := by
        simp only [attributed, result]
      exact Ensures.intro_error same ⟨cause, rfl, ensured.of_error result⟩

/-- A service decides about all recipients what is decided about each on its own. -/
theorem decideAll_spec (sender : Option Address) (guard : LoopGuard) (recipients : List Address)
    (faithful : session.Faithful service.resolver) :
    Ensures (service.decideAll sender guard recipients) session
      (fun decisions after => service.verdicts sender guard recipients = .ok decisions ∧
        after.Faithful service.resolver)
      (fun error after => service.verdicts sender guard recipients = .error error ∧
        after.Faithful service.resolver) := by
  unfold decideAll verdicts
  induction recipients generalizing session with
  | nil => exact ⟨rfl, faithful⟩
  | cons recipient rest inductionHypothesis =>
      rw [List.mapM_cons, List.mapM_cons]
      apply Ensures.bind
      apply (attributed_spec (decide_spec sender guard recipient faithful)).mono
      · rintro decision middle ⟨decided, still⟩
        rw [decided]
        apply Ensures.bind
        apply (inductionHypothesis still).mono
        · rintro decisions after ⟨all, last⟩
          rw [all]
          exact ⟨rfl, last⟩
        · rintro error after ⟨failed, last⟩
          rw [failed]
          exact ⟨rfl, last⟩
      · rintro _ after ⟨cause, rfl, failed, last⟩
        rw [failed]
        exact ⟨rfl, last⟩

end Service

end Listmaster
