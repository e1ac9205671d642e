import Mathlib.Data.List.Forall2
import Listmaster.Proofs.Survey.Growth
import Listmaster.Proofs.Survey.Walk
import Listmaster.Service

/-!
Verdicts: what is decided about a recipient on its own.

`Service.verdict` depends on the recipient, the sender, the guard and the directory
only.  `Judges` has one rule for each of its reasons; `Stays` and `Expands` tell when a
recipient remains and what a list becomes.
-/

namespace Listmaster

/-- The category that is applied to a group; without one every sender is rejected. -/
def Service.policy (service : Service) (group : Group) : Option Category :=
  match Category.classify group.category with
  | .unrecognized => service.authorization.fallback
  | category => some category

/-- Whether the sender may post to the group at `list`. -/
def Service.accepts (service : Service) (sender : Option Address) (guard : LoopGuard)
    (list : Address) (group : Group) : Except DirectoryError Bool :=
  let behind (references : AddressSet) : Except DirectoryError AddressSet :=
    (service.resolver.gather service.limits references guard).map Survey.found
  match service.policy group, sender with
  | some .everyone, _ => .ok true
  | some .internal, some sender => .ok (service.resolver.classifier.isLocal sender)
  | some .anyLocal, some sender => .ok (service.resolver.classifier.isLocal sender)
  | some .domainRestricted, some sender =>
      .ok (sender.isInDomain (service.resolver.classifier.servingDomain list))
  | some .memberRestricted, some sender =>
      (behind group.members).map fun members => members.contains sender
  | some .ownerRestricted, some sender =>
      (behind group.owners).map fun owners => owners.contains sender
  | _, _ => .ok false

/-- What is decided about a mail to the group at `list`. -/
def Service.listVerdict (service : Service) (sender : Option Address) (guard : LoopGuard)
    (list : Address) (group : Group) : Except DirectoryError Decision :=
  match service.accepts sender guard list group with
  | .error error => .error error
  | .ok false => .ok ⟨.reject, .empty⟩
  | .ok true =>
      (service.resolver.gather service.limits group.members guard).map fun survey =>
        ⟨.expand survey.found, survey.guard⟩

/-- What is decided about a recipient. -/
def Service.verdict (service : Service) (sender : Option Address) (guard : LoopGuard)
    (recipient : Address) : Except DirectoryError Decision :=
  if service.resolver.classifier.isCandidate recipient then
    if guard.wasVisited recipient then .ok ⟨.drop, .empty⟩
    else
      match service.resolver.groupAt recipient with
      | .error error => .error error
      | .ok none => .ok ⟨.keep, .empty⟩
      | .ok (some group) =>
          service.listVerdict sender (guard.record recipient) recipient group
  else .ok ⟨.keep, .empty⟩

/-- What is decided about all recipients, each on its own. -/
def Service.verdicts (service : Service) (sender : Option Address) (guard : LoopGuard)
    (recipients : List Address) : Except ServiceError (List Decision) :=
  recipients.mapM fun recipient =>
    (service.verdict sender guard recipient).mapError (.ofDirectory recipient)

/-- The verdicts on a recipient, with one rule for each reason. -/
inductive Service.Judges (service : Service) (sender : Option Address) (guard : LoopGuard)
    (recipient : Address) : Decision → Prop
  | other :
      service.resolver.classifier.isCandidate recipient = false →
      Judges service sender guard recipient ⟨.keep, .empty⟩
  | recorded :
      service.resolver.classifier.isCandidate recipient = true →
      recipient ∈ guard.recorded →
      Judges service sender guard recipient ⟨.drop, .empty⟩
  | noGroup :
      service.resolver.classifier.isCandidate recipient = true →
      ¬ recipient ∈ guard.recorded →
      service.resolver.groupAt recipient = .ok none →
      Judges service sender guard recipient ⟨.keep, .empty⟩
  | accepted {group survey} :
      ¬ recipient ∈ guard.recorded →
      service.resolver.groupAt recipient = .ok (some group) →
      service.accepts sender (guard.record recipient) recipient group = .ok true →
      service.resolver.gather service.limits group.members (guard.record recipient) =
        .ok survey →
      Judges service sender guard recipient ⟨.expand survey.found, survey.guard⟩
  | refused {group} :
      ¬ recipient ∈ guard.recorded →
      service.resolver.groupAt recipient = .ok (some group) →
      service.accepts sender (guard.record recipient) recipient group = .ok false →
      Judges service sender guard recipient ⟨.reject, .empty⟩

/-- The recipient is no list, or none that the directory knows of or the guard cuts. -/
def Service.Stays (service : Service) (guard : LoopGuard) (recipient : Address) : Prop :=
  service.resolver.classifier.isCandidate recipient = true →
    ¬ recipient ∈ guard.recorded ∧ service.resolver.groupAt recipient = .ok none

/-- The recipient is a list that is replaced by what the survey finds. -/
def Service.Expands (service : Service) (sender : Option Address) (guard : LoopGuard)
    (list : Address) (survey : Survey) : Prop :=
  ∃ group,
    ¬ list ∈ guard.recorded ∧ service.resolver.groupAt list = .ok (some group) ∧
    service.accepts sender (guard.record list) list group = .ok true ∧
    service.resolver.gather service.limits group.members (guard.record list) = .ok survey

namespace Service

variable {service : Service} {sender : Option Address} {guard : LoopGuard} {recipient : Address}

theorem judges_of_verdict {decision : Decision}
    (decided : service.verdict sender guard recipient = .ok decision) :
    service.Judges sender guard recipient decision := by
  unfold verdict at decided
  cases candidate : service.resolver.classifier.isCandidate recipient with
  | false =>
      simp only [candidate, Bool.false_eq_true, if_false] at decided
      cases decided
      exact .other candidate
  | true =>
      cases visited : guard.wasVisited recipient with
      | true =>
          simp only [candidate, visited, if_true] at decided
          cases decided
          exact .recorded candidate (LoopGuard.wasVisited_iff.mp visited)
      | false =>
          have fresh := LoopGuard.wasVisited_eq_false_iff.mp visited
          simp only [candidate, visited, Bool.false_eq_true, if_false, if_true] at decided
          cases answer : service.resolver.groupAt recipient with
          | error error => simp [answer] at decided
          | ok known =>
              rw [answer] at decided
              cases known with
              | none =>
                  cases decided
                  exact .noGroup candidate fresh answer
              | some group =>
                  simp only [listVerdict] at decided
                  cases accepted : service.accepts sender (guard.record recipient) recipient
                    group with
                  | error error => simp [accepted] at decided
                  | ok allowed =>
                      rw [accepted] at decided
                      cases allowed with
                      | false =>
                          cases decided
                          exact .refused fresh answer accepted
                      | true =>
                          cases gathered : service.resolver.gather service.limits group.members
                            (guard.record recipient) with
                          | error error => simp [gathered, Except.map] at decided
                          | ok survey =>
                              rw [gathered] at decided
                              cases decided
                              exact .accepted fresh answer accepted gathered

theorem Judges.verdict {decision : Decision}
    (judged : service.Judges sender guard recipient decision) :
    service.verdict sender guard recipient = .ok decision := by
  cases judged with
  | other candidate => simp [Service.verdict, candidate]
  | recorded candidate visited =>
      simp [Service.verdict, candidate, LoopGuard.wasVisited_iff.mpr visited]
  | noGroup candidate fresh answer =>
      simp [Service.verdict, candidate, LoopGuard.wasVisited_eq_false_iff.mpr fresh, answer]
  | accepted fresh answer accepted gathered =>
      simp [Service.verdict, Resolver.isCandidate_of_groupAt answer,
        LoopGuard.wasVisited_eq_false_iff.mpr fresh, answer, listVerdict, accepted, gathered,
        Except.map]
  | refused fresh answer accepted =>
      simp [Service.verdict, Resolver.isCandidate_of_groupAt answer,
        LoopGuard.wasVisited_eq_false_iff.mpr fresh, answer, listVerdict, accepted]

theorem verdict_eq_ok_iff {decision : Decision} :
    service.verdict sender guard recipient = .ok decision ↔
      service.Judges sender guard recipient decision :=
  ⟨judges_of_verdict, Judges.verdict⟩

theorem verdict_keep_iff {records : LoopGuard} :
    service.verdict sender guard recipient = .ok ⟨.keep, records⟩ ↔
      service.Stays guard recipient ∧ records = .empty := by
  rw [verdict_eq_ok_iff]
  constructor
  · intro judged
    cases judged with
    | other other => exact ⟨fun candidate => by simp [other] at candidate, rfl⟩
    | noGroup candidate fresh answer => exact ⟨fun _ => ⟨fresh, answer⟩, rfl⟩
  · rintro ⟨stays, rfl⟩
    cases candidate : service.resolver.classifier.isCandidate recipient with
    | false => exact .other candidate
    | true =>
        obtain ⟨fresh, answer⟩ := stays candidate
        exact .noGroup candidate fresh answer

theorem verdict_expand_iff {members : AddressSet} {records : LoopGuard} :
    service.verdict sender guard recipient = .ok ⟨.expand members, records⟩ ↔
      ∃ survey, service.Expands sender guard recipient survey ∧
        survey.found = members ∧ survey.guard = records := by
  rw [verdict_eq_ok_iff]
  constructor
  · intro judged
    cases judged with
    | @accepted group survey fresh answer accepted gathered =>
        exact ⟨survey, ⟨group, fresh, answer, accepted, gathered⟩, rfl, rfl⟩
  · rintro ⟨survey, ⟨group, fresh, answer, accepted, gathered⟩, rfl, rfl⟩
    exact .accepted fresh answer accepted gathered

/-- Only expanded lists record anything. -/
theorem records_of_verdict {decision : Decision} {x : Address}
    (decided : service.verdict sender guard recipient = .ok decision)
    (recorded : x ∈ decision.records.recorded) :
    ∃ survey, service.Expands sender guard recipient survey ∧
      x ∈ survey.guard.recorded := by
  rw [verdict_eq_ok_iff] at decided
  cases decided with
  | other | recorded | noGroup | refused => exact absurd recorded (LoopGuard.not_mem_empty x)
  | @accepted group survey fresh answer accepted gathered =>
      exact ⟨survey, ⟨group, fresh, answer, accepted, gathered⟩, recorded⟩

namespace Expands

variable {list x : Address} {survey : Survey} (expands : service.Expands sender guard list survey)
include expands

theorem growth : Survey.Extends service.resolver.groupAt (.start (guard.record list)) survey := by
  obtain ⟨group, _, _, _, gathered⟩ := expands
  exact (Survey.explore_eq_ok_iff.mp gathered).growth

theorem list_recorded : list ∈ survey.guard.recorded :=
  expands.growth.guard list (LoopGuard.mem_record.mpr (.inl rfl))

theorem entered_recorded (entered : x ∈ survey.entered) : x ∈ survey.guard.recorded := by
  rcases expands.growth.newlyEntered x entered with none | ⟨_, recorded⟩
  · cases none
  · exact recorded

theorem group_of_recorded (recorded : x ∈ survey.guard.recorded) :
    x ∈ guard.recorded ∨ ∃ group, service.resolver.groupAt x = .ok (some group) := by
  rcases expands.growth.newlyRecorded x recorded with before | group
  · rcases LoopGuard.mem_record.mp before with same | old
    · obtain ⟨group, _, answer, _, _⟩ := expands
      exact .inr ⟨group, same ▸ answer⟩
    · exact .inl old
  · exact .inr group

theorem leaf_of_found (found : x ∈ survey.found) :
    ¬ x ∈ guard.recorded ∧ service.resolver.groupAt x = .ok none := by
  obtain ⟨group, _, _, _, gathered⟩ := expands
  obtain ⟨fresh, leaf⟩ := (Survey.explore_eq_ok_iff.mp gathered).leaf_of_found found
  exact ⟨fun recorded => fresh (LoopGuard.mem_record.mpr (.inr recorded)), leaf⟩

end Expands

theorem verdicts_cons (recipient : Address) (rest : List Address) :
    service.verdicts sender guard (recipient :: rest) =
      match service.verdict sender guard recipient with
      | .error cause => .error (.ofDirectory recipient cause)
      | .ok decision => (service.verdicts sender guard rest).map (decision :: ·) := by
  unfold verdicts
  rw [List.mapM_cons]
  cases service.verdict sender guard recipient with
  | error cause => rfl
  | ok decision =>
      cases rest.mapM fun recipient =>
        (service.verdict sender guard recipient).mapError (ServiceError.ofDirectory recipient)
      all_goals rfl

theorem verdicts_eq_ok_iff {recipients : List Address} {decisions : List Decision} :
    service.verdicts sender guard recipients = .ok decisions ↔
      List.Forall₂ (fun recipient decision =>
        service.verdict sender guard recipient = .ok decision) recipients decisions := by
  induction recipients generalizing decisions with
  | nil => cases decisions <;> simp [verdicts, pure, Except.pure]
  | cons recipient rest inductionHypothesis =>
      rw [verdicts_cons, List.forall₂_cons_left_iff]
      simp only [← inductionHypothesis]
      cases service.verdict sender guard recipient with
      | error cause => simp
      | ok decision =>
          cases service.verdicts sender guard rest with
          | error error => simp [Except.map]
          | ok later => simp [Except.map, eq_comm]

end Service

end Listmaster
