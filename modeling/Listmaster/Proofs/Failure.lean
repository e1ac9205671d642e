import Listmaster.Proofs.Conservation
import Listmaster.Proofs.Survey.Asking

/-!
How a run fails.

`Service.Needs` tells which addresses have to be looked up for a recipient alone, by its
policy, the guard and the limits.  A run fails if and only if such a lookup fails for some
recipient; the error names the first of them, and the mail stays as it is.
-/

namespace Listmaster

namespace ServiceError

/-- The error is that of a directory that could not be reached if and only if its cause is. -/
def FitsCause (error : ServiceError) : Prop :=
  error.isTransient = true ↔ ∃ reason, error.cause = .unavailable reason

variable {error : ServiceError} {recipient : Address} {cause : DirectoryError}

theorem fitsCause_ofDirectory (recipient : Address) (cause : DirectoryError) :
    (ofDirectory recipient cause).FitsCause := by
  cases cause with
  | unavailable reason => exact iff_of_true rfl ⟨reason, rfl⟩
  | failure => exact iff_of_false nofun nofun

theorem ofDirectory_eq_iff :
    ofDirectory recipient cause = error ↔
      error.address = recipient ∧ error.cause = cause ∧ error.FitsCause := by
  constructor
  · rintro rfl
    refine ⟨?_, ?_, fitsCause_ofDirectory recipient cause⟩ <;> cases cause <;> rfl
  · rintro ⟨rfl, rfl, fits⟩
    cases error with
    | unavailable recipient cause =>
        obtain ⟨reason, rfl⟩ := fits.mp rfl
        rfl
    | refused recipient cause =>
        cases cause with
        | unavailable reason => exact absurd (fits.mpr ⟨reason, rfl⟩) Bool.false_ne_true
        | failure code message => rfl

theorem FitsCause.not_isTransient_iff (fits : error.FitsCause) :
    error.isTransient = false ↔ ∃ code message, error.cause = .failure code message := by
  unfold FitsCause at fits
  rw [← Bool.not_eq_true, fits]
  cases error.cause <;> simp

end ServiceError

namespace Service

/-- The references of the group by which its policy decides about the sender. -/
def decisive? (service : Service) (sender : Option Address) (group : Group) :
    Option AddressSet :=
  match service.policy group, sender with
  | some .memberRestricted, some _ => some group.members
  | some .ownerRestricted, some _ => some group.owners
  | _, _ => none

/-- These references have to be expanded for a mail to the list. -/
inductive Consults (service : Service) (sender : Option Address) (guard : LoopGuard)
    (list : Address) (group : Group) : AddressSet → Prop
  | toDecide {references} :
      service.decisive? sender group = some references →
      Consults service sender guard list group references
  | toDistribute :
      service.MayPost sender guard list group →
      Consults service sender guard list group group.members

/-- The address has to be looked up, if it may be a list, to decide about the recipient alone. -/
inductive Needs (service : Service) (sender : Option Address) (guard : LoopGuard)
    (recipient : Address) : Address → Prop
  | itself :
      ¬ recipient ∈ guard.recorded →
      Needs service sender guard recipient recipient
  | behind {group references x} :
      ¬ recipient ∈ guard.recorded →
      service.resolver.groupAt recipient = .ok (some group) →
      service.Consults sender guard recipient group references →
      Survey.Asks service.resolver.groupAt service.limits.members (service.limits.depth - 1)
        references.toList (.start (guard.record recipient)) x →
      Needs service sender guard recipient x

/-- The recipient alone needs a lookup that fails, for this cause. -/
def FailsOn (service : Service) (sender : Option Address) (guard : LoopGuard)
    (recipient : Address) (cause : DirectoryError) : Prop :=
  ∃ x, service.Needs sender guard recipient x ∧
    service.resolver.classifier.isCandidate x = true ∧ service.lookup x = .error cause

/-- The error names the first recipient that needs a lookup that fails, and its cause, and is of
the kind of this cause. -/
def Blames (service : Service) (mail : Mail) (error : ServiceError) : Prop :=
  ∃ earlier later, mail.addresses = earlier ++ error.address :: later ∧
    (∀ recipient ∈ earlier, ∀ cause,
      ¬ service.FailsOn mail.sender (.load mail) recipient cause) ∧
    service.FailsOn mail.sender (.load mail) error.address error.cause ∧ error.FitsCause

variable {service : Service} {sender : Option Address} {guard : LoopGuard}
  {group : Group} {list recipient x : Address} {references : AddressSet}
  {cause : DirectoryError} {mail : Mail} {copy : Option Mail}

theorem groupAt_eq_error_iff :
    service.resolver.groupAt x = .error cause ↔
      service.resolver.classifier.isCandidate x = true ∧ service.lookup x = .error cause := by
  cases candidate : service.resolver.classifier.isCandidate x with
  | true => simp [groupAt_eq_lookup candidate]
  | false => simp [Resolver.groupAt_of_not_candidate candidate]

theorem map_eq_error_iff {ε α β : Type} {f : α → β} {result : Except ε α} {error : ε} :
    result.map f = .error error ↔ result = .error error := by
  cases result <;> simp [Except.map]

theorem accepts_eq_error_iff :
    service.accepts sender guard list group = .error cause ↔
      ∃ references, service.decisive? sender group = some references ∧
        service.resolver.gather service.limits references guard = .error cause := by
  unfold accepts decisive?
  cases service.policy group with
  | none => simp
  | some category =>
      cases sender with
      | none => cases category <;> simp
      | some sender => cases category <;> simp [map_eq_error_iff]

theorem behind_of_mayPost (mayPost : service.MayPost sender guard list group)
    (decisive : service.decisive? sender group = some references) :
    ∃ found, service.behind references (guard.record list) = .ok found := by
  unfold MayPost at mayPost
  unfold decisive? at decisive
  cases policy : service.policy group with
  | none => simp [policy] at mayPost
  | some category =>
      cases sender with
      | none => simp [policy] at decisive
      | some sender =>
          cases category with
          | memberRestricted =>
              simp only [policy, Option.some.injEq] at mayPost decisive
              obtain ⟨_, members, _, known, _⟩ := mayPost
              exact ⟨members, decisive ▸ known⟩
          | ownerRestricted =>
              simp only [policy, Option.some.injEq] at mayPost decisive
              obtain ⟨_, owners, _, known, _⟩ := mayPost
              exact ⟨owners, decisive ▸ known⟩
          | _ => simp [policy] at decisive

theorem accepts_eq_true_iff :
    service.accepts sender (guard.record list) list group = .ok true ↔
      service.MayPost sender guard list group := by
  cases accepted : service.accepts sender (guard.record list) list group with
  | ok allowed =>
      rw [← accepts_iff_mayPost accepted]
      simp
  | error cause =>
      simp only [reduceCtorEq, false_iff]
      intro mayPost
      obtain ⟨references, decisive, failed⟩ := accepts_eq_error_iff.mp accepted
      obtain ⟨found, known⟩ := behind_of_mayPost mayPost decisive
      rw [behind_eq_gather, failed] at known
      cases known

theorem listVerdict_eq_error_iff :
    service.listVerdict sender (guard.record list) list group = .error cause ↔
      ∃ references, service.Consults sender guard list group references ∧
        service.resolver.gather service.limits references (guard.record list) =
          .error cause := by
  constructor
  · intro failed
    unfold listVerdict at failed
    cases accepted : service.accepts sender (guard.record list) list group with
    | error error =>
        rw [accepted] at failed
        cases failed
        obtain ⟨references, decisive, unknown⟩ := accepts_eq_error_iff.mp accepted
        exact ⟨references, .toDecide decisive, unknown⟩
    | ok allowed =>
        rw [accepted] at failed
        cases allowed with
        | false => cases failed
        | true =>
            exact ⟨group.members, .toDistribute (accepts_eq_true_iff.mp accepted),
              map_eq_error_iff.mp failed⟩
  · rintro ⟨references, consults, unknown⟩
    unfold listVerdict
    cases consults with
    | toDecide decisive => rw [accepts_eq_error_iff.mpr ⟨references, decisive, unknown⟩]
    | toDistribute mayPost =>
        rw [accepts_eq_true_iff.mpr mayPost]
        exact map_eq_error_iff.mpr unknown

/-- There is no verdict on a recipient if and only if it needs a lookup that fails. -/
theorem verdict_eq_error_iff :
    service.verdict sender guard recipient = .error cause ↔
      service.FailsOn sender guard recipient cause := by
  constructor
  · intro failed
    unfold verdict at failed
    split at failed
    · split at failed
      · cases failed
      · rename_i candidate unvisited
        have fresh := LoopGuard.wasVisited_eq_false_iff.mp (Bool.not_eq_true _ ▸ unvisited)
        cases answer : service.resolver.groupAt recipient with
        | error error =>
            rw [answer] at failed
            cases failed
            exact ⟨recipient, .itself fresh, groupAt_eq_error_iff.mp answer⟩
        | ok known =>
            rw [answer] at failed
            cases known with
            | none => cases failed
            | some group =>
                obtain ⟨references, consults, unknown⟩ := listVerdict_eq_error_iff.mp failed
                obtain ⟨x, asks, unanswered⟩ := Survey.explore_eq_error_iff.mp unknown
                exact ⟨x, .behind fresh answer consults asks,
                  groupAt_eq_error_iff.mp unanswered⟩
    · cases failed
  · rintro ⟨x, needs, candidate, failed⟩
    have unanswered := groupAt_eq_error_iff.mpr ⟨candidate, failed⟩
    cases needs with
    | itself fresh =>
        simp [verdict, candidate, LoopGuard.wasVisited_eq_false_iff.mpr fresh, unanswered]
    | behind fresh answer consults asks =>
        have unknown := listVerdict_eq_error_iff.mpr
          ⟨_, consults, Survey.explore_eq_error_iff.mpr ⟨x, asks, unanswered⟩⟩
        simp [verdict, Resolver.isCandidate_of_groupAt answer,
          LoopGuard.wasVisited_eq_false_iff.mpr fresh, answer, unknown]

theorem not_failsOn_iff :
    (∀ cause, ¬ service.FailsOn sender guard recipient cause) ↔
      ∃ decision, service.verdict sender guard recipient = .ok decision := by
  simp only [← verdict_eq_error_iff]
  cases service.verdict sender guard recipient with
  | ok decision => simp
  | error error => simp

/-- The verdicts on recipients fail with the first verdict that does. -/
theorem verdicts_eq_error_iff {recipients : List Address} {error : ServiceError} :
    service.verdicts sender guard recipients = .error error ↔
      ∃ earlier later, recipients = earlier ++ error.address :: later ∧
        (∀ recipient ∈ earlier, ∃ decision,
          service.verdict sender guard recipient = .ok decision) ∧
        service.verdict sender guard error.address = .error error.cause ∧ error.FitsCause := by
  induction recipients with
  | nil => simp [verdicts, pure, Except.pure]
  | cons recipient rest inductionHypothesis =>
      rw [verdicts_cons]
      simp only [List.cons_eq_append_iff]
      cases decided : service.verdict sender guard recipient with
      | error cause =>
          rw [Except.error.injEq, ServiceError.ofDirectory_eq_iff]
          constructor
          · rintro ⟨rfl, rfl, fits⟩
            exact ⟨[], rest, .inl ⟨rfl, rfl⟩, List.forall_mem_nil _, decided, fits⟩
          · rintro ⟨earlier, later, ⟨rfl, same⟩ | ⟨others, rfl, _⟩, answered, failed, fits⟩
            · cases same
              rw [decided] at failed
              exact ⟨rfl, (Except.error.inj failed).symm, fits⟩
            · obtain ⟨decision, known⟩ := answered recipient List.mem_cons_self
              rw [decided] at known
              cases known
      | ok decision =>
          rw [map_eq_error_iff, inductionHypothesis]
          constructor
          · rintro ⟨earlier, later, rfl, answered, failed⟩
            refine ⟨recipient :: earlier, later, .inr ⟨earlier, rfl, rfl⟩, ?_, failed⟩
            exact List.forall_mem_cons.mpr ⟨⟨decision, decided⟩, answered⟩
          · rintro ⟨earlier, later, ⟨rfl, same⟩ | ⟨others, rfl, rfl⟩, answered, failed⟩
            · cases same
              rw [decided] at failed
              cases failed.1
            · exact ⟨others, later, rfl, (List.forall_mem_cons.mp answered).2, failed⟩

theorem outcome_eq_error_iff {error : ServiceError} :
    (service.process mail).outcome = .error error ↔ service.Blames mail error := by
  have spec := process_spec service mail
  have failed : (service.process mail).outcome = .error error ↔
      service.verdicts mail.sender (.load mail) mail.addresses = .error error := by
    cases all : service.verdicts mail.sender (.load mail) mail.addresses with
    | ok decisions =>
        rw [all] at spec
        simp [spec.2]
    | error other =>
        rw [all] at spec
        simp [spec.2]
  rw [failed, verdicts_eq_error_iff]
  unfold Blames
  simp only [not_failsOn_iff, verdict_eq_error_iff]

theorem lookup_of_mem_process (succeeded : (service.process mail).outcome = .ok copy)
    (after : x ∈ (service.process mail).mail.addresses)
    (candidate : service.resolver.classifier.isCandidate x = true) :
    service.lookup x = .ok none :=
  (groupAt_eq_lookup candidate).symm.trans (groupAt_of_mem_process succeeded after)

/-- A run fails if and only if some recipient alone needs a lookup that fails.  The error then
names the first one and its cause, is of the kind of this cause, and nothing happened to the mail.  A recipient that goes on
as no list was never one whose lookup failed. -/
theorem process_fails_iff (service : Service) (mail : Mail) :
    ((∃ error, (service.process mail).outcome = .error error) ↔
        ∃ recipient ∈ mail.addresses, ∃ cause,
          service.FailsOn mail.sender (.load mail) recipient cause) ∧
      (∀ error, (service.process mail).outcome = .error error ↔ service.Blames mail error) ∧
      (∀ error, (service.process mail).outcome = .error error →
        (service.process mail).mail = mail ∧
          (error.isTransient = true ↔ ∃ reason, error.cause = .unavailable reason) ∧
          (error.isTransient = false ↔ ∃ code message, error.cause = .failure code message)) ∧
      ∀ copy, (service.process mail).outcome = .ok copy →
        ∀ x ∈ (service.process mail).mail.addresses,
          service.resolver.classifier.isCandidate x = true → service.lookup x = .ok none := by
  refine ⟨⟨?_, ?_⟩, fun error => outcome_eq_error_iff, ?_, ?_⟩
  · rintro ⟨error, failed⟩
    obtain ⟨earlier, later, among, _, cause, _⟩ := outcome_eq_error_iff.mp failed
    exact ⟨error.address, among ▸ by simp, error.cause, cause⟩
  · rintro ⟨recipient, here, cause, failsOn⟩
    cases result : (service.process mail).outcome with
    | error error => exact ⟨error, rfl⟩
    | ok copy =>
        exact absurd failsOn (not_failsOn_iff.mpr (verdict_of_process result here) cause)
  · intro error failed
    obtain ⟨_, _, _, _, _, fits⟩ := outcome_eq_error_iff.mp failed
    exact ⟨mail_process_of_error failed, fits, fits.not_isTransient_iff⟩
  · intro copy succeeded x after candidate
    exact lookup_of_mem_process succeeded after candidate

end Service

namespace Sample

/-- The directory does not answer about the crew, which is behind the team. -/
def silentOffice : Service :=
  { office with
    resolver :=
      { office.resolver with
        directory := office.resolver.directory.withFaults
          ((∅ : Faults).insert crew (.unavailable "timeout")) } }

theorem outcome_silentOffice :
    (silentOffice.process circular).outcome =
      .error (.unavailable team (.unavailable "timeout")) := by
  decide +kernel

end Sample

theorem Service.process_fails_iff_sample :
    Sample.silentOffice.Blames Sample.circular
        (.unavailable Sample.team (.unavailable "timeout")) ∧
      (Sample.silentOffice.process Sample.circular).mail = Sample.circular :=
  have fails := Service.process_fails_iff Sample.silentOffice Sample.circular
  ⟨(fails.2.1 _).mp Sample.outcome_silentOffice,
    (fails.2.2.1 _ Sample.outcome_silentOffice).1⟩

end Listmaster
