import Listmaster.Directory.Static
import Listmaster.Proofs.Redistribution
import Listmaster.Proofs.Survey.Growth
import Listmaster.Proofs.Verdict.Deciding

/-!
What a service does with a mail, told by the verdicts on its recipients.

`Service.process_spec` reduces a run to the verdicts.  Of a run that succeeds the
addresses of both mails and the recorded lists are known: `mem_addresses_process`,
`mem_addresses_copy` and `mem_load_process`.
-/

namespace Listmaster

namespace Service

variable {service : Service} {mail : Mail} {guard : LoopGuard} {decisions : List Decision}
  {sender : Option Address} {recipient : Address} {copy : Option Mail}

/-- The session in which a mail is processed. -/
def opening (mail : Mail) : Session :=
  if (LoopGuard.load? mail).isNone then Session.empty.tell .malformedRecord else .empty

theorem opening_faithful (mail : Mail) (r : Resolver) : (opening mail).Faithful r := by
  unfold opening
  split
  · exact (Session.Faithful.empty r).tell _
  · exact Session.Faithful.empty r

theorem process_eq (service : Service) (mail : Mail) :
    service.process mail =
      match service.decideAll mail.sender (.load mail) mail.addresses (opening mail) with
      | .error error session => ⟨mail, .error error, session.events⟩
      | .ok decisions session =>
          ⟨(service.conclude mail (.load mail) decisions).continuing,
            .ok (service.conclude mail (.load mail) decisions).rejected, session.events⟩ := rfl

/-- A run is what the verdicts on the recipients say. -/
theorem process_spec (service : Service) (mail : Mail) :
    match service.verdicts mail.sender (.load mail) mail.addresses with
    | .ok decisions =>
        (service.process mail).mail = (service.conclude mail (.load mail) decisions).continuing ∧
          (service.process mail).outcome =
            .ok (service.conclude mail (.load mail) decisions).rejected
    | .error error =>
        (service.process mail).mail = mail ∧ (service.process mail).outcome = .error error := by
  have spec := decideAll_spec mail.sender (.load mail) mail.addresses
    (opening_faithful mail service.resolver)
  rw [process_eq]
  cases result : service.decideAll mail.sender (.load mail) mail.addresses (opening mail) with
  | error error session =>
      rw [(spec.of_error result).1]
      exact ⟨rfl, rfl⟩
  | ok decisions session =>
      rw [(spec.of_ok result).1]
      exact ⟨rfl, rfl⟩

theorem process_of_ok (succeeded : (service.process mail).outcome = .ok copy) :
    ∃ decisions,
      service.verdicts mail.sender (.load mail) mail.addresses = .ok decisions ∧
      (service.process mail).mail = (service.conclude mail (.load mail) decisions).continuing ∧
      copy = (service.conclude mail (.load mail) decisions).rejected := by
  have spec := process_spec service mail
  cases all : service.verdicts mail.sender (.load mail) mail.addresses with
  | error error =>
      rw [all] at spec
      rw [spec.2] at succeeded
      cases succeeded
  | ok decisions =>
      rw [all] at spec
      refine ⟨decisions, rfl, spec.1, ?_⟩
      rw [spec.2] at succeeded
      cases succeeded
      rfl

theorem mail_process_of_error {error : ServiceError}
    (failed : (service.process mail).outcome = .error error) :
    (service.process mail).mail = mail := by
  have spec := process_spec service mail
  cases all : service.verdicts mail.sender (.load mail) mail.addresses with
  | error _ =>
      rw [all] at spec
      exact spec.1
  | ok decisions =>
      rw [all] at spec
      rw [spec.2] at failed
      cases failed

theorem mem_zip_outcomes {recipients : List Address} {outcome : Outcome}
    (all : List.Forall₂ (fun recipient decision =>
      service.verdict sender guard recipient = .ok decision) recipients decisions) :
    (recipient, outcome) ∈ recipients.zip (decisions.map Decision.outcome) ↔
      recipient ∈ recipients ∧
        ∃ records, service.verdict sender guard recipient = .ok ⟨outcome, records⟩ := by
  induction all with
  | nil => simp
  | @cons first decision rest later decided _ inductionHypothesis =>
      simp only [List.map_cons, List.zip_cons_cons, List.mem_cons, Prod.mk.injEq,
        inductionHypothesis]
      constructor
      · rintro (⟨rfl, rfl⟩ | ⟨among, known⟩)
        · exact ⟨.inl rfl, decision.records, decided⟩
        · exact ⟨.inr among, known⟩
      · rintro ⟨rfl | among, known⟩
        · obtain ⟨records, known⟩ := known
          rw [decided] at known
          cases known
          exact .inl ⟨rfl, rfl⟩
        · exact .inr ⟨among, known⟩

theorem mem_decisions {recipients : List Address} {decision : Decision}
    (all : List.Forall₂ (fun recipient decision =>
      service.verdict sender guard recipient = .ok decision) recipients decisions) :
    decision ∈ decisions ↔
      ∃ recipient ∈ recipients, service.verdict sender guard recipient = .ok decision := by
  induction all with
  | nil => simp
  | @cons first other rest later decided _ inductionHypothesis =>
      simp only [List.mem_cons, inductionHypothesis, exists_eq_or_imp]
      constructor
      · rintro (same | among)
        · exact .inl (same ▸ decided)
        · exact .inr among
      · rintro (known | among)
        · rw [decided] at known
          cases known
          exact .inl rfl
        · exact .inr among

theorem exists_decision {recipients : List Address}
    (all : List.Forall₂ (fun recipient decision =>
      service.verdict sender guard recipient = .ok decision) recipients decisions)
    (here : recipient ∈ recipients) :
    ∃ decision ∈ decisions, service.verdict sender guard recipient = .ok decision := by
  induction all with
  | nil => cases here
  | @cons first decision rest later decided _ inductionHypothesis =>
      rcases List.mem_cons.mp here with same | among
      · exact ⟨decision, List.mem_cons_self, same ▸ decided⟩
      · obtain ⟨other, inLater, known⟩ := inductionHypothesis among
        exact ⟨other, List.mem_cons_of_mem decision inLater, known⟩

theorem verdict_of_process (succeeded : (service.process mail).outcome = .ok copy)
    (here : recipient ∈ mail.addresses) :
    ∃ decision, service.verdict mail.sender (.load mail) recipient = .ok decision := by
  obtain ⟨decisions, all, _, _⟩ := process_of_ok succeeded
  obtain ⟨decision, _, decided⟩ := exists_decision (verdicts_eq_ok_iff.mp all) here
  exact ⟨decision, decided⟩

theorem process_succeeds
    (each : ∀ recipient ∈ mail.addresses, ∃ decision,
      service.verdict mail.sender (.load mail) recipient = .ok decision) :
    ∃ copy, (service.process mail).outcome = .ok copy := by
  have all : ∃ decisions, List.Forall₂ (fun recipient decision =>
      service.verdict mail.sender (.load mail) recipient = .ok decision)
      mail.addresses decisions := by
    generalize mail.addresses = recipients at each
    induction recipients with
    | nil => exact ⟨[], .nil⟩
    | cons recipient rest inductionHypothesis =>
        obtain ⟨decision, decided⟩ := each recipient List.mem_cons_self
        obtain ⟨decisions, others⟩ := inductionHypothesis fun other later =>
          each other (List.mem_cons_of_mem recipient later)
        exact ⟨decision :: decisions, .cons decided others⟩
  obtain ⟨decisions, all⟩ := all
  have spec := process_spec service mail
  rw [verdicts_eq_ok_iff.mpr all] at spec
  exact ⟨_, spec.2⟩

theorem process_succeeds_iff :
    (∃ copy, (service.process mail).outcome = .ok copy) ↔
      ∀ recipient ∈ mail.addresses, ∃ decision,
        service.verdict mail.sender (.load mail) recipient = .ok decision :=
  ⟨fun ⟨_, succeeded⟩ _ here => verdict_of_process succeeded here, process_succeeds⟩

theorem conclude_of_keep (all : ∀ decision ∈ decisions, decision.outcome = .keep) :
    service.conclude mail guard decisions = ⟨mail, none⟩ := by
  unfold conclude
  rw [if_pos]
  simpa using all

theorem conclude_of_not_keep (change : ¬ ∀ decision ∈ decisions, decision.outcome = .keep) :
    service.conclude mail guard decisions =
      let split := mail.redistribute (decisions.map Decision.outcome) service.rejectedState
      { split with
        continuing := (decisions.foldl (fun guard decision => guard.merge decision.records)
          guard).store split.continuing } := by
  unfold conclude
  rw [if_neg]
  simpa using change

@[simp]
theorem addresses_store (guard : LoopGuard) (mail : Mail) :
    (guard.store mail).addresses = mail.addresses := by
  unfold LoopGuard.store
  split <;> rfl

@[simp]
theorem state_store (guard : LoopGuard) (mail : Mail) :
    (guard.store mail).state = mail.state := by
  unfold LoopGuard.store
  split <;> rfl

theorem outcome_of_keep {recipients : List Address} {outcome : Outcome}
    (all : ∀ decision ∈ decisions, decision.outcome = .keep)
    (here : (recipient, outcome) ∈ recipients.zip (decisions.map Decision.outcome)) :
    outcome = .keep := by
  obtain ⟨decision, among, same⟩ := List.mem_map.mp (List.of_mem_zip here).2
  rw [← same]
  exact all decision among

theorem keeps_iff_stay {recipients : List Address}
    (all : List.Forall₂ (fun recipient decision =>
      service.verdict sender guard recipient = .ok decision) recipients decisions) :
    (∀ decision ∈ decisions, decision.outcome = .keep) ↔
      ∀ recipient ∈ recipients, service.Stays guard recipient := by
  constructor
  · intro keeps recipient here
    obtain ⟨decision, among, decided⟩ := exists_decision all here
    obtain ⟨outcome, records⟩ := decision
    cases keeps _ among
    exact (verdict_keep_iff.mp decided).1
  · intro stay decision among
    obtain ⟨recipient, here, decided⟩ := (mem_decisions all).mp among
    have kept : service.verdict sender guard recipient = .ok ⟨.keep, .empty⟩ :=
      verdict_keep_iff.mpr ⟨stay recipient here, rfl⟩
    rw [decided] at kept
    cases kept
    rfl

/-- The addresses of the continuing mail: recipients that stay and members of lists. -/
theorem mem_addresses_conclude
    (all : List.Forall₂ (fun recipient decision =>
      service.verdict sender guard recipient = .ok decision) mail.addresses decisions)
    (x : Address) :
    x ∈ (service.conclude mail guard decisions).continuing.addresses ↔
      (x ∈ mail.addresses ∧ service.Stays guard x) ∨
        ∃ list ∈ mail.addresses, ∃ survey,
          service.Expands sender guard list survey ∧ x ∈ survey.found := by
  have kept : (x, .keep) ∈ mail.addresses.zip (decisions.map Decision.outcome) ↔
      x ∈ mail.addresses ∧ service.Stays guard x := by
    simp [mem_zip_outcomes all, verdict_keep_iff]
  have expanded (list : Address) :
      (∃ members, (list, .expand members) ∈ mail.addresses.zip (decisions.map Decision.outcome) ∧
          x ∈ members) ↔
        list ∈ mail.addresses ∧ ∃ survey,
          service.Expands sender guard list survey ∧ x ∈ survey.found := by
    simp only [mem_zip_outcomes all, verdict_expand_iff]
    constructor
    · rintro ⟨members, ⟨among, records, survey, expands, rfl, _⟩, here⟩
      exact ⟨among, survey, expands, here⟩
    · rintro ⟨among, survey, expands, here⟩
      exact ⟨survey.found, ⟨among, survey.guard, survey, expands, rfl, rfl⟩, here⟩
  by_cases keeps : ∀ decision ∈ decisions, decision.outcome = .keep
  · rw [conclude_of_keep keeps]
    constructor
    · exact fun here => .inl ⟨here, (keeps_iff_stay all).mp keeps x here⟩
    · rintro (⟨here, _⟩ | ⟨list, among, survey, expands, here⟩)
      · exact here
      · obtain ⟨members, zipped, _⟩ := (expanded list).mpr ⟨among, survey, expands, here⟩
        exact absurd (outcome_of_keep keeps zipped) nofun
  · rw [conclude_of_not_keep keeps]
    simp only [addresses_store, Mail.mem_addresses_redistribute, kept, expanded]

theorem mem_addresses_rejected_conclude
    (all : List.Forall₂ (fun recipient decision =>
      service.verdict sender guard recipient = .ok decision) mail.addresses decisions)
    (x : Address) :
    (∃ copy, (service.conclude mail guard decisions).rejected = some copy ∧
        x ∈ copy.addresses) ↔
      x ∈ mail.addresses ∧
        ∃ records, service.verdict sender guard x = .ok ⟨.reject, records⟩ := by
  rw [← mem_zip_outcomes all]
  by_cases keeps : ∀ decision ∈ decisions, decision.outcome = .keep
  · rw [conclude_of_keep keeps]
    constructor
    · rintro ⟨copy, none, _⟩
      cases none
    · intro here
      exact absurd (outcome_of_keep keeps here) nofun
  · rw [conclude_of_not_keep keeps]
    exact Mail.mem_addresses_rejected mail (decisions.map Decision.outcome)
      service.rejectedState x

theorem load_redistribute (mail : Mail) (outcomes : List Outcome) (rejectedState : MailState) :
    LoopGuard.load (mail.redistribute outcomes rejectedState).continuing = .load mail := rfl

theorem mem_foldl_records (guard : LoopGuard) (decisions : List Decision) (x : Address) :
    x ∈ (decisions.foldl (fun guard decision => guard.merge decision.records) guard).recorded ↔
      x ∈ guard.recorded ∨ ∃ decision ∈ decisions, x ∈ decision.records.recorded := by
  rw [← List.foldl_map, LoopGuard.mem_foldl_merge]
  simp

theorem load_conclude (change : ¬ ∀ decision ∈ decisions, decision.outcome = .keep) :
    LoopGuard.load (service.conclude mail (.load mail) decisions).continuing =
      decisions.foldl (fun guard decision => guard.merge decision.records) (.load mail) := by
  rw [conclude_of_not_keep change, LoopGuard.load_store_of_subset]
  intro x recorded
  rw [load_redistribute] at recorded
  exact (mem_foldl_records _ _ x).mpr (.inl recorded)

theorem mem_records
    (all : List.Forall₂ (fun recipient decision =>
      service.verdict sender guard recipient = .ok decision) mail.addresses decisions)
    (x : Address) :
    (∃ decision ∈ decisions, x ∈ decision.records.recorded) ↔
      ∃ list ∈ mail.addresses, ∃ survey,
        service.Expands sender guard list survey ∧ x ∈ survey.guard.recorded := by
  constructor
  · rintro ⟨decision, among, recorded⟩
    obtain ⟨list, here, decided⟩ := (mem_decisions all).mp among
    exact ⟨list, here, records_of_verdict decided recorded⟩
  · rintro ⟨list, here, survey, expands, recorded⟩
    have decided := verdict_expand_iff.mpr ⟨survey, expands, rfl, rfl⟩
    exact ⟨_, (mem_decisions all).mpr ⟨list, here, decided⟩, recorded⟩

theorem mem_load_conclude
    (all : List.Forall₂ (fun recipient decision =>
      service.verdict sender (.load mail) recipient = .ok decision) mail.addresses decisions)
    (x : Address) :
    x ∈ (LoopGuard.load (service.conclude mail (.load mail) decisions).continuing).recorded ↔
      x ∈ (LoopGuard.load mail).recorded ∨
        ∃ list ∈ mail.addresses, ∃ survey,
          service.Expands sender (.load mail) list survey ∧ x ∈ survey.guard.recorded := by
  rw [← mem_records all]
  by_cases keeps : ∀ decision ∈ decisions, decision.outcome = .keep
  · rw [conclude_of_keep keeps, or_iff_left]
    rintro ⟨decision, among, recorded⟩
    obtain ⟨list, here, decided⟩ := (mem_decisions all).mp among
    obtain ⟨outcome, records⟩ := decision
    cases keeps _ among
    rw [(verdict_keep_iff.mp decided).2] at recorded
    exact LoopGuard.not_mem_empty x recorded
  · rw [load_conclude keeps, mem_foldl_records]

theorem sender_conclude (service : Service) (mail : Mail) (guard : LoopGuard)
    (decisions : List Decision) :
    (service.conclude mail guard decisions).continuing.sender = mail.sender := by
  unfold conclude
  split
  · rfl
  · dsimp only
    unfold LoopGuard.store
    split <;> rfl

theorem sender_process (service : Service) (mail : Mail) :
    (service.process mail).mail.sender = mail.sender := by
  cases result : (service.process mail).outcome with
  | error error => rw [mail_process_of_error result]
  | ok copy =>
      obtain ⟨decisions, _, after, _⟩ := process_of_ok result
      rw [after, sender_conclude]

section Success

variable (succeeded : (service.process mail).outcome = .ok copy) (x : Address)
include succeeded

/-- After a run that succeeds the mail goes to the recipients that stay and to what is behind
the expanded lists. -/
theorem mem_addresses_process :
    x ∈ (service.process mail).mail.addresses ↔
      (x ∈ mail.addresses ∧ service.Stays (.load mail) x) ∨
        ∃ list ∈ mail.addresses, ∃ survey,
          service.Expands mail.sender (.load mail) list survey ∧ x ∈ survey.found := by
  obtain ⟨decisions, all, after, _⟩ := process_of_ok succeeded
  rw [after]
  exact mem_addresses_conclude (verdicts_eq_ok_iff.mp all) x

theorem mem_addresses_copy :
    (∃ rejected, copy = some rejected ∧ x ∈ rejected.addresses) ↔
      x ∈ mail.addresses ∧
        ∃ records, service.verdict mail.sender (.load mail) x = .ok ⟨.reject, records⟩ := by
  obtain ⟨decisions, all, _, same⟩ := process_of_ok succeeded
  rw [same]
  exact mem_addresses_rejected_conclude (verdicts_eq_ok_iff.mp all) x

/-- After a run that succeeds the mail also records what the expanded lists record. -/
theorem mem_load_process :
    x ∈ (LoopGuard.load (service.process mail).mail).recorded ↔
      x ∈ (LoopGuard.load mail).recorded ∨
        ∃ list ∈ mail.addresses, ∃ survey,
          service.Expands mail.sender (.load mail) list survey ∧
            x ∈ survey.guard.recorded := by
  obtain ⟨decisions, all, after, _⟩ := process_of_ok succeeded
  rw [after]
  exact mem_load_conclude (verdicts_eq_ok_iff.mp all) x

end Success

section Changed

variable (succeeded : (service.process mail).outcome = .ok copy)
  (changed : ¬ ∀ x ∈ mail.addresses, service.Stays (.load mail) x)
include succeeded changed

/-- A mail that is redistributed becomes a ghost if nobody gets it. -/
theorem state_process :
    (service.process mail).mail.state =
      if (service.process mail).mail.addresses = [] then .ghost else mail.state := by
  obtain ⟨decisions, all, after, _⟩ := process_of_ok succeeded
  rw [← keeps_iff_stay (verdicts_eq_ok_iff.mp all)] at changed
  rw [after, conclude_of_not_keep changed]
  simp only [state_store, addresses_store]
  exact mail.state_redistribute (decisions.map Decision.outcome) service.rejectedState

theorem attributes_process :
    (service.process mail).mail.attributes =
      ((LoopGuard.load (service.process mail).mail).store mail).attributes := by
  obtain ⟨decisions, all, after, _⟩ := process_of_ok succeeded
  rw [← keeps_iff_stay (verdicts_eq_ok_iff.mp all)] at changed
  rw [after, load_conclude changed, conclude_of_not_keep changed]
  exact LoopGuard.attributes_store_congr _ rfl

end Changed

theorem process_of_stays
    (stay : ∀ recipient ∈ mail.addresses, service.Stays (.load mail) recipient) :
    (service.process mail).mail = mail ∧ (service.process mail).outcome = .ok none := by
  obtain ⟨copy, succeeded⟩ := process_succeeds fun recipient here =>
    ⟨_, verdict_keep_iff.mpr ⟨stay recipient here, rfl⟩⟩
  obtain ⟨decisions, all, after, same⟩ := process_of_ok succeeded
  have keeps := (keeps_iff_stay (verdicts_eq_ok_iff.mp all)).mpr stay
  rw [conclude_of_keep keeps] at after same
  exact ⟨after, by rw [succeeded, same]⟩

end Service

/-! Two lists that contain each other, and a mail to both. -/

namespace Sample

def reader : Address := ⟨"reader@example.org", "reader@example.org".toList, by decide, by decide⟩

def writer : Address := ⟨"writer@example.org", "writer@example.org".toList, by decide, by decide⟩

def team : Address :=
  ⟨"team@lists.example.org", "team@lists.example.org".toList, by decide, by decide⟩

def crew : Address :=
  ⟨"crew@lists.example.org", "crew@lists.example.org".toList, by decide, by decide⟩

/-- A list that is open to every sender. -/
def openGroup (members : List Address) : Group := ⟨"", some "open", .ofList members, ∅⟩

def directory : StaticDirectory :=
  (StaticDirectory.empty.withGroup team (openGroup [crew, reader])).withGroup crew
    (openGroup [team, writer])

def service : Service where
  resolver :=
    { directory := directory.toDirectory
      classifier := .make .listsPrefix "lists" ["example.org"]
      base := ""
      attributeName := "mail" }
  limits := ⟨2, 2⟩
  authorization := ⟨none⟩
  rejectedState := .failed

def mail : Mail := .make "1" (some writer) [team, crew]

theorem groupAt_team : service.resolver.groupAt team = .ok (some (openGroup [crew, reader])) := by
  decide

theorem groupAt_crew : service.resolver.groupAt crew = .ok (some (openGroup [team, writer])) := by
  decide

theorem outcome_process : (service.process mail).outcome = .ok none := by decide +kernel

example : (service.process mail).mail.addresses = [reader, writer] := by decide +kernel

end Sample

end Listmaster
