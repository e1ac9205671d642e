import Listmaster.Proofs.Independence
import Listmaster.Proofs.Occurrences

/-!
Rejected recipients.

A run divides a mail: the recipients that are lists to which the sender may not post go to a
copy, `Service.Divides`.  The copy is made of the mail as it was before, and of the mail
that goes on nothing else changes but its recipients, the record of the lists and, if nobody
is left, its state.
-/

namespace Listmaster

/-- The recipients without those whose address came before. -/
def Recipient.firsts (recipients : List Recipient) : List Recipient :=
  recipients.eraseDupsBy fun later earlier => later.address = earlier.address

namespace Recipient

variable {recipients : List Recipient} {recipient : Recipient}

theorem firsts_cons (recipient : Recipient) (recipients : List Recipient) :
    firsts (recipient :: recipients) =
      recipient :: firsts (recipients.filter fun other => other.address ≠ recipient.address) := by
  unfold firsts
  rw [List.eraseDupsBy_cons]
  simp

theorem firsts_subset (recipients : List Recipient) : firsts recipients ⊆ recipients := by
  induction length : recipients.length using Nat.strongRecOn generalizing recipients with
  | _ length shorter =>
      cases recipients with
      | nil => exact List.Subset.refl []
      | cons first rest =>
          subst length
          have fewer := List.length_filter_le (fun other => other.address ≠ first.address) rest
          have later := shorter _ (Nat.lt_succ_of_le fewer) _ rfl
          rw [firsts_cons]
          exact List.cons_subset_cons first (List.Subset.trans later List.filter_sublist.subset)

theorem mem_addresses_firsts (x : Address) :
    x ∈ (firsts recipients).map address ↔ x ∈ recipients.map address := by
  induction length : recipients.length using Nat.strongRecOn generalizing recipients with
  | _ length shorter =>
      cases recipients with
      | nil => rfl
      | cons first rest =>
          subst length
          have fewer := List.length_filter_le (fun other => other.address ≠ first.address) rest
          have later := shorter _ (Nat.lt_succ_of_le fewer) rfl
          rw [firsts_cons, List.map_cons, List.mem_cons, later]
          by_cases same : x = first.address
          · simp [same]
          · simp only [same, false_or, List.map_cons, List.mem_cons, List.mem_map, List.mem_filter]
            constructor
            · rintro ⟨other, ⟨here, _⟩, rfl⟩
              exact ⟨other, here, rfl⟩
            · rintro ⟨other, here, rfl⟩
              exact ⟨other, ⟨here, by simpa using same⟩, rfl⟩

theorem nodup_addresses_firsts (recipients : List Recipient) :
    ((firsts recipients).map address).Nodup := by
  induction length : recipients.length using Nat.strongRecOn generalizing recipients with
  | _ length shorter =>
      cases recipients with
      | nil => exact .nil
      | cons first rest =>
          subst length
          have fewer := List.length_filter_le (fun other => other.address ≠ first.address) rest
          rw [firsts_cons, List.map_cons, List.nodup_cons]
          refine ⟨?_, shorter _ (Nat.lt_succ_of_le fewer) _ rfl⟩
          rw [mem_addresses_firsts]
          simp

end Recipient

namespace Redistribution

/-- The recipients that are to be rejected. -/
def refused (entries : List (Recipient × Outcome)) : List Recipient :=
  (entries.filter (·.2 = .reject)).map Prod.fst

/-- The rejected recipients are those that were rejected before, and the first ones of every
other address. -/
theorem rejected_foldl_apply (entries : List (Recipient × Outcome)) (state : Redistribution) :
    (entries.foldl apply state).rejected =
      state.rejected ++ Recipient.firsts ((refused entries).filter fun recipient =>
        !state.rejected.any (·.address = recipient.address)) := by
  induction entries generalizing state with
  | nil => simp [refused, Recipient.firsts]
  | cons entry rest inductionHypothesis =>
      obtain ⟨recipient, outcome⟩ := entry
      rw [List.foldl_cons, inductionHypothesis]
      cases outcome with
      | keep => rfl
      | drop => rfl
      | expand members =>
          have same := (foldl_addMember recipient.address members.nodup_toList state).2.1
          change (members.toList.foldl (addMember recipient.address) state).rejected ++ _ = _
          simp only [apply, same]
          rfl
      | reject =>
          have here : refused ((recipient, .reject) :: rest) = recipient :: refused rest := rfl
          rw [here, List.filter_cons]
          by_cases already : state.rejected.any (·.address = recipient.address) = true
          · have unchanged : apply state (recipient, .reject) = state := if_pos already
            rw [unchanged, already]
            rfl
          · have added : (apply state (recipient, .reject)).rejected =
                state.rejected ++ [recipient] := by
              simp only [apply, if_neg already]
            rw [Bool.not_eq_true] at already
            rw [added, already, Bool.not_false, if_pos rfl, Recipient.firsts_cons,
              List.append_assoc, List.singleton_append, List.filter_filter]
            congr 3
            apply List.filter_congr
            intro other _
            simp [Bool.and_comm, eq_comm]

end Redistribution

/-- The copy goes to the first recipients of each rejected address. -/
theorem Mail.rejected_redistribute (mail : Mail) (outcomes : List Outcome)
    (rejectedState : MailState) :
    (mail.redistribute outcomes rejectedState).rejected =
      if Recipient.firsts (Redistribution.refused (mail.recipients.zip outcomes)) = [] then none
      else
        some (mail.duplicate
          (Recipient.firsts (Redistribution.refused (mail.recipients.zip outcomes)))
          rejectedState) := by
  have rejected := Redistribution.rejected_foldl_apply (mail.recipients.zip outcomes)
    (.start (mail.recipients.zip outcomes))
  have none : (Redistribution.start (mail.recipients.zip outcomes)).rejected = [] := rfl
  simp only [none, List.any_nil, Bool.not_false, List.filter_true, List.nil_append] at rejected
  unfold redistribute
  dsimp only
  rw [rejected]
  simp only [List.isEmpty_iff]

namespace Service

/-- The list was not expanded before, and the sender may not post to it. -/
def Refuses (service : Service) (sender : Option Address) (guard : LoopGuard) (list : Address) :
    Prop :=
  service.resolver.classifier.isCandidate list = true ∧ ¬ list ∈ guard.recorded ∧
    ∃ group, service.lookup list = .ok (some group) ∧
      ¬ service.MayPost sender guard list group

/-- Whether it is decided that the recipient is rejected. -/
def rejects (service : Service) (sender : Option Address) (guard : LoopGuard)
    (recipient : Address) : Bool :=
  match service.verdict sender guard recipient with
  | .ok decision => decision.outcome = .reject
  | .error _ => false

/-- The recipients that are rejected, each address once, where and as it comes first. -/
def rejected (service : Service) (mail : Mail) : List Recipient :=
  Recipient.firsts <| mail.recipients.filter fun recipient =>
    service.rejects mail.sender (.load mail) recipient.address

/-- How a mail is divided: `after` goes on, and perhaps there is a copy. -/
structure Divides (service : Service) (mail after : Mail) (copy : Option Mail) : Prop where
  reason : ∀ x ∈ mail.addresses,
    service.rejects mail.sender (.load mail) x = true ↔
      service.Refuses mail.sender (.load mail) x
  copied : copy.isSome = true ↔
    ∃ x ∈ mail.addresses, service.Refuses mail.sender (.load mail) x
  made : ∀ other, copy = some other →
    other =
      { mail with
        id := mail.id ++ "-" ++ service.rejectedState.name
        state := service.rejectedState
        recipients := service.rejected mail }
  once : ∀ other : Mail, copy = some other →
    other.addresses.Nodup ∧
      ∀ x, x ∈ other.addresses ↔
        x ∈ mail.addresses ∧ service.Refuses mail.sender (.load mail) x
  id : after.id = mail.id
  sender : after.sender = mail.sender
  message : after.message = mail.message
  attributes : ∀ name, name ≠ LoopGuard.attributeName →
    after.attributes.get? name = mail.attributes.get? name
  state : after.state =
    if mail.addresses ≠ [] ∧ after.addresses = [] then .ghost else mail.state

variable {service : Service} {mail : Mail} {copy : Option Mail} {x : Address}
  {sender : Option Address} {guard : LoopGuard} {decisions : List Decision}

theorem rejects_iff {decision : Decision}
    (decided : service.verdict sender guard x = .ok decision) :
    service.rejects sender guard x = true ↔ decision.outcome = .reject := by
  unfold rejects
  rw [decided]
  exact decide_eq_true_iff

theorem rejects_iff_refuses {decision : Decision}
    (decided : service.verdict sender guard x = .ok decision) :
    service.rejects sender guard x = true ↔ service.Refuses sender guard x := by
  rw [rejects_iff decided]
  exact (settles_of_verdict decided).reject

theorem refused_zip_outcomes {recipients : List Recipient}
    (all : List.Forall₂ (fun recipient decision =>
      service.verdict sender guard recipient.address = .ok decision) recipients decisions) :
    Redistribution.refused (recipients.zip (decisions.map Decision.outcome)) =
      recipients.filter fun recipient => service.rejects sender guard recipient.address := by
  induction all with
  | nil => rfl
  | @cons first decision rest later decided _ inductionHypothesis =>
      unfold Redistribution.refused at inductionHypothesis ⊢
      rw [List.map_cons, List.zip_cons_cons, List.filter_cons, List.filter_cons,
        ← inductionHypothesis]
      simp only [decide_eq_true_eq, rejects_iff decided]
      split <;> rfl

theorem mem_rejected_iff :
    x ∈ (service.rejected mail).map Recipient.address ↔
      x ∈ mail.addresses ∧ service.rejects mail.sender (.load mail) x = true := by
  unfold rejected Mail.addresses
  rw [Recipient.mem_addresses_firsts]
  simp only [List.mem_map, List.mem_filter]
  constructor
  · rintro ⟨recipient, ⟨here, rejects⟩, rfl⟩
    exact ⟨⟨recipient, here, rfl⟩, rejects⟩
  · rintro ⟨⟨recipient, here, rfl⟩, rejects⟩
    exact ⟨recipient, ⟨here, rejects⟩, rfl⟩

theorem rejected_eq_nil_iff :
    service.rejected mail = [] ↔
      ∀ x ∈ mail.addresses, ¬ service.rejects mail.sender (.load mail) x = true := by
  rw [← List.map_eq_nil_iff (f := Recipient.address), List.eq_nil_iff_forall_not_mem]
  simp only [mem_rejected_iff, not_and]

theorem rejected_conclude
    (all : List.Forall₂ (fun recipient decision =>
      service.verdict mail.sender (.load mail) recipient = .ok decision)
      mail.addresses decisions) :
    (service.conclude mail (.load mail) decisions).rejected =
      if service.rejected mail = [] then none
      else some (mail.duplicate (service.rejected mail) service.rejectedState) := by
  by_cases keeps : ∀ decision ∈ decisions, decision.outcome = .keep
  · have nobody : service.rejected mail = [] := by
      rw [rejected_eq_nil_iff]
      intro x here rejects
      obtain ⟨decision, inside, decided⟩ := exists_decision all here
      rw [rejects_iff decided, keeps decision inside] at rejects
      cases rejects
    rw [conclude_of_keep keeps, if_pos nobody]
  · rw [conclude_of_not_keep keeps]
    dsimp only
    rw [Mail.rejected_redistribute, refused_zip_outcomes (List.forall₂_map_left_iff.mp all)]
    rfl

section Success

variable (succeeded : (service.process mail).outcome = .ok copy)
include succeeded

theorem rest_process :
    (service.process mail).mail.id = mail.id ∧
      (service.process mail).mail.message = mail.message ∧
      ∀ name, name ≠ LoopGuard.attributeName →
        (service.process mail).mail.attributes.get? name = mail.attributes.get? name := by
  obtain ⟨decisions, _, after, _⟩ := process_of_ok succeeded
  rw [after]
  by_cases keeps : ∀ decision ∈ decisions, decision.outcome = .keep
  · rw [conclude_of_keep keeps]
    exact ⟨rfl, rfl, fun _ _ => rfl⟩
  · rw [conclude_of_not_keep keeps]
    dsimp only
    rw [LoopGuard.store_eq]
    exact ⟨rfl, rfl, fun name other => LoopGuard.get?_store_of_ne _ _ other⟩

theorem state_process_eq :
    (service.process mail).mail.state =
      if mail.addresses ≠ [] ∧ (service.process mail).mail.addresses = [] then .ghost
      else mail.state := by
  by_cases stay : ∀ x ∈ mail.addresses, service.Stays (.load mail) x
  · have same := (process_of_stays stay).1
    rw [same, if_neg]
    rintro ⟨some, none⟩
    exact some none
  · have occupied : mail.addresses ≠ [] := by
      intro none
      rw [none] at stay
      exact stay nofun
    rw [state_process succeeded stay]
    simp only [ne_eq, occupied, not_false_eq_true, true_and]

theorem copy_eq_some_iff {other : Mail} :
    copy = some other ↔
      service.rejected mail ≠ [] ∧
        other = mail.duplicate (service.rejected mail) service.rejectedState := by
  obtain ⟨decisions, all, _, same⟩ := process_of_ok succeeded
  rw [same, rejected_conclude (verdicts_eq_ok_iff.mp all)]
  split
  · rename_i nobody
    simp [nobody]
  · rename_i somebody
    simp [somebody, eq_comm]

theorem refuses_of_mem (here : x ∈ mail.addresses) :
    service.rejects mail.sender (.load mail) x = true ↔
      service.Refuses mail.sender (.load mail) x := by
  obtain ⟨decision, decided⟩ := verdict_of_process succeeded here
  exact rejects_iff_refuses decided

end Success

/-- A run that succeeds divides the mail. -/
theorem process_divides (service : Service) (mail : Mail) (copy : Option Mail)
    (succeeded : (service.process mail).outcome = .ok copy) :
    service.Divides mail (service.process mail).mail copy where
  reason x here := refuses_of_mem succeeded here
  copied := by
    simp only [Option.isSome_iff_exists, copy_eq_some_iff succeeded, exists_and_left,
      exists_eq, and_true, ne_eq, rejected_eq_nil_iff]
    constructor
    · intro somebody
      by_contra nobody
      apply somebody
      intro x here rejects
      exact nobody ⟨x, here, (refuses_of_mem succeeded here).mp rejects⟩
    · rintro ⟨x, here, refuses⟩ nobody
      exact nobody x here ((refuses_of_mem succeeded here).mpr refuses)
  made other same := ((copy_eq_some_iff succeeded).mp same).2
  once other same := by
    obtain ⟨_, rfl⟩ := (copy_eq_some_iff succeeded).mp same
    refine ⟨Recipient.nodup_addresses_firsts _, ?_⟩
    intro x
    change x ∈ (service.rejected mail).map Recipient.address ↔ _
    rw [mem_rejected_iff]
    exact and_congr_right fun here => refuses_of_mem succeeded here
  id := (rest_process succeeded).1
  sender := sender_process service mail
  message := (rest_process succeeded).2.1
  attributes := (rest_process succeeded).2.2
  state := state_process_eq succeeded

end Service

namespace Sample

/-- The circular, with a recipient in front that comes again later, under other headers. -/
def reminder : Mail :=
  { circular with recipients := ⟨board, [("Priority", "high")]⟩ :: circular.recipients }

theorem outcome_reminder :
    (office.process reminder).outcome =
      .ok (some (reminder.duplicate [⟨board, [("Priority", "high")]⟩] .failed)) := by
  decide +kernel

end Sample

theorem Service.process_divides_sample :
    (Sample.office.process Sample.reminder).outcome =
        .ok (some (Sample.reminder.duplicate [⟨Sample.board, [("Priority", "high")]⟩] .failed)) ∧
      Sample.office.Divides Sample.reminder (Sample.office.process Sample.reminder).mail
        (some (Sample.reminder.duplicate [⟨Sample.board, [("Priority", "high")]⟩] .failed)) :=
  ⟨Sample.outcome_reminder,
    Service.process_divides Sample.office Sample.reminder _ Sample.outcome_reminder⟩

end Listmaster
