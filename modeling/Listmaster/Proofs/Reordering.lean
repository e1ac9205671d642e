import Listmaster.Proofs.Conservation

/-!
The order of the recipients does not matter.

What a run leaves of a mail is told without the order of the recipients: by how often each
address occurs, by the verdict on each address and by the set of lists that are recorded.
-/

namespace Listmaster

/-- Two mails that are the same but for the order of their recipients. -/
structure Mail.Reorders (other mail : Mail) : Prop where
  recipients : other.recipients.Perm mail.recipients
  rest : other = { mail with recipients := other.recipients }

namespace Mail.Reorders

variable {mail other : Mail}

theorem addresses (reorders : other.Reorders mail) : other.addresses.Perm mail.addresses :=
  reorders.recipients.map Recipient.address

theorem mem_addresses (reorders : other.Reorders mail) {x : Address} :
    x ∈ other.addresses ↔ x ∈ mail.addresses := reorders.addresses.mem_iff

theorem sender (reorders : other.Reorders mail) : other.sender = mail.sender := by
  rw [reorders.rest]

theorem state (reorders : other.Reorders mail) : other.state = mail.state := by
  rw [reorders.rest]

theorem attributes (reorders : other.Reorders mail) : other.attributes = mail.attributes := by
  rw [reorders.rest]

theorem load (reorders : other.Reorders mail) : LoopGuard.load other = .load mail :=
  LoopGuard.load_congr (by rw [reorders.attributes])

end Mail.Reorders

namespace Service

/-- The recipients that a run rejects. -/
def Run.rejected (run : Run) : List Address :=
  match run.outcome with
  | .ok (some copy) => copy.addresses
  | _ => []

/-- Two runs that leave the same of a mail, but for the order of its recipients. -/
structure Run.Matches (run other : Run) : Prop where
  addresses : run.mail.addresses.Perm other.mail.addresses
  rejected : ∀ x, x ∈ run.rejected ↔ x ∈ other.rejected
  attributes : run.mail.attributes = other.mail.attributes
  state : run.mail.state = other.mail.state

variable {service : Service} {mail other : Mail} {copy otherCopy : Option Mail} {x : Address}

theorem Run.mem_rejected {run : Run} (succeeded : run.outcome = .ok copy) :
    x ∈ run.rejected ↔ ∃ rejected, copy = some rejected ∧ x ∈ rejected.addresses := by
  unfold Run.rejected
  rw [succeeded]
  cases copy <;> simp

section Reorders

variable (reorders : other.Reorders mail)
include reorders

theorem succeeds_iff_of_reorders :
    (∃ copy, (service.process other).outcome = .ok copy) ↔
      ∃ copy, (service.process mail).outcome = .ok copy := by
  simp only [process_succeeds_iff, reorders.mem_addresses, reorders.sender, reorders.load]

theorem allStay_of_reorders :
    (∀ x ∈ other.addresses, service.Stays (.load other) x) ↔
      ∀ x ∈ mail.addresses, service.Stays (.load mail) x := by
  simp only [reorders.mem_addresses, reorders.load]

variable (succeeded : (service.process mail).outcome = .ok copy)
  (otherSucceeded : (service.process other).outcome = .ok otherCopy)
include succeeded otherSucceeded

theorem mem_addresses_of_reorders :
    x ∈ (service.process other).mail.addresses ↔ x ∈ (service.process mail).mail.addresses := by
  simp only [mem_addresses_process succeeded, mem_addresses_process otherSucceeded,
    reorders.mem_addresses, reorders.sender, reorders.load]

theorem addresses_of_reorders :
    (service.process other).mail.addresses.Perm (service.process mail).mail.addresses := by
  rw [List.perm_iff_count]
  intro x
  by_cases stayed : x ∈ mail.addresses ∧ service.Stays (.load mail) x
  · have otherStayed : x ∈ other.addresses ∧ service.Stays (.load other) x := by
      rwa [reorders.mem_addresses, reorders.load]
    rw [count_process_of_stays succeeded stayed.1 stayed.2,
      count_process_of_stays otherSucceeded otherStayed.1 otherStayed.2]
    exact reorders.addresses.count_eq x
  · have otherMoved : ¬ (x ∈ other.addresses ∧ service.Stays (.load other) x) := by
      rwa [reorders.mem_addresses, reorders.load]
    have same := mem_addresses_of_reorders reorders succeeded otherSucceeded (x := x)
    by_cases after : x ∈ (service.process mail).mail.addresses
    · rw [count_process_of_not_stays succeeded after stayed,
        count_process_of_not_stays otherSucceeded (same.mpr after) otherMoved]
    · rw [List.count_eq_zero_of_not_mem after,
        List.count_eq_zero_of_not_mem fun here => after (same.mp here)]

theorem rejected_of_reorders :
    x ∈ (service.process other).rejected ↔ x ∈ (service.process mail).rejected := by
  rw [Run.mem_rejected succeeded, Run.mem_rejected otherSucceeded, mem_addresses_copy succeeded,
    mem_addresses_copy otherSucceeded, reorders.mem_addresses, reorders.sender, reorders.load]

theorem load_of_reorders :
    LoopGuard.load (service.process other).mail = .load (service.process mail).mail := by
  have same : (LoopGuard.load (service.process other).mail).recorded =
      (LoopGuard.load (service.process mail).mail).recorded := by
    ext x
    simp only [mem_load_process succeeded, mem_load_process otherSucceeded,
      reorders.mem_addresses, reorders.sender, reorders.load]
  exact congrArg LoopGuard.mk same

theorem attributes_of_reorders :
    (service.process other).mail.attributes = (service.process mail).mail.attributes := by
  by_cases stay : ∀ x ∈ mail.addresses, service.Stays (.load mail) x
  · rw [(process_of_stays stay).1, (process_of_stays ((allStay_of_reorders reorders).mpr stay)).1,
      reorders.attributes]
  · have changed := mt (allStay_of_reorders reorders).mp stay
    rw [attributes_process succeeded stay, attributes_process otherSucceeded changed,
      load_of_reorders reorders succeeded otherSucceeded]
    exact LoopGuard.attributes_store_congr _ reorders.attributes

theorem state_of_reorders :
    (service.process other).mail.state = (service.process mail).mail.state := by
  by_cases stay : ∀ x ∈ mail.addresses, service.Stays (.load mail) x
  · rw [(process_of_stays stay).1, (process_of_stays ((allStay_of_reorders reorders).mpr stay)).1,
      reorders.state]
  · have changed := mt (allStay_of_reorders reorders).mp stay
    have nobody : (service.process other).mail.addresses = [] ↔
        (service.process mail).mail.addresses = [] := by
      rw [← List.length_eq_zero_iff, ← List.length_eq_zero_iff,
        (addresses_of_reorders reorders succeeded otherSucceeded).length_eq]
    simp only [state_process succeeded stay, state_process otherSucceeded changed, nobody,
      reorders.state]

end Reorders

/-- The order of the recipients changes neither whether a run succeeds nor what it leaves. -/
theorem process_reorders (service : Service) (mail other : Mail)
    (reorders : other.Reorders mail) :
    ((∃ copy, (service.process other).outcome = .ok copy) ↔
        ∃ copy, (service.process mail).outcome = .ok copy) ∧
      ((∃ copy, (service.process mail).outcome = .ok copy) →
        (service.process other).Matches (service.process mail)) := by
  refine ⟨succeeds_iff_of_reorders reorders, ?_⟩
  rintro ⟨copy, succeeded⟩
  obtain ⟨otherCopy, otherSucceeded⟩ :=
    (succeeds_iff_of_reorders reorders).mpr ⟨copy, succeeded⟩
  exact {
    addresses := addresses_of_reorders reorders succeeded otherSucceeded
    rejected := fun x => rejected_of_reorders reorders succeeded otherSucceeded
    attributes := attributes_of_reorders reorders succeeded otherSucceeded
    state := state_of_reorders reorders succeeded otherSucceeded }

end Service

/-! A mail to a list before the direct recipients, one of whom is also behind the list. -/

namespace Sample

def reorderedCircular : Mail :=
  { circular with recipients := circular.recipients.drop 2 ++ circular.recipients.take 2 }

theorem reorders_circular : reorderedCircular.Reorders circular where
  recipients := List.perm_append_comm.trans (.of_eq (List.take_append_drop 2 circular.recipients))
  rest := rfl

example : (office.process reorderedCircular).mail.addresses = [writer, reader, reader] := by
  decide +kernel

end Sample

namespace Service

theorem process_reorders_sample :
    Sample.reorderedCircular.Reorders Sample.circular ∧
      ((∃ copy, (Sample.office.process Sample.reorderedCircular).outcome = .ok copy) ↔
        ∃ copy, (Sample.office.process Sample.circular).outcome = .ok copy) ∧
      (Sample.office.process Sample.reorderedCircular).Matches
        (Sample.office.process Sample.circular) := by
  have reordered := process_reorders Sample.office Sample.circular Sample.reorderedCircular
    Sample.reorders_circular
  exact ⟨Sample.reorders_circular, reordered.1, reordered.2 ⟨_, Sample.outcome_circular⟩⟩

end Service

end Listmaster
