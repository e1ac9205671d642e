import Listmaster.Proofs.Process

/-!
Who stands where among the recipients of a redistributed mail.

`Redistribution.share` tells what a recipient is replaced by, from the outcomes of all
recipients and from those of the recipients before it.  `placed` finds the same with the
addresses that it has met (`Redistribution.placed_eq`), so that a redistributed mail has the
shares of its recipients, one after another: `Mail.redistribute_shares`.
-/

namespace Listmaster

/-- The members that the outcome puts in the place of the recipient. -/
def Outcome.members : Outcome → AddressSet
  | .expand members => members
  | .keep | .drop | .reject => ∅

namespace Redistribution

/-- The address is a recipient that stays, or a member of a list expanded earlier. -/
def IsPresent (all earlier : List (Address × Outcome)) (x : Address) : Prop :=
  (x, .keep) ∈ all ∨ ∃ entry ∈ earlier, x ∈ entry.2.members

instance (all earlier : List (Address × Outcome)) (x : Address) :
    Decidable (IsPresent all earlier x) :=
  @instDecidableOr _ _ inferInstance inferInstance

/-- What a recipient is replaced by. -/
def share (all earlier : List (Address × Outcome)) : Address × Outcome → List Address
  | (address, .keep) => [address]
  | (_, .drop) => []
  | (_, .reject) => []
  | (_, .expand members) =>
      members.toList.filter fun member => ¬ IsPresent all earlier member

/-- What the recipients are replaced by, each at its place. -/
def shares (entries : List (Address × Outcome)) : List Address :=
  (entries.mapIdx fun place entry => share entries (entries.take place) entry).flatten

variable {all earlier rest : List (Address × Outcome)} {present : AddressSet}
  {address : Address} {outcome : Outcome}

theorem isPresent_append_singleton (x : Address) :
    IsPresent all (earlier ++ [(address, outcome)]) x ↔
      IsPresent all earlier x ∨ x ∈ outcome.members := by
  simp [IsPresent, or_and_right, exists_or, or_assoc]

theorem placed_cons (known : ∀ x, x ∈ present ↔ IsPresent all earlier x) (address : Address)
    (outcome : Outcome) (rest : List (Address × Outcome)) :
    ∃ larger : AddressSet,
      placed present ((address, outcome) :: rest) =
        share all earlier (address, outcome) ++ placed larger rest ∧
      ∀ x, x ∈ larger ↔ IsPresent all (earlier ++ [(address, outcome)]) x := by
  simp only [isPresent_append_singleton, ← known]
  cases outcome with
  | keep => exact ⟨present, rfl, by simp [Outcome.members]⟩
  | drop => exact ⟨present, rfl, by simp [Outcome.members]⟩
  | reject => exact ⟨present, rfl, by simp [Outcome.members]⟩
  | expand members =>
      refine ⟨present ∪ members, ?_, fun x => SortedSet.mem_union⟩
      rw [placed, share]
      congr 1
      apply List.filter_congr
      intro member _
      rw [Bool.eq_iff_iff, decide_eq_true_eq, ← known, Bool.not_eq_true', ← Bool.not_eq_true,
        SortedSet.contains_iff]

theorem placed_eq (known : ∀ x, x ∈ present ↔ IsPresent all earlier x) :
    placed present rest =
      (rest.mapIdx fun place entry => share all (earlier ++ rest.take place) entry).flatten := by
  induction rest generalizing present earlier with
  | nil => rfl
  | cons entry rest inductionHypothesis =>
      obtain ⟨address, outcome⟩ := entry
      obtain ⟨larger, first, knownLarger⟩ := placed_cons known address outcome rest
      rw [first, inductionHypothesis knownLarger, List.mapIdx_cons, List.flatten_cons]
      simp only [List.take_zero, List.append_nil, List.take_succ_cons, List.append_assoc,
        List.singleton_append]

end Redistribution

/-- A redistributed mail goes to the shares of its recipients in their order, and is a ghost if
nothing is left of them. -/
theorem Mail.redistribute_shares (mail : Mail) (outcomes : List Outcome)
    (rejectedState : MailState) :
    (mail.redistribute outcomes rejectedState).continuing.addresses =
        Redistribution.shares (mail.addresses.zip outcomes) ∧
      (mail.redistribute outcomes rejectedState).continuing.state =
        if Redistribution.shares (mail.addresses.zip outcomes) = [] then .ghost
        else mail.state := by
  have known (x : Address) :
      x ∈ (Redistribution.start (mail.recipients.zip outcomes)).present ↔
        Redistribution.IsPresent (mail.addresses.zip outcomes) [] x := by
    simp [mem_present_start, Redistribution.IsPresent]
  have addresses : (mail.redistribute outcomes rejectedState).continuing.addresses =
      Redistribution.shares (mail.addresses.zip outcomes) := by
    rw [addresses_redistribute, Redistribution.placed_eq known]
    simp only [Redistribution.shares, List.nil_append]
  exact ⟨addresses, by rw [state_redistribute, addresses]⟩

open Sample in
/-- The reader stays behind the lists, and the writer belongs to the first of them. -/
example :
    Redistribution.shares
        [(team, .expand (.ofList [reader, writer])), (crew, .expand (.ofList [crew, writer])),
          (reader, .keep), (crew, .drop), (reader, .keep)] =
      [writer, crew, reader, reader] := by decide

end Listmaster
