import Listmaster.Proofs.Process

/-!
How often an address gets a mail.

A recipient that stays keeps its occurrences, and every other address of the continuing
mail occurs once: `count_process_of_stays` and `count_process_of_not_stays`.  So the
continuing addresses do not depend on the order in which the recipients are decided.
-/

namespace Listmaster

namespace Redistribution

variable {present : AddressSet} {entries : List (Address × Outcome)} {x : Address}

theorem count_filter_absent_le_one (present members : AddressSet) (x : Address) :
    (members.toList.filter fun member => !present.contains member).count x ≤ 1 :=
  List.nodup_iff_count_le_one.mp (members.nodup_toList.filter _) x

theorem count_filter_absent_of_mem (members : AddressSet) (here : x ∈ present) :
    (members.toList.filter fun member => !present.contains member).count x = 0 := by
  apply List.count_eq_zero_of_not_mem
  intro among
  simp [SortedSet.contains_iff.mpr here] at among

theorem count_filter_absent_of_not_mem {members : AddressSet} (other : ¬ x ∈ members) :
    (members.toList.filter fun member => !present.contains member).count x = 0 := by
  apply List.count_eq_zero_of_not_mem
  intro among
  exact other (List.mem_of_mem_filter among)

theorem count_placed_of_mem (here : x ∈ present) :
    (placed present entries).count x = entries.count (x, .keep) := by
  induction entries generalizing present with
  | nil => rfl
  | cons entry rest inductionHypothesis =>
      obtain ⟨address, outcome⟩ := entry
      cases outcome with
      | keep =>
          rw [placed, List.count_cons, List.count_cons, inductionHypothesis here]
          simp
      | drop => simp [placed, inductionHypothesis here]
      | reject => simp [placed, inductionHypothesis here]
      | expand members =>
          have still : x ∈ present ∪ members := SortedSet.mem_union.mpr (.inl here)
          rw [placed, List.count_append, count_filter_absent_of_mem members here,
            inductionHypothesis still]
          simp

/-- The lists add an address once at most. -/
theorem count_placed_le_one (absent : ¬ (x, .keep) ∈ entries) :
    (placed present entries).count x ≤ 1 := by
  induction entries generalizing present with
  | nil => exact Nat.zero_le 1
  | cons entry rest inductionHypothesis =>
      obtain ⟨address, outcome⟩ := entry
      have absentLater : ¬ (x, Outcome.keep) ∈ rest :=
        fun later => absent (List.mem_cons_of_mem _ later)
      cases outcome with
      | keep =>
          have different : address ≠ x := by
            rintro rfl
            exact absent List.mem_cons_self
          rw [placed, List.count_cons_of_ne different]
          exact inductionHypothesis absentLater
      | drop => exact inductionHypothesis absentLater
      | reject => exact inductionHypothesis absentLater
      | expand members =>
          rw [placed, List.count_append]
          by_cases added : x ∈ members
          · -- What follows finds the address present.
            have placedLater : (placed (present ∪ members) rest).count x = 0 := by
              rw [count_placed_of_mem (SortedSet.mem_union.mpr (.inr added))]
              exact List.count_eq_zero_of_not_mem absentLater
            rw [placedLater]
            exact count_filter_absent_le_one present members x
          · rw [count_filter_absent_of_not_mem added, Nat.zero_add]
            exact inductionHypothesis absentLater

end Redistribution

namespace Service

variable {service : Service} {mail : Mail} {guard : LoopGuard} {decisions : List Decision}
  {sender : Option Address} {x : Address} {copy : Option Mail}

theorem count_zip_outcomes {recipients : List Address} {decision : Decision}
    (all : List.Forall₂ (fun recipient decision =>
      service.verdict sender guard recipient = .ok decision) recipients decisions)
    (decided : service.verdict sender guard x = .ok decision) :
    (recipients.zip (decisions.map Decision.outcome)).count (x, decision.outcome) =
      recipients.count x := by
  induction all with
  | nil => rfl
  | @cons first other rest later known _ inductionHypothesis =>
      rw [List.map_cons, List.zip_cons_cons, List.count_cons, List.count_cons,
        inductionHypothesis]
      by_cases same : first = x
      · subst same
        rw [decided] at known
        cases known
        simp
      · simp [same]

theorem count_conclude_of_stays
    (all : List.Forall₂ (fun recipient decision =>
      service.verdict sender guard recipient = .ok decision) mail.addresses decisions)
    (here : x ∈ mail.addresses) (stays : service.Stays guard x) :
    (service.conclude mail guard decisions).continuing.addresses.count x =
      mail.addresses.count x := by
  have decided : service.verdict sender guard x = .ok ⟨.keep, .empty⟩ :=
    verdict_keep_iff.mpr ⟨stays, rfl⟩
  by_cases keeps : ∀ decision ∈ decisions, decision.outcome = .keep
  · rw [conclude_of_keep keeps]
  · have present : x ∈ (Redistribution.start
        (mail.recipients.zip (decisions.map Decision.outcome))).present :=
      (Mail.mem_present_start _ _ _).mpr ((mem_zip_outcomes all).mpr ⟨here, .empty, decided⟩)
    rw [conclude_of_not_keep keeps, addresses_store, Mail.addresses_redistribute,
      Redistribution.count_placed_of_mem present]
    exact count_zip_outcomes all decided

theorem count_conclude_le_one
    (all : List.Forall₂ (fun recipient decision =>
      service.verdict sender guard recipient = .ok decision) mail.addresses decisions)
    (other : ¬ (x ∈ mail.addresses ∧ service.Stays guard x)) :
    (service.conclude mail guard decisions).continuing.addresses.count x ≤ 1 := by
  have absent : ¬ (x, Outcome.keep) ∈ mail.addresses.zip (decisions.map Decision.outcome) := by
    intro kept
    obtain ⟨here, records, decided⟩ := (mem_zip_outcomes all).mp kept
    exact other ⟨here, (verdict_keep_iff.mp decided).1⟩
  by_cases keeps : ∀ decision ∈ decisions, decision.outcome = .keep
  · rw [conclude_of_keep keeps]
    have nowhere : ¬ x ∈ mail.addresses := fun here =>
      other ⟨here, (keeps_iff_stay all).mp keeps x here⟩
    rw [List.count_eq_zero_of_not_mem nowhere]
    exact Nat.zero_le 1
  · rw [conclude_of_not_keep keeps, addresses_store, Mail.addresses_redistribute]
    exact Redistribution.count_placed_le_one absent

section Success

variable (succeeded : (service.process mail).outcome = .ok copy)
include succeeded

/-- A recipient that stays keeps its occurrences. -/
theorem count_process_of_stays (here : x ∈ mail.addresses)
    (stays : service.Stays (.load mail) x) :
    (service.process mail).mail.addresses.count x = mail.addresses.count x := by
  obtain ⟨decisions, all, after, _⟩ := process_of_ok succeeded
  rw [after]
  exact count_conclude_of_stays (verdicts_eq_ok_iff.mp all) here stays

theorem count_process_of_not_stays (after : x ∈ (service.process mail).mail.addresses)
    (other : ¬ (x ∈ mail.addresses ∧ service.Stays (.load mail) x)) :
    (service.process mail).mail.addresses.count x = 1 := by
  obtain ⟨decisions, all, same, _⟩ := process_of_ok succeeded
  apply Nat.le_antisymm
  · rw [same]
    exact count_conclude_le_one (verdicts_eq_ok_iff.mp all) other
  · exact List.one_le_count_iff.mpr after

end Success

end Service

/-! A mail to a list, to a direct recipient that is also behind it, to a list that lets nobody
post and to one that was expanded before. -/

namespace Sample

def board : Address :=
  ⟨"board@lists.example.org", "board@lists.example.org".toList, by decide, by decide⟩

def desk : Address :=
  ⟨"desk@lists.example.org", "desk@lists.example.org".toList, by decide, by decide⟩

/-- A list for its owners, of whom there are none. -/
def ownerless : Group := ⟨"", some "owner", .ofList [reader], ∅⟩

def office : Service :=
  { service with
    resolver :=
      { service.resolver with directory := (directory.withGroup board ownerless).toDirectory } }

def circular : Mail :=
  (LoopGuard.empty.record desk).store
    (.make "2" (some writer) [reader, board, team, reader, board, desk])

theorem outcome_circular :
    (office.process circular).outcome =
      .ok (some (circular.duplicate [.ofAddress board] .failed)) := by decide +kernel

example : (office.process circular).mail.addresses = [reader, writer, reader] := by
  decide +kernel

end Sample

end Listmaster
