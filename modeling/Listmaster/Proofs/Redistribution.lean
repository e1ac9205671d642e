import Listmaster.Proofs.Sorted
import Listmaster.Redistribution

/-!
Which addresses a redistributed mail has.

`Redistribution.placed` tells the addresses that get a mail from the outcomes of its
recipients, in their order; `Mail.addresses_redistribute` says that they are those of the
continuing mail.
-/

namespace Listmaster

namespace Redistribution

/-- The addresses that get a mail, apart from members that are present already. -/
def placed : AddressSet → List (Address × Outcome) → List Address
  | _, [] => []
  | present, (address, .keep) :: rest => address :: placed present rest
  | present, (_, .drop) :: rest => placed present rest
  | present, (_, .reject) :: rest => placed present rest
  | present, (_, .expand members) :: rest =>
      members.toList.filter (fun member => !present.contains member) ++
        placed (present ∪ members) rest

/-- The addresses and outcomes of recipients. -/
def byAddress (recipients : List (Recipient × Outcome)) : List (Address × Outcome) :=
  recipients.map fun entry => (entry.1.address, entry.2)

theorem mem_placed {present : AddressSet} {entries : List (Address × Outcome)} {x : Address} :
    x ∈ placed present entries ↔
      (x, .keep) ∈ entries ∨
        (¬ x ∈ present ∧ ∃ list members, (list, .expand members) ∈ entries ∧ x ∈ members) := by
  induction entries generalizing present with
  | nil => simp [placed]
  | cons entry rest inductionHypothesis =>
      obtain ⟨address, outcome⟩ := entry
      cases outcome with
      | keep => simp [placed, inductionHypothesis, or_assoc]
      | drop => simp [placed, inductionHypothesis]
      | reject => simp [placed, inductionHypothesis]
      | expand members =>
          simp only [placed, List.mem_append, List.mem_filter, inductionHypothesis,
            SortedSet.mem_union, not_or, Bool.not_eq_true', List.mem_cons, Prod.mk.injEq,
            reduceCtorEq, and_false, false_or, Outcome.expand.injEq, ← SortedSet.mem_def,
            ← Bool.not_eq_true, SortedSet.contains_iff]
          constructor
          · rintro (⟨here, absent⟩ | kept | ⟨⟨absent, _⟩, list, others, later, here⟩)
            · exact .inr ⟨absent, address, members, .inl ⟨rfl, rfl⟩, here⟩
            · exact .inl kept
            · exact .inr ⟨absent, list, others, .inr later, here⟩
          · rintro (kept | ⟨absent, list, others, ⟨_, same⟩ | later, here⟩)
            · exact .inr (.inl kept)
            · exact .inl ⟨same ▸ here, absent⟩
            · by_cases first : x ∈ members
              · exact .inl ⟨first, absent⟩
              · exact .inr (.inr ⟨⟨absent, first⟩, list, others, later, here⟩)

theorem addMember_of_mem (list : Address) {state : Redistribution} {member : Address}
    (here : member ∈ state.present) :
    (addMember list state member).continuing = state.continuing ∧
      (addMember list state member).rejected = state.rejected ∧
      (addMember list state member).present = state.present := by
  simp [addMember, here]

theorem addMember_of_not_mem (list : Address) {state : Redistribution} {member : Address}
    (absent : ¬ member ∈ state.present) :
    (addMember list state member).continuing = state.continuing ++ [.ofAddress member] ∧
      (addMember list state member).rejected = state.rejected ∧
      (addMember list state member).present = state.present.insert member := by
  simp [addMember, absent]

/-- The members of a list become recipients, but those that are present. -/
theorem foldl_addMember (list : Address) {members : List Address} (distinct : members.Nodup)
    (state : Redistribution) :
    (members.foldl (addMember list) state).continuing =
        state.continuing ++
          (members.filter fun member => !state.present.contains member).map Recipient.ofAddress ∧
      (members.foldl (addMember list) state).rejected = state.rejected ∧
      ∀ x, x ∈ (members.foldl (addMember list) state).present ↔
        x ∈ state.present ∨ x ∈ members := by
  induction members generalizing state with
  | nil => simp
  | cons member rest inductionHypothesis =>
      obtain ⟨apart, distinctRest⟩ := List.nodup_cons.mp distinct
      obtain ⟨continuing, rejected, present⟩ :=
        inductionHypothesis distinctRest (addMember list state member)
      rw [List.foldl_cons]
      by_cases here : member ∈ state.present
      · obtain ⟨sameContinuing, sameRejected, samePresent⟩ := addMember_of_mem list here
        rw [sameContinuing, samePresent] at continuing
        rw [sameRejected] at rejected
        rw [samePresent] at present
        refine ⟨?_, rejected, ?_⟩
        · rw [continuing, List.filter_cons, SortedSet.contains_iff.mpr here]
          rfl
        · intro x
          rw [present x, List.mem_cons]
          constructor
          · rintro (old | later)
            · exact .inl old
            · exact .inr (.inr later)
          · rintro (old | same | later)
            · exact .inl old
            · exact .inl (same ▸ here)
            · exact .inr later
      · obtain ⟨moreContinuing, sameRejected, morePresent⟩ := addMember_of_not_mem list here
        rw [moreContinuing, morePresent] at continuing
        rw [sameRejected] at rejected
        rw [morePresent] at present
        -- No member comes twice, so that this one does not change what the others add.
        have others : rest.filter (fun x => !(state.present.insert member).contains x) =
            rest.filter fun x => !state.present.contains x := by
          apply List.filter_congr
          intro x later
          have different : x ≠ member := fun same => apart (same ▸ later)
          rw [Bool.not_eq_eq_eq_not, Bool.not_not, Bool.eq_iff_iff]
          simp [different]
        refine ⟨?_, rejected, ?_⟩
        · have new : (!state.present.contains member) = true := by
            rwa [Bool.not_eq_true', ← Bool.not_eq_true, SortedSet.contains_iff]
          rw [continuing, others, List.filter_cons, if_pos new, List.map_cons, List.append_assoc]
          rfl
        · intro x
          rw [present x, SortedSet.mem_insert, List.mem_cons, or_comm (a := x = member), or_assoc]

theorem address_annotate (state : Redistribution) (recipient : Recipient) :
    (state.annotate recipient).address = recipient.address := by
  unfold annotate
  split
  · unfold Recipient.annotateOnce
    split <;> rfl
  · rfl

theorem placed_apply (state : Redistribution) (recipient : Recipient) (outcome : Outcome)
    (rest : List (Address × Outcome)) :
    (apply state (recipient, outcome)).continuing.map Recipient.address ++
        placed (apply state (recipient, outcome)).present rest =
      state.continuing.map Recipient.address ++
        placed state.present ((recipient.address, outcome) :: rest) := by
  cases outcome with
  | keep => simp [apply, placed]
  | drop => rfl
  | reject =>
      change (if _ then state else _ : Redistribution).continuing.map Recipient.address ++
        placed (if _ then state else _ : Redistribution).present rest = _
      split <;> rfl
  | expand members =>
      obtain ⟨continuing, _, present⟩ :=
        foldl_addMember recipient.address members.nodup_toList state
      have union : (apply state (recipient, .expand members)).present =
          state.present ∪ members := by
        ext x
        rw [SortedSet.mem_union]
        exact present x
      rw [union]
      have addresses (members : List Address) :
          (members.map Recipient.ofAddress).map Recipient.address = members := by
        simp [Recipient.ofAddress, Function.comp_def]
      change (members.toList.foldl (addMember recipient.address) state).continuing.map
        Recipient.address ++ _ = _
      rw [continuing, List.map_append, addresses, List.append_assoc]
      rfl

theorem rejected_apply (state : Redistribution) (recipient : Recipient) (outcome : Outcome)
    (x : Address) :
    x ∈ (apply state (recipient, outcome)).rejected.map Recipient.address ↔
      x ∈ state.rejected.map Recipient.address ∨
        (x, Outcome.reject) = (recipient.address, outcome) := by
  cases outcome with
  | keep => simp [apply]
  | drop => simp [apply]
  | expand members =>
      change x ∈ (members.toList.foldl (addMember recipient.address) state).rejected.map
        Recipient.address ↔ _
      rw [(foldl_addMember recipient.address members.nodup_toList state).2.1]
      simp
  | reject =>
      change x ∈ (if state.rejected.any (·.address = recipient.address) then state
        else { state with rejected := state.rejected ++ [recipient] }).rejected.map
          Recipient.address ↔ _
      split
      · rename_i already
        obtain ⟨earlier, among, same⟩ := List.any_eq_true.mp already
        have here : recipient.address ∈ state.rejected.map Recipient.address :=
          List.mem_map.mpr ⟨earlier, among, of_decide_eq_true same⟩
        constructor
        · exact .inl
        · rintro (old | same)
          · exact old
          · cases same
            exact here
      · simp

theorem foldl_apply (recipients : List (Recipient × Outcome)) (state : Redistribution) :
    (recipients.foldl apply state).continuing.map Recipient.address =
        state.continuing.map Recipient.address ++
          placed state.present (byAddress recipients) ∧
      ∀ x, x ∈ (recipients.foldl apply state).rejected.map Recipient.address ↔
        x ∈ state.rejected.map Recipient.address ∨ (x, .reject) ∈ byAddress recipients := by
  induction recipients generalizing state with
  | nil => simp [placed, byAddress]
  | cons entry rest inductionHypothesis =>
      obtain ⟨recipient, outcome⟩ := entry
      obtain ⟨continuing, rejected⟩ := inductionHypothesis (apply state (recipient, outcome))
      have cons : byAddress ((recipient, outcome) :: rest) =
          (recipient.address, outcome) :: byAddress rest := rfl
      rw [List.foldl_cons, cons]
      constructor
      · rw [continuing, placed_apply]
      · intro x
        rw [rejected x, rejected_apply, List.mem_cons, or_assoc]

end Redistribution

namespace Mail

variable (mail : Mail) (outcomes : List Outcome) (rejectedState : MailState)

theorem byAddress_zip :
    Redistribution.byAddress (mail.recipients.zip outcomes) = mail.addresses.zip outcomes := by
  unfold Redistribution.byAddress addresses
  rw [List.zip_map_left]
  rfl

theorem addresses_redistribute :
    (mail.redistribute outcomes rejectedState).continuing.addresses =
      Redistribution.placed (Redistribution.start (mail.recipients.zip outcomes)).present
        (mail.addresses.zip outcomes) := by
  have placed := (Redistribution.foldl_apply (mail.recipients.zip outcomes)
    (.start (mail.recipients.zip outcomes))).1
  rw [byAddress_zip] at placed
  simp only [redistribute, addresses, List.map_map]
  rw [show Recipient.address ∘ Redistribution.annotate _ = Recipient.address from
    funext (Redistribution.address_annotate _)]
  exact placed

theorem mem_present_start (x : Address) :
    x ∈ (Redistribution.start (mail.recipients.zip outcomes)).present ↔
      (x, .keep) ∈ mail.addresses.zip outcomes := by
  rw [← byAddress_zip]
  simp [Redistribution.start, Redistribution.byAddress]

/-- The continuing mail goes to the recipients that stay and to the members of the lists that
are expanded. -/
theorem mem_addresses_redistribute (x : Address) :
    x ∈ (mail.redistribute outcomes rejectedState).continuing.addresses ↔
      (x, .keep) ∈ mail.addresses.zip outcomes ∨
        ∃ list members, (list, .expand members) ∈ mail.addresses.zip outcomes ∧ x ∈ members := by
  rw [addresses_redistribute, Redistribution.mem_placed, mem_present_start]
  by_cases kept : (x, .keep) ∈ mail.addresses.zip outcomes
  · simp [kept]
  · simp [kept]

theorem mem_addresses_rejected (x : Address) :
    (∃ copy, (mail.redistribute outcomes rejectedState).rejected = some copy ∧
        x ∈ copy.addresses) ↔
      (x, .reject) ∈ mail.addresses.zip outcomes := by
  have rejected := (Redistribution.foldl_apply (mail.recipients.zip outcomes)
    (.start (mail.recipients.zip outcomes))).2 x
  rw [byAddress_zip] at rejected
  have started : ¬ x ∈ (Redistribution.start (mail.recipients.zip outcomes)).rejected.map
      Recipient.address := nofun
  rw [or_iff_right started] at rejected
  rw [← rejected]
  simp only [redistribute]
  split
  · rename_i none
    rw [List.isEmpty_iff.mp none]
    simp
  · simp [addresses, duplicate]

theorem state_redistribute :
    (mail.redistribute outcomes rejectedState).continuing.state =
      if (mail.redistribute outcomes rejectedState).continuing.addresses = [] then .ghost
      else mail.state := by
  simp [redistribute, addresses]

end Mail

end Listmaster
