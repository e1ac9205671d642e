import Listmaster.Proofs.Headers
import Listmaster.Proofs.Placement
import Listmaster.Proofs.Rejection

/-!
The list that a recipient is told.

Each recipient of a redistributed mail stands for one that arrived there: a recipient that stays
with its own headers, or a member of a list with none.  Its headers name the first list that it
belongs to, unless they named one before, `Redistribution.Headed`, and say nothing else than
before: `Mail.redistribute_headed`.
-/

namespace Listmaster

namespace Redistribution

/-- The first list that the address is a member of. -/
def firstList? (entries : List (Address × Outcome)) (x : Address) : Option Address :=
  (entries.find? fun entry => x ∈ entry.2.members).map Prod.fst

/-- What arrives for a recipient: the recipient as it is, or its share. -/
def arriving (all earlier : List (Address × Outcome)) : Recipient × Outcome → List Recipient
  | (recipient, .keep) => [recipient]
  | (recipient, outcome) => (share all earlier (recipient.address, outcome)).map .ofAddress

/-- What arrives for the recipients, one after another. -/
def arrivals (all : List (Address × Outcome)) :
    (earlier : List (Address × Outcome)) → List (Recipient × Outcome) → List Recipient
  | _, [] => []
  | earlier, (recipient, outcome) :: rest =>
      arriving all earlier (recipient, outcome) ++
        arrivals all (earlier ++ [(recipient.address, outcome)]) rest

/-- What a recipient becomes in a mail whose recipients have these outcomes. -/
structure Headed (entries : List (Address × Outcome)) (before after : Recipient) : Prop where
  address : after.address = before.address
  named {list : Address} (first : firstList? entries before.address = some list)
    (unnamed : before.header? "List-Id" = none) :
    after.header? "List-Id" = some s!"<{list.full}>" ∧
      after.header? "List-Post" = some s!"<mailto:{list.full}>"
  kept (settled : (before.header? "List-Id").isSome = true ∨
    ∀ entry ∈ entries, ¬ before.address ∈ entry.2.members) : after = before
  unrelated : after.unrelated = before.unrelated

variable {all earlier : List (Address × Outcome)} {state : Redistribution}
  {entries rest : List (Recipient × Outcome)} {list x : Address}

theorem firstList?_eq_none {entries : List (Address × Outcome)} :
    firstList? entries x = none ↔ ∀ entry ∈ entries, ¬ x ∈ entry.2.members := by
  simp [firstList?]

section Lists

theorem get?_addMember (state : Redistribution) (list member x : Address) :
    (addMember list state member).lists.get? x =
      (state.lists.get? x).or (if x = member then some list else none) := by
  have lists : (addMember list state member).lists =
      if (state.lists.get? member).isSome then state.lists
      else state.lists.insert member list := by
    cases present : state.present.contains member <;> simp [addMember, present]
  rw [lists]
  by_cases same : x = member
  · subst same
    cases here : state.lists.get? x with
    | none => simp
    | some first => simp [here]
  · have other (m : SortedMap Address Address) : (m.insert member list).get? x = m.get? x := by
      rw [SortedMap.get?_insert, if_neg]
      simpa using same
    rw [if_neg same, Option.or_none]
    split
    · rfl
    · exact other state.lists

theorem get?_foldl_addMember (members : List Address) (state : Redistribution) (list x : Address) :
    (members.foldl (addMember list) state).lists.get? x =
      (state.lists.get? x).or (if x ∈ members then some list else none) := by
  induction members generalizing state with
  | nil => simp
  | cons member rest inductionHypothesis =>
      rw [List.foldl_cons, inductionHypothesis, get?_addMember, Option.or_assoc]
      congr 1
      by_cases same : x = member
      · simp [same]
      · simp [same]

theorem get?_apply (state : Redistribution) (recipient : Recipient) (outcome : Outcome)
    (x : Address) :
    (apply state (recipient, outcome)).lists.get? x =
      (state.lists.get? x).or (if x ∈ outcome.members then some recipient.address else none) := by
  cases outcome with
  | keep => simp [apply, Outcome.members]
  | drop => simp [apply, Outcome.members]
  | reject =>
      have same : (apply state (recipient, .reject)).lists = state.lists := by
        simp only [apply]
        split <;> rfl
      simp [same, Outcome.members]
  | expand members =>
      have added := get?_foldl_addMember members.toList state recipient.address x
      by_cases here : x ∈ members
      · rw [if_pos (SortedSet.mem_def.mp here)] at added
        rwa [Outcome.members, if_pos here]
      · rw [if_neg (SortedSet.mem_def.mpr.mt here)] at added
        rwa [Outcome.members, if_neg here]

theorem get?_foldl_apply (entries : List (Recipient × Outcome)) (state : Redistribution)
    (x : Address) :
    (entries.foldl apply state).lists.get? x =
      (state.lists.get? x).or (firstList? (byAddress entries) x) := by
  induction entries generalizing state with
  | nil => simp [firstList?, byAddress]
  | cons entry rest inductionHypothesis =>
      obtain ⟨recipient, outcome⟩ := entry
      rw [List.foldl_cons, inductionHypothesis, get?_apply, Option.or_assoc]
      congr 1
      simp only [firstList?, byAddress, List.map_cons, List.find?_cons]
      by_cases here : x ∈ outcome.members
      · simp [here]
      · simp [here]

end Lists

section Arrivals

/-- What arrives for a recipient is appended, and its members are present from then on. -/
theorem apply_arrives (known : ∀ x, x ∈ state.present ↔ IsPresent all earlier x)
    (recipient : Recipient) (outcome : Outcome) :
    (apply state (recipient, outcome)).continuing =
        state.continuing ++ arriving all earlier (recipient, outcome) ∧
      ∀ x, x ∈ (apply state (recipient, outcome)).present ↔
        IsPresent all (earlier ++ [(recipient.address, outcome)]) x := by
  simp only [isPresent_append_singleton, ← known]
  cases outcome with
  | keep => simp [apply, arriving, Outcome.members]
  | drop => simp [apply, arriving, share, Outcome.members]
  | reject =>
      have same : (apply state (recipient, .reject)).continuing = state.continuing ∧
          (apply state (recipient, .reject)).present = state.present := by
        simp only [apply]
        split <;> exact ⟨rfl, rfl⟩
      simp [same, arriving, share, Outcome.members]
  | expand members =>
      obtain ⟨continuing, _, present⟩ :=
        foldl_addMember recipient.address members.nodup_toList state
      refine ⟨?_, present⟩
      have absent : members.toList.filter (fun member => !state.present.contains member) =
          share all earlier (recipient.address, .expand members) := by
        apply List.filter_congr
        intro member _
        rw [Bool.eq_iff_iff, decide_eq_true_eq, ← known, Bool.not_eq_true', ← Bool.not_eq_true,
          SortedSet.contains_iff]
      rw [arriving, ← absent]
      · exact continuing
      · rintro ⟨⟩

theorem continuing_foldl_apply (known : ∀ x, x ∈ state.present ↔ IsPresent all earlier x) :
    (entries.foldl apply state).continuing = state.continuing ++ arrivals all earlier entries := by
  induction entries generalizing state earlier with
  | nil => simp [arrivals]
  | cons entry rest inductionHypothesis =>
      obtain ⟨recipient, outcome⟩ := entry
      obtain ⟨continuing, present⟩ := apply_arrives known recipient outcome
      rw [List.foldl_cons, inductionHypothesis present, continuing, arrivals, List.append_assoc]

theorem arrivals_append (entries rest : List (Recipient × Outcome)) :
    arrivals all earlier (entries ++ rest) =
      arrivals all earlier entries ++ arrivals all (earlier ++ byAddress entries) rest := by
  induction entries generalizing earlier with
  | nil => simp [arrivals, byAddress]
  | cons entry later inductionHypothesis =>
      obtain ⟨recipient, outcome⟩ := entry
      rw [List.cons_append, arrivals, arrivals, inductionHypothesis, List.append_assoc]
      simp [byAddress]

end Arrivals

/-- The recipient with the list of its address, if that is a member of one. -/
theorem headed_annotate {entries : List (Address × Outcome)}
    (known : ∀ x, state.lists.get? x = firstList? entries x) (recipient : Recipient) :
    Headed entries recipient (state.annotate recipient) := by
  unfold annotate
  rw [known]
  cases first : firstList? entries recipient.address with
  | none =>
      exact
        { address := rfl
          named := fun some _ => absurd (first.symm.trans some) nofun
          kept := fun _ => rfl
          unrelated := rfl }
  | some list =>
      have member : ¬ ∀ entry ∈ entries, ¬ recipient.address ∈ entry.2.members := by
        rw [← firstList?_eq_none, first]
        nofun
      unfold Recipient.annotateOnce
      dsimp only
      cases before : recipient.header? "List-Id" with
      | none =>
          exact
            { address := rfl
              named := fun some _ => by
                cases first.symm.trans some
                exact recipient.header?_annotate list
              kept := fun settled => absurd settled (not_or.mpr ⟨by simp [before], member⟩)
              unrelated := recipient.unrelated_annotate list }
      | some value =>
          exact
            { address := rfl
              named := fun _ unnamed => absurd (before.symm.trans unnamed) nofun
              kept := fun _ => rfl
              unrelated := rfl }

end Redistribution

namespace Mail

open Redistribution

variable (mail : Mail) (outcomes : List Outcome) (rejectedState : MailState)

/-- Where a recipient that stays stands in the redistributed mail. -/
def placeAfter (mail : Mail) (outcomes : List Outcome) (place : Nat) : Nat :=
  (arrivals (mail.addresses.zip outcomes) []
    ((mail.recipients.zip outcomes).take place)).length

/-- The mail after several redistributions. -/
def redistributeAll : Mail → List (List Outcome × MailState) → Mail
  | mail, [] => mail
  | mail, (outcomes, rejectedState) :: steps =>
      (mail.redistribute outcomes rejectedState).continuing.redistributeAll steps

/-- Where a recipient stands after several redistributions, if it stays in each of them. -/
def follow? : Mail → List (List Outcome × MailState) → (place : Nat) → Option Nat
  | _, [], place => some place
  | mail, (outcomes, rejectedState) :: steps, place =>
      if outcomes[place]? = some .keep then
        (mail.redistribute outcomes rejectedState).continuing.follow? steps
          (mail.placeAfter outcomes place)
      else none

theorem recipients_redistribute :
    ∃ state : Redistribution,
      (∀ x, state.lists.get? x = firstList? (mail.addresses.zip outcomes) x) ∧
      (mail.redistribute outcomes rejectedState).continuing.recipients =
        (arrivals (mail.addresses.zip outcomes) [] (mail.recipients.zip outcomes)).map
          state.annotate := by
  let start := Redistribution.start (mail.recipients.zip outcomes)
  refine ⟨(mail.recipients.zip outcomes).foldl apply start, fun x => ?_, ?_⟩
  · have lists := get?_foldl_apply (mail.recipients.zip outcomes) start x
    rw [lists, byAddress_zip]
    rfl
  · have known (x : Address) :
        x ∈ start.present ↔ IsPresent (mail.addresses.zip outcomes) [] x := by
      simp [start, mem_present_start, IsPresent]
    have continuing : ((mail.recipients.zip outcomes).foldl apply start).continuing =
        arrivals (mail.addresses.zip outcomes) [] (mail.recipients.zip outcomes) :=
      continuing_foldl_apply known
    rw [← continuing]
    rfl

variable {mail outcomes} {recipient : Recipient} {place : Nat}

theorem getElem?_arrivals (here : mail.recipients[place]? = some recipient)
    (kept : outcomes[place]? = some .keep) :
    (arrivals (mail.addresses.zip outcomes) [] (mail.recipients.zip outcomes))[
      mail.placeAfter outcomes place]? = some recipient := by
  have entry : (mail.recipients.zip outcomes)[place]? = some (recipient, .keep) := by
    rw [List.getElem?_zip_eq_some]
    exact ⟨here, kept⟩
  obtain ⟨inside, found⟩ := List.getElem?_eq_some_iff.mp entry
  have split : mail.recipients.zip outcomes =
      (mail.recipients.zip outcomes).take place ++
        (recipient, .keep) :: (mail.recipients.zip outcomes).drop (place + 1) := by
    rw [← found, List.cons_getElem_drop_succ, List.take_append_drop]
  unfold placeAfter
  generalize (mail.recipients.zip outcomes).take place = earlier at *
  rw [split, arrivals_append, List.getElem?_append_right (Nat.le_refl _), Nat.sub_self]
  rfl

theorem getElem?_redistribute (here : mail.recipients[place]? = some recipient)
    (named : (recipient.header? "List-Id").isSome = true) (kept : outcomes[place]? = some .keep) :
    (mail.redistribute outcomes rejectedState).continuing.recipients[
      mail.placeAfter outcomes place]? = some recipient := by
  obtain ⟨state, known, recipients⟩ := mail.recipients_redistribute outcomes rejectedState
  rw [recipients, List.getElem?_map, getElem?_arrivals here kept]
  exact congrArg some ((headed_annotate known recipient).kept (.inl named))

theorem getElem?_redistributeAll {steps : List (List Outcome × MailState)} {last : Nat}
    (here : mail.recipients[place]? = some recipient)
    (named : (recipient.header? "List-Id").isSome = true)
    (followed : mail.follow? steps place = some last) :
    (mail.redistributeAll steps).recipients[last]? = some recipient := by
  induction steps generalizing mail place with
  | nil =>
      cases followed
      exact here
  | cons step steps inductionHypothesis =>
      obtain ⟨outcomes, rejectedState⟩ := step
      rw [follow?, Option.ite_none_right_eq_some] at followed
      obtain ⟨kept, later⟩ := followed
      exact inductionHypothesis (getElem?_redistribute rejectedState here named kept) later

/-- The recipients of a redistributed mail name the first list they belong to, unless they named
one when they arrived, and keep everything else; those of the copy are as they were.  However
often a mail is redistributed, a recipient that stays and names a list does not change. -/
theorem redistribute_headed (mail : Mail) (outcomes : List Outcome) (rejectedState : MailState) :
    List.Forall₂ (Headed (mail.addresses.zip outcomes))
        (arrivals (mail.addresses.zip outcomes) [] (mail.recipients.zip outcomes))
        (mail.redistribute outcomes rejectedState).continuing.recipients ∧
      (∀ copy, (mail.redistribute outcomes rejectedState).rejected = some copy →
        copy.recipients ⊆ mail.recipients) ∧
      ∀ steps place last recipient, mail.recipients[place]? = some recipient →
        (recipient.header? "List-Id").isSome = true → mail.follow? steps place = some last →
          (mail.redistributeAll steps).recipients[last]? = some recipient := by
  refine ⟨?_, ?_, fun steps place last recipient => getElem?_redistributeAll⟩
  · obtain ⟨state, known, recipients⟩ := mail.recipients_redistribute outcomes rejectedState
    rw [recipients, List.forall₂_map_right_iff, List.forall₂_same]
    exact fun recipient _ => headed_annotate known recipient
  · intro copy divided
    rw [rejected_redistribute, Option.ite_none_left_eq_some] at divided
    obtain ⟨_, same⟩ := divided
    cases same
    intro recipient here
    obtain ⟨entry, among, rfl⟩ := List.mem_map.mp (Recipient.firsts_subset _ here)
    exact (List.of_mem_zip (List.mem_of_mem_filter among)).1

end Mail

open Sample in
/-- The reader was told a list already, the writer is told the first of the two. -/
example :
    (({ Mail.make "1" (some writer) [crew, team, writer] with
        recipients := [⟨reader, [("list-id", "<desk@example.org>")]⟩, .ofAddress crew,
          .ofAddress team, .ofAddress writer] } : Mail).redistribute
        [.keep, .expand (.ofList [writer]), .expand (.ofList [reader, writer]), .keep]
        .failed).continuing.recipients =
      [⟨reader, [("list-id", "<desk@example.org>")]⟩,
        ⟨writer, [("List-Id", "<crew@lists.example.org>"),
          ("List-Post", "<mailto:crew@lists.example.org>")]⟩] := by
  decide +kernel

end Listmaster
