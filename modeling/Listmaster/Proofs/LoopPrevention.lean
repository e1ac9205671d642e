import Listmaster.Proofs.Survey.Reach
import Listmaster.Proofs.Unasked

/-!
Lists that were expanded are not expanded again.

Calls with one mail follow each other; between two of them everything may change but the
record of the lists, the service and its directory included.  The record never shrinks, a
successful call records every list that it expands, and a call leaves the recorded lists
aside.
-/

namespace Listmaster

/-- The service with another directory. -/
def Service.withDirectory (service : Service) (directory : Directory) : Service :=
  { service with resolver := { service.resolver with directory } }

/-- A call of a service with a mail. -/
structure Call where
  service : Service
  mail : Mail

namespace Call

/-- What the service does. -/
def run (call : Call) : Service.Run := call.service.process call.mail

/-- The lists that the mail records at first. -/
def before (call : Call) : LoopGuard := .load call.mail

/-- The lists that the mail records in the end. -/
def after (call : Call) : LoopGuard := .load call.run.mail

/-- The call ends without an error. -/
def Succeeds (call : Call) : Prop := ∃ copy, call.run.outcome = .ok copy

/-- The later call has the record that the earlier one left. -/
def Precedes (earlier later : Call) : Prop :=
  later.mail.attributes.get? LoopGuard.attributeName =
    earlier.run.mail.attributes.get? LoopGuard.attributeName

/-- The list is a recipient to which the sender may post, or a group that is entered for the
members of one. -/
def Expands (call : Call) (list : Address) : Prop :=
  ∃ recipient ∈ call.mail.addresses, ∃ survey,
    call.service.Expands call.mail.sender call.before recipient survey ∧
      (list = recipient ∨ list ∈ survey.entered)

/-- The call leaves the list aside. -/
structure Ignores (call : Call) (list : Address) : Prop where
  notAsked :
    Event.lookup (call.service.resolver.question list) ∈ call.run.events →
      call.service.resolver.directory.Tells (.lookup (call.service.resolver.question list))
  notExpanded : ¬ call.Expands list
  notFound : ∀ recipient references survey,
    call.service.resolver.gather call.service.limits references
      (call.before.record recipient) = .ok survey →
    ¬ list ∈ survey.found ∧ ¬ list ∈ survey.entered
  irrelevant : ∀ directory : Directory,
    (∀ question, question ≠ call.service.resolver.question list →
      directory question = call.service.resolver.directory question) →
    ((call.service.withDirectory directory).process call.mail).mail = call.run.mail ∧
      ((call.service.withDirectory directory).process call.mail).outcome = call.run.outcome
  removed :
    call.Succeeds → call.service.resolver.classifier.isCandidate list = true →
      ¬ list ∈ call.run.mail.addresses ∧
        ∀ copy, call.run.outcome = .ok (some copy) → ¬ list ∈ copy.addresses

end Call

namespace Service

variable {service : Service} {directory : Directory} {sender : Option Address}
  {guard : LoopGuard} {list recipient x : Address} {group reshaped : Group}

section Substitution

variable (gathered : ∀ references,
    (service.withDirectory directory).resolver.gather service.limits references guard =
      service.resolver.gather service.limits references guard)
include gathered

theorem accepts_withDirectory (category : reshaped.category = group.category)
    (members : reshaped.members = group.members) (owners : reshaped.owners = group.owners) :
    (service.withDirectory directory).accepts sender guard list reshaped =
      service.accepts sender guard list group := by
  have policy : (service.withDirectory directory).policy reshaped = service.policy group := by
    unfold Service.policy
    rw [category]
    rfl
  unfold accepts
  rw [policy, members, owners]
  simp only [← gathered]
  rfl

theorem listVerdict_withDirectory (category : reshaped.category = group.category)
    (members : reshaped.members = group.members) (owners : reshaped.owners = group.owners) :
    (service.withDirectory directory).listVerdict sender guard list reshaped =
      service.listVerdict sender guard list group := by
  unfold listVerdict
  rw [accepts_withDirectory gathered category members owners, members, ← gathered]
  rfl

end Substitution

/-- A verdict depends on what the directory answers about the recipient, unless it is recorded, and
on what is behind it. -/
theorem verdict_withDirectory
    (gathered : ∀ references,
      (service.withDirectory directory).resolver.gather service.limits references
          (guard.record recipient) =
        service.resolver.gather service.limits references (guard.record recipient))
    (same : ¬ recipient ∈ guard.recorded →
      SameMembers (service.resolver.groupAt recipient)
        ((service.withDirectory directory).resolver.groupAt recipient))
    (rights : ∀ group reshaped, service.resolver.groupAt recipient = .ok (some group) →
      (service.withDirectory directory).resolver.groupAt recipient = .ok (some reshaped) →
      ¬ recipient ∈ guard.recorded →
      reshaped.category = group.category ∧ reshaped.owners = group.owners) :
    (service.withDirectory directory).verdict sender guard recipient =
      service.verdict sender guard recipient := by
  by_cases recorded : recipient ∈ guard.recorded
  · have visited : guard.wasVisited recipient = true := LoopGuard.wasVisited_iff.mpr recorded
    unfold verdict
    simp only [visited, if_true]
    rfl
  · have first := same recorded
    unfold verdict
    cases answer : service.resolver.groupAt recipient with
    | error error =>
        rw [answer] at first
        rw [first.of_error]
        rfl
    | ok known =>
        rw [answer] at first
        cases known with
        | none =>
            rw [first.of_leaf]
            rfl
        | some group =>
            obtain ⟨reshaped, answerToo, members⟩ := first.of_group
            obtain ⟨category, owners⟩ := rights group reshaped answer answerToo recorded
            rw [answerToo]
            simp only [listVerdict_withDirectory gathered category members owners]
            rfl

theorem process_withDirectory_of_verdict {mail : Mail}
    (same : ∀ recipient ∈ mail.addresses,
      (service.withDirectory directory).verdict mail.sender (.load mail) recipient =
        service.verdict mail.sender (.load mail) recipient) :
    ((service.withDirectory directory).process mail).mail = (service.process mail).mail ∧
      ((service.withDirectory directory).process mail).outcome =
        (service.process mail).outcome := by
  have verdicts :
      (service.withDirectory directory).verdicts mail.sender (.load mail) mail.addresses =
        service.verdicts mail.sender (.load mail) mail.addresses := by
    generalize mail.addresses = recipients at same
    induction recipients with
    | nil => rfl
    | cons recipient rest inductionHypothesis =>
        rw [verdicts_cons, verdicts_cons, same recipient List.mem_cons_self,
          inductionHypothesis fun other later => same other (List.mem_cons_of_mem _ later)]
  have first := process_spec service mail
  have second := process_spec (service.withDirectory directory) mail
  rw [verdicts] at second
  cases all : service.verdicts mail.sender (.load mail) mail.addresses with
  | error error =>
      rw [all] at first second
      exact ⟨second.1.trans first.1.symm, second.2.trans first.2.symm⟩
  | ok decisions =>
      rw [all] at first second
      exact ⟨second.1.trans first.1.symm, second.2.trans first.2.symm⟩

section Irrelevance

variable (same : ∀ question, question ≠ service.resolver.question x →
  directory question = service.resolver.directory question)
include same

theorem groupAt_withDirectory (y : Address) (other : y ≠ x) :
    (service.withDirectory directory).resolver.groupAt y = service.resolver.groupAt y := by
  have question : service.resolver.question y ≠ service.resolver.question x :=
    fun equal => other (Resolver.question_injective equal)
  have answer := same (service.resolver.question y) question
  unfold Resolver.groupAt
  rw [← answer]
  rfl

theorem gather_withDirectory (references : AddressSet) (recorded : x ∈ guard.recorded) :
    (service.withDirectory directory).resolver.gather service.limits references guard =
      service.resolver.gather service.limits references guard := by
  apply Survey.explore_congr
  intro reference _ y reaches
  have other : y ≠ x := fun itself => reaches.end_fresh (itself ▸ recorded)
  rw [groupAt_withDirectory same y other]
  rfl

/-- What the directory answers about a recorded address makes no difference to a run. -/
theorem process_withDirectory (mail : Mail) (recorded : x ∈ (LoopGuard.load mail).recorded) :
    ((service.withDirectory directory).process mail).mail = (service.process mail).mail ∧
      ((service.withDirectory directory).process mail).outcome =
        (service.process mail).outcome := by
  apply process_withDirectory_of_verdict
  intro recipient _
  have other (fresh : ¬ recipient ∈ (LoopGuard.load mail).recorded) : recipient ≠ x :=
    fun itself => fresh (itself ▸ recorded)
  apply verdict_withDirectory
  · intro references
    exact gather_withDirectory same references (LoopGuard.mem_record.mpr (.inr recorded))
  · intro fresh
    rw [groupAt_withDirectory same recipient (other fresh)]
    rfl
  · intro group reshaped answer answerToo fresh
    rw [groupAt_withDirectory same recipient (other fresh), answer] at answerToo
    cases answerToo
    exact ⟨rfl, rfl⟩

end Irrelevance

end Service

namespace Call

variable {call earlier later : Call} {list : Address}

theorem before_subset_after (call : Call) : call.before.recorded ⊆ call.after.recorded := by
  intro x recorded
  unfold after run
  cases result : (call.service.process call.mail).outcome with
  | error error =>
      rw [Service.mail_process_of_error result]
      exact recorded
  | ok copy => exact (Service.mem_load_process result x).mpr (.inl recorded)

theorem Precedes.same_record (precedes : Precedes earlier later) :
    later.before = earlier.after := LoopGuard.load_congr precedes

theorem recorded_of_expands (succeeds : call.Succeeds) (expands : call.Expands list) :
    list ∈ call.after.recorded := by
  obtain ⟨copy, succeeded⟩ := succeeds
  obtain ⟨recipient, here, survey, expands, reason⟩ := expands
  apply (Service.mem_load_process succeeded list).mpr
  refine .inr ⟨recipient, here, survey, expands, ?_⟩
  rcases reason with same | entered
  · exact same ▸ expands.list_recorded
  · exact expands.entered_recorded entered

/-- No survey finds or enters a recorded list. -/
theorem not_found_of_recorded {service : Service} {guard : LoopGuard} {references : AddressSet}
    {survey : Survey} (recorded : list ∈ guard.recorded)
    (gathered : service.resolver.gather service.limits references guard = .ok survey) :
    ¬ list ∈ survey.found ∧ ¬ list ∈ survey.entered := by
  have growth := (Survey.explore_eq_ok_iff.mp gathered).growth
  constructor
  · intro found
    rcases growth.newlyFound list found with none | ⟨fresh, _⟩
    · exact SortedSet.not_mem_empty list none
    · exact fresh recorded
  · intro entered
    rcases growth.newlyEntered list entered with none | ⟨fresh, _⟩
    · cases none
    · exact fresh recorded

theorem not_expands_of_recorded (recorded : list ∈ call.before.recorded) :
    ¬ call.Expands list := by
  rintro ⟨recipient, _, survey, ⟨group, fresh, _, _, gathered⟩, same | entered⟩
  · exact fresh (same ▸ recorded)
  · exact (not_found_of_recorded (LoopGuard.mem_record.mpr (.inr recorded)) gathered).2 entered

theorem removed_of_recorded (recorded : list ∈ call.before.recorded) (succeeds : call.Succeeds)
    (candidate : call.service.resolver.classifier.isCandidate list = true) :
    ¬ list ∈ call.run.mail.addresses ∧
      ∀ copy, call.run.outcome = .ok (some copy) → ¬ list ∈ copy.addresses := by
  obtain ⟨copy, succeeded⟩ := succeeds
  constructor
  · intro here
    rcases (Service.mem_addresses_process succeeded list).mp here with
      ⟨_, stays⟩ | ⟨recipient, _, survey, expands, found⟩
    · exact (stays candidate).1 recorded
    · exact (expands.leaf_of_found found).1 recorded
  · intro rejected result here
    obtain ⟨_, records, refused⟩ :=
      (Service.mem_addresses_copy result list).mp ⟨rejected, rfl, here⟩
    cases Service.judges_of_verdict refused with
    | refused fresh => exact fresh recorded

theorem ignores_of_recorded (recorded : list ∈ call.before.recorded) : call.Ignores list where
  notAsked := Service.process_unasked call.service call.mail recorded
  notExpanded := not_expands_of_recorded recorded
  notFound _ _ _ := not_found_of_recorded (LoopGuard.mem_record.mpr (.inr recorded))
  irrelevant _ same := Service.process_withDirectory same call.mail recorded
  removed := removed_of_recorded recorded

instance : Trans (fun earlier later : Call => earlier.after.recorded ⊆ later.before.recorded)
    (fun earlier later : Call => earlier.after.recorded ⊆ later.before.recorded)
    (fun earlier later : Call => earlier.after.recorded ⊆ later.before.recorded) where
  trans {_ middle _} first second :=
    SortedSet.Subset.trans (SortedSet.Subset.trans first (before_subset_after middle)) second

/-- In a sequence of calls the record never shrinks, and a list that a call expands is left
aside by every later one. -/
theorem ignores_of_expands_earlier (calls : List Call) (sequence : calls.IsChain Precedes) :
    (∀ call ∈ calls, call.before.recorded ⊆ call.after.recorded) ∧
      calls.Pairwise fun earlier later =>
        earlier.after.recorded ⊆ later.before.recorded ∧
          ∀ list, earlier.Succeeds → earlier.Expands list → later.Ignores list := by
  refine ⟨fun call _ => before_subset_after call, ?_⟩
  have kept : calls.IsChain fun earlier later =>
      earlier.after.recorded ⊆ later.before.recorded := by
    apply sequence.imp
    intro earlier later precedes
    rw [precedes.same_record]
    exact SortedSet.Subset.refl _
  apply kept.pairwise.imp
  intro earlier later grown
  refine ⟨grown, ?_⟩
  intro list succeeds expands
  exact ignores_of_recorded (grown list (recorded_of_expands succeeds expands))

end Call

namespace Sample

/-- The team gets a mail. -/
def first : Call := ⟨service, .make "1" (some writer) [team]⟩

/-- The mail goes on to the crew, from another sender and with a directory that lost the team. -/
def second : Call where
  service := service.withDirectory
    (StaticDirectory.empty.withGroup crew (openGroup [reader, team])).toDirectory
  mail := { first.run.mail with recipients := [.ofAddress crew], sender := none }

theorem gather_team :
    service.resolver.gather service.limits (openGroup [crew, reader]).members
        (LoopGuard.empty.record team) =
      .ok ((((Survey.start (LoopGuard.empty.record team)).enter crew).add 2 writer).add 2
        reader) := by
  have members : (openGroup [crew, reader]).members.toList = [crew, reader] := by decide
  unfold Resolver.gather
  rw [members, Survey.explore_eq_ok_iff]
  exact .nest (by decide) groupAt_crew
    (.skip (by decide) (.leaf (by decide) (by decide) .done))
    (.leaf (by decide) (by decide) .done)

theorem expands_crew : first.Expands crew :=
  ⟨team, by decide, _, ⟨openGroup [crew, reader], by decide, groupAt_team, rfl, gather_team⟩,
    .inr (by decide)⟩

end Sample

theorem Call.ignores_of_expands_earlier_sample :
    [Sample.first, Sample.second].IsChain Call.Precedes ∧ Sample.second.Ignores Sample.crew := by
  have sequence : [Sample.first, Sample.second].IsChain Call.Precedes :=
    .cons_cons rfl (.singleton _)
  have later := (Call.ignores_of_expands_earlier [Sample.first, Sample.second] sequence).2
  rw [List.pairwise_pair] at later
  exact ⟨sequence, later.2 Sample.crew ⟨none, by decide⟩ Sample.expands_crew⟩

end Listmaster
