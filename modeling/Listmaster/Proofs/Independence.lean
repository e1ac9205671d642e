import Listmaster.Proofs.Process

/-!
Each recipient is decided on its own.

`Service.Settles` is a table of the outcomes of a recipient by its address, the sender, the
recorded lists and the directory.  Members and owners stand in it as they are expanded in
an empty session.  Of a run that succeeds the table holds for every recipient, and from
every session that is faithful to the directory the same is decided.
-/

namespace Listmaster

namespace Service

/-- The addresses behind these references, expanded without knowing anything. -/
def behind (service : Service) (references : AddressSet) (guard : LoopGuard) :
    Except DirectoryError AddressSet :=
  (service.resolver.expand service.limits references guard .empty).outcome

/-- What the directory answers about an address. -/
def lookup (service : Service) (address : Address) : Except DirectoryError (Option Group) :=
  (service.resolver.directory (service.resolver.question address)).outcome

/-- The sender may post to a group, by the policy that is applied to it. -/
def MayPost (service : Service) (sender : Option Address) (guard : LoopGuard) (list : Address)
    (group : Group) : Prop :=
  match service.policy group with
  | some .everyone => True
  | some .internal | some .anyLocal =>
      ∃ author, sender = some author ∧ service.resolver.classifier.isLocal author = true
  | some .domainRestricted =>
      ∃ author, sender = some author ∧
        author.isInDomain (service.resolver.classifier.servingDomain list) = true
  | some .memberRestricted =>
      ∃ author members, sender = some author ∧
        service.behind group.members (guard.record list) = .ok members ∧ author ∈ members
  | some .ownerRestricted =>
      ∃ author owners, sender = some author ∧
        service.behind group.owners (guard.record list) = .ok owners ∧
        owners ≠ ∅ ∧ author ∈ owners
  | some .unrecognized | none => False

/-- The outcomes of a recipient, each with its reasons. -/
structure Settles (service : Service) (sender : Option Address) (guard : LoopGuard)
    (recipient : Address) (outcome : Outcome) : Prop where
  keep :
    outcome = .keep ↔
      service.resolver.classifier.isCandidate recipient = false ∨
        (¬ recipient ∈ guard.recorded ∧ service.lookup recipient = .ok none)
  drop :
    outcome = .drop ↔
      service.resolver.classifier.isCandidate recipient = true ∧ recipient ∈ guard.recorded
  expand (members : AddressSet) :
    outcome = .expand members ↔
      service.resolver.classifier.isCandidate recipient = true ∧
        ¬ recipient ∈ guard.recorded ∧
        ∃ group, service.lookup recipient = .ok (some group) ∧
          service.MayPost sender guard recipient group ∧
          service.behind group.members (guard.record recipient) = .ok members
  reject :
    outcome = .reject ↔
      service.resolver.classifier.isCandidate recipient = true ∧
        ¬ recipient ∈ guard.recorded ∧
        ∃ group, service.lookup recipient = .ok (some group) ∧
          ¬ service.MayPost sender guard recipient group

variable {service : Service} {sender : Option Address} {guard : LoopGuard}
  {list recipient : Address} {group : Group}

theorem behind_eq_gather (references : AddressSet) (guard : LoopGuard) :
    service.behind references guard =
      (service.resolver.gather service.limits references guard).map Survey.found :=
  Resolver.expand_outcome service.limits references guard (Session.Faithful.empty _)

theorem groupAt_eq_lookup
    (candidate : service.resolver.classifier.isCandidate recipient = true) :
    service.resolver.groupAt recipient = service.lookup recipient := by
  simp [Resolver.groupAt, lookup, candidate]

theorem ne_empty_of_mem {s : AddressSet} {x : Address} (here : x ∈ s) : s ≠ ∅ := by
  rintro rfl
  exact SortedSet.not_mem_empty x here

/-- The sender is accepted if and only if the policy lets the sender post. -/
theorem accepts_iff_mayPost {allowed : Bool}
    (accepted : service.accepts sender (guard.record list) list group = .ok allowed) :
    allowed = true ↔ service.MayPost sender guard list group := by
  unfold accepts at accepted
  unfold MayPost
  simp only [behind_eq_gather]
  cases policy : service.policy group with
  | none =>
      simp only [policy] at accepted
      cases accepted
      simp
  | some category =>
      cases sender with
      | none =>
          cases category with
          | everyone =>
              simp only [policy] at accepted
              cases accepted
              simp
          | _ =>
              simp only [policy] at accepted
              cases accepted
              simp
      | some author =>
          cases category with
          | everyone | internal | anyLocal | domainRestricted | unrecognized =>
              simp only [policy] at accepted
              cases accepted
              simp
          | memberRestricted =>
              simp only [policy] at accepted
              cases gathered : service.resolver.gather service.limits group.members
                (guard.record list) with
              | error error =>
                  rw [gathered] at accepted
                  cases accepted
              | ok survey =>
                  rw [gathered] at accepted
                  cases accepted
                  simp [Except.map]
          | ownerRestricted =>
              simp only [policy] at accepted
              cases gathered : service.resolver.gather service.limits group.owners
                (guard.record list) with
              | error error =>
                  rw [gathered] at accepted
                  cases accepted
              | ok survey =>
                  rw [gathered] at accepted
                  cases accepted
                  simp only [Except.map, SortedSet.contains_iff, Option.some.injEq,
                    Except.ok.injEq]
                  constructor
                  · intro here
                    exact ⟨author, survey.found, rfl, rfl, ne_empty_of_mem here, here⟩
                  · rintro ⟨_, _, rfl, rfl, _, here⟩
                    exact here

theorem settles_of_verdict {decision : Decision}
    (decided : service.verdict sender guard recipient = .ok decision) :
    service.Settles sender guard recipient decision.outcome := by
  cases judges_of_verdict decided with
  | other other => constructor <;> simp [other]
  | recorded candidate here => constructor <;> simp [candidate, here]
  | noGroup candidate fresh answer =>
      rw [groupAt_eq_lookup candidate] at answer
      constructor <;> simp [fresh, answer]
  | @accepted group survey fresh answer accepted gathered =>
      have candidate := Resolver.isCandidate_of_groupAt answer
      have mayPost := (accepts_iff_mayPost accepted).mp rfl
      rw [groupAt_eq_lookup candidate] at answer
      constructor <;>
        simp [candidate, fresh, answer, mayPost, behind_eq_gather, gathered, Except.map]
  | @refused group fresh answer refused =>
      have candidate := Resolver.isCandidate_of_groupAt answer
      have mayNot : ¬ service.MayPost sender guard recipient group := fun mayPost =>
        Bool.false_ne_true ((accepts_iff_mayPost refused).mpr mayPost)
      rw [groupAt_eq_lookup candidate] at answer
      constructor <;> simp [candidate, fresh, answer, mayNot]

/-- From every session that is faithful the verdict on a recipient is decided. -/
theorem decide_of_verdict {decision : Decision} {session : Session}
    (decided : service.verdict sender guard recipient = .ok decision)
    (faithful : session.Faithful service.resolver) :
    ∃ after, service.decide sender guard recipient session = .ok decision after ∧
      after.Faithful service.resolver := by
  have spec := decide_spec sender guard recipient faithful
  cases result : service.decide sender guard recipient session with
  | error error after =>
      have failed := (spec.of_error result).1
      rw [decided] at failed
      cases failed
  | ok other after =>
      obtain ⟨known, still⟩ := spec.of_ok result
      rw [decided] at known
      cases known
      exact ⟨after, rfl, still⟩

/-- A run that succeeds decides about each recipient by the verdict, which the table tells and
which every faithful session leads to. -/
theorem process_decides_each (service : Service) (mail : Mail) (copy : Option Mail)
    (succeeded : (service.process mail).outcome = .ok copy) :
    ∃ decisions after,
      service.decideAll mail.sender (.load mail) mail.addresses (opening mail) =
        .ok decisions after ∧
      (service.process mail).mail = (service.conclude mail (.load mail) decisions).continuing ∧
      copy = (service.conclude mail (.load mail) decisions).rejected ∧
      List.Forall₂ (fun recipient decision =>
        service.verdict mail.sender (.load mail) recipient = .ok decision ∧
        service.Settles mail.sender (.load mail) recipient decision.outcome ∧
        ∀ session : Session, session.Faithful service.resolver →
          ∃ later, service.decide mail.sender (.load mail) recipient session =
            .ok decision later) mail.addresses decisions := by
  have spec := decideAll_spec mail.sender (.load mail) mail.addresses
    (opening_faithful mail service.resolver)
  obtain ⟨decisions, all, after, rejected⟩ := process_of_ok succeeded
  cases result : service.decideAll mail.sender (.load mail) mail.addresses (opening mail) with
  | error error session =>
      have failed := (spec.of_error result).1
      rw [all] at failed
      cases failed
  | ok others session =>
      have known := (spec.of_ok result).1
      rw [all] at known
      cases known
      refine ⟨decisions, session, rfl, after, rejected, ?_⟩
      apply (verdicts_eq_ok_iff.mp all).imp
      intro recipient decision decided
      refine ⟨decided, settles_of_verdict decided, ?_⟩
      intro session faithful
      obtain ⟨later, same, _⟩ := decide_of_verdict decided faithful
      exact ⟨later, same⟩

theorem process_decides_each_sample :
    ∃ decisions : List Decision,
      List.Forall₂ (fun recipient decision =>
        Sample.service.Settles Sample.mail.sender (.load Sample.mail) recipient
          decision.outcome) [Sample.team, Sample.crew] decisions := by
  obtain ⟨decisions, _, _, _, _, each⟩ :=
    process_decides_each Sample.service Sample.mail none Sample.outcome_process
  refine ⟨decisions, ?_⟩
  apply each.imp
  intro recipient decision known
  exact known.2.1

end Service

end Listmaster
