import Listmaster.Proofs.Failure

/-!
A description of a list tells what a mail to it meets.

`Service.describe` expands members and owners at once, `Service.process` what the policy asks
for.  `describe_spec` says which surveys a report holds; they are those by which a mail to the
list alone is decided, so that the run honors the description.
-/

namespace Listmaster

/-- The policy that is reported accepts the sender. -/
def ListReport.Accepts (report : ListReport) (classifier : Classifier)
    (sender : Option Address) : Prop :=
  match report.policy with
  | some .everyone => True
  | some .internal | some .anyLocal =>
      ∃ author, sender = some author ∧ classifier.isLocal author = true
  | some .domainRestricted =>
      ∃ author, sender = some author ∧
        author.isInDomain (classifier.servingDomain report.address) = true
  | some .memberRestricted => ∃ author, sender = some author ∧ author ∈ report.members
  | some .ownerRestricted => ∃ author, sender = some author ∧ author ∈ report.owners
  | some .unrecognized | none => False

/-- A run with a mail to one address does what the description of the address says. -/
def Service.Run.Honors (run : Service.Run) (classifier : Classifier) (mail : Mail)
    (list : Address) : Option ListReport → Prop
  | none => run.outcome = .ok none ∧ run.mail = mail
  | some report =>
      (∃ copy, run.outcome = .ok copy) ∧
        (run.outcome = .ok none ↔ report.Accepts classifier mail.sender) ∧
        (report.Accepts classifier mail.sender →
          run.mail.addresses = report.members.toList) ∧
        (¬ report.Accepts classifier mail.sender →
          run.mail.state = .ghost ∧ run.mail.addresses = [] ∧
            ∃ copy, run.outcome = .ok (some copy) ∧ copy.addresses = [list])

namespace Mail

variable {mail : Mail} {recipient : Recipient}

theorem recipients_of_addresses {list : Address} (only : mail.addresses = [list]) :
    ∃ recipient, mail.recipients = [recipient] ∧ recipient.address = list :=
  List.map_eq_singleton_iff.mp only

theorem redistribute_expand (only : mail.recipients = [recipient]) (members : AddressSet)
    (rejectedState : MailState) :
    (mail.redistribute [.expand members] rejectedState).continuing.addresses =
        members.toList ∧
      (mail.redistribute [.expand members] rejectedState).rejected = none := by
  have start : Redistribution.start [(recipient, .expand members)] = ⟨∅, [], [], ∅⟩ := rfl
  obtain ⟨continuing, rejected, _⟩ := Redistribution.foldl_addMember recipient.address
    members.nodup_toList ⟨∅, [], [], ∅⟩
  constructor
  · rw [addresses_redistribute]
    simp only [addresses, only, List.map_cons, List.map_nil, List.zip_cons_cons,
      List.zip_nil_left, start, Redistribution.placed, List.append_nil]
    rw [List.filter_eq_self]
    intro member _
    rfl
  · simp only [redistribute, only, List.zip_cons_cons, List.zip_nil_left, List.foldl_cons,
      List.foldl_nil, start, Redistribution.apply, rejected]
    rfl

theorem redistribute_reject (only : mail.recipients = [recipient]) (rejectedState : MailState) :
    mail.redistribute [.reject] rejectedState =
      ⟨{ mail with recipients := [], state := .ghost },
        some (mail.duplicate [recipient] rejectedState)⟩ := by
  simp only [redistribute, only]
  rfl

end Mail

namespace Service

variable {service : Service} {session : Session} {group : Group} {list : Address}
  {sender : Option Address} {mail : Mail} {members owners : Survey}

/-- The report on a group with these members and owners. -/
def reportOf (service : Service) (list : Address) (group : Group) (members owners : AddressSet) :
    ListReport where
  address := list
  location := group.location
  marker := group.category
  category := Category.classify group.category
  policy := service.authorization.effective (Category.classify group.category)
  members := members
  owners := owners

/-- These surveys are what a report on the group at the address holds. -/
structure Surveyed (service : Service) (list : Address) (group : Group)
    (members owners : Survey) : Prop where
  members : service.resolver.gather service.limits group.members
    (LoopGuard.empty.record list) = .ok members
  owners : service.resolver.gather service.limits group.owners
    (LoopGuard.empty.record list) = .ok owners

/-- The members and the owners, expanded one after the other. -/
def everyone (service : Service) (group : Group) (guard : LoopGuard) :
    RosterM (AddressSet × AddressSet) := do
  let members ← service.members group guard
  let owners ← service.owners group guard
  return (members, owners)

theorem everyone_spec {roster : Roster} {guard : LoopGuard}
    (faithful : roster.Faithful service group guard) :
    Ensures (service.everyone group guard) roster
      (fun found _ => ∃ members owners,
        service.resolver.gather service.limits group.members guard = .ok members ∧
        service.resolver.gather service.limits group.owners guard = .ok owners ∧
        found = (members.found, owners.found))
      (fun _ _ => True) := by
  apply Ensures.bind
  apply (members_spec faithful).mono
  · rintro found middle ⟨still, members, gathered, rfl, _⟩
    apply Ensures.bind
    apply (owners_spec still).mono
    · rintro found after ⟨_, owned⟩
      cases second : service.resolver.gather service.limits group.owners guard with
      | error error =>
          rw [second] at owned
          cases owned
      | ok owners =>
          rw [second] at owned
          cases owned
          exact ⟨members, owners, gathered, rfl, rfl⟩
    · exact fun _ _ _ => trivial
  · exact fun _ _ _ => trivial

theorem report_spec (list : Address) (group : Group)
    (faithful : session.Faithful service.resolver) :
    Ensures (service.report list group) session
      (fun report _ => ∃ members owners, service.Surveyed list group members owners ∧
        report = service.reportOf list group members.found owners.found)
      (fun _ _ => True) := by
  unfold report
  apply Ensures.bind
  apply (classify_spec faithful).mono
  · rintro category middle ⟨rfl, still⟩
    have known : Roster.Faithful ⟨middle, none, none⟩ service group
        (LoopGuard.empty.record list) := ⟨still, nofun, nofun⟩
    have spec := everyone_spec known
    have same : (do
        let members ← service.members group (LoopGuard.empty.record list)
        let owners ← service.owners group (LoopGuard.empty.record list)
        return (members, owners) : RosterM (AddressSet × AddressSet)) =
        service.everyone group (LoopGuard.empty.record list) := rfl
    dsimp only
    rw [same]
    cases result : service.everyone group (LoopGuard.empty.record list)
        ⟨middle, none, none⟩ with
    | error error after =>
        refine Ensures.intro_error (show _ = EStateM.Result.error error after.session from ?_)
          trivial
        simp only [result]
    | ok found after =>
        obtain ⟨members, owners, first, second, rfl⟩ := spec.of_ok result
        refine Ensures.intro_ok (show _ = EStateM.Result.ok
          (service.reportOf list group members.found owners.found) after.session from ?_)
          ⟨members, owners, ⟨first, second⟩, rfl⟩
        simp only [result]
        rfl
  · rintro error after ⟨⟩

/-- A description tells that there is no list, or reports on its group. -/
theorem describe_spec (list : Address) (faithful : session.Faithful service.resolver) :
    Ensures (service.describe list) session
      (fun answer _ =>
        match answer with
        | none => service.resolver.groupAt list = .ok none
        | some report => ∃ group members owners,
            service.resolver.groupAt list = .ok (some group) ∧
            service.Surveyed list group members owners ∧
            report = service.reportOf list group members.found owners.found)
      (fun _ _ => True) := by
  unfold describe
  refine (attributed_spec (?_ : Ensures _ session _ fun _ _ => True)).mono
    (fun _ _ held => held) fun _ _ _ => trivial
  apply Ensures.bind
  apply (Resolver.resolve_spec list faithful).mono
  · rintro known middle ⟨answer, still⟩
    cases known with
    | none => exact answer
    | some group =>
        apply Ensures.bind
        apply (report_spec list group still).mono
        · rintro report after ⟨members, owners, surveyed, same⟩
          exact ⟨group, members, owners, answer, surveyed, same⟩
        · exact fun _ _ _ => trivial
  · exact fun _ _ _ => trivial

theorem Surveyed.accepts (surveyed : service.Surveyed list group members owners)
    (sender : Option Address) :
    ∃ allowed, service.accepts sender (LoopGuard.empty.record list) list group = .ok allowed := by
  cases accepted : service.accepts sender (LoopGuard.empty.record list) list group with
  | ok allowed => exact ⟨allowed, rfl⟩
  | error cause =>
      obtain ⟨references, decisive, failed⟩ := accepts_eq_error_iff.mp accepted
      unfold decisive? at decisive
      split at decisive
      · cases decisive
        rw [surveyed.members] at failed
        cases failed
      · cases decisive
        rw [surveyed.owners] at failed
        cases failed
      · cases decisive

theorem Surveyed.behind (surveyed : service.Surveyed list group members owners) :
    service.behind group.members (LoopGuard.empty.record list) = .ok members.found ∧
      service.behind group.owners (LoopGuard.empty.record list) = .ok owners.found := by
  rw [behind_eq_gather, behind_eq_gather, surveyed.members, surveyed.owners]
  exact ⟨rfl, rfl⟩

/-- The policy accepts the sender if and only if the one that is reported does. -/
theorem Surveyed.mayPost_iff (surveyed : service.Surveyed list group members owners)
    (sender : Option Address) :
    service.MayPost sender .empty list group ↔
      (service.reportOf list group members.found owners.found).Accepts
        service.resolver.classifier sender := by
  obtain ⟨ofMembers, ofOwners⟩ := surveyed.behind
  unfold MayPost ListReport.Accepts reportOf
  rw [effective_classify]
  cases service.policy group with
  | none => rfl
  | some category =>
      cases category with
      | everyone | internal | anyLocal | domainRestricted | unrecognized => rfl
      | memberRestricted =>
          simp only [ofMembers]
          constructor
          · rintro ⟨author, _, present, ⟨⟩, here⟩
            exact ⟨author, present, here⟩
          · rintro ⟨author, present, here⟩
            exact ⟨author, members.found, present, rfl, here⟩
      | ownerRestricted =>
          simp only [ofOwners]
          constructor
          · rintro ⟨author, _, present, ⟨⟩, _, here⟩
            exact ⟨author, present, here⟩
          · rintro ⟨author, present, here⟩
            exact ⟨author, owners.found, present, rfl, ne_empty_of_mem here, here⟩

theorem process_of_verdict {decision : Decision} (only : mail.addresses = [list])
    (decided : service.verdict mail.sender (.load mail) list = .ok decision) :
    (service.process mail).mail = (service.conclude mail (.load mail) [decision]).continuing ∧
      (service.process mail).outcome =
        .ok (service.conclude mail (.load mail) [decision]).rejected := by
  have all : service.verdicts mail.sender (.load mail) mail.addresses = .ok [decision] := by
    rw [only]
    exact verdicts_eq_ok_iff.mpr (.cons decided .nil)
  have spec := process_spec service mail
  rwa [all] at spec

theorem process_of_expands {survey : Survey} (only : mail.addresses = [list])
    (expands : service.Expands mail.sender (.load mail) list survey) :
    (service.process mail).outcome = .ok none ∧
      (service.process mail).mail.addresses = survey.found.toList := by
  obtain ⟨recipient, single, _⟩ := Mail.recipients_of_addresses only
  obtain ⟨after, outcome⟩ :=
    process_of_verdict only (verdict_expand_iff.mpr ⟨survey, expands, rfl, rfl⟩)
  obtain ⟨replaced, nobody⟩ :=
    Mail.redistribute_expand single survey.found service.rejectedState
  rw [conclude_of_not_keep (by simp)] at after outcome
  refine ⟨outcome.trans (congrArg Except.ok nobody), ?_⟩
  rw [after, addresses_store]
  exact replaced

theorem process_of_reject {records : LoopGuard} (only : mail.addresses = [list])
    (decided : service.verdict mail.sender (.load mail) list = .ok ⟨.reject, records⟩) :
    (service.process mail).mail.state = .ghost ∧ (service.process mail).mail.addresses = [] ∧
      ∃ copy, (service.process mail).outcome = .ok (some copy) ∧ copy.addresses = [list] := by
  obtain ⟨recipient, single, address⟩ := Mail.recipients_of_addresses only
  obtain ⟨after, outcome⟩ := process_of_verdict only decided
  rw [conclude_of_not_keep (by simp)] at after outcome
  simp only [List.map_cons, List.map_nil,
    Mail.redistribute_reject single service.rejectedState] at after outcome
  refine ⟨?_, ?_, _, outcome, ?_⟩
  · rw [after, state_store]
  · rw [after, addresses_store]
    rfl
  · simp [Mail.addresses, Mail.duplicate, address]

/-- A run with a mail to one address honors the description of the address. -/
theorem process_honors_describe (service : Service) (mail : Mail) (list : Address)
    (answer : Option ListReport) (session : Session) (only : mail.addresses = [list])
    (unrecorded : LoopGuard.load mail = .empty)
    (described : service.describe list .empty = .ok answer session) :
    (service.process mail).Honors service.resolver.classifier mail list answer := by
  have spec := (describe_spec list (Session.Faithful.empty service.resolver)).of_ok described
  have fresh : ¬ list ∈ (LoopGuard.load mail).recorded := by
    rw [unrecorded]
    exact LoopGuard.not_mem_empty list
  cases answer with
  | none =>
      have stay : ∀ other ∈ mail.addresses, service.Stays (.load mail) other := by
        rw [only]
        rintro other here -
        cases List.mem_singleton.mp here
        exact ⟨fresh, spec⟩
      obtain ⟨same, done⟩ := process_of_stays stay
      exact ⟨done, same⟩
  | some report =>
      obtain ⟨group, members, owners, found, surveyed, rfl⟩ := spec
      obtain ⟨allowed, accepted⟩ := surveyed.accepts mail.sender
      have agree := (accepts_iff_mayPost accepted).trans (surveyed.mayPost_iff mail.sender)
      have gathered := surveyed.members
      rw [← unrecorded] at accepted gathered
      cases allowed with
      | true =>
          have accepts := agree.mp rfl
          obtain ⟨alone, delivered⟩ :=
            process_of_expands only ⟨group, fresh, found, accepted, gathered⟩
          exact ⟨⟨none, alone⟩, iff_of_true alone accepts, fun _ => delivered,
            fun refused => absurd accepts refused⟩
      | false =>
          have refused := mt agree.mpr Bool.false_ne_true
          obtain ⟨ghost, nobody, copy, outcome, copied⟩ :=
            process_of_reject only (Judges.refused fresh found accepted).verdict
          have notAlone : ¬ (service.process mail).outcome = .ok none := by
            rw [outcome]
            nofun
          exact ⟨⟨copy, outcome⟩, iff_of_false notAlone refused,
            fun accepts => absurd accepts refused,
            fun _ => ⟨ghost, nobody, copy, outcome, copied⟩⟩

end Service

namespace Sample

theorem describe_board :
    ∃ session, office.describe board .empty =
      .ok (some (office.reportOf board ownerless (.ofList [reader]) ∅)) session :=
  ok_of_run' (by decide +kernel)

theorem describe_team :
    ∃ session, office.describe team .empty =
      .ok (some (office.reportOf team (openGroup [crew, reader])
        (.ofList [reader, writer]) ∅)) session :=
  ok_of_run' (by decide +kernel)

end Sample

theorem Service.process_honors_describe_sample :
    (Sample.office.process (.make "3" (some Sample.reader) [Sample.board])).Honors
        Sample.office.resolver.classifier (.make "3" (some Sample.reader) [Sample.board])
        Sample.board
        (some (Sample.office.reportOf Sample.board Sample.ownerless
          (.ofList [Sample.reader]) ∅)) ∧
      (Sample.office.process (.make "4" none [Sample.team])).Honors
        Sample.office.resolver.classifier (.make "4" none [Sample.team]) Sample.team
        (some (Sample.office.reportOf Sample.team (Sample.openGroup [Sample.crew, Sample.reader])
          (.ofList [Sample.reader, Sample.writer]) ∅)) := by
  obtain ⟨first, board⟩ := Sample.describe_board
  obtain ⟨second, team⟩ := Sample.describe_team
  exact ⟨Service.process_honors_describe _ _ _ _ first rfl (by decide) board,
    Service.process_honors_describe _ _ _ _ second rfl (by decide) team⟩

end Listmaster
