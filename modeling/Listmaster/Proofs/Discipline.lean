import Listmaster.Proofs.Conduct
import Listmaster.Proofs.Directory
import Listmaster.Proofs.Independence

/-!
Which lookups a run makes.

The events of a run tell its lookups in their order, `lookupsOf`.  They are questions about
different addresses, none of them recorded and all of them perhaps lists, and each but the
last one is answered: `Service.Disciplined`.  What a session remembers is what it has asked
about, and this carries the proof.
-/

namespace Listmaster

def Event.lookup? : Event → Option Lookup
  | .lookup question => some question
  | _ => none

/-- The lookups that events tell, in their order. -/
def lookupsOf (events : Array Event) : List Lookup := events.toList.filterMap Event.lookup?

/-- The lookups that are told if the directory is asked about an address: the one that is made,
and what the directory itself tells of lookups. -/
def Resolver.told (r : Resolver) (address : Address) : List Lookup :=
  r.question address :: (r.directory (r.question address)).events.filterMap Event.lookup?

/-- Different addresses that may be lists and are not recorded, all of them answered but perhaps
the last one. -/
structure Resolver.Orderly (r : Resolver) (guard : LoopGuard) (asked : List Address) : Prop where
  once : asked.Nodup
  candidate : ∀ address ∈ asked, r.classifier.isCandidate address = true
  fresh : ∀ address ∈ asked, ¬ address ∈ guard.recorded
  answered : ∀ address ∈ asked.dropLast,
    ∃ known, (r.directory (r.question address)).outcome = .ok known

/-- The session has asked about these addresses, in this order, and remembers the answers. -/
structure Session.Knows (session : Session) (r : Resolver) (guard : LoopGuard)
    (asked : List Address) : Prop where
  orderly : r.Orderly guard asked
  lookups : lookupsOf session.events = asked.flatMap r.told
  remembers : ∀ address ∈ asked, ∃ known, session.memo.get? address = some known ∧
    (r.directory (r.question address)).outcome = .ok known

/-- The events tell of orderly lookups. -/
def Session.Behaves (session : Session) (r : Resolver) (guard : LoopGuard) : Prop :=
  ∃ asked, r.Orderly guard asked ∧ lookupsOf session.events = asked.flatMap r.told

section

variable {r : Resolver} {guard : LoopGuard} {asked : List Address} {address : Address}
  {session : Session}

@[simp]
theorem lookupsOf_tell (session : Session) (notice : Notice) :
    lookupsOf (session.tell notice).events = lookupsOf session.events := by
  simp [lookupsOf, Session.tell, Event.lookup?]

theorem lookupsOf_ask (events : Array Event) (address : Address) :
    lookupsOf (events.push (.lookup (r.question address)) ++
        (r.directory (r.question address)).events) =
      lookupsOf events ++ r.told address := by
  simp [lookupsOf, Resolver.told, Event.lookup?]

theorem Session.Knows.tell (knows : session.Knows r guard asked) (notice : Notice) :
    (session.tell notice).Knows r guard asked where
  orderly := knows.orderly
  lookups := (lookupsOf_tell session notice).trans knows.lookups
  remembers := knows.remembers

theorem Session.Knows.orderly_append (knows : session.Knows r guard asked)
    (candidate : r.classifier.isCandidate address = true) (fresh : ¬ address ∈ guard.recorded)
    (unknown : session.memo.get? address = none) : r.Orderly guard (asked ++ [address]) where
  once := by
    have new : ¬ address ∈ asked := by
      intro before
      obtain ⟨known, remembered, _⟩ := knows.remembers address before
      rw [unknown] at remembered
      cases remembered
    rw [List.nodup_append]
    refine ⟨knows.orderly.once, List.nodup_singleton address, ?_⟩
    rintro other before _ last rfl
    rw [List.mem_singleton] at last
    exact new (last ▸ before)
  candidate other here := by
    rcases List.mem_append.mp here with before | last
    · exact knows.orderly.candidate other before
    · rwa [List.mem_singleton.mp last]
  fresh other here := by
    rcases List.mem_append.mp here with before | last
    · exact knows.orderly.fresh other before
    · rwa [List.mem_singleton.mp last]
  answered other here := by
    rw [List.dropLast_concat] at here
    obtain ⟨known, _, answer⟩ := knows.remembers other here
    exact ⟨known, answer⟩

namespace Resolver

/-- A question that was not asked before is the next lookup, and the last one if it has no
answer. -/
theorem ask_knows (candidate : r.classifier.isCandidate address = true)
    (fresh : ¬ address ∈ guard.recorded) (unknown : session.memo.get? address = none)
    (knows : session.Knows r guard asked) :
    Ensures (r.ask address) session
      (fun _ after => after.Knows r guard (asked ++ [address]))
      (fun _ after => after.Behaves r guard) := by
  have orderly := knows.orderly_append candidate fresh unknown
  have lookups : lookupsOf (session.events.push (.lookup (r.question address)) ++
      (r.directory (r.question address)).events) = (asked ++ [address]).flatMap r.told := by
    rw [lookupsOf_ask, knows.lookups, List.flatMap_append, List.flatMap_singleton]
  unfold Ensures ask
  dsimp only
  cases answer : (r.directory (r.question address)).outcome with
  | error error => exact ⟨asked ++ [address], orderly, lookups⟩
  | ok group =>
      refine ⟨orderly, lookups, ?_⟩
      intro other here
      rcases List.mem_append.mp here with before | last
      · obtain ⟨known, remembered, known?⟩ := knows.remembers other before
        have apart : other ≠ address := by
          rintro rfl
          rw [unknown] at remembered
          cases remembered
        refine ⟨known, ?_, known?⟩
        rw [SortedMap.get?_insert, if_neg]
        · exact remembered
        · simpa using apart
      · rw [List.mem_singleton.mp last]
        exact ⟨group, SortedMap.get?_insert_self _ _ _, answer⟩

theorem conduct_knows (r : Resolver) (guard : LoopGuard) :
    Conduct r guard (fun session => ∃ asked, session.Knows r guard asked)
      (fun session => session.Behaves r guard) := by
  apply Conduct.of_ask
  · rintro session notice ⟨asked, knows⟩
    exact ⟨asked, knows.tell notice⟩
  · rintro address session candidate fresh unknown ⟨asked, knows⟩
    apply (ask_knows candidate fresh unknown knows).mono
    · intro _ after still
      exact ⟨_, still⟩
    · intro _ after failed
      exact failed

end Resolver

end

namespace Service

/-- The sender may not post to the group, whoever its members and owners are. -/
def Bars (service : Service) (sender : Option Address) (list : Address) (group : Group) : Prop :=
  match service.policy group with
  | some .everyone => False
  | some .internal | some .anyLocal =>
      ∀ author, sender = some author → service.resolver.classifier.isLocal author = false
  | some .domainRestricted =>
      ∀ author, sender = some author →
        author.isInDomain (service.resolver.classifier.servingDomain list) = false
  | some .memberRestricted | some .ownerRestricted => sender = none
  | some .unrecognized | none => True

/-- The lookups of a run: it asked about these addresses, in this order. -/
structure Disciplined (service : Service) (mail : Mail) (asked : List Address) : Prop extends
    service.resolver.Orderly (.load mail) asked where
  lookups : lookupsOf (service.process mail).events = asked.flatMap service.resolver.told
  /-- The lookups are all about the configured base and attribute, if the directory does not tell
  of others. -/
  questions : (∀ question, ¬ service.resolver.directory.Tells (.lookup question)) →
    lookupsOf (service.process mail).events = asked.map service.resolver.question
  /-- When a run comes to a list to which the sender may not post anyway, it asks about the list
  only. -/
  spared : ∀ earlier list later decisions session group,
    mail.addresses = earlier ++ list :: later →
    service.decideAll mail.sender (.load mail) earlier (opening mail) = .ok decisions session →
    service.resolver.classifier.isCandidate list = true →
    ¬ list ∈ (LoopGuard.load mail).recorded →
    service.lookup list = .ok (some group) → service.Bars mail.sender list group →
    ∃ after,
      service.decide mail.sender (.load mail) list session = .ok ⟨.reject, .empty⟩ after ∧
      lookupsOf after.events = lookupsOf session.events ++
        if (session.memo.get? list).isSome then [] else service.resolver.told list

variable {service : Service} {mail : Mail} {sender : Option Address} {guard : LoopGuard}
  {list : Address} {group : Group} {session : Session}

theorem isAllowed_of_bars (bars : service.Bars sender list group) (membership : Membership RosterM) :
    service.authorization.isAllowed (Category.classify group.category)
      (service.posting sender list) membership = pure false := by
  unfold Bars at bars
  unfold Authorization.isAllowed
  rw [effective_classify]
  cases policy : service.policy group with
  | none => rfl
  | some category =>
      rw [policy] at bars
      cases sender with
      | none =>
          cases category with
          | everyone => cases bars
          | _ => rfl
      | some author =>
          cases category with
          | everyone => cases bars
          | internal | anyLocal => exact congrArg pure (bars author rfl)
          | domainRestricted => exact congrArg pure (bars author rfl)
          | memberRestricted | ownerRestricted => cases bars
          | unrecognized => rfl

/-- A list to which the sender may not post anyway is rejected without a lookup. -/
theorem decideList_of_bars (bars : service.Bars sender list group) (guard : LoopGuard)
    (session : Session) :
    ∃ after, service.decideList sender guard list group session = .ok ⟨.reject, .empty⟩ after ∧
      lookupsOf after.events = lookupsOf session.events := by
  have refused (roster : Roster) :
      service.authorization.authorize (Category.classify group.category)
        (service.posting sender list) (service.membership group guard) roster =
      .ok (.rejected (.singleton list)) roster := by
    unfold Authorization.authorize
    rw [isAllowed_of_bars bars]
    rfl
  have classified : ∃ middle, classify group session =
      .ok (Category.classify group.category) middle ∧
      lookupsOf middle.events = lookupsOf session.events := by
    unfold classify
    dsimp only
    split
    · exact ⟨session.tell .unrecognizedCategory, rfl, lookupsOf_tell session _⟩
    · exact ⟨session, rfl, rfl⟩
  obtain ⟨middle, classified, same⟩ := classified
  refine ⟨middle.tell .senderNotAllowed, ?_, (lookupsOf_tell middle _).trans same⟩
  unfold decideList
  simp only [bind, EStateM.bind, classified, refused]

theorem decide_of_bars (faithful : session.Faithful service.resolver)
    (candidate : service.resolver.classifier.isCandidate list = true)
    (fresh : ¬ list ∈ guard.recorded) (found : service.lookup list = .ok (some group))
    (bars : service.Bars sender list group) :
    ∃ after, service.decide sender guard list session = .ok ⟨.reject, .empty⟩ after ∧
      lookupsOf after.events = lookupsOf session.events ++
        if (session.memo.get? list).isSome then [] else service.resolver.told list := by
  have notVisited := LoopGuard.wasVisited_eq_false_iff.mpr fresh
  have resolved : ∃ middle, service.resolver.resolve list session = .ok (some group) middle ∧
      lookupsOf middle.events = lookupsOf session.events ++
        if (session.memo.get? list).isSome then [] else service.resolver.told list := by
    cases remembered : session.memo.get? list with
    | some known =>
        have same := faithful list known remembered
        rw [groupAt_eq_lookup candidate, found] at same
        cases same
        exact ⟨session, Resolver.resolve_of_remembered candidate remembered, by simp⟩
    | none =>
        have answer : (service.resolver.directory (service.resolver.question list)).outcome =
          .ok (some group) := found
        rw [Resolver.resolve_of_unknown candidate remembered]
        refine ⟨_, by simp only [Resolver.ask, answer]; rfl, ?_⟩
        exact lookupsOf_ask session.events list
  obtain ⟨middle, resolved, lookups⟩ := resolved
  obtain ⟨after, decided, same⟩ := decideList_of_bars bars (guard.record list) middle
  refine ⟨after, ?_, same.trans lookups⟩
  unfold decide
  simp only [candidate, notVisited, Bool.not_true, Bool.false_eq_true, if_false, bind,
    EStateM.bind, resolved, decided]

theorem lookupsOf_opening (mail : Mail) : lookupsOf (opening mail).events = [] := by
  unfold opening
  split
  · rw [lookupsOf_tell]
    rfl
  · rfl

theorem opening_knows (mail : Mail) (r : Resolver) (guard : LoopGuard) :
    (opening mail).Knows r guard [] where
  orderly := ⟨.nil, nofun, nofun, nofun⟩
  lookups := lookupsOf_opening mail
  remembers := nofun

theorem process_behaves (service : Service) (mail : Mail) :
    ∃ asked, service.resolver.Orderly (.load mail) asked ∧
      lookupsOf (service.process mail).events = asked.flatMap service.resolver.told := by
  have conduct := service.resolver.conduct_knows (.load mail)
  have decided := conduct.decideAll mail.sender mail.addresses (opening mail)
    ⟨[], opening_knows mail _ _⟩
  rw [process_eq]
  cases result : service.decideAll mail.sender (.load mail) mail.addresses (opening mail) with
  | error error after => exact decided.of_error result
  | ok decisions after =>
      obtain ⟨asked, knows⟩ := decided.of_ok result
      exact ⟨asked, knows.orderly, knows.lookups⟩

/-- The lookups of every run are disciplined. -/
theorem process_disciplined (service : Service) (mail : Mail) :
    ∃ asked, service.Disciplined mail asked := by
  obtain ⟨asked, orderly, lookups⟩ := process_behaves service mail
  refine ⟨asked, orderly, lookups, ?_, ?_⟩
  · intro quiet
    have told (address : Address) :
        service.resolver.told address = [service.resolver.question address] := by
      have none : (service.resolver.directory (service.resolver.question address)).events.filterMap
          Event.lookup? = [] := by
        rw [List.filterMap_eq_nil_iff]
        intro event here
        cases event with
        | lookup question => exact absurd ⟨_, here⟩ (quiet question)
        | search | notice => rfl
      unfold Resolver.told
      rw [none]
    rw [lookups, funext told, List.map_eq_flatMap]
  · intro earlier list later decisions session group _ before candidate fresh found bars
    have spec := decideAll_spec mail.sender (.load mail) earlier
      (opening_faithful mail service.resolver)
    exact decide_of_bars (spec.of_ok before).2 candidate fresh found bars

end Service

namespace Sample

/-- The crew is a member of the team and a recipient, and is asked about once. -/
example : lookupsOf (service.process mail).events =
    [service.resolver.question team, service.resolver.question crew] := by
  decide +kernel

end Sample

end Listmaster
