import Listmaster.Expansion
import Listmaster.Posting
import Listmaster.Redistribution

/-!
The mailing list service.

`Service.process` decides about each recipient of a mail, gives the mail its new recipients,
and records the lists that were expanded.  Nothing is changed if a lookup fails.
`Service.describe` tells what is known about one list.
-/

namespace Listmaster

/-- What the service needs to know. -/
structure Service where
  resolver : Resolver
  limits : Limits
  authorization : Authorization
  rejectedState : MailState

/-- A lookup that failed, and the recipient it was made for. -/
inductive ServiceError where
  /-- The directory could not be reached, and the mail may be processed later. -/
  | unavailable (address : Address) (cause : DirectoryError)
  /-- The directory refused the lookup. -/
  | refused (address : Address) (cause : DirectoryError)
  deriving DecidableEq

namespace ServiceError

/-- The error that a lookup for a recipient failed with this cause. -/
def ofDirectory (address : Address) (cause : DirectoryError) : ServiceError :=
  if cause.isTransient then .unavailable address cause else .refused address cause

def address : ServiceError → Address
  | unavailable address _ | refused address _ => address

def cause : ServiceError → DirectoryError
  | unavailable _ cause | refused _ cause => cause

def isTransient : ServiceError → Bool
  | unavailable _ _ => true
  | refused _ _ => false

def message : ServiceError → String
  | unavailable address cause =>
      s!"the directory is unavailable while resolving `{address.full}`: `{cause.message}`"
  | refused address cause =>
      s!"the directory failed to resolve `{address.full}`: `{cause.message}`"

def chain (error : ServiceError) : List String := error.message :: error.cause.chain

end ServiceError

/-- The members and owners of a list, as far as they were asked for. -/
structure Roster where
  session : Session
  /-- The members, and the guard with the groups they come from. -/
  members : Option (AddressSet × LoopGuard)
  owners : Option AddressSet

abbrev RosterM := EStateM DirectoryError Roster

/-- What was decided about a recipient. -/
structure Decision where
  outcome : Outcome
  records : LoopGuard

/-- What is known about a list. -/
structure ListReport where
  address : Address
  location : String
  marker : Option String
  category : Category
  /-- The category that is applied; without one every sender is rejected. -/
  policy : Option Category
  members : AddressSet
  owners : AddressSet
  deriving DecidableEq

namespace Service

/-- The members of a group, expanded when they are first asked for. -/
def members (service : Service) (group : Group) (guard : LoopGuard) : RosterM AddressSet :=
  fun roster =>
    match roster.members with
    | some (members, _) => .ok members roster
    | none =>
        let expansion := service.resolver.expand service.limits group.members guard roster.session
        match expansion.outcome with
        | .ok members =>
            .ok members
              { roster with
                session := expansion.session
                members := some (members, expansion.guard) }
        | .error error => .error error { roster with session := expansion.session }

/-- The owners of a group, expanded when they are first asked for.  The groups they come from
are not recorded. -/
def owners (service : Service) (group : Group) (guard : LoopGuard) : RosterM AddressSet :=
  fun roster =>
    match roster.owners with
    | some owners => .ok owners roster
    | none =>
        let expansion := service.resolver.expand service.limits group.owners guard roster.session
        match expansion.outcome with
        | .ok owners =>
            .ok owners { roster with session := expansion.session, owners := some owners }
        | .error error => .error error { roster with session := expansion.session }

def membership (service : Service) (group : Group) (guard : LoopGuard) : Membership RosterM :=
  ⟨service.members group guard, service.owners group guard⟩

def posting (service : Service) (sender : Option Address) (list : Address) : Posting where
  list := list
  sender := sender
  isSenderLocal := sender.any service.resolver.classifier.isLocal
  servingDomain := service.resolver.classifier.servingDomain list

/-- The category of a group.  It is told if the marker is not recognized. -/
def classify (group : Group) : SessionM Category := do
  let category := Category.classify group.category
  if category = .unrecognized then
    SessionM.tell .unrecognizedCategory
  return category

/-- Decide about a mail to a list.  The guard records the list itself. -/
def decideList (service : Service) (sender : Option Address) (guard : LoopGuard)
    (list : Address) (group : Group) : SessionM Decision := do
  let category ← classify group
  fun session =>
    let resolution := service.authorization.authorize category (service.posting sender list)
      (service.membership group guard) ⟨session, none, none⟩
    match resolution with
    | .error error roster => .error error roster.session
    | .ok (.resolved members) roster =>
        let records := (roster.members.map (·.2)).getD guard
        .ok ⟨.expand members, records⟩ (roster.session.tell .listExpanded)
    | .ok (.rejected _) roster =>
        .ok ⟨.reject, .empty⟩ (roster.session.tell .senderNotAllowed)

/-- Decide about a recipient of a mail from `sender` whose guard is `guard`. -/
def decide (service : Service) (sender : Option Address) (guard : LoopGuard)
    (recipient : Address) : SessionM Decision := do
  if !service.resolver.classifier.isCandidate recipient then
    return ⟨.keep, .empty⟩
  if guard.wasVisited recipient then
    SessionM.tell .listAlreadyExpanded
    return ⟨.drop, .empty⟩
  match ← service.resolver.resolve recipient with
  | none => return ⟨.keep, .empty⟩
  | some group => service.decideList sender (guard.record recipient) recipient group

/-- The error of a step, with the recipient the step was made for. -/
def attributed {α : Type} (address : Address) (step : SessionM α) :
    EStateM ServiceError Session α := fun session =>
  match step session with
  | .ok value session => .ok value session
  | .error error session => .error (.ofDirectory address error) session

def decideAll (service : Service) (sender : Option Address) (guard : LoopGuard)
    (recipients : List Address) : EStateM ServiceError Session (List Decision) :=
  recipients.mapM fun recipient =>
    attributed recipient (service.decide sender guard recipient)

/-- What a service did with a mail. -/
structure Run where
  mail : Mail
  /-- The copy for the rejected recipients, if there are any, or an error. -/
  outcome : Except ServiceError (Option Mail)
  events : Array Event

/-- Apply the decisions to a mail.  The guard is that of the mail. -/
def conclude (service : Service) (mail : Mail) (guard : LoopGuard) (decisions : List Decision) :
    Split :=
  if decisions.all (·.outcome = .keep) then ⟨mail, none⟩
  else
    let split := mail.redistribute (decisions.map Decision.outcome) service.rejectedState
    let recorded := decisions.foldl (fun guard decision => guard.merge decision.records) guard
    { split with continuing := recorded.store split.continuing }

def process (service : Service) (mail : Mail) : Run :=
  let guard := LoopGuard.load mail
  let session :=
    if (LoopGuard.load? mail).isNone then Session.empty.tell .malformedRecord else .empty
  match service.decideAll mail.sender guard mail.addresses session with
  | .error error session => ⟨mail, .error error, session.events⟩
  | .ok decisions session =>
      let split := service.conclude mail guard decisions
      ⟨split.continuing, .ok split.rejected, session.events⟩

def report (service : Service) (address : Address) (group : Group) : SessionM ListReport := do
  let category ← classify group
  let guard := LoopGuard.empty.record address
  fun session =>
    let expansions : RosterM (AddressSet × AddressSet) := do
      let members ← service.members group guard
      let owners ← service.owners group guard
      return (members, owners)
    match expansions ⟨session, none, none⟩ with
    | .error error roster => .error error roster.session
    | .ok (members, owners) roster =>
        .ok { address, location := group.location, marker := group.category, category,
              policy := service.authorization.effective category, members, owners }
          roster.session

def describe (service : Service) (address : Address) :
    EStateM ServiceError Session (Option ListReport) :=
  attributed address do
    match ← service.resolver.resolve address with
    | none => return none
    | some group => return some (← service.report address group)

end Service

end Listmaster
