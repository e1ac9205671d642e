import Listmaster.Classifier
import Listmaster.Directory

/-!
Sessions: looking up groups while a mail is processed.

An address is looked up only if it may be a list, and at most once: the answers
are remembered for the rest of the session, errors excepted.  A session also
keeps the events of the run.
-/

namespace Listmaster

/-- What is known so far. -/
structure Session where
  /-- The answers by the addresses that were looked up. -/
  memo : SortedMap Address (Option Group)
  events : Array Event

namespace Session

def empty : Session := ⟨∅, #[]⟩

def tell (session : Session) (notice : Notice) : Session :=
  { session with events := session.events.push (.notice notice) }

end Session

/-- A step of a session; an error keeps what was learned before. -/
abbrev SessionM := EStateM DirectoryError Session

def SessionM.tell (notice : Notice) : SessionM Unit := modify (·.tell notice)

/-- How the groups of addresses are looked up. -/
structure Resolver where
  directory : Directory
  classifier : Classifier
  base : String
  attributeName : String

namespace Resolver

def question (r : Resolver) (address : Address) : Lookup :=
  ⟨r.base, r.attributeName, address.full⟩

/-- Ask the directory about an address, and remember the answer. -/
def ask (r : Resolver) (address : Address) : SessionM (Option Group) := fun session =>
  let question := r.question address
  let answer := r.directory question
  let events := session.events.push (.lookup question) ++ answer.events
  match answer.outcome with
  | .ok group => .ok group ⟨session.memo.insert address group, events⟩
  | .error error => .error error { session with events }

def resolve (r : Resolver) (address : Address) : SessionM (Option Group) := fun session =>
  if r.classifier.isCandidate address then
    match session.memo.get? address with
    | some known => .ok known session
    | none => r.ask address session
  else .ok none session

end Resolver

end Listmaster
