import Listmaster.LoopGuard
import Listmaster.Session

/-!
Expansion: the addresses behind a group.

A group refers to addresses, some of which are groups again.  The walk follows
the groups to a limited depth, each of them once, and collects the other
addresses up to a limited number.  The groups that were walked are recorded in
the loop guard, those recorded before are skipped.
-/

namespace Listmaster

/-- The limits of an expansion. -/
structure Limits where
  /-- The number of levels of groups; the group that is expanded is the first one. -/
  depth : Nat
  members : Nat
  deriving DecidableEq

structure Walk where
  session : Session
  guard : LoopGuard
  found : AddressSet
  tooDeep : Nat
  isTruncated : Bool

/-- A step of a walk; an error keeps what was done before. -/
abbrev WalkM := EStateM DirectoryError Walk

namespace Walk

def start (session : Session) (guard : LoopGuard) : Walk := ⟨session, guard, ∅, 0, false⟩

/-- Add an address that is no group, unless there are too many. -/
def add (limit : Nat) (address : Address) (walk : Walk) : Walk :=
  if walk.found.size < limit then { walk with found := walk.found.insert address }
  else if walk.found.contains address then walk
  else { walk with isTruncated := true }

end Walk

namespace Resolver

def resolveOnWalk (r : Resolver) (address : Address) : WalkM (Option Group) := fun walk =>
  match r.resolve address walk.session with
  | .ok group session => .ok group { walk with session }
  | .error error session => .error error { walk with session }

/-- Visit an address.  Without `descend` a group is too deep. -/
def visit (r : Resolver) (limit : Nat) (descend : Option (AddressSet → WalkM Unit))
    (address : Address) : WalkM Unit := do
  let walk ← get
  if walk.isTruncated || walk.guard.wasVisited address then
    return
  match ← r.resolveOnWalk address with
  | none => modify (Walk.add limit address)
  | some group =>
      match descend with
      | none => modify fun walk => { walk with tooDeep := walk.tooDeep + 1 }
      | some descend =>
          modify fun walk => { walk with guard := walk.guard.record address }
          descend group.members

/-- Visit addresses, and the members of the groups among them down to `levels` levels. -/
def walk (r : Resolver) (limit : Nat) : (levels : Nat) → AddressSet → WalkM Unit
  | 0, references => references.toList.forM (r.visit limit none)
  | levels + 1, references =>
      references.toList.forM (r.visit limit (some (r.walk limit levels)))

end Resolver

/-- The end of an expansion.  The groups that were walked before an error stay recorded. -/
structure Expansion where
  outcome : Except DirectoryError AddressSet
  guard : LoopGuard
  session : Session

namespace Walk

/-- The end of a walk without an error.  It is told if something was left out. -/
def finish (walk : Walk) : Expansion :=
  let session := if walk.tooDeep = 0 then walk.session else walk.session.tell .nestedTooDeeply
  let session := if walk.isTruncated then session.tell .tooManyAddresses else session
  ⟨.ok walk.found, walk.guard, session⟩

end Walk

def Resolver.expand (r : Resolver) (limits : Limits) (references : AddressSet)
    (guard : LoopGuard) (session : Session) : Expansion :=
  match r.walk limits.members (limits.depth - 1) references (.start session guard) with
  | .ok _ walk => walk.finish
  | .error error walk => ⟨.error error, walk.guard, walk.session⟩

end Listmaster
