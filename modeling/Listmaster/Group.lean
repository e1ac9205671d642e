import Listmaster.Address

/-!
Groups: what a directory knows about a list.
-/

namespace Listmaster

/-- An entry of a directory that denotes a list. -/
structure Group where
  location : String
  category : Option String
  members : AddressSet
  owners : AddressSet
  deriving DecidableEq

/-- What a group refers to. -/
inductive Role where
  | members
  | owners
  deriving DecidableEq

def Group.references (group : Group) : Role → AddressSet
  | .members => group.members
  | .owners => group.owners

end Listmaster
