import Listmaster.Group
import Listmaster.Ldap.Search
import Listmaster.Notice

/-!
Directories, in which groups are looked up.

A directory is a function: the same question always has the same answer.  An
answer comes with the events by which it was found, and what a whole run does
is told by the sequence of its events.
-/

namespace Listmaster

/-- A question to a directory: the group under `base` whose attribute `attributeName` is
`value`. -/
structure Lookup where
  base : String
  attributeName : String
  value : String
  deriving DecidableEq

/-- Something that a run does and that others can see. -/
inductive Event where
  | lookup (question : Lookup)
  | search (search : Ldap.Search)
  | notice (notice : Notice)

/-- Why a lookup has no answer. -/
inductive DirectoryError where
  /-- The directory could not be reached in time. -/
  | unavailable (reason : String)
  | failure (code : Nat) (message : String)
  deriving DecidableEq

namespace DirectoryError

def isTransient : DirectoryError → Bool
  | unavailable _ => true
  | failure .. => false

def message : DirectoryError → String
  | unavailable reason => s!"directory is unavailable: `{reason}`"
  | failure code message => s!"directory returned an error (code {code}): {message}"

def chain : DirectoryError → List String
  | unavailable reason => [(unavailable reason).message, reason]
  | failure code message => [(failure code message).message]

end DirectoryError

/-- The answer to a question. -/
structure Answer where
  /-- The group, nothing if there is none, or an error. -/
  outcome : Except DirectoryError (Option Group)
  events : List Event

abbrev Directory := Lookup → Answer

end Listmaster
