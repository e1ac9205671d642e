import Listmaster.Directory
import Listmaster.Text.Case

/-!
Directories that are held in memory: groups by their addresses.
-/

namespace Listmaster

structure StaticDirectory where
  groups : SortedMap Address Group
  deriving DecidableEq

namespace StaticDirectory

def empty : StaticDirectory := ⟨∅⟩

def withGroup (directory : StaticDirectory) (address : Address) (group : Group) :
    StaticDirectory :=
  ⟨directory.groups.insert address group⟩

/-- Whether a location lies under a base: it is the base, or ends with a comma and the base.
Case does not matter, and everything lies under the empty base. -/
def isUnder (location base : String) : Bool :=
  let location := location.toList.map Char.toLower
  let base := base.toList.map Char.toLower
  base.isEmpty || location == base || (',' :: base).isSuffixOf location

/-- The group that a question asks for; the attribute does not matter. -/
def find? (directory : StaticDirectory) (question : Lookup) : Option Group := do
  let address ← Address.parse? question.value
  let group ← directory.groups.get? address
  if isUnder group.location question.base then some group else none

def toDirectory (directory : StaticDirectory) : Directory := fun question =>
  ⟨.ok (directory.find? question), []⟩

end StaticDirectory

/-- Errors to be answered instead of groups, by the address that is looked up. -/
abbrev Faults := SortedMap Address DirectoryError

def Directory.withFaults (directory : Directory) (faults : Faults) : Directory := fun question =>
  match (Address.parse? question.value).bind faults.get? with
  | some error => ⟨.error error, []⟩
  | none => directory question

end Listmaster
