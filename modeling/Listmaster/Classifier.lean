import Listmaster.Domain

/-!
Which addresses may be lists, and which ones are local.

Under `Classifier.Predicate.listsPrefix` a list has a label of its own in front
of the domain it serves, as in `team@lists.example.org`; under `anyLocal` every
local address may be a list.
-/

namespace Listmaster

namespace Classifier

/-- How the addresses that may be lists are recognized. -/
inductive Predicate where
  | listsPrefix
  | anyLocal
  deriving DecidableEq

namespace Predicate

def name : Predicate → String
  | listsPrefix => "lists-prefix"
  | anyLocal => "any-local"

def ofName? (name : String) : Option Predicate :=
  [listsPrefix, anyLocal].find? (·.name == name)

end Predicate

end Classifier

/-- What is needed to classify addresses. -/
structure Classifier where
  predicate : Classifier.Predicate
  label : String
  localDomains : SortedSet String

namespace Classifier

/-- The classifier of a label and local domains, written in any case and with or without
dots at the end. -/
def make (predicate : Predicate) (label : String) (domains : List String) : Classifier where
  predicate := predicate
  label := Domain.normalize label
  localDomains := .ofList (domains.map Domain.normalize)

/-- What follows the label of the lists in a domain that begins with it. -/
def afterLabel? (c : Classifier) (domain : String) : Option String :=
  match Text.splitFirst? '.' domain.toList with
  | some (label, rest) =>
      if label = c.label.toList ∧ rest ≠ [] then some (String.ofList rest) else none
  | none => none

def isLocal (c : Classifier) (a : Address) : Bool :=
  c.localDomains.contains (Domain.withoutRoot a.domain)

def isCandidate (c : Classifier) (a : Address) : Bool :=
  match c.predicate with
  | .listsPrefix => (c.afterLabel? a.domain).isSome
  | .anyLocal => c.isLocal a

def servingDomain (c : Classifier) (list : Address) : String :=
  match c.predicate with
  | .listsPrefix => (c.afterLabel? list.domain).getD list.domain
  | .anyLocal => list.domain

end Classifier

end Listmaster
