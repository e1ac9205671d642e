import Listmaster.Text.Pieces

/-!
The category of a list says who may post to it.

The directory holds a free text, the marker, from which the category is read:
`Category.classify` looks for words in it, in the order of `Category.words`.
-/

namespace Listmaster

/-- Who may post to a list. -/
inductive Category where
  | everyone
  | internal
  | domainRestricted
  | memberRestricted
  | ownerRestricted
  | anyLocal
  | unrecognized
  deriving DecidableEq

namespace Category

def all : List Category :=
  [everyone, internal, domainRestricted, memberRestricted, ownerRestricted, anyLocal,
    unrecognized]

def name : Category → String
  | everyone => "open"
  | internal => "internal"
  | domainRestricted => "domain-restricted"
  | memberRestricted => "member-restricted"
  | ownerRestricted => "owner-restricted"
  | anyLocal => "any-local"
  | unrecognized => "unrecognized"

def ofName? (name : String) : Option Category := all.find? (·.name == name)

/-- The words that are looked for in a marker, the first one that occurs being decisive. -/
def words : List (String × Category) :=
  [("domain", domainRestricted), ("owner", ownerRestricted), ("member", memberRestricted),
    ("anylocal", anyLocal), ("internal", internal), ("open", everyone), ("public", everyone),
    ("unknown", everyone)]

/-- The ASCII letters and digits of a marker, in lowercase. -/
def essence (marker : String) : List Char :=
  (marker.toList.filter Char.isAlphanum).map Char.toLower

def ofMarker (marker : String) : Category :=
  match words.find? fun (word, _) => Text.occursIn word.toList (essence marker) with
  | some (_, category) => category
  | none => unrecognized

def classify : Option String → Category
  | some marker => ofMarker marker
  | none => unrecognized

theorem ofName?_name (category : Category) : ofName? category.name = some category := by
  cases category <;> decide

end Category

end Listmaster
