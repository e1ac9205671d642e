import Listmaster.Text.Digits
import Listmaster.Text.Pieces

/-!
Versions, and requirements on them.

A requirement is a list of comparators, all of which a version must satisfy.
Only released versions are compared: they come after all of their pre-releases.
-/

namespace Listmaster

structure Version where
  major : Nat
  minor : Nat
  patch : Nat
  deriving DecidableEq

namespace Version

def current : Version := ⟨2, 1, 1⟩

def text (version : Version) : String :=
  s!"{version.major}.{version.minor}.{version.patch}"

end Version

namespace VersionRequirement

inductive Operator where
  | exact
  | greater
  | greaterOrEqual
  | less
  | lessOrEqual
  | tilde
  | caret
  | wildcard
  deriving DecidableEq

def Operator.sign : Operator → String
  | exact => "="
  | greater => ">"
  | greaterOrEqual => ">="
  | less => "<"
  | lessOrEqual => "<="
  | tilde => "~"
  | caret => "^"
  | wildcard => ""

/-- An operator and a version, of which the last parts may be missing. -/
structure Comparator where
  operator : Operator
  major : Nat
  minor : Option Nat
  patch : Option Nat
  preRelease : String
  deriving DecidableEq

namespace Comparator

/-- Whether the parts that are given are those of the version. -/
def isExact (c : Comparator) (v : Version) : Bool :=
  v.major = c.major && c.minor.all (v.minor = ·) && c.patch.all (v.patch = ·) &&
    c.preRelease.isEmpty

/-- Whether the version is above all versions that begin with the parts that are given. -/
def isGreater (c : Comparator) (v : Version) : Bool :=
  if v.major ≠ c.major then c.major < v.major
  else
    match c.minor, c.patch with
    | none, _ => false
    | some minor, none => minor < v.minor
    | some minor, some patch =>
        if v.minor ≠ minor then minor < v.minor
        else if v.patch ≠ patch then patch < v.patch
        else !c.preRelease.isEmpty

/-- Whether the version is below all versions that begin with the parts that are given. -/
def isLess (c : Comparator) (v : Version) : Bool :=
  if v.major ≠ c.major then v.major < c.major
  else
    match c.minor, c.patch with
    | none, _ => false
    | some minor, none => v.minor < minor
    | some minor, some patch => if v.minor ≠ minor then v.minor < minor else v.patch < patch

/-- Whether only the patch is above the one that is given. -/
def isPatchUpdate (c : Comparator) (v : Version) : Bool :=
  v.major = c.major && c.minor.all (v.minor = ·) && c.patch.all (· ≤ v.patch)

/-- Whether the version has the first part that is not zero, and is not below. -/
def isCompatible (c : Comparator) (v : Version) : Bool :=
  v.major = c.major &&
    match c.minor, c.patch with
    | none, _ => true
    | some minor, none => if 0 < c.major then minor ≤ v.minor else v.minor = minor
    | some minor, some patch =>
        if 0 < c.major then minor < v.minor || (v.minor = minor && patch ≤ v.patch)
        else if 0 < minor then v.minor = minor && patch ≤ v.patch
        else v.minor = minor && v.patch = patch

def accepts (c : Comparator) (v : Version) : Bool :=
  match c.operator with
  | .exact | .wildcard => c.isExact v
  | .greater => c.isGreater v
  | .greaterOrEqual => c.isExact v || c.isGreater v
  | .less => c.isLess v
  | .lessOrEqual => c.isExact v || c.isLess v
  | .tilde => c.isPatchUpdate v
  | .caret => c.isCompatible v

def text (c : Comparator) : String :=
  let star := if c.operator = .wildcard then ".*" else ""
  let rest :=
    match c.minor, c.patch with
    | none, _ => star
    | some minor, none => s!".{minor}" ++ star
    | some minor, some patch =>
        s!".{minor}.{patch}" ++ if c.preRelease.isEmpty then "" else "-" ++ c.preRelease
  c.operator.sign ++ toString c.major ++ rest

end Comparator

end VersionRequirement

structure VersionRequirement where
  comparators : List VersionRequirement.Comparator
  deriving DecidableEq

namespace VersionRequirement

def accepts (requirement : VersionRequirement) (version : Version) : Bool :=
  requirement.comparators.all (·.accepts version)

def text (requirement : VersionRequirement) : String :=
  if requirement.comparators.isEmpty then "*"
  else String.intercalate ", " (requirement.comparators.map Comparator.text)

def skipBlanks (s : List Char) : List Char := s.dropWhile (· = ' ')

def isWildcard (c : Char) : Bool := c = '*' || c = 'x' || c = 'X'

/-- The operator that comes first, if there is one, and what follows it. -/
def spanOperator : List Char → Option Operator × List Char
  | '=' :: rest => (some .exact, rest)
  | '>' :: '=' :: rest => (some .greaterOrEqual, rest)
  | '>' :: rest => (some .greater, rest)
  | '<' :: '=' :: rest => (some .lessOrEqual, rest)
  | '<' :: rest => (some .less, rest)
  | '~' :: rest => (some .tilde, rest)
  | '^' :: rest => (some .caret, rest)
  | rest => (none, rest)

def spanNumber? (s : List Char) : Option (Nat × List Char) := do
  let (digits, rest) ← Text.spanDigits? s
  let value := Text.natOfDigits digits
  if (digits.head? = some '0' ∧ digits.length ≠ 1) ∨ !Text.isWord value then none
  else some (value, rest)

/-- A part of a version after the first one. -/
inductive Part where
  | missing
  | any
  | number (value : Nat)
  deriving DecidableEq

def Part.value? : Part → Option Nat
  | number value => some value
  | _ => none

/-- The part after a dot, if there is one, and what follows it. -/
def spanPart? : List Char → Option (Part × List Char)
  | '.' :: c :: rest =>
      if isWildcard c then some (.any, rest)
      else (spanNumber? (c :: rest)).map fun (value, rest) => (.number value, rest)
  | ['.'] => none
  | rest => some (.missing, rest)

/-- Whether the text is an identifier; one of digits only has no superfluous zero if
`isNumeric` asks for it. -/
def isIdentifier (isNumeric : Bool) (s : List Char) : Bool :=
  !s.isEmpty && s.all (fun c => c.isAlphanum || c = '-') &&
    !(isNumeric && s.all Char.isDigit && 1 < s.length && s.head? = some '0')

/-- The identifiers after a sign, if there are any, and what follows them. -/
def spanIdentifiers? (sign : Char) (isNumeric : Bool) : List Char → Option (List Char × List Char)
  | [] => some ([], [])
  | c :: rest =>
      if c = sign then
        let isPart (c : Char) := c.isAlphanum || c = '-' || c = '.'
        let identifiers := rest.takeWhile isPart
        if (Text.pieces '.' identifiers).all (isIdentifier isNumeric) then
          some (identifiers, rest.dropWhile isPart)
        else none
      else some ([], c :: rest)

def spanComparator? (s : List Char) : Option (Comparator × List Char) := do
  let (operator, s) := spanOperator s
  let (major, s) ← spanNumber? (skipBlanks s)
  let (minor, s) ← spanPart? s
  let (patch, s) ← spanPart? s
  if minor = .any ∧ patch.value?.isSome then none
  let hasPatch := patch.value?.isSome
  let (preRelease, s) ← if hasPatch then spanIdentifiers? '-' true s else some ([], s)
  let (_, s) ← if hasPatch then spanIdentifiers? '+' false s else some ([], s)
  let byDefault := if minor = .any ∨ patch = .any then Operator.wildcard else .caret
  let comparator : Comparator :=
    ⟨operator.getD byDefault, major, minor.value?, patch.value?, String.ofList preRelease⟩
  return (comparator, skipBlanks s)

/-- The comparators of a text, with commas between them, at least one and at most `limit`. -/
def comparators? : (limit : Nat) → List Char → Option (List Comparator)
  | 0, _ => none
  | limit + 1, s => do
      let (first, rest) ← spanComparator? s
      match rest with
      | [] => return [first]
      | ',' :: rest => return first :: (← comparators? limit (skipBlanks rest))
      | _ => none

def parse? (text : String) : Option VersionRequirement :=
  let s := skipBlanks text.toList
  match s with
  | c :: rest =>
      if isWildcard c then if (skipBlanks rest).isEmpty then some ⟨[]⟩ else none
      else (comparators? 32 s).map (⟨·⟩)
  | [] => none

end VersionRequirement

end Listmaster
