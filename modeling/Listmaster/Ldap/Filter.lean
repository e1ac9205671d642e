import Listmaster.Text.Digits
import Listmaster.Text.Pieces

/-!
Search filters, in the string representation of RFC 4515.

`Filter.read?` is the grammar, `Filter.ofGroup` writes the filter that looks for
a group.  A value may hold any character: `Filter.escape` writes those that
would end it as a backslash and two hexadecimal digits.
-/

namespace Listmaster.Ldap

abbrev Octets := List UInt8

inductive Filter where
  | conjunction (parts : List Filter)
  | disjunction (parts : List Filter)
  | negation (part : Filter)
  | equality (name : String) (value : Octets)
  | greaterOrEqual (name : String) (value : Octets)
  | lessOrEqual (name : String) (value : Octets)
  | approximately (name : String) (value : Octets)
  | present (name : String)
  | substrings (name : String) (initial : Octets) (inner : List Octets) (final : Octets)
  | extensible (name : Option String) (inDn : Bool) (rule : Option String) (value : Octets)

namespace Filter

def octets (text : String) : Octets := text.toList.flatMap String.utf8EncodeChar

/-- Whether the character is written by its code in a value. -/
def isSpecial (c : Char) : Bool :=
  c = '\\' || c = '*' || c = '(' || c = ')' || c.toNat = 0

def escapeChar (c : Char) : List Char :=
  if isSpecial c then ['\\', Nat.digitChar (c.toNat / 16), Nat.digitChar (c.toNat % 16)] else [c]

def escape (text : String) : List Char := text.toList.flatMap escapeChar

/-- The text of the filter that looks for a group by one of its attributes. -/
def ofGroup (objectClass name value : String) : String :=
  String.ofList ("(&(objectClass=".toList ++ escape objectClass ++ ")(".toList ++
    name.toList ++ "=".toList ++ escape value ++ "))".toList)

def anyEntry : String := "(objectClass=*)"

namespace Reader

/-- Whether the character may be in the name of an attribute, after its first one. -/
def isNameChar (c : Char) : Bool := c.isAlphanum || c = '-'

/-- The number without superfluous zeros that comes first, and what follows it. -/
def number? (s : List Char) : Option (List Char × List Char) :=
  (Text.spanDigits? s).filter fun (digits, _) => digits.length = 1 || digits.head? != some '0'

/-- The numbers after dots that come first, at most `fuel` of them, and what follows them. -/
def dotted : (fuel : Nat) → List Char → List Char × List Char
  | fuel + 1, '.' :: s =>
      match number? s with
      | some (digits, rest) =>
          let (later, rest) := dotted fuel rest
          ('.' :: digits ++ later, rest)
      | none => ([], '.' :: s)
  | _, s => ([], s)

/-- The name that comes first, and what follows it: a word, or numbers between dots. -/
def name? (s : List Char) : Option (List Char × List Char) :=
  match s with
  | [] => none
  | first :: rest =>
      if first.isAlpha then some (first :: rest.takeWhile isNameChar, rest.dropWhile isNameChar)
      else do
        let (digits, rest) ← number? s
        let (later, rest) := dotted rest.length rest
        return (digits ++ later, rest)

/-- The options after semicolons that come first, at most `fuel` of them, and what follows
them. -/
def options : (fuel : Nat) → List Char → List Char × List Char
  | fuel + 1, ';' :: s =>
      match s.takeWhile isNameChar with
      | [] => ([], ';' :: s)
      | option =>
          let (later, rest) := options fuel (s.dropWhile isNameChar)
          (';' :: option ++ later, rest)
  | _, s => ([], s)

/-- The description of an attribute that comes first, and what follows it: its name, with
options. -/
def attribute? (s : List Char) : Option (String × List Char) := do
  let (name, rest) ← name? s
  let (later, rest) := options rest.length rest
  return (String.ofList (name ++ later), rest)

/-- The octets of the value that comes first, and what follows it.  An escape that is not
finished at the end of the value is dropped. -/
def value? : (skip : Nat) → List Char → Option (Octets × List Char)
  | skip + 1, _ :: rest => value? skip rest
  | _, [] => some ([], [])
  | 0, '\\' :: rest => do
      let digits := (rest.takeWhile fun c => c = '\\' || !isSpecial c).take 2
      let octet ← Text.natOfDigits? 16 digits
      let (octets, after) ← value? digits.length rest
      return (if digits.length = 2 then octet.toUInt8 :: octets else octets, after)
  | 0, c :: rest =>
      if isSpecial c then some ([], c :: rest)
      else do
        let (octets, after) ← value? 0 rest
        return (String.utf8EncodeChar c ++ octets, after)

def values? : (fuel : Nat) → List Char → Option (List Octets × List Char)
  | 0, _ => none
  | fuel + 1, s => do
      let (first, rest) ← value? 0 s
      match rest with
      | '*' :: rest => do
          let (later, rest) ← values? fuel rest
          return (first :: later, rest)
      | rest => return ([first], rest)

def ofValues? (name : String) : List Octets → Option Filter
  | [] => none
  | [value] => some (.equality name value)
  | [[], []] => some (.present name)
  | initial :: rest =>
      if rest.dropLast.any List.isEmpty then none
      else some (.substrings name initial rest.dropLast (rest.getLast?.getD []))

/-- The rule after a colon, if one comes first, and what follows it. -/
def rule : List Char → Option String × List Char
  | ':' :: s =>
      match name? s with
      | some (name, rest) => (some (String.ofList name), rest)
      | none => (none, ':' :: s)
  | s => (none, s)

/-- The mark of a test that looks at names of entries too, if it comes first, and what follows
it.  What begins like the mark is the mark. -/
def inDn : List Char → Bool × List Char
  | ':' :: 'd' :: 'n' :: rest => (true, rest)
  | s => (false, s)

/-- What remains of an extensible test, which names an attribute or a rule. -/
def extensible? (name : Option String) (s : List Char) : Option (Filter × List Char) := do
  let (isInDn, s) := inDn s
  let (rule, s) := rule s
  if name.isNone && rule.isNone then none
  match s with
  | ':' :: '=' :: s =>
      let (value, rest) ← value? 0 s
      return (.extensible name isInDn rule value, rest)
  | _ => none

def item? (s : List Char) : Option (Filter × List Char) := do
  let compared (test : Octets → Filter) (s : List Char) : Option (Filter × List Char) :=
    (value? 0 s).map fun (value, rest) => (test value, rest)
  match attribute? s with
  | none => extensible? none s
  | some (name, rest) =>
      match rest with
      | '=' :: s =>
          let (values, rest) ← values? (s.length + 1) s
          return (← ofValues? name values, rest)
      | '>' :: '=' :: s => compared (.greaterOrEqual name) s
      | '<' :: '=' :: s => compared (.lessOrEqual name) s
      | '~' :: '=' :: s => compared (.approximately name) s
      | s => extensible? (some name) s

mutual

/-- Read a filter between its parentheses, with at most `fuel` calls. -/
def filter? : (fuel : Nat) → List Char → Option (Filter × List Char)
  | 0, _ => none
  | fuel + 1, '(' :: s =>
      let inside := match s with
        | '&' :: s => (filters? fuel s).map fun (parts, s) => (.conjunction parts, s)
        | '|' :: s => (filters? fuel s).map fun (parts, s) => (.disjunction parts, s)
        | '!' :: s => (filter? fuel s).map fun (part, s) => (.negation part, s)
        | s => item? s
      match inside with
      | some (filter, ')' :: rest) => some (filter, rest)
      | _ => none
  | _, _ => none

def filters? : (fuel : Nat) → List Char → Option (List Filter × List Char)
  | 0, _ => none
  | fuel + 1, '(' :: s => do
      let (first, s) ← filter? fuel ('(' :: s)
      let (later, s) ← filters? fuel s
      return (first :: later, s)
  | _, s => some ([], s)

end

end Reader

def read? (text : String) : Option Filter :=
  match Reader.filter? (text.toList.length + 1) text.toList with
  | some (filter, []) => some filter
  | _ => none

end Filter

end Listmaster.Ldap
