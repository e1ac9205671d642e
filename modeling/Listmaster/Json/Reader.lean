import Listmaster.Json.Number

/-!
Reading JSON texts.

A reader takes the characters that remain and returns a value with those that
remain after it.  What can be skipped but not used is read as
`Json.unreadable`: half of a surrogate pair in a text, a number out of range,
and a value at more than `deepest` levels.
-/

namespace Listmaster.Json

/-- The number of levels at which arrays and objects can be nested. -/
def deepest : Nat := 127

namespace Reader

def isBlank (c : Char) : Bool := c = ' ' || c = '\t' || c = '\n' || c = '\r'

def skipBlanks (s : List Char) : List Char := s.dropWhile isBlank

def codeUnit? (a b c d : Char) : Option Nat :=
  Text.natOfDigits? 16 [a, b, c, d]

def isHighSurrogate (u : Nat) : Bool := 0xD800 ≤ u && u < 0xDC00

def isLowSurrogate (u : Nat) : Bool := 0xDC00 ≤ u && u < 0xE000

def escaped? (c : Char) : Option Char :=
  match c with
  | '"' => some '"'
  | '\\' => some '\\'
  | '/' => some '/'
  | 'b' => some (Char.ofNat 8)
  | 'f' => some (Char.ofNat 12)
  | 'n' => some '\n'
  | 'r' => some '\r'
  | 't' => some '\t'
  | _ => none

/-- The second half of a surrogate pair, if the characters begin with one. -/
def lowSurrogate? : List Char → Option Nat
  | '\\' :: 'u' :: a :: b :: c :: d :: _ => (codeUnit? a b c d).filter isLowSurrogate
  | _ => none

/-- Read the characters of a text up to its closing mark.  The text is missing if half of
a surrogate pair stands alone in it.  The first `skip` characters are already read. -/
def characters : (skip : Nat) → List Char → Option (Option (List Char) × List Char)
  | _, [] => none
  | skip + 1, _ :: rest => characters skip rest
  | 0, '"' :: rest => some (some [], rest)
  | 0, '\\' :: rest =>
      match rest with
      | 'u' :: a :: b :: c :: d :: after => do
          let unit ← codeUnit? a b c d
          if isHighSurrogate unit then
            match lowSurrogate? after with
            | some low => do
                let (chars, rest) ← characters 11 rest
                let pair := 0x10000 + 0x400 * (unit - 0xD800) + (low - 0xDC00)
                return (chars.map (Char.ofNat pair :: ·), rest)
            | none => do
                let (_, rest) ← characters 5 rest
                return (none, rest)
          else if isLowSurrogate unit then
            let (_, rest) ← characters 5 rest
            return (none, rest)
          else
            let (chars, rest) ← characters 5 rest
            return (chars.map (Char.ofNat unit :: ·), rest)
      | c :: _ => do
          let meant ← escaped? c
          let (chars, rest) ← characters 1 rest
          return (chars.map (meant :: ·), rest)
      | [] => none
  | 0, c :: rest =>
      if c.toNat < 0x20 then none
      else do
        let (chars, rest) ← characters 0 rest
        return (chars.map (c :: ·), rest)

def fraction? : List Char → Option (List Char × List Char)
  | '.' :: rest => Text.spanDigits? rest
  | s => some ([], s)

def signed? : List Char → Option (Int × List Char)
  | '-' :: rest =>
      (Text.spanDigits? rest).map fun (digits, rest) => (-(Text.natOfDigits digits : Int), rest)
  | '+' :: rest => (Text.spanDigits? rest).map fun (digits, rest) => (Text.natOfDigits digits, rest)
  | s => (Text.spanDigits? s).map fun (digits, rest) => (Text.natOfDigits digits, rest)

def exponent? : List Char → Option (Option Int × List Char)
  | 'e' :: rest => (signed? rest).map fun (power, rest) => (some power, rest)
  | 'E' :: rest => (signed? rest).map fun (power, rest) => (some power, rest)
  | s => some (none, s)

def number? (s : List Char) : Option (Json × List Char) := do
  let (isNegative, s) := match s with
    | '-' :: rest => (true, rest)
    | _ => (false, s)
  let (whole, s) ← Text.spanDigits? s
  if whole.head? = some '0' ∧ whole.length ≠ 1 then none
  let (fraction, s) ← fraction? s
  let (power, rest) ← exponent? s
  return (Numeral.toJson { isNegative, whole, fraction, power }, rest)

def atLevel (level : Nat) (value : Json) : Json :=
  if level ≤ deepest then value else .unreadable

mutual

/-- Read a value at a level, with at most `fuel` calls. -/
def value? : (fuel level : Nat) → List Char → Option (Json × List Char)
  | 0, _, _ => none
  | fuel + 1, level, s =>
      match skipBlanks s with
      | '"' :: rest => do
          let (chars, rest) ← characters 0 rest
          return (chars.elim .unreadable (fun chars => .text (String.ofList chars)), rest)
      | '[' :: rest =>
          match skipBlanks rest with
          | ']' :: rest => some (atLevel level (.array []), rest)
          | rest => do
              let (items, rest) ← items? fuel (level + 1) rest
              return (atLevel level (.array items), rest)
      | '{' :: rest =>
          match skipBlanks rest with
          | '}' :: rest => some (atLevel level (.object []), rest)
          | rest => do
              let (fields, rest) ← fields? fuel (level + 1) rest
              return (fields.elim .unreadable (fun fields => atLevel level (.object fields)), rest)
      | 't' :: 'r' :: 'u' :: 'e' :: rest => some (.bool true, rest)
      | 'f' :: 'a' :: 'l' :: 's' :: 'e' :: rest => some (.bool false, rest)
      | 'n' :: 'u' :: 'l' :: 'l' :: rest => some (.null, rest)
      | rest => number? rest

/-- Read the items of an array, at least one, and its closing bracket. -/
def items? : (fuel level : Nat) → List Char → Option (List Json × List Char)
  | 0, _, _ => none
  | fuel + 1, level, s => do
      let (first, rest) ← value? fuel level s
      match skipBlanks rest with
      | ',' :: rest => do
          let (later, rest) ← items? fuel level rest
          return (first :: later, rest)
      | ']' :: rest => return ([first], rest)
      | _ => none

/-- Read the fields of an object, at least one, and its closing brace.  The fields are
missing if a name is unreadable. -/
def fields? : (fuel level : Nat) → List Char → Option (Option (List (String × Json)) × List Char)
  | 0, _, _ => none
  | fuel + 1, level, s =>
      match skipBlanks s with
      | '"' :: rest => do
          let (name, rest) ← characters 0 rest
          match skipBlanks rest with
          | ':' :: rest => do
              let (first, rest) ← value? fuel level rest
              let field := name.map fun name => (String.ofList name, first)
              match skipBlanks rest with
              | ',' :: rest => do
                  let (later, rest) ← fields? fuel level rest
                  return (do return (← field) :: (← later), rest)
              | '}' :: rest => return (field.map ([·]), rest)
              | _ => none
          | _ => none
      | _ => none

end

end Reader

/-- The value that a text is, with blanks around it and nothing else. -/
def read? (text : String) : Option Json := do
  let s := text.toList
  let (value, rest) ← Reader.value? (s.length + 1) 1 s
  if (Reader.skipBlanks rest).isEmpty then some value else none

end Listmaster.Json
