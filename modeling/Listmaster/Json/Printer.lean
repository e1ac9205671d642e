import Listmaster.Json.Basic

/-!
Writing JSON texts, on one line (`Json.compact`) or indented by two blanks for
each level (`Json.pretty`).
-/

namespace Listmaster.Json

namespace Printer

def character (c : Char) : List Char :=
  if c = '"' then ['\\', '"']
  else if c = '\\' then ['\\', '\\']
  else if c = '\n' then ['\\', 'n']
  else if c = '\r' then ['\\', 'r']
  else if c = '\t' then ['\\', 't']
  else if c.toNat = 8 then ['\\', 'b']
  else if c.toNat = 12 then ['\\', 'f']
  else if c.toNat < 0x20 then
    ['\\', 'u', '0', '0', Nat.digitChar (c.toNat / 16), Nat.digitChar (c.toNat % 16)]
  else [c]

def text (s : String) : List Char := '"' :: s.toList.flatMap character ++ ['"']

/-- A decimal number, with a point and at least one digit on each side of it where it is
neither too small nor too large, and with an exponent elsewhere. -/
def decimal (d : Binary64.Decimal) : List Char :=
  let digits := Nat.toDigits 10 d.digits
  let point : Int := digits.length + d.power
  if d.digits = 0 then ['0', '.', '0']
  else if 0 ≤ d.power ∧ point ≤ 16 then
    digits ++ List.replicate d.power.toNat '0' ++ ['.', '0']
  else if 0 < point ∧ point ≤ 16 then
    digits.take point.toNat ++ '.' :: digits.drop point.toNat
  else if -5 < point ∧ point ≤ 0 then
    ['0', '.'] ++ List.replicate (-point).toNat '0' ++ digits
  else
    digits.take 1 ++ (if digits.length = 1 then [] else '.' :: digits.drop 1) ++
      ['e', if 0 < point then '+' else '-'] ++ Nat.toDigits 10 (point - 1).natAbs

/-- A floating point number, by the fewest digits that are read as it. -/
def float (x : Binary64) : List Char :=
  (if x.negative then ['-'] else []) ++ decimal x.shortest

def scalar : Json → List Char
  | .bool true => "true".toList
  | .bool false => "false".toList
  | .integer value => (toString value).toList
  | .float value => float value
  | .text value => text value
  | _ => "null".toList

mutual

def compact : Json → List Char
  | .array items => '[' :: compactItems items ++ [']']
  | .object fields => '{' :: compactFields fields ++ ['}']
  | other => scalar other

def compactItems : List Json → List Char
  | [] => []
  | [item] => compact item
  | item :: rest => compact item ++ ',' :: compactItems rest

def compactFields : List (String × Json) → List Char
  | [] => []
  | [(name, value)] => text name ++ ':' :: compact value
  | (name, value) :: rest => text name ++ ':' :: compact value ++ ',' :: compactFields rest

end

/-- The end of a line and the blanks at the beginning of the next one. -/
def newLine (level : Nat) : List Char := '\n' :: List.replicate (2 * level) ' '

mutual

def pretty (level : Nat) : Json → List Char
  | .array [] => ['[', ']']
  | .array items => '[' :: prettyItems (level + 1) items ++ newLine level ++ [']']
  | .object [] => ['{', '}']
  | .object fields => '{' :: prettyFields (level + 1) fields ++ newLine level ++ ['}']
  | other => scalar other

def prettyItems (level : Nat) : List Json → List Char
  | [] => []
  | [item] => newLine level ++ pretty level item
  | item :: rest => newLine level ++ pretty level item ++ ',' :: prettyItems level rest

def prettyFields (level : Nat) : List (String × Json) → List Char
  | [] => []
  | [(name, value)] => newLine level ++ text name ++ ':' :: ' ' :: pretty level value
  | (name, value) :: rest =>
      newLine level ++ text name ++ ':' :: ' ' :: pretty level value ++
        ',' :: prettyFields level rest

end

end Printer

def compact (value : Json) : String := String.ofList (Printer.compact value)

def pretty (value : Json) : String := String.ofList (Printer.pretty 0 value)

end Listmaster.Json
