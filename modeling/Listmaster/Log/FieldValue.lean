import Listmaster.Log.Pattern
import Listmaster.Number.Binary64
import Listmaster.Text.Case

/-!
The values with which the fields of a span are compared: truth values, numbers,
and patterns for all other texts.

A value is written in one form only, in which its digits may differ from those
that were read: `+007` is the number `7`.
-/

namespace Listmaster.Log

/-- A value with which a field is compared. -/
inductive FieldValue where
  | bool (value : Bool)
  /-- A number without a minus sign, of at most 64 bits. -/
  | unsigned (value : Nat)
  /-- A number with a minus sign, of at most 63 bits and the sign. -/
  | signed (value : Int)
  | float (value : Binary64)
  | infinity (isNegative : Bool)
  | notNumber
  | pattern (text : String)
  deriving DecidableEq

namespace FieldValue

def splitSign : List Char → Bool × List Char
  | '+' :: rest => (false, rest)
  | '-' :: rest => (true, rest)
  | rest => (false, rest)

/-- The number that decimal digits write, if there are any and nothing else. -/
def natural? (s : List Char) : Option Nat :=
  if s.isEmpty then none else Text.natOfDigits? 10 s

def integer? (s : List Char) : Option FieldValue := do
  let (isNegative, digits) := splitSign s
  let n ← natural? digits
  if isNegative then
    if n ≤ Nat.pow 2 63 then some (.signed (-n)) else none
  else
    if Text.isWord n then some (.unsigned n) else none

/-- The power of ten that a mark introduces; without a mark it is zero. -/
def power? : List Char → Option Int
  | [] => some 0
  | mark :: rest =>
      if mark = 'e' ∨ mark = 'E' then
        let (isNegative, digits) := splitSign rest
        (natural? digits).map fun n => if isNegative then -n else n
      else none

/-- A number with a point, a power of ten, or a name. -/
def float? (s : List Char) : Option FieldValue := do
  let (isNegative, s) := splitSign s
  let name := s.map Char.toLower
  if name = "inf".toList ∨ name = "infinity".toList then
    return .infinity isNegative
  if name = "nan".toList then
    return .notNumber
  let whole := s.takeWhile Char.isDigit
  let (fraction, rest) := match s.dropWhile Char.isDigit with
    | '.' :: rest => (rest.takeWhile Char.isDigit, rest.dropWhile Char.isDigit)
    | rest => ([], rest)
  if whole.isEmpty && fraction.isEmpty then none
  let power ← power? rest
  let digits := Text.natOfDigits (whole ++ fraction)
  return (Binary64.nearest? isNegative digits (power - fraction.length)).elim
    (.infinity isNegative) .float

def ofText? (text : String) : Option FieldValue :=
  let s := text.toList
  if text = "true" then some (.bool true)
  else if text = "false" then some (.bool false)
  else
    ((integer? s).or (float? s)).or <|
      if Pattern.isWellFormed s then some (.pattern text) else none

def positional (d : Binary64.Decimal) : List Char :=
  let digits := Nat.toDigits 10 d.digits
  let point : Int := digits.length + d.power
  if 0 ≤ d.power then
    if d.digits = 0 then digits else digits ++ List.replicate d.power.toNat '0'
  else if 0 < point then digits.take point.toNat ++ '.' :: digits.drop point.toNat
  else ['0', '.'] ++ List.replicate (-point).toNat '0' ++ digits

def text : FieldValue → String
  | bool value => if value then "true" else "false"
  | unsigned value => toString value
  | signed value => toString value
  | float value =>
      String.ofList ((if value.negative then ['-'] else []) ++ positional value.shortest)
  | infinity isNegative => if isNegative then "-inf" else "inf"
  | notNumber => "NaN"
  | pattern text => text

end FieldValue

end Listmaster.Log
