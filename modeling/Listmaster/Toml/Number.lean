import Listmaster.Json.Basic
import Listmaster.Text.Pieces
import Listmaster.Toml.Quoted

/-!
Numbers and dates in TOML.

Integers have 64 bits.  Floating point numbers and dates are recognized, but
have no use here: they are read as values that cannot be used.
-/

namespace Listmaster.Toml

/-- Whether the character may stand in a number or in a date. -/
def isNumberChar (c : Char) : Bool :=
  c.isAlphanum || c = '+' || c = '-' || c = '_' || c = '.' || c = ':'

def digits? (isDigit : Char → Bool) (s : List Char) : Option (List Char) :=
  let groups := Text.pieces '_' s
  if groups.all fun group => !group.isEmpty && group.all isDigit then some groups.flatten
  else none

def splitSign : List Char → Bool × List Char
  | '+' :: rest => (false, rest)
  | '-' :: rest => (true, rest)
  | rest => (false, rest)

/-- The digits of a decimal number, which begins with a zero only if it is one. -/
def decimal? (s : List Char) : Option (List Char) := do
  let digits ← digits? Char.isDigit s
  if digits.length ≠ 1 ∧ digits.head? = some '0' then none else some digits

def based? (base : Nat) (s : List Char) : Option Int := do
  let digits ← digits? (fun c => (Text.digit? c).any (· < base)) s
  let n ← Text.natOfDigits? base digits
  if n < Nat.pow 2 63 then some n else none

def integer? : List Char → Option Int
  | '0' :: 'x' :: rest => based? 16 rest
  | '0' :: 'o' :: rest => based? 8 rest
  | '0' :: 'b' :: rest => based? 2 rest
  | s => do
      let (isNegative, s) := splitSign s
      let n := Text.natOfDigits (← decimal? s)
      if isNegative then
        if n ≤ Nat.pow 2 63 then some (-n) else none
      else
        if n < Nat.pow 2 63 then some n else none

/-- The power of ten after a mark; nothing is zero. -/
def power? : List Char → Option Int
  | [] => some 0
  | mark :: rest => do
      if mark ≠ 'e' ∧ mark ≠ 'E' then none
      let (isNegative, rest) := splitSign rest
      let n := Text.natOfDigits (← digits? Char.isDigit rest)
      return if isNegative then -n else n

/-- Whether the text writes a floating point number.  Only one with a minus sign can be too
large. -/
def isFloat (s : List Char) : Bool :=
  let (isNegative, s) := splitSign s
  let isDigitOrGap (c : Char) : Bool := c.isDigit || c = '_'
  let isSmall (digits : List Char) (power : Int) : Bool :=
    isNegative || (Binary64.nearest? false (Text.natOfDigits digits) power).isSome
  let isNumber : Option Bool := do
    let whole ← decimal? (s.takeWhile isDigitOrGap)
    match s.dropWhile isDigitOrGap with
    | [] => none
    | '.' :: rest =>
        let fraction ← digits? Char.isDigit (rest.takeWhile isDigitOrGap)
        let power ← power? (rest.dropWhile isDigitOrGap)
        return isSmall (whole ++ fraction) (power - fraction.length)
    | rest => return isSmall whole (← power? rest)
  s == ['i', 'n', 'f'] || s == ['n', 'a', 'n'] || isNumber == some true

def fixed? (count : Nat) (s : List Char) : Option Nat :=
  if s.length = count ∧ s.all Char.isDigit = true then some (Text.natOfDigits s) else none

def daysIn (year month : Nat) : Nat :=
  if month = 2 then
    if year % 4 = 0 ∧ (year % 100 ≠ 0 ∨ year % 400 = 0) then 29 else 28
  else if month = 4 ∨ month = 6 ∨ month = 9 ∨ month = 11 then 30
  else 31

/-- Whether the text writes a day, as in `1979-05-27`. -/
def isDate (s : List Char) : Bool :=
  match Text.pieces '-' s with
  | [year, month, day] =>
      match fixed? 4 year, fixed? 2 month, fixed? 2 day with
      | some year, some month, some day =>
          1 ≤ month && month ≤ 12 && 1 ≤ day && day ≤ daysIn year month
      | _, _, _ => false
  | _ => false

def isClock (hour minute : List Char) : Bool :=
  (fixed? 2 hour).any (· ≤ 23) && (fixed? 2 minute).any (· ≤ 59)

/-- Whether the text writes a time of the day, as in `07:32:00.5`. -/
def isTime (s : List Char) : Bool :=
  match Text.pieces ':' s with
  | [hour, minute, seconds] =>
      isClock hour minute && (fixed? 2 (seconds.take 2)).any (· ≤ 60) &&
        match seconds.drop 2 with
        | [] => true
        | '.' :: fraction => !fraction.isEmpty && fraction.all Char.isDigit
        | _ => false
  | _ => false

def isOffset (s : List Char) : Bool :=
  match s with
  | ['Z'] | ['z'] => true
  | sign :: rest =>
      (sign = '+' || sign = '-') &&
        match Text.pieces ':' rest with
        | [hour, minute] => isClock hour minute
        | _ => false
  | [] => false

/-- Whether the text writes a time of the day, with or without a difference to the universal
time. -/
def isTimeAndOffset (s : List Char) : Bool :=
  let isClockChar (c : Char) : Bool := c.isDigit || c = ':' || c = '.'
  let offset := s.dropWhile isClockChar
  isTime (s.takeWhile isClockChar) && (offset.isEmpty || isOffset offset)

def isDateTime (s : List Char) : Bool :=
  isDate (s.take 10) &&
    match s.drop 10 with
    | [] => true
    | mark :: rest => (mark = 'T' || mark = 't' || mark = ' ') && isTimeAndOffset rest

/-- The number, the day or the time that comes first, and what follows it. -/
def number? (s : List Char) : Option (Json × List Char) :=
  let word := s.takeWhile isNumberChar
  let rest := s.dropWhile isNumberChar
  match integer? word, rest with
  | some n, rest => some (.integer n, rest)
  | none, ' ' :: digit :: later =>
      if isDate word && digit.isDigit then
        let time := (digit :: later).takeWhile isNumberChar
        if isDateTime (word ++ ' ' :: time) then
          some (.unreadable, (digit :: later).dropWhile isNumberChar)
        else none
      else if isFloat word || isTime word || isDateTime word then some (.unreadable, rest)
      else none
  | none, rest =>
      if isFloat word || isTime word || isDateTime word then some (.unreadable, rest) else none

end Listmaster.Toml
