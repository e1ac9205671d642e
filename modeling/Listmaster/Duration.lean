import Listmaster.Refusal
import Listmaster.Text.Blank
import Listmaster.Text.Digits

/-!
Durations as people write them: `1h 30m`, `2days`, `1.5s`.

A duration is read as a sum of terms, each a number with a unit, and written
with the largest units first.  A year has 365.25 days, and a month is its
twelfth part, 30.44 days.
-/

namespace Listmaster

structure Duration where
  nanoseconds : Nat
  deriving DecidableEq

namespace Duration

def second : Nat := 1000000000

structure TimeUnit where
  names : List String
  nanoseconds : Nat
  /-- The least part of the unit that a fraction may have; a nanosecond has no parts. -/
  grain : Nat

def units : List TimeUnit :=
  [⟨["nanos", "nsec", "ns"], 1, 0⟩,
    ⟨["usec", "us", "µs"], 1000, 1⟩,
    ⟨["millis", "msec", "ms"], 1000000, 1⟩,
    ⟨["seconds", "second", "secs", "sec", "s"], second, 1⟩,
    ⟨["minutes", "minute", "min", "mins", "m"], 60 * second, 1⟩,
    ⟨["hours", "hour", "hr", "hrs", "h"], 3600 * second, second⟩,
    ⟨["days", "day", "d"], 86400 * second, second⟩,
    ⟨["weeks", "week", "wk", "wks", "w"], 604800 * second, second⟩,
    ⟨["months", "month", "M"], 2630016 * second, second⟩,
    ⟨["years", "year", "yr", "yrs", "y"], 31557600 * second, second⟩]

/-- A number with a unit. -/
structure Term where
  whole : List Char
  fraction : Option (List Char)
  unit : List Char

/-- Whether the character may stand in a number; blanks are skipped there. -/
def isNumberChar (c : Char) : Bool := c.isDigit || Text.isBlank c

def isUnitChar (c : Char) : Bool := c.isAlpha || c = 'µ'

/-- The digits of a number that comes first, and what follows it. -/
def spanNumber (s : List Char) : List Char × List Char :=
  ((s.takeWhile isNumberChar).filter Char.isDigit, s.dropWhile isNumberChar)

def term? (s : List Char) : Option (Term × List Char) :=
  if (s.head?.any Char.isDigit) = false then none
  else
    let (whole, rest) := spanNumber s
    let (fraction, rest) := match rest with
      | '.' :: rest => ((some (spanNumber rest).1), (spanNumber rest).2)
      | rest => (none, rest)
    let unit := rest.takeWhile isUnitChar
    let rest := rest.dropWhile isUnitChar
    if fraction = some [] then none
    else if rest.head?.all isNumberChar then some (⟨whole, fraction, unit⟩, rest)
    else none

/-- The part of a unit that a fraction is, if it is a whole number of its grains. -/
def fractionOf? (unit : TimeUnit) (digits : List Char) : Option Nat :=
  let numerator := Text.natOfDigits digits
  let denominator := Nat.pow 10 digits.length
  let grains := numerator * (unit.nanoseconds / unit.grain)
  if unit.grain ≠ 0 ∧ Text.isWord denominator ∧ Text.isWord grains ∧ grains % denominator = 0 then
    some (grains / denominator * unit.grain)
  else none

/-- Add an amount to a length of time, both with at most 64 bits: a fine amount is counted in
nanoseconds, another one in seconds.  A full second of nanoseconds is carried over last, when
it is too late to refuse it. -/
def plus (isFine : Bool) (total amount : Nat) : Except Refusal Nat :=
  let counted := if isFine then total % second + amount else amount / second
  let sum := total + amount
  if Text.isWord counted && Text.isWord (sum / second) then .ok sum
  else if isFine && counted = second then .error .aborted
  else .error .malformed

def Term.addTo (total : Nat) (term : Term) : Except Refusal Nat := do
  let unit ← Refusal.ofOption (units.find? fun unit => unit.names.any (·.toList = term.unit))
  let whole := Text.natOfDigits term.whole
  if !Text.isWord whole then throw .malformed
  let total ← plus (unit.nanoseconds < second) total (whole * unit.nanoseconds)
  match term.fraction with
  | none => return total
  | some digits => plus (unit.grain < second) total (← Refusal.ofOption (fractionOf? unit digits))

/-- Add the terms of a text, at least one and at most `fuel` of them, to a length of time. -/
def addTerms : (fuel total : Nat) → List Char → Except Refusal Nat
  | 0, _, _ => .error .malformed
  | fuel + 1, total, s => do
      let (first, rest) ← Refusal.ofOption (term? (s.dropWhile Text.isBlank))
      let total ← first.addTo total
      let rest := rest.dropWhile Text.isBlank
      if rest.isEmpty then return total else addTerms fuel total rest

/-- The duration that a text writes; it has less than `2 ^ 64` seconds. -/
def parse (text : String) : Except Refusal Duration :=
  if text = "0" then .ok ⟨0⟩
  else (addTerms (text.length + 1) 0 text.toList).map Duration.mk

def amount (n : Nat) (one many : String) : List String :=
  if n = 0 then [] else [toString n ++ if n = 1 then one else many]

def text (duration : Duration) : String :=
  let nanos := duration.nanoseconds % second
  let seconds := duration.nanoseconds / second
  let inYear := seconds % 31557600
  let inMonth := inYear % 2630016
  let inDay := inMonth % 86400
  let parts :=
    amount (seconds / 31557600) "year" "years" ++ amount (inYear / 2630016) "month" "months" ++
      amount (inMonth / 86400) "day" "days" ++ amount (inDay / 3600) "h" "h" ++
      amount (inDay % 3600 / 60) "m" "m" ++ amount (inDay % 60) "s" "s" ++
      amount (nanos / 1000000) "ms" "ms" ++ amount (nanos / 1000 % 1000) "us" "us" ++
      amount (nanos % 1000) "ns" "ns"
  if parts.isEmpty then "0s" else String.intercalate " " parts

end Duration

end Listmaster
