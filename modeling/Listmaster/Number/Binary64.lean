/-!
Binary floating point numbers of 64 bits: the nearest one to a decimal number,
their products and quotients, and the shortest decimal number that is read back
as a given one.

All of it is exact arithmetic on natural numbers.  A finite number is
`significand · 2 ^ exponent`, with a significand below `2 ^ 53` that is at least
`2 ^ 52` unless the exponent is the least one.
-/

namespace Listmaster

/-- A finite binary floating point number of 64 bits. -/
structure Binary64 where
  /-- Whether the sign is a minus; zero has a sign too. -/
  negative : Bool
  significand : Nat
  /-- The exponent of two, from `-1074` to `971`. -/
  exponent : Int
  deriving DecidableEq

namespace Binary64

/-- A quotient rounded to the nearest natural number, a half to the even one. -/
def roundDiv (num den : Nat) : Nat :=
  let quotient := num / den
  let rest := num % den
  if 2 * rest < den then quotient
  else if den < 2 * rest then quotient + 1
  else quotient + quotient % 2

/-- A quotient with a power of two in the denominator, rounded. -/
def roundScaled (num den : Nat) (exponent : Int) : Nat :=
  match exponent with
  | .ofNat e => roundDiv num (den * Nat.pow 2 e)
  | .negSucc e => roundDiv (num * Nat.pow 2 (e + 1)) den

/-- Whether a quotient is below `2 ^ 52` once the power of two is taken out. -/
def isBelowNormal (num den : Nat) (exponent : Int) : Bool :=
  match exponent with
  | .ofNat e => num < Nat.pow 2 52 * (den * Nat.pow 2 e)
  | .negSucc e => num * Nat.pow 2 (e + 1) < Nat.pow 2 52 * den

def minExponent : Int := -1074

def maxExponent : Int := 971

/-- The nearest number to a positive quotient; none if it is too large. -/
def nearestQuotient? (num den : Nat) : Option (Nat × Int) :=
  let guess : Int := (num.log2 : Int) - (den.log2 : Int) - 52
  let exponent := if isBelowNormal num den guess then guess - 1 else guess
  let exponent := if exponent < minExponent then minExponent else exponent
  let significand := roundScaled num den exponent
  let (significand, exponent) :=
    if significand = Nat.pow 2 53 then (Nat.pow 2 52, exponent + 1) else (significand, exponent)
  if maxExponent < exponent then none else some (significand, exponent)

/-- The nearest number to `± digits · 10 ^ power`; none if it is too large. -/
def nearest? (negative : Bool) (digits : Nat) (power : Int) : Option Binary64 :=
  let zero : Binary64 := ⟨negative, 0, minExponent⟩
  if digits = 0 then some zero
  else if 400 < power then none
  else if power + (digits.log2 : Int) < -400 then
    -- far below the least positive number: `digits < 10 ^ (log2 digits + 1)`
    some zero
  else
    let result :=
      match power with
      | .ofNat p => nearestQuotient? (digits * Nat.pow 10 p) 1
      | .negSucc p => nearestQuotient? digits (Nat.pow 10 (p + 1))
    result.map fun (significand, exponent) => ⟨negative, significand, exponent⟩

/-- The nearest number to a quotient of the significands, times a power of two; none if it is
too large. -/
def ofQuotient? (negative : Bool) (num den : Nat) (exponent : Int) : Option Binary64 :=
  if num = 0 then some ⟨negative, 0, minExponent⟩
  else
    let result :=
      match exponent with
      | .ofNat e => nearestQuotient? (num * Nat.pow 2 e) den
      | .negSucc e => nearestQuotient? num (den * Nat.pow 2 (e + 1))
    result.map fun (significand, exponent) => ⟨negative, significand, exponent⟩

/-- The product of two numbers, rounded; none if it is too large. -/
def mul? (x y : Binary64) : Option Binary64 :=
  ofQuotient? (x.negative != y.negative) (x.significand * y.significand) 1
    (x.exponent + y.exponent)

/-- The quotient of a number and one that is not zero, rounded; none if it is too large. -/
def div? (x y : Binary64) : Option Binary64 :=
  ofQuotient? (x.negative != y.negative) x.significand y.significand (x.exponent - y.exponent)

/-- A multiple of a power of ten, `digits · 10 ^ power`. -/
structure Decimal where
  digits : Nat
  power : Int
  deriving DecidableEq

/-- A positive number between its two neighbours, in units of a quarter of its last binary
place: the numbers that are read as it lie between `low` and `high`, both included iff
`closed`; all of them over `den`. -/
structure Interval where
  low : Nat
  value : Nat
  high : Nat
  den : Nat
  closed : Bool

/-- The decimal numbers that are read as `significand · 2 ^ exponent`. -/
def interval (significand : Nat) (exponent : Int) : Interval :=
  let below := if significand = Nat.pow 2 52 ∧ minExponent < exponent then 1 else 2
  let (scale, den) : Nat × Nat :=
    match exponent - 2 with
    | .ofNat e => (Nat.pow 2 e, 1)
    | .negSucc e => (1, Nat.pow 2 (e + 1))
  { low := (4 * significand - below) * scale
    value := 4 * significand * scale
    high := (4 * significand + 2) * scale
    den := den
    closed := significand % 2 = 0 }

/-- Whether `digits · 10 ^ power` lies in the interval. -/
def Interval.contains (i : Interval) (digits : Nat) (power : Int) : Bool :=
  let (point, den) : Nat × Nat :=
    match power with
    | .ofNat p => (digits * Nat.pow 10 p * i.den, 1)
    | .negSucc p => (digits * i.den, Nat.pow 10 (p + 1))
  if i.closed then i.low * den ≤ point && point ≤ i.high * den
  else i.low * den < point && point < i.high * den

/-- The multiples of `10 ^ power` next to the value, the nearer one first. -/
def Interval.neighbours (i : Interval) (power : Int) : List Nat :=
  let (num, den) : Nat × Nat :=
    match power with
    | .ofNat p => (i.value, i.den * Nat.pow 10 p)
    | .negSucc p => (i.value * Nat.pow 10 (p + 1), i.den)
  let floor := num / den
  if 2 * (num % den) ≤ den then [floor, floor + 1] else [floor + 1, floor]

/-- Search the grids of powers of ten, from `power` down, for a point in the interval. -/
def Interval.shortest (i : Interval) : Nat → Int → Decimal
  | 0, power => ⟨0, power⟩
  | grids + 1, power =>
      match (i.neighbours power).find? fun digits => digits != 0 && i.contains digits power with
      | some digits => ⟨digits, power⟩
      | none => i.shortest grids (power - 1)

/-- The decimal number with the fewest digits that is read as the absolute value of the
number; of two such numbers the nearer one. -/
def shortest (x : Binary64) : Decimal :=
  if x.significand = 0 then ⟨0, 0⟩
  else
    -- a power of ten above the value: `log₁₀ 2` is about `0.30103`
    let top := (x.exponent + (x.significand.log2 : Int) + 1) * 30103 / 100000 + 1
    (interval x.significand x.exponent).shortest 20 top

end Binary64

end Listmaster
