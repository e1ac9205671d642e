import Listmaster.Json.Basic
import Listmaster.Text.Digits

/-!
Numbers in JSON.

A number without a point and an exponent is an integer if it has at most 64
bits.  Other numbers are floating point: their first digits, as many as fit into
64 bits, are taken as a number that is multiplied or divided by a power of ten.
Each of these steps rounds, so the result is not always the nearest number to
what is written.
-/

namespace Listmaster.Json

/-- A number as it is written. -/
structure Numeral where
  isNegative : Bool
  whole : List Char
  fraction : List Char
  power : Option Int

namespace Numeral

/-- The number that the digits so far and the next ones write, as far as it has at most 64
bits, and how many digits belong to it. -/
def take (value count : Nat) : List Char → Nat × Nat
  | [] => (value, count)
  | c :: rest =>
      let next := 10 * value + (c.toNat - 48)
      if Text.isWord next then take next (count + 1) rest else (value, count)

/-- The greatest power of ten by which a number is multiplied or divided at once. -/
def greatestPower : Nat := 308

/-- Multiply a number by a power of ten, or divide it; none if it becomes too large.  Two
divisions by the greatest power lead from every number of 64 bits to zero. -/
def scale? : (divisions : Nat) → (power : Int) → Binary64 → Option Binary64
  | 0, _, x => some x
  | divisions + 1, power, x =>
      let ten (n : Nat) : Option Binary64 := Binary64.nearest? false 1 n
      if power.natAbs ≤ greatestPower then do
        let factor ← ten power.natAbs
        if 0 ≤ power then x.mul? factor else x.div? factor
      else if x.significand = 0 then some x
      else if 0 ≤ power then none
      else do scale? divisions (power + greatestPower) (← x.div? (← ten greatestPower))

/-- The value of a number with a point or an exponent, or with too many digits for an
integer; none if it is too large. -/
def float? (n : Numeral) : Option Binary64 := do
  let (value, kept) := take 0 0 n.whole
  let (value, places) := take value 0 n.fraction
  let power := n.power.getD 0
  if power.natAbs < Nat.pow 2 31 then
    scale? 3 ((n.whole.length - kept : Nat) - places + power)
      (← Binary64.nearest? n.isNegative value 0)
  else if value = 0 ∨ power < 0 then Binary64.nearest? n.isNegative 0 0
  else none

/-- The integer that the number is, if it has at most 64 bits; zero has no sign as one. -/
def integer? (n : Numeral) : Option Int :=
  if !n.fraction.isEmpty || n.power.isSome then none
  else
    let value := Text.natOfDigits n.whole
    if n.isNegative then if 0 < value ∧ value ≤ Nat.pow 2 63 then some (-value) else none
    else if Text.isWord value then some value else none

/-- The value of the number, of which nothing can be made if it is too large. -/
def toJson (n : Numeral) : Json :=
  match n.integer? with
  | some value => .integer value
  | none => n.float?.elim .unreadable .float

end Numeral

end Listmaster.Json
