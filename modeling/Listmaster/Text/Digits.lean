/-!
Digits, and the numbers that they write.
-/

namespace Listmaster.Text

def natOfDigits (digits : List Char) : Nat :=
  digits.foldl (fun n c => 10 * n + (c.toNat - 48)) 0

/-- The value of a digit up to `f`, in either case. -/
def digit? (c : Char) : Option Nat :=
  if c.isDigit then some (c.toNat - 48)
  else if 'a' ≤ c ∧ c ≤ 'f' then some (c.toNat - 87)
  else if 'A' ≤ c ∧ c ≤ 'F' then some (c.toNat - 55)
  else none

/-- The number written by digits to a base up to sixteen. -/
def natOfDigits? (base : Nat) (digits : List Char) : Option Nat :=
  digits.foldlM
    (fun n c => (digit? c).bind fun d => if d < base then some (base * n + d) else none) 0

/-- The decimal digits that come first, at least one, and what follows them. -/
def spanDigits? (s : List Char) : Option (List Char × List Char) :=
  let digits := s.takeWhile Char.isDigit
  if digits.isEmpty then none else some (digits, s.dropWhile Char.isDigit)

def isWord (n : Nat) : Bool := n < Nat.pow 2 64

end Listmaster.Text
