/-!
Classes of characters that are given by ranges of code points.
-/

namespace Listmaster.Text

/-- Whether the code point of the character is in one of the ranges, both ends included. -/
def isWithin (ranges : List (Nat × Nat)) (c : Char) : Bool :=
  ranges.any fun (first, last) => first ≤ c.toNat && c.toNat ≤ last

end Listmaster.Text
