/-!
How the reading of a text can fail.

A text that is not understood is refused, and what asked for it goes on.  Some
texts lead to a result that cannot be represented: then there is nothing to go
on with, and the run is aborted.
-/

namespace Listmaster

/-- Why a text was not read. -/
inductive Refusal where
  | malformed
  | aborted
  deriving DecidableEq

namespace Refusal

def ofOption {α : Type} : Option α → Except Refusal α
  | none => .error .malformed
  | some value => .ok value

end Refusal

end Listmaster
