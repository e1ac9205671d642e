import Listmaster.Text.Pieces

/-!
Paths of files.
-/

namespace Listmaster.Path

/-- The steps of a path, without those that lead nowhere. -/
def steps (path : String) : List String :=
  let pieces := (Text.pieces '/' path.toList).map String.ofList
  pieces.filter fun step => step != "" && step != "."

/-- The name of the file or directory at the end of a path; none if the path ends with a step
that has no name. -/
def fileName? (path : String) : Option String := (steps path).getLast?.filter (· != "..")

end Listmaster.Path
