import Listmaster.Path
import Listmaster.Sorted.Map

/-!
Files: how reading them fails, and trees of files that stand in for real ones.

A path is followed step by step from the working directory, or from the root.
Every step leaves a directory that exists; what it leads to may be missing.
-/

namespace Listmaster

/-- Why a file was not read. -/
inductive FileError where
  | notFound
  | isDirectory
  | notDirectory
  /-- A name in the path is longer than names can be. -/
  | nameTooLong
  /-- The path has a character that no path may have. -/
  | invalidPath
  /-- The octets of the file are no text in UTF-8. -/
  | notText
  | other (message : String)
  deriving DecidableEq

def FileError.message : FileError → String
  | notFound => "No such file or directory (os error 2)"
  | isDirectory => "Is a directory (os error 21)"
  | notDirectory => "Not a directory (os error 20)"
  | nameTooLong => "File name too long (os error 36)"
  | invalidPath => "file name contained an unexpected NUL byte"
  | notText => "stream did not contain valid UTF-8"
  | other message => message

/-- A place in a tree of files. -/
structure Place where
  /-- How many directories above the working directory the names begin; at the root, if there
  is no number. -/
  above : Option Nat
  /-- The names that lead to the place, the last one first. -/
  names : List String
  deriving DecidableEq

namespace Place

def here : Place := ⟨some 0, []⟩

def root : Place := ⟨none, []⟩

def startOf (path : String) : Place := if path.startsWith "/" then root else here

def parent (place : Place) : Place :=
  match place.names with
  | _ :: names => { place with names }
  | [] => { place with above := place.above.map (· + 1) }

def child (place : Place) (name : String) : Place := { place with names := name :: place.names }

end Place

/-- A file, or a directory. -/
inductive Node where
  | file (content : ByteArray)
  | directory

structure Files where
  /-- What is found at the places that have a name. -/
  nodes : List (Place × Node)

namespace Files

/-- The files of the working directory, if there is nothing else. -/
def ofList (files : List (String × ByteArray)) : Files :=
  ⟨files.map fun (name, content) => (Place.here.child name, .file content)⟩

def get? (files : Files) (place : Place) : Option Node :=
  if place.names.isEmpty then some .directory else files.nodes.lookup place

def insert (files : Files) (place : Place) (node : Node) : Files := ⟨(place, node) :: files.nodes⟩

def names (files : Files) : List String :=
  files.nodes.filterMap fun (place, _) =>
    match place with
    | ⟨some 0, [name]⟩ => some name
    | _ => none

def enter (files : Files) (place : Place) (step : String) : Except FileError Place :=
  match files.get? place with
  | none => .error .notFound
  | some (.file _) => .error .notDirectory
  | some .directory =>
      if step = "" ∨ step = "." then .ok place
      else if step = ".." then .ok place.parent
      else if 255 < step.utf8ByteSize then .error .nameTooLong
      else .ok (place.child step)

def follow (files : Files) (path : String) : Except FileError Place :=
  if path = "" then .error .notFound
  else if path.contains (Char.ofNat 0) then .error .invalidPath
  else if 4096 ≤ path.utf8ByteSize then .error .nameTooLong
  else
    ((Text.pieces '/' path.toList).map String.ofList).foldlM files.enter (Place.startOf path)

def read (files : Files) (path : String) : Except FileError ByteArray := do
  match files.get? (← files.follow path) with
  | none => throw .notFound
  | some .directory => throw .isDirectory
  | some (.file content) => return content

/-- Create the file at the end of the steps, unless it is there. -/
def createFile (files : Files) (start : Place) (steps : List String) : Except FileError Files := do
  let place ← steps.foldlM files.enter start
  match files.get? place with
  | some .directory => throw .isDirectory
  | some (.file _) => return files
  | none => return files.insert place (.file .empty)

/-- Create the directories on the way, and tell whether all of them are there. -/
def createDirectories (files : Files) (place : Place) : List String → Files × Bool
  | [] => (files, true)
  | step :: rest =>
      match files.enter place step with
      | .error _ => (files, false)
      | .ok next =>
          match files.get? next with
          | some .directory => files.createDirectories next rest
          | some (.file _) => (files, false)
          | none => (files.insert next .directory).createDirectories next rest

/-- Create the file at a path, and the directories on the way to it if they are missing.  Tell
whether the file is there. -/
def create (files : Files) (path : String) : Files × Bool :=
  let steps := Path.steps path
  let start := Place.startOf path
  match files.createFile start steps with
  | .ok files => (files, true)
  | .error _ =>
      let (files, isComplete) := files.createDirectories start steps.dropLast
      match isComplete, files.createFile start steps with
      | true, .ok files => (files, true)
      | _, _ => (files, false)

end Files

end Listmaster
