import Listmaster.Program

/-!
The program on the files of the system.

Servers are out of its reach: a directory that is on a server is unavailable.
-/

namespace Listmaster

def FileError.ofIOError : IO.Error → FileError
  | .noFileOrDirectory .. => .notFound
  | .inappropriateType _ code details =>
      if code = 21 then .isDirectory else if code = 20 then .notDirectory else .other details
  | error => .other error.toString

def Environment.ofSystem : Environment IO where
  contentOf path := do
    match ← (IO.FS.readBinFile path).toBaseIO with
    | .ok content => return .ok content
    | .error error => return .error (.ofIOError error)
  connect _ _ := return .error "servers are out of reach"
  createLog path := do
    let create : IO Unit := do
      let directory := "/".intercalate ((path.splitOn "/").dropLast)
      if directory != "" then
        IO.FS.createDirAll directory
      let _ ← IO.FS.Handle.mk path .append
    return (← create.toBaseIO) matches .ok _

end Listmaster

def main (arguments : List String) : IO UInt32 := do
  let exit ← Listmaster.Program.run Listmaster.Environment.ofSystem arguments
  IO.print exit.output
  IO.eprint exit.complaint
  return exit.code.toUInt32
