import Listmaster.Environment
import Listmaster.Ldap.Script

/-!
Sandboxes: environments in which a program can be run without a system.

The files of a sandbox are a tree, which grows when a program creates the file of
its log.  At most one server listens, on a socket, and nothing on the network.
-/

namespace Listmaster

/-- The length from which on a path is too long for a socket. -/
def longestSocketPath : Nat := 108

namespace Sandbox

def refused : String := "I/O error: Connection refused (os error 111)"

def connectTo (script : Option Ldap.Script) (files : Files) (path : String)
    (credentials : Option Ldap.Credentials) : Except String Ldap.Server :=
  if path.toList.head? = some (Char.ofNat 0) then .error refused
  else if path.contains (Char.ofNat 0) then
    .error "I/O error: paths must not contain interior null bytes"
  else if longestSocketPath ≤ path.utf8ByteSize then
    .error "I/O error: path must be shorter than SUN_LEN"
  else
    let missing (error : FileError) : String := "I/O error: " ++ error.message
    match files.follow path with
    | .error error => .error (missing error)
    | .ok place =>
        match script.filter fun script => place = Place.here.child script.path with
        | some script => script.connect credentials
        | none =>
            match files.get? place with
            | none => .error (missing .notFound)
            | some _ => .error refused

def environment (script : Option Ldap.Script) : Environment (StateM Files) where
  contentOf path := return (← get).read path
  connect endpoint credentials := do
    match endpoint with
    | .socket path => return connectTo script (← get) path credentials
    | .network .. => return .error refused
  createLog path := modifyGet fun files =>
    let (files, isThere) := files.create path
    (isThere, files)

end Sandbox

end Listmaster
