import Listmaster.Files
import Listmaster.Ldap.Client
import Listmaster.Ldap.Endpoint
import Listmaster.Pem

/-!
The environment of the program: what it can reach outside of itself.
-/

namespace Listmaster

/-- What a program can reach, in a monad. -/
structure Environment (m : Type → Type) where
  contentOf : String → m (Except FileError ByteArray)
  /-- Connect to the server at an endpoint, or tell why there is no connection. -/
  connect : Ldap.Endpoint → Option Ldap.Credentials → m (Except String Ldap.Server)
  /-- Create the file of the log, and the directories on the way to it.  Tell whether it is
  there. -/
  createLog : String → m Bool

namespace Environment

variable {m : Type → Type} [Monad m]

def readText (environment : Environment m) (path : String) : m (Except FileError String) := do
  match ← environment.contentOf path with
  | .error error => return .error error
  | .ok content => return (String.fromUTF8? content).elim (.error .notText) .ok

/-- The reason why the file with root certificates is of no use, if there is one. -/
def certificatesFlaw? (environment : Environment m) (parameters : Ldap.Parameters) :
    m (Option String) := do
  match parameters.tls.bind Ldap.TlsParameters.caFile with
  | none => return none
  | some path =>
      match ← environment.contentOf path with
      | .error error => return some error.message
      | .ok content => return (Pem.flaw? content).map Pem.Flaw.message

/-- Try to connect to a server; where there is no connection, there may be a reason.  The file
with root certificates is read before. -/
def attempt (environment : Environment m) (parameters : Ldap.Parameters) :
    m (Except (Option String) Ldap.Server) := do
  match ← environment.certificatesFlaw? parameters with
  | some reason => return .error (some s!"I/O error: {reason}")
  | none =>
      match Ldap.Endpoint.ofUrl parameters.url with
      | .error flaw => return .error flaw.message?
      | .ok endpoint =>
          return (← environment.connect endpoint parameters.credentials).mapError some

/-- Connect to a server.  Where no connection is made in time, the last attempt is told. -/
def server (environment : Environment m) (parameters : Ldap.Parameters) :
    m (Except String Ldap.Server) := do
  return (← environment.attempt parameters).mapError fun reason =>
    "I/O error: failed to get an ldap connection: timed out waiting for connection" ++
      reason.elim "" (": " ++ ·)

end Environment

end Listmaster
