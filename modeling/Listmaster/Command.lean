import Listmaster.Config.Json
import Listmaster.Environment
import Listmaster.Group.Json
import Listmaster.Json.Printer
import Listmaster.Json.Reader
import Listmaster.Mail.Json
import Listmaster.Service.Json
import Listmaster.Text.Quoted

/-!
Commands: what the program does with a configuration.
-/

namespace Listmaster

inductive Command where
  /-- Process the mail in a file, and write the mails it becomes. -/
  | run (path : String)
  | showConfig
  | lookup (address : Address)
  deriving DecidableEq

/-- A part of the explanation of a failure. -/
inductive Cause where
  | told (message : String)
  | file (error : FileError)
  /-- A text is no JSON, or not of the expected form. -/
  | json
  /-- A text is no TOML, or not of the expected form. -/
  | toml
  deriving DecidableEq

def Cause.text : Cause → String
  | told message => message
  | file error => error.message
  | json => "malformed JSON, or not of the expected form"
  | toml => "malformed TOML, or not of the expected form"

/-- Why a command did not succeed. -/
inductive CommandError where
  | unreadable (path : String) (error : FileError)
  | malformedDirectory (path : String)
  | malformedMail (content : String)
  /-- No connections can be made, and the run is aborted. -/
  | noConnections (flaw : Ldap.Parameters.Flaw)
  /-- A connection would be awaited beyond the end of the clock, and the run is aborted. -/
  | endlessWait
  | unprocessed (id : String) (error : ServiceError)
  | undescribed (error : ServiceError)
  deriving DecidableEq

/-- The explanation of an error: the error, then what caused it. -/
def CommandError.chain : CommandError → List Cause
  | unreadable path error => [.told s!"Cannot read file '{path}'", .file error]
  | malformedDirectory path => [.told s!"Cannot deserialize directory '{path}'", .json]
  | malformedMail content =>
      let shown := Text.quoted content
      [.told s!"Cannot deserialize: '{shown}'", .json]
  | noConnections flaw => [.told flaw.message]
  | endlessWait => [.told "overflow when adding duration to instant"]
  | unprocessed id error => .told s!"Cannot process mail '{id}'" :: error.chain.map .told
  | undescribed error => error.chain.map .told

def CommandError.isAbort : CommandError → Bool
  | noConnections _ | endlessWait => true
  | _ => false

structure Execution where
  outcome : Except CommandError String
  events : List Event

variable {m : Type → Type} [Monad m]

def StaticDirectory.ofFile (environment : Environment m) (path : String) :
    ExceptT CommandError m StaticDirectory := do
  match ← environment.readText path with
  | .error error => throw (.unreadable path error)
  | .ok content =>
      match (Json.read? content).bind StaticDirectory.ofJson? with
      | none => throw (.malformedDirectory path)
      | some directory => return directory

def Mail.ofFile (environment : Environment m) (path : String) :
    ExceptT CommandError m Mail := do
  match ← environment.readText path with
  | .error error => throw (.unreadable path error)
  | .ok content =>
      match (Json.read? content).bind Mail.ofJson? with
      | none => throw (.malformedMail content)
      | some mail => return mail

namespace Config

def client (config : Config) (parameters : Ldap.Parameters)
    (connection : Except String Ldap.Server) : Ldap.Client where
  connection := connection
  schema := parameters.schema
  categoryAttribute := config.lists.effectiveAttribute
  identity := config.lists.administrator
  maxReferences := some config.lists.limits.members

def directory (config : Config) (environment : Environment m) :
    ExceptT CommandError m Directory := do
  match config.groups with
  | .file path => return (← StaticDirectory.ofFile environment path).toDirectory
  | .ldap parameters =>
      match parameters.flaw? with
      | some flaw => throw (.noConnections flaw)
      | none => return (config.client parameters (← environment.server parameters)).toDirectory

end Config

namespace Command

def shown (value : Json) : String := value.pretty ++ "\n"

def runReport (mail : Mail) (rejected : Option Mail) : Json :=
  .object [("mail", mail.toJson), ("rejected", .ofOption Mail.toJson rejected)]

def runMail (service : Service) (mail : Mail) : Execution :=
  let run := service.process mail
  { outcome :=
      match run.outcome with
      | .ok rejected => .ok (shown (runReport run.mail rejected))
      | .error error => .error (.unprocessed mail.id error)
    events := run.events.toList }

def lookupList (service : Service) (address : Address) : Execution :=
  match service.describe address .empty with
  | .ok (some report) session => ⟨.ok (shown report.toJson), session.events.toList⟩
  | .ok none session =>
      ⟨.ok s!"'{address.full}' is not a mailing list\n", session.events.toList⟩
  | .error error session => ⟨.error (.undescribed error), session.events.toList⟩

/-- What a command did with a service, unless its first lookup waits without an end. -/
def settle (config : Config) (execution : Execution) : Except CommandError Execution :=
  let isLookup : Event → Bool
    | .lookup _ => true
    | _ => false
  match config.groups with
  | .ldap parameters =>
      if parameters.isEndless && execution.events.any isLookup then .error .endlessWait
      else .ok execution
  | .file _ => .ok execution

/-- What a command does in an environment, unless something it needs is not there. -/
def attempt (config : Config) (environment : Environment m) :
    Command → ExceptT CommandError m Execution
  | showConfig => return ⟨.ok (shown config.toJson), []⟩
  | run path => do
      let service := config.service (← config.directory environment)
      let mail ← Mail.ofFile environment path
      ExceptT.mk (pure (settle config (runMail service mail)))
  | lookup address => do
      let service := config.service (← config.directory environment)
      ExceptT.mk (pure (settle config (lookupList service address)))

def execute (config : Config) (environment : Environment m) (command : Command) :
    m Execution := do
  match ← (command.attempt config environment).run with
  | .ok execution => return execution
  | .error error => return ⟨.error error, []⟩

end Command

end Listmaster
