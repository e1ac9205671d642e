import Listmaster.CommandLine
import Listmaster.Config.Document

/-!
The program: from its arguments to its exit.

The configuration is read first, then the file of the log is made, then the
command is executed.
-/

namespace Listmaster

structure Exit where
  code : Nat
  output : String
  complaint : String
  deriving DecidableEq

namespace Program

def versionText : String := s!"vsmtp-mailing-list v{Version.current.text}\n"

def usage : String :=
  "Usage: vlist [OPTIONS] [COMMAND]\n\n" ++
  "Commands:\n" ++
  "  run          Expand the mailing lists of a mail (json) and print the resulting mails\n" ++
  "  config-show  Show the loaded config (as serialized json format)\n" ++
  "  lookup       Show what the directory knows about a list\n" ++
  "  help         Print this message or the help of the given subcommand(s)\n\n" ++
  "Options:\n" ++
  "  -v, --version          Print the version and exit\n" ++
  "  -c, --config <CONFIG>  Path of the configuration file (toml format) " ++
  "[default: /etc/vsmtp/vlist.toml]\n" ++
  "  -s, --stderr           Print the logs on the standard error\n" ++
  "  -h, --help             Print help\n"

def failed (chain : List Cause) : Exit :=
  let lines := match chain with
    | [] => []
    | error :: causes =>
        s!"vlist terminating error: '{error.text}'\n" ::
          causes.map fun cause => s!"because: {cause.text}\n"
  ⟨1, "", String.join lines⟩

def aborted : Exit := ⟨101, "", ""⟩

/-- Why the program does not come to its command. -/
inductive SetupError where
  | unreadableConfig (path : String) (error : FileError)
  | config (error : Config.DocumentError)
  | logPath (path : String)
  /-- The file of the log was not made, and the run is aborted. -/
  | noLog
  | noCommand
  deriving DecidableEq

def logPathMessage (path : String) : String :=
  let shown := Text.quoted path
  s!"filepath for logs at {shown} does not have a parent or is not valid"

/-- The explanation of an error: the error, then what caused it. -/
def SetupError.chain : SetupError → List Cause
  | unreadableConfig path error =>
      [.told "Cannot parse the configuration", .told s!"Cannot read file '{path}'", .file error]
  | config error =>
      [.told "Cannot parse the configuration", .told "File contains format error",
        (error.message?.map Cause.told).getD .toml]
  | logPath path => [.told (logPathMessage path)]
  | noLog => [.told "initializing rolling file appender failed"]
  | noCommand => [.told "no commands where specified"]

def SetupError.isAbort : SetupError → Bool
  | config .aborted | noLog => true
  | _ => false

variable {m : Type → Type} [Monad m]

def readConfig (environment : Environment m) (path : String) : ExceptT SetupError m Config := do
  match ← environment.readText path with
  | .error error => throw (.unreadableConfig path error)
  | .ok text =>
      match Config.ofDocument text with
      | .error error => throw (.config error)
      | .ok config => return config

def openLog (environment : Environment m) (config : Config) : ExceptT SetupError m Unit := do
  match config.logs.path with
  | none => return
  | some path =>
      if (Path.fileName? path).isNone then throw (.logPath path)
      if !(← environment.createLog path) then throw .noLog

def setup (environment : Environment m) (arguments : Arguments) :
    ExceptT SetupError m (Config × Command) := do
  let config ← readConfig environment arguments.config
  openLog environment config
  match arguments.command with
  | none => throw .noCommand
  | some command => return (config, command)

def perform (environment : Environment m) (arguments : Arguments) : m Exit := do
  if arguments.version then
    return ⟨0, versionText, ""⟩
  match ← (setup environment arguments).run with
  | .error error => return if error.isAbort then aborted else failed error.chain
  | .ok (config, command) =>
      match (← command.execute config environment).outcome with
      | .error error => return if error.isAbort then aborted else failed error.chain
      | .ok output => return ⟨0, output, ""⟩

def run (environment : Environment m) (arguments : List String) : m Exit := do
  match Arguments.parse arguments with
  | .error .help => return ⟨0, usage, ""⟩
  | .error _ => return ⟨2, "", usage⟩
  | .ok arguments => perform environment arguments

end Program

end Listmaster
