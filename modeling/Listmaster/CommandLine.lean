import Listmaster.Command

/-!
The command line of the program.

    program [OPTIONS] [COMMAND]

Options stand before the command, those of one letter can be joined.  An option
that takes a value is complete when the next option or the end of the line is
reached: mistakes that come before are told first.
-/

namespace Listmaster

/-- What is wrong with a command line; a request for help ends the reading too. -/
inductive UsageError where
  | unknownArgument
  | unknownCommand
  | missingValue
  | missingOperand
  | emptyPath
  | invalidAddress (invalid : Address.Invalid)
  | repeated
  /-- A value is given to an option that takes none. -/
  | unexpectedValue
  | help
  deriving DecidableEq

/-- What a command line asks for. -/
structure Arguments where
  version : Bool := false
  config : String := "/etc/vsmtp/vlist.toml"
  logsToError : Bool := false
  command : Option Command := none
  deriving DecidableEq

namespace CommandLine

/-- What was read of the options. -/
structure Options where
  version : Bool := false
  logsToError : Bool := false
  config : Option String := none
  /-- The option for the path of the configuration, with its value if it has come, while it is
  not complete. -/
  pending : Option (Option String) := none

namespace Options

def isWaiting (options : Options) : Bool := options.pending = some none

def setConfig (options : Options) (path : String) : Except UsageError Options :=
  if options.config.isSome then .error .repeated
  else .ok { options with config := some path, pending := none }

def settle (options : Options) : Except UsageError Options :=
  match options.pending with
  | none => .ok options
  | some none => .error .missingValue
  | some (some path) => options.setConfig path

def setVersion (options : Options) : Except UsageError Options := do
  let options ← options.settle
  if options.version then throw .repeated else return { options with version := true }

def setLogsToError (options : Options) : Except UsageError Options := do
  let options ← options.settle
  if options.logsToError then throw .repeated else return { options with logsToError := true }

def awaitConfig (options : Options) : Except UsageError Options := do
  return { ← options.settle with pending := some none }

/-- Take the path of the configuration that stands in the same argument. -/
def takeConfig (options : Options) (path : String) : Except UsageError Options := do
  (← options.settle).setConfig path

def askHelp (options : Options) : Except UsageError Options := do
  let _ ← options.settle
  throw .help

/-- Read an option that has a name, and perhaps a value after an equals sign. -/
def readLong (options : Options) (argument : List Char) : Except UsageError Options :=
  let (name, value) := match Text.splitFirst? '=' argument with
    | some (name, value) => (String.ofList name, some (String.ofList value))
    | none => (String.ofList argument, none)
  match name, value with
  | "config", some path => options.takeConfig path
  | "config", none => options.awaitConfig
  | "version", none => options.setVersion
  | "stderr", none => options.setLogsToError
  | "help", none => options.askHelp
  | "version", some _ | "stderr", some _ | "help", some _ => .error .unexpectedValue
  | _, _ => .error .unknownArgument

def readShort (options : Options) : List Char → Except UsageError Options
  | [] => .ok options
  | 'v' :: rest => do (← options.setVersion).readShort rest
  | 's' :: rest => do (← options.setLogsToError).readShort rest
  | 'h' :: _ => options.askHelp
  | ['c'] => options.awaitConfig
  | 'c' :: '=' :: path => options.takeConfig (String.ofList path)
  | 'c' :: path => options.takeConfig (String.ofList path)
  | _ => .error .unknownArgument

end Options

/-- What an argument is, by its first characters. -/
inductive Form where
  | escape
  | long (rest : List Char)
  | short (letters : List Char)
  | word

def formOf (argument : String) : Form :=
  match argument.toList with
  | ['-', '-'] => .escape
  | '-' :: '-' :: rest => .long rest
  | '-' :: c :: rest => .short (c :: rest)
  | _ => .word

/-- The arguments of a command: at most one operand, and requests for help.  `complete` makes
the operand a command. -/
def readOperand (complete : Option String → Except UsageError Command) (limit : Nat)
    (operand : Option String) (isEscaped : Bool) : List String → Except UsageError Command
  | [] => complete operand
  | argument :: rest =>
      let help : Except UsageError Command := do
        if operand.isSome then let _ ← complete operand
        throw .help
      match isEscaped, formOf argument with
      | false, .escape => readOperand complete limit operand true rest
      | false, .long name =>
          if name = "help".toList then help
          else if name.take 5 = "help=".toList then throw .unexpectedValue
          else throw .unknownArgument
      | false, .short letters =>
          if letters.head? = some 'h' then help else throw .unknownArgument
      | _, _ =>
          if operand.isNone ∧ 0 < limit then
            readOperand complete limit (some argument) isEscaped rest
          else throw .unknownArgument

def commandNames : List String := ["run", "config-show", "lookup", "help"]

def readHelp : List String → UsageError
  | [] => .help
  | [name] => if name ∈ commandNames then .help else .unknownCommand
  | _ => .unknownCommand

def readCommand (name : String) (arguments : List String) : Except UsageError Command :=
  match name with
  | "run" =>
      readOperand (fun
        | none => .error .missingOperand
        | some path => if path = "" then .error .emptyPath else .ok (.run path))
        1 none false arguments
  | "lookup" =>
      readOperand (fun
        | none => .error .missingOperand
        | some text => (Address.parse text).map .lookup |>.mapError .invalidAddress)
        1 none false arguments
  | "config-show" => readOperand (fun _ => .ok .showConfig) 0 none false arguments
  | _ => .error (readHelp arguments)

def finish (options : Options) (command : Option Command) : Except UsageError Arguments := do
  let options ← options.settle
  let usual : Arguments := {}
  return { version := options.version, logsToError := options.logsToError,
           config := options.config.getD usual.config, command }

def readOptions (options : Options) : List String → Except UsageError Arguments
  | [] => finish options none
  | argument :: rest => do
      if !options.isWaiting && commandNames.contains argument then
        finish options (some (← readCommand argument rest))
      else
        match formOf argument with
        | .escape =>
            match rest with
            | [] => finish options none
            | word :: _ =>
                if word ∈ commandNames then throw .unknownArgument else throw .unknownCommand
        | .long name => readOptions (← options.readLong name) rest
        | .short letters => readOptions (← options.readShort letters) rest
        | .word =>
            if options.isWaiting then
              readOptions { options with pending := some (some argument) } rest
            else throw .unknownCommand

end CommandLine

def Arguments.parse (arguments : List String) : Except UsageError Arguments :=
  CommandLine.readOptions {} arguments

end Listmaster
