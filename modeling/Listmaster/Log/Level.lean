import Listmaster.Text.Case
import Listmaster.Text.Digits

/-!
The levels of a log, from nothing to everything.
-/

namespace Listmaster.Log

/-- What is written to a log: the events of this level and of those before it. -/
inductive Level where
  | off
  | error
  | warn
  | info
  | debug
  | trace
  deriving DecidableEq

namespace Level

def all : List Level := [off, error, warn, info, debug, trace]

def name : Level → String
  | off => "off"
  | error => "error"
  | warn => "warn"
  | info => "info"
  | debug => "debug"
  | trace => "trace"

/-- The level of a number, which may have a plus sign. -/
def ofNumber? (text : String) : Option Level :=
  let digits := match text.toList with
    | '+' :: rest => rest
    | other => other
  if digits.isEmpty then none else (Text.natOfDigits? 10 digits).bind (all[·]?)

/-- The level that a text names, by its name in any case or by its number. -/
def ofText? (text : String) : Option Level :=
  (all.find? fun level => Text.sameIgnoringCase level.name text).or (ofNumber? text)

end Level

end Listmaster.Log
