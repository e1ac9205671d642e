import Listmaster.Config.Json
import Listmaster.Toml.Document

/-!
Configurations in TOML.

The version is looked at first: a configuration that is written for another
version of the program may have other fields.
-/

namespace Listmaster.Config

/-- Why a document is no configuration. -/
inductive DocumentError where
  | malformed
  | aborted
  | version (requirement : VersionRequirement)
  | contradictory (flaw : Flaw)
  deriving DecidableEq

/-- The text of the error, if it is not left to the reader of the document. -/
def DocumentError.message? : DocumentError → Option String
  | malformed | aborted => none
  | version requirement =>
      let expected := requirement.text
      let found := Version.current.text
      some s!"Version requirement not fulfilled: expected '{expected}' but got '{found}'"
  | contradictory flaw => some flaw.message

/-- The error of a document that was not read. -/
def DocumentError.ofRefusal : Refusal → DocumentError
  | .malformed => .malformed
  | .aborted => .aborted

def versionShape : Json.RecordShape := .ofNames ["version_requirement"] false

def requirementOf? (value : Json) : Option VersionRequirement := do
  let record ← Json.Record.ofJson? versionShape value
  record.required "version_requirement" VersionRequirement.ofJson?

/-- The tables that may be written as lists of their fields; what such a list holds beyond them
is ignored. -/
def listShapes : List (String × Json.RecordShape) :=
  [("server", serverShape), ("mailing_list", ListSettings.shape), ("logs", LogSettings.shape)]

def essential (field : String × Json) : String × Json :=
  match field, listShapes.lookup field.1 with
  | (name, .array items), some shape => (name, .array (items.take shape.fields.length))
  | field, _ => field

def ofDocument (text : String) : Except DocumentError Config := do
  let some (.object fields) := Toml.read? text | throw .malformed
  let value := .object (fields.map essential)
  let some requirement := requirementOf? value | throw .malformed
  if !requirement.accepts Version.current then throw (.version requirement)
  let config ← (read value).mapError .ofRefusal
  config.check.mapError .contradictory

end Listmaster.Config
