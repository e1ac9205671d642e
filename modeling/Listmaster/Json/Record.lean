import Listmaster.Json.Basic

/-!
Records written in JSON.

A record has named fields in a fixed order.  It is written as an object, or as
the list of its fields in that order, of which the last ones may be left out.
`Record.ofJson?` tells which field got which value; the functions on `Record`
then read a field that is required, that may be null, or that has a default.
-/

namespace Listmaster.Json

/-- The names of a field of a record. -/
structure FieldName where
  name : String
  aliases : List String := []
  deriving DecidableEq

/-- The fields of a kind of record. -/
structure RecordShape where
  /-- The fields, in the order in which a list holds them. -/
  fields : List FieldName
  isClosed : Bool
  deriving DecidableEq

def RecordShape.ofNames (names : List String) (isClosed : Bool) : RecordShape :=
  ⟨names.map fun name => ⟨name, []⟩, isClosed⟩

/-- The name of the field that is written under `written`. -/
def RecordShape.field? (shape : RecordShape) (written : String) : Option String :=
  (shape.fields.find? fun field => field.name == written || field.aliases.contains written).map
    FieldName.name

/-- The values given to the fields of a record. -/
structure Record where
  values : List (String × Json)
  isPositional : Bool

namespace Record

/-- Collect the fields of an object; none may be given twice. -/
def collect? (shape : RecordShape) (values : List (String × Json)) :
    List (String × Json) → Option (List (String × Json))
  | [] => some values
  | (written, value) :: rest =>
      match shape.field? written with
      | some name =>
          if values.any (·.1 == name) then none
          else collect? shape (values ++ [(name, value)]) rest
      | none => if shape.isClosed then none else collect? shape values rest

def ofJson? (shape : RecordShape) : Json → Option Record
  | .object fields => (collect? shape [] fields).map (⟨·, false⟩)
  | .array items =>
      if items.length ≤ shape.fields.length then
        some ⟨(shape.fields.map FieldName.name).zip items, true⟩
      else none
  | _ => none

def get? (record : Record) (name : String) : Option Json := record.values.lookup name

variable {α : Type}

def required (record : Record) (name : String) (read : Json → Option α) : Option α :=
  (record.get? name).bind read

def withDefault (record : Record) (name : String) (default : α) (read : Json → Option α) :
    Option α :=
  match record.get? name with
  | none => some default
  | some value => read value

def optional (record : Record) (name : String) (read : Json → Option α) : Option (Option α) :=
  record.withDefault name none (nullable? read)

/-- A field that may be null, or absent from an object; a list must hold it. -/
def nullable (record : Record) (name : String) (read : Json → Option α) : Option (Option α) :=
  match record.get? name with
  | none => if record.isPositional then none else some none
  | some value => nullable? read value

end Record

end Listmaster.Json
