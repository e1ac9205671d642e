import Listmaster.Json.Record
import Listmaster.Refusal

/-!
Trials: what goes wrong first when a value is read.

A value that cannot be read is malformed, or the reading of a text in it is
aborted.  Where both are the case, what is written first decides.
-/

namespace Listmaster.Json

abbrev Trial := Json → Except Refusal Unit

namespace Trial

variable {α : Type}

def of (read : Json → Except Refusal α) : Trial := fun value => (read value).map fun _ => ()

def ofReader (read : Json → Option α) : Trial := of fun value => Refusal.ofOption (read value)

def ofText (read : String → Except Refusal α) : Trial := of fun value => do
  read (← Refusal.ofOption value.text?)

/-- The trial of a list of texts, all of which are looked at before the first one is read. -/
def ofTexts (read : String → Except Refusal α) : Trial := of fun value => do
  (← Refusal.ofOption (value.list? text?)).mapM read

/-- The trial of the fields of an object, those before it being `seen`. -/
def ofFields (shape : RecordShape) (trials : String → Trial) (seen : List String) :
    List (String × Json) → Except Refusal Unit
  | [] => .ok ()
  | (written, value) :: rest =>
      match shape.field? written with
      | none =>
          if shape.isClosed then .error .malformed else ofFields shape trials seen rest
      | some name =>
          if name ∈ seen then .error .malformed
          else do
            trials name value
            ofFields shape trials (name :: seen) rest

def ofRecord (shape : RecordShape) (trials : String → Trial) : Trial
  | .object fields => ofFields shape trials [] fields
  | .array items =>
      ((shape.fields.map FieldName.name).zip items).forM fun (name, value) => trials name value
  | _ => .error .malformed

def explain (trial : Trial) (read : Json → Option α) (value : Json) : Except Refusal α :=
  match read value with
  | some result => .ok result
  | none => do
      trial value
      throw .malformed

end Trial

end Listmaster.Json
