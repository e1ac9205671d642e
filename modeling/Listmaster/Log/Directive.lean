import Listmaster.Log.FieldValue
import Listmaster.Log.Level
import Listmaster.Refusal
import Listmaster.Text.Pieces

/-!
Directives, which tell what is written to a log.

A directive `target[span{field=value}]=level` gives the level of the events of a
target that are in a span with these fields.  All of its parts can be left out;
a single word is a level if it names one, and a target otherwise.

It is read by an automaton that notes where its parts begin.  Blanks around a
directive are passed over, but the places of its parts are counted from the
first character that is not blank.  So a part can begin inside a character, and
the reading is aborted.
-/

namespace Listmaster.Log

/-- What is asked of a field of a span: that it is there, or that it has a value. -/
structure FieldTest where
  name : String
  value : Option FieldValue
  deriving DecidableEq

namespace FieldTest

def ofText? (text : String) : Option FieldTest :=
  match Text.pieces '=' text.toList with
  | [] | [_] => some ⟨text, none⟩
  | name :: value :: _ => do
      return ⟨String.ofList name, some (← FieldValue.ofText? (String.ofList value))⟩

def text (test : FieldTest) : String :=
  test.name ++ (test.value.elim "" fun value => "=" ++ value.text)

end FieldTest

/-- What is written to a log, for some events or for all. -/
structure Directive where
  target : Option String
  span : Option String
  fields : List FieldTest
  level : Level
  deriving DecidableEq

namespace Directive

def ofLevel (level : Level) : Directive := ⟨none, none, [], level⟩

def text (directive : Directive) : String :=
  let fields :=
    if directive.fields.isEmpty then ""
    else "\x7b" ++ String.intercalate "," (directive.fields.map FieldTest.text) ++ "\x7d"
  let isWithSpan := directive.span.isSome || !directive.fields.isEmpty
  let span := if isWithSpan then "[" ++ directive.span.getD "" ++ fields ++ "]" else ""
  let sign := if directive.target.isSome || isWithSpan then "=" else ""
  directive.target.getD "" ++ span ++ sign ++ directive.level.name

/-- Where the reading of a directive stands; parts that are not complete are noted by the
place where they begin. -/
inductive Progress where
  | start
  | word (first : Nat)
  | span (first : Nat)
  | field (first : Nat)
  | fields
  | afterSpan
  | level (first : Nat)
  | complete

/-- The part of a text between two places, neither of which may be inside a character. -/
def cut (text : List Char) (first last : Nat) : Except Refusal String :=
  go 0 text
where
  go (place : Nat) : List Char → Except Refusal String
    | [] => if first = place ∧ last = place then .ok "" else .error .aborted
    | c :: rest =>
        if place < first then go (place + c.utf8Size) rest
        else if place = first then take place [] (c :: rest)
        else .error .aborted
  take (place : Nat) (taken : List Char) : List Char → Except Refusal String
    | [] => if last = place then .ok (String.ofList taken.reverse) else .error .aborted
    | c :: rest =>
        if place < last then take (place + c.utf8Size) (c :: taken) rest
        else if place = last then .ok (String.ofList taken.reverse)
        else .error .aborted

def cutFrom (text : List Char) (first : Nat) : Except Refusal String :=
  cut text first (String.ofList text).utf8ByteSize

/-- The level that a text names; nothing is everything. -/
def levelOf? (text : String) : Option Level :=
  if text = "" then some .trace else Level.ofText? text

def ofWord (word : String) : Directive :=
  match levelOf? word with
  | some level => ofLevel level
  | none => ⟨some word, none, [], .trace⟩

def isFirst (c : Char) : Bool := c = '-' || c = ':' || c = '_' || Text.isAlphanumeric c

def withField (directive : Directive) (text : String) : Except Refusal Directive := do
  if text = "" then throw .malformed
  let test ← Refusal.ofOption (FieldTest.ofText? text)
  return { directive with fields := directive.fields ++ [test] }

def withLevel (directive : Directive) (text : String) : Except Refusal Directive := do
  return { directive with level := ← Refusal.ofOption (levelOf? text) }

/-- Read the character `c` at a place of the text. -/
def step (text : List Char) (directive : Directive) (progress : Progress) (place : Nat)
    (c : Char) : Except Refusal (Directive × Progress) :=
  match progress, c with
  | .start, '[' => .ok (directive, .span (place + 1))
  | .start, c => if isFirst c then .ok (directive, .word place) else .error .malformed
  | .word first, '=' => do
      return ({ directive with target := some (← cut text first place) }, .level (place + 1))
  | .word first, '[' => do
      return ({ directive with target := some (← cut text first place) }, .span (place + 1))
  | .word first, ',' => do return (ofWord (← cutFrom text first), .complete)
  | .span first, ']' => do
      return ({ directive with span := some (← cut text first place) }, .afterSpan)
  | .span first, '{' => do
      let span ← cut text first place
      return ({ directive with span := if span = "" then none else some span },
        .field (place + 1))
  | .field first, '}' => do return (← directive.withField (← cut text first place), .fields)
  | .field first, ',' => do
      return (← directive.withField (← cut text first place), .field (place + 1))
  | .fields, ']' => .ok (directive, .afterSpan)
  | .afterSpan, '=' => .ok (directive, .level (place + 1))
  | .level first, ',' => do
      return (← directive.withLevel (← cut text first place), .complete)
  | .word _, _ | .span _, _ | .field _, _ | .level _, _ => .ok (directive, progress)
  | .fields, _ | .afterSpan, _ | .complete, _ => .error .malformed

def run (text : List Char) (directive : Directive) (progress : Progress) (place : Nat) :
    List Char → Except Refusal (Directive × Progress)
  | [] => .ok (directive, progress)
  | c :: rest => do
      let (directive, progress) ← step text directive progress place c
      run text directive progress (place + c.utf8Size) rest

def finish (text : List Char) (directive : Directive) : Progress → Except Refusal Directive
  | .word first => do return ofWord (← cutFrom text first)
  | .level first => do directive.withLevel (← cutFrom text first)
  | .afterSpan | .complete => .ok directive
  | _ => .error .malformed

def parse (text : String) : Except Refusal Directive := do
  let (directive, progress) ←
    run text.toList (ofLevel .trace) .start 0 (Text.trim Text.isBlank text.toList)
  finish text.toList directive progress

end Directive

end Listmaster.Log
