import Listmaster.Number.Binary64
import Listmaster.Sorted.Map

/-!
JSON values.

A `Json` is a value as it is written: the fields of an object keep their order
and may repeat a name.  A `JsonValue` is a value as it is meant: the names of an
object are distinct and sorted, so that equal values are the same value.
`Json.normalize?` leads from the first to the second.
-/

namespace Listmaster

/-- A JSON value as it is written. -/
inductive Json where
  | null
  | bool (value : Bool)
  | integer (value : Int)
  | float (value : Binary64)
  | text (value : String)
  | array (items : List Json)
  | object (fields : List (String × Json))
  /-- A well-formed value that can be skipped but not used: its text has half of
  a surrogate pair, its number is too large, or it is nested too deeply. -/
  | unreadable

namespace Json

mutual

def decEq : (a b : Json) → Decidable (a = b)
  | .null, b => by cases b <;> first | exact isTrue rfl | exact isFalse nofun
  | .unreadable, b => by cases b <;> first | exact isTrue rfl | exact isFalse nofun
  | .bool x, b => by
      cases b with
      | bool y => exact decidable_of_iff (x = y) (by simp)
      | _ => exact isFalse nofun
  | .integer x, b => by
      cases b with
      | integer y => exact decidable_of_iff (x = y) (by simp)
      | _ => exact isFalse nofun
  | .float x, b => by
      cases b with
      | float y => exact decidable_of_iff (x = y) (by simp)
      | _ => exact isFalse nofun
  | .text x, b => by
      cases b with
      | text y => exact decidable_of_iff (x = y) (by simp)
      | _ => exact isFalse nofun
  | .array xs, b => by
      cases b with
      | array ys => exact @decidable_of_iff _ (xs = ys) (by simp) (decEqItems xs ys)
      | _ => exact isFalse nofun
  | .object xs, b => by
      cases b with
      | object ys => exact @decidable_of_iff _ (xs = ys) (by simp) (decEqFields xs ys)
      | _ => exact isFalse nofun

def decEqItems : (xs ys : List Json) → Decidable (xs = ys)
  | [], [] => isTrue rfl
  | [], _ :: _ => isFalse nofun
  | _ :: _, [] => isFalse nofun
  | x :: xs, y :: ys =>
      match decEq x y, decEqItems xs ys with
      | isTrue first, isTrue rest => isTrue (by rw [first, rest])
      | isFalse apart, _ => isFalse fun same => apart (List.cons.inj same).1
      | _, isFalse apart => isFalse fun same => apart (List.cons.inj same).2

def decEqFields : (xs ys : List (String × Json)) → Decidable (xs = ys)
  | [], [] => isTrue rfl
  | [], _ :: _ => isFalse nofun
  | _ :: _, [] => isFalse nofun
  | (k, x) :: xs, (l, y) :: ys =>
      match decEq x y, decEqFields xs ys with
      | isTrue first, isTrue rest =>
          if names : k = l then isTrue (by rw [names, first, rest])
          else isFalse fun same => names (congrArg Prod.fst (List.cons.inj same).1)
      | isFalse apart, _ =>
          isFalse fun same => apart (congrArg Prod.snd (List.cons.inj same).1)
      | _, isFalse apart => isFalse fun same => apart (List.cons.inj same).2

end

instance : DecidableEq Json := decEq

def text? : Json → Option String
  | .text value => some value
  | _ => none

def bool? : Json → Option Bool
  | .bool value => some value
  | _ => none

/-- The number of a value that is an integer from zero up to `limit`, exclusive. -/
def natBelow? (limit : Nat) : Json → Option Nat
  | .integer value => if 0 ≤ value ∧ value < limit then some value.toNat else none
  | _ => none

/-- The items of a value that is a list, each read by `item`. -/
def list? {α : Type} (item : Json → Option α) : Json → Option (List α)
  | .array items => items.mapM item
  | _ => none

def nullable? {α : Type} (value : Json → Option α) : Json → Option (Option α)
  | .null => some none
  | other => (value other).map some

def ofOption {α : Type} (value : α → Json) : Option α → Json
  | none => .null
  | some x => value x

mutual

/-- Whether the names of every object in the value are distinct and sorted, and
nothing in it is unreadable. -/
def isNormal : Json → Bool
  | .array items => isNormalItems items
  | .object fields => isNormalFields none fields
  | .unreadable => false
  | _ => true

def isNormalItems : List Json → Bool
  | [] => true
  | item :: rest => isNormal item && isNormalItems rest

/-- Whether the names of the fields increase from `bound`, and their values are normal. -/
def isNormalFields (bound : Option String) : List (String × Json) → Bool
  | [] => true
  | (name, value) :: rest =>
      (bound.all fun earlier => compare earlier name == .lt) &&
        isNormal value && isNormalFields (some name) rest

end

mutual

/-- The value with the names of every object distinct and sorted.  Of two fields of the
same name the last one is meant.  None if anything in the value is unreadable. -/
def normalize? : Json → Option Json
  | .array items => (normalizeItems? items).map .array
  | .object fields =>
      (normalizeFields? fields).map fun fields => .object (SortedMap.ofList fields).toList
  | .unreadable => none
  | other => some other

def normalizeItems? : List Json → Option (List Json)
  | [] => some []
  | item :: rest => do return (← normalize? item) :: (← normalizeItems? rest)

/-- Every field of the list, in its order, with its value normalized. -/
def normalizeFields? : List (String × Json) → Option (List (String × Json))
  | [] => some []
  | (name, value) :: rest => do
      return (name, ← normalize? value) :: (← normalizeFields? rest)

end

theorem isNormalFields_of_increasing {bound : Option String} {fields : List (String × Json)}
    (increasing : fields.Pairwise (fun a b => compare a.1 b.1 = .lt))
    (above : ∀ entry ∈ fields, bound.all (fun earlier => compare earlier entry.1 == .lt) = true)
    (normal : ∀ entry ∈ fields, entry.2.isNormal = true) :
    isNormalFields bound fields = true := by
  induction fields generalizing bound with
  | nil => rfl
  | cons first rest ih =>
      rw [List.pairwise_cons] at increasing
      simp only [isNormalFields, Bool.and_eq_true]
      refine ⟨⟨above first (by simp), normal first (by simp)⟩, ih increasing.2 ?_ ?_⟩
      · exact fun entry here => by simpa using increasing.1 entry here
      · exact fun entry here => normal entry (List.mem_cons_of_mem _ here)

mutual

theorem isNormal_of_normalize? : {value result : Json} →
    normalize? value = some result → result.isNormal = true
  | .null, _, made => by cases made; rfl
  | .bool _, _, made => by cases made; rfl
  | .integer _, _, made => by cases made; rfl
  | .float _, _, made => by cases made; rfl
  | .text _, _, made => by cases made; rfl
  | .unreadable, _, made => by cases made
  | .array items, _, made => by
      obtain ⟨read, readItems, same⟩ := Option.map_eq_some_iff.1 made
      cases same
      exact isNormalItems_of_normalizeItems? readItems
  | .object fields, _, made => by
      obtain ⟨read, readFields, same⟩ := Option.map_eq_some_iff.1 made
      cases same
      exact isNormalFields_of_increasing (SortedMap.ofList read).increasing (by simp)
        (fun entry here =>
          isNormal_of_mem_normalizeFields? readFields entry (SortedMap.mem_of_mem_ofList here))

theorem isNormalItems_of_normalizeItems? : {items results : List Json} →
    normalizeItems? items = some results → isNormalItems results = true
  | [], _, made => by cases made; rfl
  | item :: rest, _, made => by
      simp only [normalizeItems?, Option.pure_def, Option.bind_eq_bind,
        Option.bind_eq_some_iff, Option.some.injEq] at made
      obtain ⟨first, readFirst, later, readLater, same⟩ := made
      cases same
      simp [isNormalItems, isNormal_of_normalize? readFirst,
        isNormalItems_of_normalizeItems? readLater]

theorem isNormal_of_mem_normalizeFields? : {fields results : List (String × Json)} →
    normalizeFields? fields = some results →
    ∀ entry ∈ results, entry.2.isNormal = true
  | [], _, made => by cases made; simp
  | (name, value) :: rest, _, made => by
      simp only [normalizeFields?, Option.pure_def, Option.bind_eq_bind,
        Option.bind_eq_some_iff, Option.some.injEq] at made
      obtain ⟨first, readFirst, later, readLater, same⟩ := made
      cases same
      intro entry here
      rcases List.mem_cons.1 here with same | inLater
      · exact same ▸ isNormal_of_normalize? readFirst
      · exact isNormal_of_mem_normalizeFields? readLater entry inLater

end

end Json

/-- A JSON value as it is meant. -/
structure JsonValue where
  json : Json
  /-- The names of every object are distinct and sorted. -/
  isNormal : json.isNormal = true
  deriving DecidableEq

namespace JsonValue

/-- What a written value means; nothing if it is unreadable. -/
def ofJson? (written : Json) : Option JsonValue :=
  match made : written.normalize? with
  | none => none
  | some json => some ⟨json, Json.isNormal_of_normalize? made⟩

def texts (values : List String) : JsonValue where
  json := .array (values.map .text)
  isNormal := by
    have items (values : List String) : Json.isNormalItems (values.map .text) = true := by
      induction values with
      | nil => rfl
      | cons first rest ih => simpa [Json.isNormalItems, Json.isNormal] using ih
    exact items values

end JsonValue

end Listmaster
