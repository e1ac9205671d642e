import Listmaster.Json.Reader
import Listmaster.Json.Record

/-!
Values that fit into a text.

A text holds arrays and objects up to a number of levels, and integers of 64 bits.  What is read
from one keeps to this (`Json.fits_of_read?`), and so does what it means
(`Json.fits_of_normalize?`).
-/

namespace Listmaster

namespace Json

mutual

/-- No number in the value is a floating point number, and nothing in it is unreadable. -/
def isExact : Json → Bool
  | .float _ | .unreadable => false
  | .array items => isExactItems items
  | .object fields => isExactFields fields
  | _ => true

def isExactItems : List Json → Bool
  | [] => true
  | item :: rest => isExact item && isExactItems rest

def isExactFields : List (String × Json) → Bool
  | [] => true
  | (_, value) :: rest => isExact value && isExactFields rest

end

/-- The integer has 64 bits, of which the first one may be a sign. -/
def IsInteger64 (value : Int) : Prop := -(Nat.pow 2 63 : Int) ≤ value ∧ value < Nat.pow 2 64

mutual

/-- At this level the value is not nested more deeply than texts can be, and its integers have
64 bits. -/
def Fits (level : Nat) : Json → Prop
  | .integer value => IsInteger64 value
  | .array items => level ≤ deepest ∧ FitsItems (level + 1) items
  | .object fields => level ≤ deepest ∧ FitsFields (level + 1) fields
  | _ => True

def FitsItems (level : Nat) : List Json → Prop
  | [] => True
  | item :: rest => Fits level item ∧ FitsItems level rest

def FitsFields (level : Nat) : List (String × Json) → Prop
  | [] => True
  | (_, value) :: rest => Fits level value ∧ FitsFields level rest

end

variable {level : Nat}

theorem isExactItems_iff {items : List Json} :
    isExactItems items = true ↔ ∀ item ∈ items, item.isExact = true := by
  induction items with
  | nil => simp [isExactItems]
  | cons item rest inductionHypothesis => simp [isExactItems, inductionHypothesis]

theorem isExactFields_iff {fields : List (String × Json)} :
    isExactFields fields = true ↔ ∀ field ∈ fields, field.2.isExact = true := by
  induction fields with
  | nil => simp [isExactFields]
  | cons field rest inductionHypothesis => simp [isExactFields, inductionHypothesis]

theorem fitsItems_iff {items : List Json} :
    FitsItems level items ↔ ∀ item ∈ items, item.Fits level := by
  induction items with
  | nil => simp [FitsItems]
  | cons item rest inductionHypothesis => simp [FitsItems, inductionHypothesis]

theorem fitsFields_iff {fields : List (String × Json)} :
    FitsFields level fields ↔ ∀ field ∈ fields, field.2.Fits level := by
  induction fields with
  | nil => simp [FitsFields]
  | cons field rest inductionHypothesis => simp [FitsFields, inductionHypothesis]

mutual

theorem fits_of_normalize? : {value result : Json} → {level : Nat} →
    normalize? value = some result → value.Fits level → result.Fits level
  | .null, _, _, made, _ => by cases made; trivial
  | .bool _, _, _, made, _ => by cases made; trivial
  | .integer _, _, _, made, fits => by cases made; exact fits
  | .float _, _, _, made, _ => by cases made; trivial
  | .text _, _, _, made, _ => by cases made; trivial
  | .unreadable, _, _, made, _ => by cases made
  | .array items, _, _, made, fits => by
      obtain ⟨results, readItems, same⟩ := Option.map_eq_some_iff.mp made
      cases same
      exact ⟨fits.1, fitsItems_of_normalizeItems? readItems fits.2⟩
  | .object fields, _, _, made, fits => by
      obtain ⟨results, readFields, same⟩ := Option.map_eq_some_iff.mp made
      cases same
      refine ⟨fits.1, fitsFields_iff.mpr fun entry here => ?_⟩
      exact fits_of_mem_normalizeFields? readFields fits.2 entry (SortedMap.mem_of_mem_ofList here)

theorem fitsItems_of_normalizeItems? : {items results : List Json} → {level : Nat} →
    normalizeItems? items = some results → FitsItems level items → FitsItems level results
  | [], _, _, made, _ => by cases made; trivial
  | item :: rest, _, _, made, fits => by
      simp only [normalizeItems?, Option.pure_def, Option.bind_eq_bind,
        Option.bind_eq_some_iff, Option.some.injEq] at made
      obtain ⟨first, readFirst, later, readLater, same⟩ := made
      cases same
      exact ⟨fits_of_normalize? readFirst fits.1, fitsItems_of_normalizeItems? readLater fits.2⟩

theorem fits_of_mem_normalizeFields? : {fields results : List (String × Json)} → {level : Nat} →
    normalizeFields? fields = some results → FitsFields level fields →
    ∀ entry ∈ results, entry.2.Fits level
  | [], _, _, made, _ => by cases made; simp
  | (name, value) :: rest, _, _, made, fits => by
      simp only [normalizeFields?, Option.pure_def, Option.bind_eq_bind,
        Option.bind_eq_some_iff, Option.some.injEq] at made
      obtain ⟨first, readFirst, later, readLater, same⟩ := made
      cases same
      intro entry here
      rcases List.mem_cons.mp here with same | inLater
      · exact same ▸ fits_of_normalize? readFirst fits.1
      · exact fits_of_mem_normalizeFields? readLater fits.2 entry inLater

end

namespace Reader

theorem isInteger64_of_integer? {n : Numeral} {value : Int} (made : n.integer? = some value) :
    IsInteger64 value := by
  unfold Numeral.integer? at made
  split at made
  · cases made
  · dsimp only at made
    split at made
    · split at made
      · rename_i small
        cases made
        exact ⟨Int.neg_le_neg (Int.ofNat_le.mpr small.2),
          Int.lt_of_le_of_lt (Int.neg_nonpos_of_nonneg (Int.natCast_nonneg _)) (by decide)⟩
      · cases made
    · split at made
      · rename_i word
        cases made
        have word : Text.natOfDigits n.whole < Nat.pow 2 64 := of_decide_eq_true word
        exact ⟨Int.le_trans (by decide) (Int.natCast_nonneg _), Int.ofNat_lt.mpr word⟩
      · cases made

theorem fits_numeral (n : Numeral) (level : Nat) : n.toJson.Fits level := by
  unfold Numeral.toJson
  split
  · rename_i value made
    exact isInteger64_of_integer? made
  · cases n.float? <;> trivial

theorem fits_number {s rest : List Char} {value : Json} (read : number? s = some (value, rest))
    (level : Nat) : value.Fits level := by
  unfold number? at read
  split at read
  obtain ⟨⟨whole, afterWhole⟩, _, read⟩ := Option.bind_eq_some_iff.mp read
  dsimp only at read
  split at read
  · cases read
  obtain ⟨⟨fraction, afterFraction⟩, _, read⟩ := Option.bind_eq_some_iff.mp read
  obtain ⟨⟨power, afterPower⟩, _, read⟩ := Option.bind_eq_some_iff.mp read
  cases read
  exact fits_numeral _ level

theorem fits_atLevel {value : Json} (fits : level ≤ deepest → value.Fits level) :
    (atLevel level value).Fits level := by
  unfold atLevel
  split
  · exact fits ‹_›
  · trivial

/-- What the parts of a text are read as fits at their levels. -/
structure ReadsFitting (fuel : Nat) : Prop where
  value : ∀ {level s value rest}, value? fuel level s = some (value, rest) → value.Fits level
  items : ∀ {level s items rest}, items? fuel level s = some (items, rest) → FitsItems level items
  fields : ∀ {level s fields rest}, fields? fuel level s = some (some fields, rest) →
    FitsFields level fields

namespace ReadsFitting

variable {fuel level : Nat} {s rest : List Char} (less : ReadsFitting fuel)
include less

theorem value_succ {value : Json} (read : value? (fuel + 1) level s = some (value, rest)) :
    value.Fits level := by
  rw [value?] at read
  split at read
  · obtain ⟨⟨chars, after⟩, _, read⟩ := Option.bind_eq_some_iff.mp read
    cases read
    cases chars <;> trivial
  · split at read
    · cases read
      exact fits_atLevel fun small => ⟨small, trivial⟩
    · obtain ⟨⟨items, after⟩, inside, read⟩ := Option.bind_eq_some_iff.mp read
      cases read
      exact fits_atLevel fun small => ⟨small, less.items inside⟩
  · split at read
    · cases read
      exact fits_atLevel fun small => ⟨small, trivial⟩
    · obtain ⟨⟨fields, after⟩, inside, read⟩ := Option.bind_eq_some_iff.mp read
      cases read
      cases fields with
      | none => trivial
      | some fields => exact fits_atLevel fun small => ⟨small, less.fields inside⟩
  · cases read
    trivial
  · cases read
    trivial
  · cases read
    trivial
  · exact fits_number read level

theorem items_succ {items : List Json} (read : items? (fuel + 1) level s = some (items, rest)) :
    FitsItems level items := by
  rw [items?] at read
  obtain ⟨⟨first, after⟩, readFirst, read⟩ := Option.bind_eq_some_iff.mp read
  dsimp only at read
  split at read
  · obtain ⟨⟨later, last⟩, readLater, read⟩ := Option.bind_eq_some_iff.mp read
    cases read
    exact ⟨less.value readFirst, less.items readLater⟩
  · cases read
    exact ⟨less.value readFirst, trivial⟩
  · cases read

theorem fields_succ {fields : List (String × Json)}
    (read : fields? (fuel + 1) level s = some (some fields, rest)) : FitsFields level fields := by
  rw [fields?] at read
  split at read
  · obtain ⟨⟨name, afterName⟩, _, read⟩ := Option.bind_eq_some_iff.mp read
    dsimp only at read
    split at read
    · obtain ⟨⟨first, after⟩, readFirst, read⟩ := Option.bind_eq_some_iff.mp read
      dsimp only at read
      split at read
      · obtain ⟨⟨later, last⟩, readLater, read⟩ := Option.bind_eq_some_iff.mp read
        -- The fields are there only if all their names are.
        have made := congrArg Prod.fst (Option.some.inj read)
        obtain ⟨field, named, made⟩ := Option.bind_eq_some_iff.mp made
        obtain ⟨others, rfl, made⟩ := Option.bind_eq_some_iff.mp made
        obtain ⟨chars, _, rfl⟩ := Option.map_eq_some_iff.mp named
        cases made
        exact ⟨less.value readFirst, less.fields readLater⟩
      · have made := congrArg Prod.fst (Option.some.inj read)
        obtain ⟨field, named, made⟩ := Option.map_eq_some_iff.mp made
        obtain ⟨chars, _, rfl⟩ := Option.map_eq_some_iff.mp named
        cases made
        exact ⟨less.value readFirst, trivial⟩
      · cases read
    · cases read
  · cases read

end ReadsFitting

theorem readsFitting (fuel : Nat) : ReadsFitting fuel := by
  induction fuel with
  | zero => exact ⟨nofun, nofun, nofun⟩
  | succ fuel inductionHypothesis =>
      exact ⟨inductionHypothesis.value_succ, inductionHypothesis.items_succ,
        inductionHypothesis.fields_succ⟩

end Reader

theorem fits_of_read? {text : String} {value : Json} (read : read? text = some value) :
    value.Fits 1 := by
  obtain ⟨⟨value, rest⟩, inside, read⟩ := Option.bind_eq_some_iff.mp read
  dsimp only at read
  split at read
  · cases read
    exact (Reader.readsFitting _).value inside
  · cases read

theorem Record.collect?_forall {shape : RecordShape} {P : Json → Prop}
    {values fields results : List (String × Json)}
    (made : collect? shape values fields = some results) (before : ∀ entry ∈ values, P entry.2)
    (inside : ∀ field ∈ fields, P field.2) : ∀ entry ∈ results, P entry.2 := by
  induction fields generalizing values with
  | nil =>
      cases made
      exact before
  | cons field rest inductionHypothesis =>
      obtain ⟨written, value⟩ := field
      have inRest : ∀ field ∈ rest, P field.2 :=
        fun field here => inside field (List.mem_cons_of_mem _ here)
      rw [collect?] at made
      split at made
      · split at made
        · cases made
        · refine inductionHypothesis made ?_ inRest
          exact List.forall_mem_append.mpr
            ⟨before, List.forall_mem_singleton.mpr (inside (written, value) List.mem_cons_self)⟩
      · split at made
        · cases made
        · exact inductionHypothesis made before inRest

/-- The value of a field fits one level below the record. -/
theorem Record.fits_of_get? {shape : RecordShape} {value given : Json} {record : Record}
    {name : String} (made : ofJson? shape value = some record) (fits : value.Fits level)
    (found : record.get? name = some given) : given.Fits (level + 1) := by
  have here : (name, given) ∈ record.values := by
    obtain ⟨earlier, later, same, _⟩ := List.lookup_eq_some_iff.mp found
    rw [same]
    exact List.mem_append_right earlier List.mem_cons_self
  cases value with
  | object fields =>
      rw [ofJson?] at made
      obtain ⟨values, collected, rfl⟩ := Option.map_eq_some_iff.mp made
      exact collect?_forall collected (by simp) (fitsFields_iff.mp fits.2) _ here
  | array items =>
      rw [ofJson?] at made
      split at made
      · cases made
        exact fitsItems_iff.mp fits.2 given (List.of_mem_zip here).2
      · cases made
  | null | bool | integer | float | text | unreadable => cases made

/-- At this level the value can be printed, and read again as it is. -/
structure Printable (level : Nat) (value : Json) : Prop where
  exact : value.isExact = true
  fits : value.Fits level

namespace Printable

theorem text (s : String) : Printable level (.text s) := ⟨rfl, trivial⟩

theorem array {items : List Json} (small : level ≤ deepest)
    (inside : ∀ item ∈ items, Printable (level + 1) item) : Printable level (.array items) where
  exact := isExactItems_iff.mpr fun item here => (inside item here).exact
  fits := ⟨small, fitsItems_iff.mpr fun item here => (inside item here).fits⟩

theorem object {fields : List (String × Json)} (small : level ≤ deepest)
    (inside : ∀ field ∈ fields, Printable (level + 1) field.2) :
    Printable level (.object fields) where
  exact := isExactFields_iff.mpr fun field here => (inside field here).exact
  fits := ⟨small, fitsFields_iff.mpr fun field here => (inside field here).fits⟩

theorem ofOption {α : Type} {write : α → Json} (inside : ∀ x, Printable level (write x))
    (o : Option α) : Printable level (.ofOption write o) := by
  cases o with
  | none => exact ⟨rfl, trivial⟩
  | some x => exact inside x

end Printable

end Json

theorem JsonValue.fits_of_ofJson? {written : Json} {value : JsonValue}
    (made : ofJson? written = some value) (fits : written.Fits level) : value.json.Fits level := by
  unfold ofJson? at made
  split at made
  · cases made
  · rename_i json normalized
    cases made
    exact Json.fits_of_normalize? normalized fits

end Listmaster
