import Listmaster.Proofs.Json.Fits
import Listmaster.Proofs.Json.Tokens
import Mathlib.Data.List.DropRight

/-!
Values that are printed are read back.

A value that is exact and fits into a text is read from its printed text, whatever the
indentation (`Json.PrintsAs.read?`).  What is printed begins with no blank, and what follows it
is a comma, a new line or nothing, so that the reader stops where the value ends.
-/

namespace Listmaster.Json

namespace Reader

open Printer (character newLine)

variable {rest after : List Char}

section Values

variable {fuel level indent : Nat} {s : List Char}

theorem skipBlanks_newLine (indent : Nat) (s : List Char) :
    skipBlanks (newLine indent ++ s) = skipBlanks s := by
  have blanks : ∀ c ∈ newLine indent, isBlank c = true := by
    intro c here
    rcases List.mem_cons.mp here with rfl | blank
    · rfl
    · rw [List.eq_of_mem_replicate blank]
      rfl
  exact List.dropWhile_append_of_pos blanks

theorem skipBlanks_of_visible {c : Char} (visible : isBlank c = false) (s : List Char) :
    skipBlanks (c :: s) = c :: s := by
  simp [skipBlanks, visible]

theorem skipBlanks_skipBlanks (s : List Char) : skipBlanks (skipBlanks s) = skipBlanks s :=
  List.dropWhile_idempotent isBlank s

theorem value?_congr {s t : List Char} (same : skipBlanks s = skipBlanks t) :
    value? fuel level s = value? fuel level t := by
  cases fuel with
  | zero => rfl
  | succ fuel => rw [value?, value?, same]

theorem items?_congr {s t : List Char} (same : skipBlanks s = skipBlanks t) :
    items? fuel level s = items? fuel level t := by
  cases fuel with
  | zero => rfl
  | succ fuel => rw [items?, items?, value?_congr same]

theorem fields?_congr {s t : List Char} (same : skipBlanks s = skipBlanks t) :
    fields? fuel level s = fields? fuel level t := by
  cases fuel with
  | zero => rfl
  | succ fuel => rw [fields?, fields?, same]

theorem not_isBlank_of_number {c : Char} (number : c = '-' ∨ c.isDigit = true) :
    isBlank c = false := by
  unfold isBlank
  simp only [Bool.or_eq_false_iff, decide_eq_false_iff_not]
  refine ⟨⟨⟨?_, ?_⟩, ?_⟩, ?_⟩
  all_goals
    rintro rfl
    exact absurd number (by decide)

theorem value?_number {c : Char} (number : c = '-' ∨ c.isDigit = true) :
    value? (fuel + 1) level (c :: s) = number? (c :: s) := by
  rw [value?, skipBlanks_of_visible (not_isBlank_of_number number)]
  split
  all_goals first
    | rfl
    | rename_i same
      cases same
      exact absurd number (by decide)

theorem value?_text (s : String) (rest : List Char) :
    value? (fuel + 1) level (Printer.text s ++ rest) = some (.text s, rest) := by
  have read := characters_flatMap s.toList rest
  have opened : skipBlanks (Printer.text s ++ rest) =
      '"' :: (s.toList.flatMap character ++ '"' :: rest) := by
    rw [Printer.text, List.append_assoc]
    rfl
  rw [value?, opened]
  simp only [read, Option.bind_eq_bind, Option.bind_some]
  simp

theorem exists_cons_pretty {value : Json} (exact : value.isExact = true) (indent : Nat) :
    ∃ c later, Printer.pretty indent value = c :: later ∧ isBlank c = false ∧ c ≠ ']' := by
  cases value with
  | null => exact ⟨'n', _, rfl, rfl, by decide⟩
  | bool value => cases value <;> exact ⟨_, _, rfl, rfl, by decide⟩
  | integer n =>
      obtain ⟨c, later, same, number⟩ := exists_cons_integer n
      refine ⟨c, later, same, not_isBlank_of_number number, ?_⟩
      rintro rfl
      exact absurd number (by decide)
  | float value => cases exact
  | text s => exact ⟨'"', _, rfl, rfl, by decide⟩
  | array items => cases items <;> exact ⟨'[', _, rfl, rfl, by decide⟩
  | object fields => cases fields <;> exact ⟨'{', _, rfl, rfl, by decide⟩
  | unreadable => cases exact

variable {item value : Json} {items : List Json} {name : String} {fields : List (String × Json)}

theorem items?_last (first : value? fuel level s = some (item, rest))
    (close : skipBlanks rest = ']' :: after) :
    items? (fuel + 1) level s = some ([item], after) := by
  rw [items?, first]
  simp only [Option.bind_eq_bind, Option.bind_some, close]
  rfl

theorem items?_more (first : value? fuel level s = some (item, ',' :: rest))
    (later : items? fuel level rest = some (items, after)) :
    items? (fuel + 1) level s = some (item :: items, after) := by
  rw [items?, first]
  simp only [Option.bind_eq_bind, Option.bind_some, skipBlanks_of_visible (show isBlank ',' = false from rfl),
    later]
  rfl

/-- A field, as it is printed. -/
def fieldText (name : String) (s : List Char) : List Char :=
  Printer.text name ++ ':' :: ' ' :: s

theorem fieldText_eq (name : String) (s : List Char) :
    fieldText name s = '"' :: (name.toList.flatMap character ++ '"' :: ':' :: ' ' :: s) := by
  rw [fieldText, Printer.text, List.append_assoc]
  rfl

section Fields

variable (first : value? fuel level s = some (value, rest))
include first

theorem fields?_last (close : skipBlanks rest = '\x7d' :: after) :
    fields? (fuel + 1) level (fieldText name s) = some (some [(name, value)], after) := by
  rw [← value?_congr (show skipBlanks (' ' :: s) = skipBlanks s from rfl)] at first
  rw [fields?, fieldText_eq, skipBlanks_of_visible rfl]
  simp only [characters_flatMap, Option.bind_eq_bind, Option.bind_some,
    skipBlanks_of_visible (show isBlank ':' = false from rfl), first, close]
  simp

theorem fields?_more (comma : skipBlanks rest = ',' :: after) {last : List Char}
    (later : fields? fuel level after = some (some fields, last)) :
    fields? (fuel + 1) level (fieldText name s) = some (some ((name, value) :: fields), last) := by
  rw [← value?_congr (show skipBlanks (' ' :: s) = skipBlanks s from rfl)] at first
  rw [fields?, fieldText_eq, skipBlanks_of_visible rfl]
  simp only [characters_flatMap, Option.bind_eq_bind, Option.bind_some,
    skipBlanks_of_visible (show isBlank ':' = false from rfl), first, comma, later]
  simp

end Fields

theorem value?_array (small : level ≤ deepest) (occupied : ∀ after, skipBlanks s ≠ ']' :: after)
    (read : items? fuel (level + 1) s = some (items, rest)) :
    value? (fuel + 1) level ('[' :: s) = some (.array items, rest) := by
  rw [value?, skipBlanks_of_visible rfl]
  simp only [items?_congr (skipBlanks_skipBlanks s), read]
  simp [atLevel, small]

theorem value?_object (small : level ≤ deepest)
    (occupied : ∀ after, skipBlanks s ≠ '\x7d' :: after)
    (read : fields? fuel (level + 1) s = some (some fields, rest)) :
    value? (fuel + 1) level ('\x7b' :: s) = some (.object fields, rest) := by
  rw [value?, skipBlanks_of_visible rfl]
  simp only [fields?_congr (skipBlanks_skipBlanks s), read]
  simp [atLevel, small]

end Values

section Printed

open Printer (prettyItems prettyFields)

theorem ends_newLine (indent : Nat) (rest : List Char) : Ends (newLine indent ++ rest) := by
  rintro c ⟨⟩
  exact .inr rfl

theorem ends_comma (rest : List Char) : Ends (',' :: rest) := by
  rintro c ⟨⟩
  exact .inl rfl

theorem skipBlanks_close (indent : Nat) {c : Char} (visible : isBlank c = false)
    (rest : List Char) : skipBlanks (newLine indent ++ c :: rest) = c :: rest := by
  rw [skipBlanks_newLine, skipBlanks_of_visible visible]

theorem length_newLine_pos (indent : Nat) : 0 < (newLine indent).length :=
  Nat.zero_lt_succ _

theorem pretty_array (indent : Nat) (item : Json) (later : List Json) (rest : List Char) :
    Printer.pretty indent (.array (item :: later)) ++ rest =
      '[' :: (prettyItems (indent + 1) (item :: later) ++ (newLine indent ++ ']' :: rest)) := by
  rw [Printer.pretty]
  · simp
  · exact List.cons_ne_nil _ _

theorem pretty_object (indent : Nat) (field : String × Json) (later : List (String × Json))
    (rest : List Char) :
    Printer.pretty indent (.object (field :: later)) ++ rest =
      '\x7b' :: (prettyFields (indent + 1) (field :: later) ++
        (newLine indent ++ '\x7d' :: rest)) := by
  rw [Printer.pretty]
  · simp
  · exact List.cons_ne_nil _ _

theorem prettyItems_cons (indent : Nat) (item next : Json) (later : List Json) :
    prettyItems indent (item :: next :: later) =
      newLine indent ++ (Printer.pretty indent item ++ ',' :: prettyItems indent (next :: later)) := by
  rw [prettyItems, List.append_assoc]
  exact List.cons_ne_nil next later

theorem prettyFields_singleton (indent : Nat) (name : String) (value : Json) :
    prettyFields indent [(name, value)] =
      newLine indent ++ fieldText name (Printer.pretty indent value) := by
  rw [prettyFields, fieldText, List.append_assoc]

theorem prettyFields_cons (indent : Nat) (name : String) (value : Json) (next : String × Json)
    (later : List (String × Json)) :
    prettyFields indent ((name, value) :: next :: later) =
      newLine indent ++ fieldText name
        (Printer.pretty indent value ++ ',' :: prettyFields indent (next :: later)) := by
  rw [prettyFields, fieldText]
  · simp
  · exact List.cons_ne_nil next later

theorem fieldText_append (name : String) (s rest : List Char) :
    fieldText name s ++ rest = fieldText name (s ++ rest) := by
  simp [fieldText]

theorem length_fieldText (name : String) (s : List Char) : s.length < (fieldText name s).length := by
  simp only [fieldText, List.length_append, List.length_cons]
  omega

theorem prettyItems_occupied {item : Json} (exact : item.isExact = true) (indent : Nat)
    (later : List Json) (rest after : List Char) :
    skipBlanks (prettyItems indent (item :: later) ++ rest) ≠ ']' :: after := by
  obtain ⟨c, shown, same, visible, other⟩ := exists_cons_pretty exact indent
  obtain ⟨tail, printed⟩ : ∃ tail, prettyItems indent (item :: later) =
      newLine indent ++ (Printer.pretty indent item ++ tail) := by
    cases later with
    | nil => exact ⟨[], by rw [List.append_nil, prettyItems]⟩
    | cons next later => exact ⟨_, prettyItems_cons indent item next later⟩
  rw [printed, same, List.append_assoc, skipBlanks_newLine, List.cons_append, List.cons_append,
    skipBlanks_of_visible visible]
  exact fun equal => other (List.cons.inj equal).1

theorem prettyFields_occupied (indent : Nat) (field : String × Json)
    (later : List (String × Json)) (rest after : List Char) :
    skipBlanks (prettyFields indent (field :: later) ++ rest) ≠ '\x7d' :: after := by
  obtain ⟨name, value⟩ := field
  obtain ⟨tail, printed⟩ : ∃ tail, prettyFields indent ((name, value) :: later) =
      newLine indent ++ fieldText name tail := by
    cases later with
    | nil => exact ⟨_, prettyFields_singleton indent name value⟩
    | cons next later => exact ⟨_, prettyFields_cons indent name value next later⟩
  rw [printed, List.append_assoc, skipBlanks_newLine, fieldText_eq, List.cons_append,
    skipBlanks_of_visible rfl]
  exact fun equal => absurd (List.cons.inj equal).1 (by decide)

mutual

/-- A value is read from its printed text, with as much fuel as the text is long. -/
theorem value?_pretty : {value : Json} → {fuel level indent : Nat} → {rest : List Char} →
    value.isExact = true → value.Fits level → (Printer.pretty indent value).length ≤ fuel →
    Ends rest →
    value? (fuel + 1) level (Printer.pretty indent value ++ rest) = some (value, rest)
  | .null, _, _, _, _, _, _, _, _ => rfl
  | .bool true, _, _, _, _, _, _, _, _ | .bool false, _, _, _, _, _, _, _, _ => rfl
  | .integer n, _, _, _, _, _, fits, _, ends => by
      have read := number?_integer fits ends
      obtain ⟨c, later, same, number⟩ := exists_cons_integer n
      change value? _ _ ((toString n).toList ++ _) = _
      rw [same, List.cons_append] at read ⊢
      rw [value?_number number, read]
  | .float _, _, _, _, _, exact, _, _, _ => nomatch exact
  | .text s, _, _, _, rest, _, _, _, _ => value?_text s rest
  | .unreadable, _, _, _, _, exact, _, _, _ => nomatch exact
  | .array [], _, level, _, rest, _, fits, _, _ => by
      have small : level ≤ deepest := fits.1
      change some (atLevel level (.array []), rest) = _
      rw [atLevel, if_pos small]
  | .array (item :: later), fuel, level, indent, rest, exact, fits, enough, ends => by
      have exact : isExactItems (item :: later) = true := exact
      have first : item.isExact = true := (Bool.and_eq_true_iff.mp exact).1
      obtain ⟨small, fits⟩ : level ≤ deepest ∧ FitsItems (level + 1) (item :: later) := fits
      have printed := congrArg List.length (pretty_array indent item later [])
      simp only [List.append_nil, List.length_cons, List.length_append] at printed
      obtain ⟨fuel, rfl⟩ : ∃ less, fuel = less + 1 := ⟨fuel - 1, by omega⟩
      rw [pretty_array]
      exact value?_array small (prettyItems_occupied first (indent + 1) later _)
        (items?_pretty (List.cons_ne_nil _ _) exact fits (by omega) indent)
  | .object [], _, level, _, rest, _, fits, _, _ => by
      have small : level ≤ deepest := fits.1
      change some (atLevel level (.object []), rest) = _
      rw [atLevel, if_pos small]
  | .object ((name, value) :: later), fuel, level, indent, rest, exact, fits, enough, ends => by
      have exact : isExactFields ((name, value) :: later) = true := exact
      obtain ⟨small, fits⟩ :
          level ≤ deepest ∧ FitsFields (level + 1) ((name, value) :: later) := fits
      have printed := congrArg List.length (pretty_object indent (name, value) later [])
      simp only [List.append_nil, List.length_cons, List.length_append] at printed
      obtain ⟨fuel, rfl⟩ : ∃ less, fuel = less + 1 := ⟨fuel - 1, by omega⟩
      rw [pretty_object]
      exact value?_object small (prettyFields_occupied (indent + 1) (name, value) later _)
        (fields?_pretty (List.cons_ne_nil _ _) exact fits (by omega) indent)

theorem items?_pretty : {items : List Json} → {fuel level indent : Nat} → {rest : List Char} →
    items ≠ [] → isExactItems items = true → FitsItems level items →
    (prettyItems indent items).length ≤ fuel → (outer : Nat) →
    items? (fuel + 1) level (prettyItems indent items ++ (newLine outer ++ ']' :: rest)) =
      some (items, rest)
  | [], _, _, _, _, occupied, _, _, _, _ => absurd rfl occupied
  | [item], fuel, level, indent, rest, _, exact, fits, enough, outer => by
      have exact : item.isExact = true := (Bool.and_eq_true_iff.mp exact).1
      rw [prettyItems, List.length_append] at enough
      have blanks := length_newLine_pos indent
      obtain ⟨fuel, rfl⟩ : ∃ less, fuel = less + 1 := ⟨fuel - 1, by omega⟩
      have read : value? (fuel + 1) level (Printer.pretty indent item ++
          (newLine outer ++ ']' :: rest)) = some (item, newLine outer ++ ']' :: rest) :=
        value?_pretty exact fits.1 (by omega) (ends_newLine outer _)
      rw [← value?_congr (skipBlanks_newLine indent _), ← List.append_assoc] at read
      rw [prettyItems]
      exact items?_last read (skipBlanks_close outer rfl rest)
  | item :: next :: later, fuel, level, indent, rest, _, exact, fits, enough, outer => by
      obtain ⟨exact, exactLater⟩ := Bool.and_eq_true_iff.mp exact
      rw [prettyItems_cons] at enough ⊢
      simp only [List.length_append, List.length_cons] at enough
      have blanks := length_newLine_pos indent
      obtain ⟨fuel, rfl⟩ : ∃ less, fuel = less + 1 := ⟨fuel - 1, by omega⟩
      have read (more : List Char) : value? (fuel + 1) level (Printer.pretty indent item ++
          ',' :: more) = some (item, ',' :: more) :=
        value?_pretty exact fits.1 (by omega) (ends_comma more)
      have readLater : items? (fuel + 1) level (prettyItems indent (next :: later) ++
          (newLine outer ++ ']' :: rest)) = some (next :: later, rest) :=
        items?_pretty (List.cons_ne_nil _ _) exactLater fits.2 (by omega) outer
      simp only [List.append_assoc, List.cons_append]
      rw [items?_congr (skipBlanks_newLine indent _)]
      exact items?_more (read _) readLater

theorem fields?_pretty : {fields : List (String × Json)} → {fuel level indent : Nat} →
    {rest : List Char} → fields ≠ [] → isExactFields fields = true → FitsFields level fields →
    (prettyFields indent fields).length ≤ fuel → (outer : Nat) →
    fields? (fuel + 1) level (prettyFields indent fields ++ (newLine outer ++ '\x7d' :: rest)) =
      some (some fields, rest)
  | [], _, _, _, _, occupied, _, _, _, _ => absurd rfl occupied
  | [(name, value)], fuel, level, indent, rest, _, exact, fits, enough, outer => by
      have exact : value.isExact = true := (Bool.and_eq_true_iff.mp exact).1
      rw [prettyFields_singleton, List.length_append] at enough
      have longer := length_fieldText name (Printer.pretty indent value)
      obtain ⟨fuel, rfl⟩ : ∃ less, fuel = less + 1 := ⟨fuel - 1, by omega⟩
      have read : value? (fuel + 1) level (Printer.pretty indent value ++
          (newLine outer ++ '\x7d' :: rest)) = some (value, newLine outer ++ '\x7d' :: rest) :=
        value?_pretty exact fits.1 (by omega) (ends_newLine outer _)
      rw [prettyFields_singleton, List.append_assoc, fieldText_append,
        fields?_congr (skipBlanks_newLine indent _)]
      exact fields?_last read (skipBlanks_close outer rfl rest)
  | (name, value) :: next :: later, fuel, level, indent, rest, _, exact, fits, enough, outer => by
      obtain ⟨exact, exactLater⟩ := Bool.and_eq_true_iff.mp exact
      rw [prettyFields_cons, List.length_append] at enough
      have longer := length_fieldText name
        (Printer.pretty indent value ++ ',' :: prettyFields indent (next :: later))
      rw [List.length_append, List.length_cons] at longer
      obtain ⟨fuel, rfl⟩ : ∃ less, fuel = less + 1 := ⟨fuel - 1, by omega⟩
      have read (more : List Char) : value? (fuel + 1) level (Printer.pretty indent value ++
          ',' :: more) = some (value, ',' :: more) :=
        value?_pretty exact fits.1 (by omega) (ends_comma more)
      have readLater : fields? (fuel + 1) level (prettyFields indent (next :: later) ++
          (newLine outer ++ '\x7d' :: rest)) = some (some (next :: later), rest) :=
        fields?_pretty (List.cons_ne_nil _ _) exactLater fits.2 (by omega) outer
      rw [prettyFields_cons, List.append_assoc, fieldText_append, List.append_assoc,
        List.cons_append, fields?_congr (skipBlanks_newLine indent _)]
      exact fields?_more (read _) (skipBlanks_of_visible rfl _) readLater

end

end Printed

end Reader

/-- The text shows the value, whatever the indentation, with an end of line or without. -/
def PrintsAs (value : Json) (text : String) : Prop :=
  ∃ indent blanks, (blanks = [] ∨ blanks = ['\n']) ∧
    text = String.ofList (Printer.pretty indent value ++ blanks)

/-- A value is read from a text that shows it. -/
theorem PrintsAs.read? {value : Json} {text : String} (prints : value.PrintsAs text)
    (printable : Printable 1 value) : read? text = some value := by
  obtain ⟨indent, blanks, ended, rfl⟩ := prints
  have ends : Reader.Ends blanks := by
    rcases ended with rfl | rfl <;> simp [Reader.Ends]
  have none : Reader.skipBlanks blanks = [] := by
    rcases ended with rfl | rfl <;> rfl
  have long : (Printer.pretty indent value).length ≤
      (Printer.pretty indent value ++ blanks).length := by simp
  have found := Reader.value?_pretty printable.exact printable.fits long ends
  rw [Json.read?, String.toList_ofList]
  simp only [found, Option.bind_eq_bind, Option.bind_some, none]
  rfl

namespace Printer

theorem pretty_isInfix_fields {name : String} {value : Json} {fields : List (String × Json)}
    (here : (name, value) ∈ fields) (indent : Nat) :
    pretty indent value <:+: prettyFields indent fields := by
  induction fields with
  | nil => cases here
  | cons field rest inductionHypothesis =>
      obtain ⟨first, firstValue⟩ := field
      cases rest with
      | nil =>
          cases List.mem_singleton.mp here
          rw [prettyFields]
          exact ⟨newLine indent ++ text name ++ [':', ' '], [], by simp⟩
      | cons next later =>
          rw [Reader.prettyFields_cons, Reader.fieldText]
          rcases List.mem_cons.mp here with same | inLater
          · cases same
            exact ⟨newLine indent ++ text name ++ [':', ' '],
              ',' :: prettyFields indent (next :: later), by simp⟩
          · refine (inductionHypothesis inLater).trans ?_
            exact ⟨newLine indent ++ text first ++ [':', ' '] ++ pretty indent firstValue ++ [','],
              [], by simp⟩

theorem pretty_isInfix_object {name : String} {value : Json} {fields : List (String × Json)}
    (here : (name, value) ∈ fields) (indent : Nat) :
    pretty (indent + 1) value <:+: pretty indent (.object fields) := by
  cases fields with
  | nil => cases here
  | cons field rest =>
      refine (pretty_isInfix_fields here (indent + 1)).trans ?_
      rw [pretty]
      · exact ⟨['\x7b'], newLine indent ++ ['\x7d'], by simp⟩
      · exact List.cons_ne_nil field rest

end Printer

end Listmaster.Json
