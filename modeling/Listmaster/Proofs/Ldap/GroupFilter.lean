import Listmaster.Proofs.Ldap.Grammar
import Listmaster.Proofs.Text.Case

/-!
The filter for a group cannot be bent.

Whatever the class and the value are, the text of the filter for a group writes the conjunction of
its two tests and nothing else, and a client reads it so, if the attribute has a name that the
grammar knows.  If it has none, the text writes no filter, and is never read as another one:
`Filter.writes_ofGroup_exactly`.
-/

namespace Listmaster.Ldap.Filter

namespace Reader

variable {s name options more rest : List Char} {mark : Char} {isPart : List Char → Prop}

theorem Row.stops {p : Char → Bool} (row : Row mark isPart s) (apart : p mark = false) :
    s.takeWhile p = [] ∧ s.dropWhile p = s := by
  cases row <;> simp [apart]

theorem Row.stops_digits (dots : Row '.' IsNumber more) (row : Row ';' IsOption options) :
    (more ++ options).takeWhile Char.isDigit = [] ∧
      (more ++ options).dropWhile Char.isDigit = more ++ options := by
  cases dots with
  | nil => exact Row.stops row (by decide)
  | cons _ _ => simp

theorem number?_append (number : IsNumber name) (stops : s.takeWhile Char.isDigit = [] ∧
    s.dropWhile Char.isDigit = s) : number? (name ++ s) = some (name, s) := by
  obtain ⟨nonempty, digits, noZeros⟩ := number
  unfold number? Text.spanDigits?
  rw [List.takeWhile_append_of_pos digits, List.dropWhile_append_of_pos digits, stops.1, stops.2,
    List.append_nil]
  have plain : (name.length = 1 || name.head? != some '0') = true := by
    by_cases zero : name.head? = some '0'
    · simp [noZeros zero]
    · simp [zero]
  simp [nonempty, plain]

theorem dotted_append (row : Row '.' IsNumber more) (later : Row ';' IsOption options) {fuel : Nat}
    (room : more.length ≤ fuel) : dotted fuel (more ++ options) = (more, options) := by
  induction row generalizing fuel with
  | nil =>
      cases later with
      | nil => cases fuel <;> rfl
      | cons _ _ => exact dotted_of_ne fuel (by decide) _
  | @cons part more number row inductionHypothesis =>
      rw [List.cons_append, List.length_cons, List.length_append] at room
      obtain ⟨fuel, rfl⟩ : ∃ n, fuel = n + 1 := ⟨fuel - 1, by omega⟩
      have further : dotted fuel (more ++ options) = (more, options) :=
        inductionHypothesis (by omega)
      rw [List.cons_append, List.cons_append, List.append_assoc, dotted,
        number?_append number (Row.stops_digits row later)]
      simp only [further, List.cons_append]

theorem options_append (row : Row ';' IsOption options) {fuel : Nat} (room : options.length ≤ fuel) :
    Reader.options fuel options = (options, []) := by
  induction row generalizing fuel with
  | nil => cases fuel <;> rfl
  | @cons part options isOption row inductionHypothesis =>
      rw [List.cons_append, List.length_cons, List.length_append] at room
      obtain ⟨fuel, rfl⟩ : ∃ n, fuel = n + 1 := ⟨fuel - 1, by omega⟩
      have stops := Row.stops row (show isNameChar ';' = false by decide)
      have further : Reader.options fuel options = (options, []) :=
        inductionHypothesis (by omega)
      rw [List.cons_append, Reader.options, List.takeWhile_append_of_pos isOption.2,
        List.dropWhile_append_of_pos isOption.2, stops.1, stops.2, further, List.append_nil]
      cases part with
      | nil => exact absurd rfl isOption.1
      | cons c part => simp

theorem name?_append (isName : IsName name) (row : Row ';' IsOption options) :
    name? (name ++ options) = some (name, options) := by
  rcases isName with ⟨first, rest, rfl, letter, inside⟩ | ⟨number, more, rfl, isNumber, dots, _⟩
  · have stops := Row.stops row (show isNameChar ';' = false by decide)
    rw [List.cons_append, name?, if_pos letter, List.takeWhile_append_of_pos inside,
      List.dropWhile_append_of_pos inside, stops.1, stops.2, List.append_nil]
  · have read := number?_append isNumber (Row.stops_digits dots row)
    have further : dotted (more ++ options).length (more ++ options) = (more, options) :=
      dotted_append dots row (by simp)
    obtain ⟨nonempty, isDigit, _⟩ := isNumber
    cases number with
    | nil => exact absurd rfl nonempty
    | cons first number =>
        have noLetter : ¬ first.isAlpha = true := by
          rw [Text.isAlpha_of_isDigit (isDigit first List.mem_cons_self)]
          exact Bool.false_ne_true
        rw [List.append_assoc, List.cons_append, name?, if_neg noLetter, ← List.cons_append, read]
        simp only [Option.bind_eq_bind, Option.bind_some, further]
        rfl

theorem isAttribute_of_isDescription {name : String} (description : IsDescription name.toList) :
    IsAttribute name := by
  obtain ⟨type, options, text, isName, row⟩ := description
  unfold IsAttribute attribute?
  rw [text, name?_append isName row]
  simp only [Option.bind_eq_bind, Option.bind_some, options_append row (Nat.le_refl _), ← text,
    String.ofList_toList]
  rfl

theorem append_dotted (fuel : Nat) (s : List Char) :
    (dotted fuel s).1 ++ (dotted fuel s).2 = s := by
  induction fuel generalizing s with
  | zero => rfl
  | succ fuel inductionHypothesis =>
      cases s with
      | nil => rfl
      | cons c rest =>
          by_cases dot : c = '.'
          · subst dot
            rw [dotted]
            cases found : number? rest with
            | none => rfl
            | some read =>
                obtain ⟨digits, left⟩ := read
                simp only [List.cons_append, List.append_assoc, inductionHypothesis left,
                  append_of_number? found]
          · rw [dotted_of_ne _ dot]
            rfl

theorem append_options (fuel : Nat) (s : List Char) :
    (Reader.options fuel s).1 ++ (Reader.options fuel s).2 = s := by
  induction fuel generalizing s with
  | zero => rfl
  | succ fuel inductionHypothesis =>
      cases s with
      | nil => rfl
      | cons c rest =>
          by_cases semicolon : c = ';'
          · subst semicolon
            rw [Reader.options]
            cases option : rest.takeWhile isNameChar with
            | nil => rfl
            | cons first option =>
                simp only [List.cons_append, List.append_assoc,
                  inductionHypothesis (rest.dropWhile isNameChar)]
                rw [← List.cons_append, ← option, List.takeWhile_append_dropWhile]
          · rw [options_of_ne _ semicolon]
            rfl

theorem append_of_name? (found : name? s = some (name, rest)) : name ++ rest = s := by
  cases s with
  | nil => cases found
  | cons first later =>
      unfold name? at found
      dsimp only at found
      split at found
      · cases found
        rw [List.cons_append, List.takeWhile_append_dropWhile]
      · obtain ⟨⟨digits, left⟩, read, same⟩ := Option.bind_eq_some_iff.mp found
        cases same
        rw [List.append_assoc, append_dotted, append_of_number? read]

theorem append_of_attribute? {name : String} (found : attribute? s = some (name, rest)) :
    name.toList ++ rest = s := by
  obtain ⟨⟨type, left⟩, read, same⟩ := Option.bind_eq_some_iff.mp found
  cases same
  rw [String.toList_ofList, List.append_assoc, append_options, append_of_name? read]

theorem extensible?_of_ne {c : Char} (other : c ≠ ':') (name : Option String) (s : List Char) :
    extensible? name (c :: s) = none := by
  have noMark : inDn (c :: s) = (false, c :: s) := by
    rw [inDn]
    rintro rest ⟨⟩
    exact other rfl
  have noRule : rule (c :: s) = (none, c :: s) := by
    rw [rule]
    rintro rest ⟨⟩
    exact other rfl
  unfold extensible?
  rw [noMark]
  simp only [noRule]
  split
  · rfl
  · split
    · next same => exact absurd (List.cons.inj same).1 other
    · rfl

variable {name : String} (inside : ∀ c ∈ name.toList, isDescriptive c = true)
include inside

/-- What names no attribute begins no test. -/
theorem item?_of_not_isAttribute (noName : ¬ IsAttribute name) (rest : List Char) :
    item? (name.toList ++ '=' :: rest) = none := by
  have apart (sign : Char) (other : isDescriptive sign = false) {c : Char} (here : c ∈ name.toList) :
      c ≠ sign := fun same => not_mem_of_isDescriptive inside other (same ▸ here)
  unfold item?
  cases text : name.toList with
  | nil => rfl
  | cons c s =>
      rw [text] at apart
      rw [attribute?_before]
      cases found : attribute? (c :: s) with
      | none => exact extensible?_of_ne (apart ':' rfl List.mem_cons_self) _ _
      | some read =>
          obtain ⟨other, left⟩ := read
          have whole := append_of_attribute? found
          cases left with
          | nil =>
              -- What was read is the whole text, which is then a name.
              rw [List.append_nil, ← text] at whole
              rw [String.toList_inj.mp whole, ← text] at found
              exact absurd found noName
          | cons d left =>
              have here : d ∈ c :: s := by simp [← whole]
              simp only [Option.map_some, before, List.cons_append]
              split
              · next same => exact absurd (List.cons.inj same).1 (apart '=' rfl here)
              · next same => exact absurd (List.cons.inj same).1 (apart '>' rfl here)
              · next same => exact absurd (List.cons.inj same).1 (apart '<' rfl here)
              · next same => exact absurd (List.cons.inj same).1 (apart '~' rfl here)
              · exact extensible?_of_ne (apart ':' rfl here) _ _

end Reader

variable {objectClass otherClass name value otherValue : String}

theorem read?_ofGroup_of_not_isAttribute (inside : ∀ c ∈ name.toList, isDescriptive c = true)
    (noName : ¬ IsAttribute name) : read? (ofGroup objectClass name value) = none := by
  have second (fuel : Nat) :
      Reader.filter? (fuel + 1) ('(' :: (equalityText name value ++ [')', ')'])) =
        (none : Option Filter).map fun test => (test, [')']) := by
    rw [Reader.filter?_item (equalityText_ne inside _), equalityText, List.append_assoc, List.cons_append,
      Reader.item?_of_not_isAttribute inside noName]
    rfl
  exact read?_ofGroup_of_filter? second objectClass

theorem escape_injective {s t : String} (same : escape s = escape t) : s = t :=
  octets_injective ((value_escape s).unique (same ▸ value_escape t))

theorem ofGroup_injective (same : ofGroup objectClass name value = ofGroup otherClass name otherValue) :
    objectClass = otherClass ∧ value = otherValue := by
  have closed (value : String) : ')' ∉ equalityText "objectClass" value :=
    not_mem_equalityText isDescription_objectClass.descriptive
  have texts := congrArg String.toList same
  rw [toList_ofGroup, toList_ofGroup] at texts
  have inner := (List.cons.inj (List.cons.inj (List.cons.inj texts).2).2).2
  obtain ⟨first, rest⟩ := append_cons_inj (closed objectClass) (closed otherClass) inner
  have second := List.append_cancel_right (List.cons.inj rest).2
  have classes := (List.cons.inj (List.append_cancel_left first)).2
  have values := (List.cons.inj (List.append_cancel_left second)).2
  exact ⟨escape_injective classes, escape_injective values⟩

/-- Among the names that are made of the characters of descriptions, those that are descriptions
make the text of the filter for a group write the conjunction of its two tests, and nothing else,
and a client reads it so.  The other names make it write no filter, and it is never read as
another one.  Texts that are equal are for equal classes and values. -/
theorem writes_ofGroup_exactly (inside : ∀ c ∈ name.toList, isDescriptive c = true)
    (objectClass value : String) :
    (∀ filter, Writes (ofGroup objectClass name value).toList filter ↔
      IsDescription name.toList ∧
        filter = .conjunction
          [.equality "objectClass" (octets objectClass), .equality name (octets value)]) ∧
    (IsDescription name.toList →
      read? (ofGroup objectClass name value) = some (.conjunction
        [.equality "objectClass" (octets objectClass), .equality name (octets value)])) ∧
    (∀ filter, read? (ofGroup objectClass name value) = some filter →
      filter = .conjunction
        [.equality "objectClass" (octets objectClass), .equality name (octets value)]) ∧
    ∀ otherClass otherValue,
      ofGroup objectClass name value = ofGroup otherClass name otherValue →
        objectClass = otherClass ∧ value = otherValue := by
  refine ⟨fun filter => writes_ofGroup_iff inside, fun description => ?_, fun filter read => ?_,
    fun _ _ => ofGroup_injective⟩
  · exact read?_ofGroup (Reader.isAttribute_of_isDescription description) objectClass value
  · by_cases isName : IsAttribute name
    · rw [read?_ofGroup isName] at read
      exact (Option.some.inj read).symm
    · rw [read?_ofGroup_of_not_isAttribute inside isName] at read
      cases read

/-- A value that would end the filter and begin another test stays a value. -/
theorem writes_ofGroup_exactly_sample :
    (∀ c ∈ "mail;lang-en".toList, isDescriptive c = true) ∧
      IsDescription "mail;lang-en".toList ∧
      ∀ filter, Writes (ofGroup "groupOfNames" "mail;lang-en" "*)(uid=*").toList filter ↔
        filter = .conjunction [.equality "objectClass" (octets "groupOfNames"),
          .equality "mail;lang-en" (octets "*)(uid=*")] := by
  have inside : ∀ c ∈ "mail;lang-en".toList, isDescriptive c = true :=
    List.all_eq_true.mp rfl
  have isName : IsName "mail".toList := .inl ⟨'m', _, rfl, rfl, List.all_eq_true.mp rfl⟩
  have isOption : IsOption "lang-en".toList := ⟨nofun, List.all_eq_true.mp rfl⟩
  have description : IsDescription "mail;lang-en".toList :=
    ⟨"mail".toList, ";lang-en".toList, rfl, isName, .cons isOption .nil⟩
  refine ⟨inside, description, fun filter => ?_⟩
  rw [(writes_ofGroup_exactly inside "groupOfNames" "*)(uid=*").1 filter]
  exact and_iff_right description

/-- A word with a dot in it is made of the characters of descriptions, but is none: the text with
it writes no filter, and is not read. -/
theorem not_writes_ofGroup_of_dottedWord :
    (∀ c ∈ "list.address".toList, isDescriptive c = true) ∧
      (∀ filter,
        ¬ Writes (ofGroup "groupOfNames" "list.address" "team@lists.example.org").toList filter) ∧
      read? (ofGroup "groupOfNames" "list.address" "team@lists.example.org") = none := by
  have inside : ∀ c ∈ "list.address".toList, isDescriptive c = true :=
    List.all_eq_true.mp rfl
  have noName : ¬ IsAttribute "list.address" := by decide
  refine ⟨inside, fun filter writes => ?_, read?_ofGroup_of_not_isAttribute inside noName⟩
  exact noName (Reader.isAttribute_of_isDescription ((writes_ofGroup_iff inside).mp writes).1)

end Listmaster.Ldap.Filter
