import Mathlib.Data.List.TakeDrop
import Listmaster.Ldap.Filter

/-!
Filters that are read again.

The text of the filter for a group is read as the conjunction of the two tests it was written
for, whatever the class and the value are: `Filter.read?_ofGroup`.  The name of the attribute
stands in it as it is, and has to be one.
-/

namespace Listmaster.Ldap.Filter

/-- The text names an attribute, perhaps by numbers or with options. -/
def IsAttribute (name : String) : Prop := Reader.attribute? name.toList = some (name, [])

instance (name : String) : Decidable (IsAttribute name) :=
  inferInstanceAs (Decidable (Reader.attribute? name.toList = some (name, [])))

theorem octets_injective {s t : String} (same : octets s = octets t) : s = t := by
  have encoded : s.toList.utf8Encode = t.toList.utf8Encode := congrArg List.toByteArray same
  have decoded := congrArg ByteArray.utf8Decode? encoded
  rw [List.utf8Decode?_utf8Encode, List.utf8Decode?_utf8Encode] at decoded
  exact String.toList_inj.mp (by simpa using decoded)

/-- The text of a test for a value. -/
def equalityText (name value : String) : List Char := name.toList ++ '=' :: escape value

theorem toList_ofGroup (objectClass name value : String) :
    (ofGroup objectClass name value).toList =
      '(' :: '&' :: '(' :: (equalityText "objectClass" objectClass ++ ')' ::
        '(' :: (equalityText name value ++ [')', ')'])) := by
  have opening : "(&(objectClass=".toList = '(' :: '&' :: '(' :: ("objectClass".toList ++ ['=']) :=
    rfl
  have middle : ")(".toList = [')', '('] := rfl
  have closing : "))".toList = [')', ')'] := rfl
  have equals : "=".toList = ['='] := rfl
  unfold ofGroup equalityText
  rw [String.toList_ofList, opening, middle, closing, equals]
  simp only [List.cons_append, List.append_assoc, List.nil_append]

namespace Reader

variable {s rest : List Char} {name : String}

/-- What was read, with an equals sign and more text behind what follows. -/
def before {α : Type} (rest : List Char) : α × List Char → α × List Char
  | (read, left) => (read, left ++ '=' :: rest)

theorem takeWhile_before {p : Char → Bool} (stops : p '=' = false) (s rest : List Char) :
    (s ++ '=' :: rest).takeWhile p = s.takeWhile p := by
  induction s with
  | nil => simp [stops]
  | cons c later inductionHypothesis =>
      simp only [List.cons_append, List.takeWhile_cons, inductionHypothesis]

theorem dropWhile_before {p : Char → Bool} (stops : p '=' = false) (s rest : List Char) :
    (s ++ '=' :: rest).dropWhile p = s.dropWhile p ++ '=' :: rest := by
  induction s with
  | nil => simp [stops]
  | cons c later inductionHypothesis =>
      simp only [List.cons_append, List.dropWhile_cons, inductionHypothesis]
      split <;> rfl

theorem number?_before (s rest : List Char) :
    number? (s ++ '=' :: rest) = (number? s).map (before rest) := by
  unfold number? Text.spanDigits?
  rw [takeWhile_before (by decide), dropWhile_before (by decide)]
  dsimp only
  by_cases none : (s.takeWhile Char.isDigit).isEmpty = true
  · rw [if_pos none, if_pos none]
    rfl
  · rw [if_neg none, if_neg none]
    simp only [Option.filter_some]
    split <;> rfl

theorem append_of_number? {digits : List Char} (found : number? s = some (digits, rest)) :
    digits ++ rest = s := by
  unfold number? Text.spanDigits? at found
  dsimp only at found
  split at found
  · cases found
  · rw [Option.filter_eq_some_iff] at found
    cases found.1
    exact List.takeWhile_append_dropWhile

theorem length_number? {digits : List Char} (found : number? s = some (digits, rest)) :
    rest.length ≤ s.length := by
  rw [← append_of_number? found, List.length_append]
  omega

theorem dotted_of_ne (fuel : Nat) {c : Char} (other : c ≠ '.') (s : List Char) :
    dotted fuel (c :: s) = ([], c :: s) := by
  cases fuel <;> simp [dotted, other]

theorem options_of_ne (fuel : Nat) {c : Char} (other : c ≠ ';') (s : List Char) :
    options fuel (c :: s) = ([], c :: s) := by
  cases fuel <;> simp [options, other]

theorem dotted_before {fuel enough : Nat} (s rest : List Char) (room : s.length ≤ fuel)
    (roomy : s.length ≤ enough) :
    dotted enough (s ++ '=' :: rest) = before rest (dotted fuel s) := by
  -- Each number takes a dot, so that a number of steps remains that is no less than the text.
  induction fuel generalizing s enough with
  | zero =>
      obtain rfl := List.eq_nil_of_length_eq_zero (Nat.le_zero.mp room)
      cases enough <;> rfl
  | succ fuel inductionHypothesis =>
      cases s with
      | nil => cases enough <;> rfl
      | cons c later =>
          rw [List.length_cons] at room roomy
          obtain ⟨enough, rfl⟩ : ∃ n, enough = n + 1 := ⟨enough - 1, by omega⟩
          by_cases dot : c = '.'
          · subst dot
            rw [List.cons_append, dotted, dotted, number?_before]
            cases found : number? later with
            | none => rfl
            | some read =>
                obtain ⟨digits, left⟩ := read
                have shorter := length_number? found
                have further : dotted enough (left ++ '=' :: rest) = before rest (dotted fuel left) :=
                  inductionHypothesis left (by omega) (by omega)
                simp only [Option.map_some, before, further]
          · rw [List.cons_append, dotted_of_ne _ dot, dotted_of_ne _ dot]
            rfl

theorem options_before {fuel enough : Nat} (s rest : List Char) (room : s.length ≤ fuel)
    (roomy : s.length ≤ enough) :
    options enough (s ++ '=' :: rest) = before rest (options fuel s) := by
  induction fuel generalizing s enough with
  | zero =>
      obtain rfl := List.eq_nil_of_length_eq_zero (Nat.le_zero.mp room)
      cases enough <;> rfl
  | succ fuel inductionHypothesis =>
      cases s with
      | nil => cases enough <;> rfl
      | cons c later =>
          rw [List.length_cons] at room roomy
          obtain ⟨enough, rfl⟩ : ∃ n, enough = n + 1 := ⟨enough - 1, by omega⟩
          by_cases semicolon : c = ';'
          · subst semicolon
            have shorter := (List.dropWhile_suffix (l := later) isNameChar).length_le
            have further : options enough (later.dropWhile isNameChar ++ '=' :: rest) =
                before rest (options fuel (later.dropWhile isNameChar)) :=
              inductionHypothesis _ (by omega) (by omega)
            rw [List.cons_append, options, options, takeWhile_before (by decide),
              dropWhile_before (by decide)]
            cases later.takeWhile isNameChar with
            | nil => rfl
            | cons first option => simp only [further, before]
          · rw [List.cons_append, options_of_ne _ semicolon, options_of_ne _ semicolon]
            rfl

theorem name?_before (c : Char) (s rest : List Char) :
    name? (c :: s ++ '=' :: rest) = (name? (c :: s)).map (before rest) := by
  unfold name?
  rw [List.cons_append]
  dsimp only
  split
  · rw [takeWhile_before (by decide), dropWhile_before (by decide)]
    rfl
  · rw [← List.cons_append, number?_before]
    cases number? (c :: s) with
    | none => rfl
    | some read =>
        obtain ⟨digits, left⟩ := read
        have further := dotted_before left rest (Nat.le_refl _)
          (by simp : left.length ≤ (left ++ '=' :: rest).length)
        simp only [Option.map_some, Option.bind_eq_bind, Option.bind_some, before, further]
        rfl

theorem attribute?_before (c : Char) (s rest : List Char) :
    attribute? (c :: s ++ '=' :: rest) = (attribute? (c :: s)).map (before rest) := by
  unfold attribute?
  rw [name?_before]
  cases name? (c :: s) with
  | none => rfl
  | some read =>
      obtain ⟨first, left⟩ := read
      have further := options_before left rest (Nat.le_refl _)
        (by simp : left.length ≤ (left ++ '=' :: rest).length)
      simp only [Option.bind_eq_bind, Option.bind_some, Option.map_some, before, further]
      rfl

/-- The name of an attribute is read in front of an equals sign. -/
theorem attribute?_of_isAttribute (isName : IsAttribute name) (rest : List Char) :
    attribute? (name.toList ++ '=' :: rest) = some (name, '=' :: rest) := by
  unfold IsAttribute at isName
  cases text : name.toList with
  | nil =>
      rw [text] at isName
      cases isName
  | cons c s =>
      rw [text] at isName
      rw [attribute?_before, isName]
      rfl

theorem exists_cons_of_isAttribute (isName : IsAttribute name) :
    ∃ c s, name.toList = c :: s ∧ c.isAlphanum = true := by
  unfold IsAttribute at isName
  cases text : name.toList with
  | nil =>
      rw [text] at isName
      cases isName
  | cons c s =>
      refine ⟨c, s, rfl, ?_⟩
      rw [text] at isName
      by_contra other
      simp only [Char.isAlphanum, Bool.or_eq_true, not_or, Bool.not_eq_true] at other
      simp [attribute?, name?, number?, Text.spanDigits?, other] at isName

theorem escapeChar_of_special {c : Char} (special : isSpecial c = true) :
    ∃ first second, escapeChar c = ['\\', first, second] ∧
      (first = '\\' || !isSpecial first) = true ∧ (second = '\\' || !isSpecial second) = true ∧
      (Text.natOfDigits? 16 [first, second]).map Nat.toUInt8 = some c.toNat.toUInt8 ∧
      String.utf8EncodeChar c = [c.toNat.toUInt8] := by
  simp only [isSpecial, Bool.or_eq_true, decide_eq_true_eq] at special
  obtain (((rfl | rfl) | rfl) | rfl) | zero := special
  · exact ⟨'5', 'c', by decide⟩
  · exact ⟨'2', 'a', by decide⟩
  · exact ⟨'2', '8', by decide⟩
  · exact ⟨'2', '9', by decide⟩
  · obtain rfl : c = Char.ofNat 0 := by rw [← zero, Char.ofNat_toNat]
    exact ⟨'0', '0', by decide⟩

theorem value?_escapeChar (c : Char) (rest : List Char) :
    value? 0 (escapeChar c ++ rest) =
      (value? 0 rest).map fun (octets, after) => (String.utf8EncodeChar c ++ octets, after) := by
  by_cases special : isSpecial c = true
  · obtain ⟨first, second, written, firstInside, secondInside, number, encoded⟩ :=
      escapeChar_of_special special
    obtain ⟨octet, read, octet?⟩ := Option.map_eq_some_iff.mp number
    rw [written, encoded]
    simp only [List.cons_append, List.nil_append, value?, List.takeWhile_cons, firstInside,
      secondInside, if_true, List.take_succ_cons, List.take_zero, read, List.length_cons,
      List.length_nil, Option.bind_eq_bind, Option.bind_some, octet?]
    cases value? 0 rest <;> rfl
  · have plain : escapeChar c = [c] := if_neg special
    have notBackslash : c ≠ '\\' := by
      rintro rfl
      exact special rfl
    rw [plain, List.singleton_append, value?, if_neg special]
    · cases value? 0 rest <;> rfl
    · exact notBackslash

/-- A value that was written with escapes is read up to what ends it. -/
theorem value?_escape (value : List Char) (rest : List Char) :
    value? 0 (value.flatMap escapeChar ++ ')' :: rest) =
      some (value.flatMap String.utf8EncodeChar, ')' :: rest) := by
  induction value with
  | nil => rfl
  | cons c later inductionHypothesis =>
      rw [List.flatMap_cons, List.flatMap_cons, List.append_assoc, value?_escapeChar,
        inductionHypothesis]
      rfl

theorem filter?_item (apart : ∀ sign ∈ ['&', '|', '!'], ∀ t, s ≠ sign :: t) (fuel : Nat) :
    filter? (fuel + 1) ('(' :: s) =
      match item? s with
      | some (filter, ')' :: rest) => some (filter, rest)
      | _ => none := by
  rw [filter?]
  · rfl
  · exact apart '&' (by decide)
  · exact apart '|' (by decide)
  · exact apart '!' (by decide)

/-- A test for a value is read back. -/
theorem filter?_equality (isName : IsAttribute name) (value : String) (fuel : Nat)
    (rest : List Char) :
    filter? (fuel + 1) ('(' :: (equalityText name value ++ ')' :: rest)) =
      some (.equality name (octets value), rest) := by
  have item : item? (equalityText name value ++ ')' :: rest) =
      some (.equality name (octets value), ')' :: rest) := by
    unfold item? equalityText
    rw [List.append_assoc, List.cons_append, attribute?_of_isAttribute isName]
    simp only [values?, escape, value?_escape, Option.bind_eq_bind, Option.bind_some]
    rfl
  obtain ⟨c, s, text, word⟩ := exists_cons_of_isAttribute isName
  have apart : ∀ sign ∈ ['&', '|', '!'], ∀ t,
      equalityText name value ++ ')' :: rest ≠ sign :: t := by
    intro sign here t same
    have plain : ∀ sign ∈ ['&', '|', '!'], (!sign.isAlphanum) = true := List.all_eq_true.mp rfl
    have noWord := plain sign here
    rw [equalityText, text] at same
    rw [← (List.cons.inj same).1, word] at noWord
    cases noWord
  rw [filter?_item apart, item]
  rfl

end Reader

theorem read?_anyEntry : read? anyEntry = some (.present "objectClass") := rfl

/-- The filter for a group is read as its test for the class and whatever its other test is read
as. -/
theorem read?_ofGroup_of_filter? {name value : String} {test? : Option Filter}
    (second : ∀ fuel, Reader.filter? (fuel + 1) ('(' :: (equalityText name value ++ [')', ')'])) =
      test?.map fun test => (test, [')'])) (objectClass : String) :
    read? (ofGroup objectClass name value) =
      test?.map fun test =>
        .conjunction [.equality "objectClass" (octets objectClass), test] := by
  have text := toList_ofGroup objectClass name value
  obtain ⟨fuel, enough⟩ : ∃ fuel, (ofGroup objectClass name value).toList.length + 1 = fuel + 4 :=
    ⟨(ofGroup objectClass name value).toList.length - 3, by
      have long := congrArg List.length text
      simp only [List.length_cons] at long
      omega⟩
  have first := Reader.filter?_equality (show IsAttribute "objectClass" by decide) objectClass (fuel + 1)
    ('(' :: (equalityText name value ++ [')', ')']))
  have parts : Reader.filters? (fuel + 3) ('(' :: (equalityText "objectClass" objectClass ++ ')' ::
      '(' :: (equalityText name value ++ [')', ')']))) =
      test?.map fun test => ([.equality "objectClass" (octets objectClass), test], [')']) := by
    rw [Reader.filters?, first]
    simp only [Option.bind_eq_bind, Option.bind_some, Reader.filters?, second]
    cases test? <;> rfl
  unfold read?
  rw [enough, text, Reader.filter?, parts]
  cases test? <;> rfl

theorem read?_ofGroup {name : String} (isName : IsAttribute name) (objectClass value : String) :
    read? (ofGroup objectClass name value) =
      some (.conjunction
        [.equality "objectClass" (octets objectClass), .equality name (octets value)]) := by
  let test? : Option Filter := some (.equality name (octets value))
  have second (fuel : Nat) :
      Reader.filter? (fuel + 1) ('(' :: (equalityText name value ++ [')', ')'])) =
        test?.map fun test => (test, [')']) :=
    Reader.filter?_equality isName value fuel [')']
  exact read?_ofGroup_of_filter? second objectClass

end Listmaster.Ldap.Filter
