import Mathlib.Data.List.Basic
import Listmaster.Proofs.Ldap.Filter

/-!
The grammar of filters.

`Filter.Writes` is the grammar of RFC 4515: it relates a text to the filters that it writes.
The text of the filter for a group writes the conjunction of the two tests it was written for,
and nothing else, if the name in it is the description of an attribute; if it is none, the text
writes no filter: `Filter.writes_ofGroup_iff`.
-/

namespace Listmaster.Ldap.Filter

/-- The characters that stand for themselves in a value. -/
def IsNormal (c : Char) : Prop := c ≠ '(' ∧ c ≠ ')' ∧ c ≠ '*' ∧ c ≠ '\\' ∧ c.toNat ≠ 0

/-- The text writes a value with these octets. -/
inductive Value : List Char → Octets → Prop
  | nil : Value [] []
  | normal {c s octets} :
      IsNormal c → Value s octets → Value (c :: s) (String.utf8EncodeChar c ++ octets)
  | escaped {first second s octet octets} :
      Text.natOfDigits? 16 [first, second] = some octet → Value s octets →
      Value ('\\' :: first :: second :: s) (octet.toUInt8 :: octets)

/-- The text is a row of parts, each of them behind the mark. -/
inductive Row (mark : Char) (isPart : List Char → Prop) : List Char → Prop
  | nil : Row mark isPart []
  | cons {part s} : isPart part → Row mark isPart s → Row mark isPart (mark :: part ++ s)

/-- The text is a word that begins with a letter. -/
def IsWord (s : List Char) : Prop :=
  ∃ first rest, s = first :: rest ∧ first.isAlpha = true ∧
    ∀ c ∈ rest, Reader.isNameChar c = true

/-- The text is a number without superfluous zeros. -/
def IsNumber (s : List Char) : Prop :=
  s ≠ [] ∧ (∀ c ∈ s, c.isDigit = true) ∧ (s.head? = some '0' → s.length = 1)

def IsOption (s : List Char) : Prop := s ≠ [] ∧ ∀ c ∈ s, Reader.isNameChar c = true

/-- The text is the name of a type or of a rule: a word, or numbers between dots. -/
def IsName (s : List Char) : Prop :=
  IsWord s ∨ ∃ number more, s = number ++ more ∧ IsNumber number ∧ Row '.' IsNumber more ∧ more ≠ []

/-- The text describes an attribute: by the name of its type, and with options. -/
def IsDescription (s : List Char) : Prop :=
  ∃ name options, s = name ++ options ∧ IsName name ∧ Row ';' IsOption options

/-- The text writes the inner parts of a pattern, each of them in front of an asterisk. -/
inductive Inner : List Char → List Octets → Prop
  | nil : Inner [] []
  | cons {s octets t parts} :
      Value s octets → Inner t parts → Inner (s ++ '*' :: t) (octets :: parts)

/-- The text writes a test. -/
inductive Item : List Char → Filter → Prop
  | equality {name value octets} :
      IsDescription name → Value value octets →
      Item (name ++ '=' :: value) (.equality (String.ofList name) octets)
  | greaterOrEqual {name value octets} :
      IsDescription name → Value value octets →
      Item (name ++ '>' :: '=' :: value) (.greaterOrEqual (String.ofList name) octets)
  | lessOrEqual {name value octets} :
      IsDescription name → Value value octets →
      Item (name ++ '<' :: '=' :: value) (.lessOrEqual (String.ofList name) octets)
  | approximately {name value octets} :
      IsDescription name → Value value octets →
      Item (name ++ '~' :: '=' :: value) (.approximately (String.ofList name) octets)
  | present {name} :
      IsDescription name → Item (name ++ ['=', '*']) (.present (String.ofList name))
  | substrings {name first initial middle inner last final} :
      IsDescription name → Value first initial → Inner middle inner → Value last final →
      ¬ (initial = [] ∧ inner = [] ∧ final = []) →
      Item (name ++ '=' :: (first ++ '*' :: (middle ++ last)))
        (.substrings (String.ofList name) initial inner final)
  | extensible {name inDn rule value octets} :
      (∀ s, name = some s → IsDescription s) → (∀ s, rule = some s → IsName s) →
      (name = none → rule ≠ none) → Value value octets →
      Item (name.getD [] ++ (if inDn then [':', 'd', 'n'] else []) ++ rule.elim [] (':' :: ·) ++
          ':' :: '=' :: value)
        (.extensible (name.map String.ofList) inDn (rule.map String.ofList) octets)

mutual

/-- The text writes the filter. -/
inductive Writes : List Char → Filter → Prop
  | conjunction {s parts} :
      WritesAll s parts → Writes ('(' :: '&' :: s ++ [')']) (.conjunction parts)
  | disjunction {s parts} :
      WritesAll s parts → Writes ('(' :: '|' :: s ++ [')']) (.disjunction parts)
  | negation {s part} : Writes s part → Writes ('(' :: '!' :: s ++ [')']) (.negation part)
  | item {s filter} : Item s filter → Writes ('(' :: s ++ [')']) filter

/-- The text writes the filters, one after another. -/
inductive WritesAll : List Char → List Filter → Prop
  | one {s part} : Writes s part → WritesAll s [part]
  | more {s t part parts} :
      Writes s part → WritesAll t parts → WritesAll (s ++ t) (part :: parts)

end

/-- The characters that a description of an attribute is made of. -/
def isDescriptive (c : Char) : Bool := Reader.isNameChar c || c = '.' || c = ';'

section Descriptions

variable {s : List Char} {c mark : Char} {isPart : List Char → Prop}

theorem isDescriptive_of_isNameChar (here : Reader.isNameChar c = true) :
    isDescriptive c = true := by
  simp [isDescriptive, here]

theorem Row.descriptive (row : Row mark isPart s) (marked : isDescriptive mark = true)
    (inside : ∀ part, isPart part → ∀ c ∈ part, isDescriptive c = true) :
    ∀ c ∈ s, isDescriptive c = true := by
  induction row with
  | nil => simp
  | cons part _ inductionHypothesis =>
      intro c here
      rcases List.mem_cons.mp here with rfl | here
      · exact marked
      · rcases List.mem_append.mp here with here | here
        · exact inside _ part c here
        · exact inductionHypothesis c here

theorem IsNumber.descriptive (number : IsNumber s) : ∀ c ∈ s, isDescriptive c = true := by
  intro c here
  have digit := number.2.1 c here
  exact isDescriptive_of_isNameChar (by simp [Reader.isNameChar, Char.isAlphanum, digit])

theorem IsName.descriptive (name : IsName s) : ∀ c ∈ s, isDescriptive c = true := by
  rcases name with ⟨first, rest, rfl, letter, inside⟩ | ⟨number, more, rfl, isNumber, row, _⟩
  · rw [List.forall_mem_cons]
    refine ⟨?_, fun c here => isDescriptive_of_isNameChar (inside c here)⟩
    exact isDescriptive_of_isNameChar (by simp [Reader.isNameChar, Char.isAlphanum, letter])
  · rw [List.forall_mem_append]
    exact ⟨isNumber.descriptive, row.descriptive rfl fun _ part => part.descriptive⟩

theorem IsDescription.descriptive (description : IsDescription s) :
    ∀ c ∈ s, isDescriptive c = true := by
  obtain ⟨name, options, rfl, isName, row⟩ := description
  rw [List.forall_mem_append]
  refine ⟨isName.descriptive, row.descriptive rfl fun _ part c here => ?_⟩
  exact isDescriptive_of_isNameChar (part.2 c here)

theorem not_mem_of_isDescriptive (inside : ∀ c ∈ s, isDescriptive c = true)
    (other : isDescriptive c = false) : c ∉ s := by
  intro here
  rw [inside c here] at other
  cases other

end Descriptions

section Values

variable {s : List Char} {octets others : Octets}

theorem isNormal_iff {c : Char} : IsNormal c ↔ isSpecial c = false := by
  simp only [IsNormal, isSpecial, Bool.or_eq_false_iff, decide_eq_false_iff_not]
  tauto

theorem Value.unique (value : Value s octets) (other : Value s others) : octets = others := by
  induction value generalizing others with
  | nil =>
      cases other
      rfl
  | normal plain _ inductionHypothesis =>
      cases other with
      | normal _ later => rw [inductionHypothesis later]
      | escaped _ _ => exact absurd rfl plain.2.2.2.1
  | escaped read _ inductionHypothesis =>
      cases other with
      | normal plain _ => exact absurd rfl plain.2.2.2.1
      | escaped readToo later =>
          rw [read] at readToo
          cases readToo
          rw [inductionHypothesis later]

theorem Value.not_mem {c : Char} (value : Value s octets) (mark : c = '(' ∨ c = ')' ∨ c = '*') :
    c ∉ s := by
  induction value with
  | nil => exact List.not_mem_nil
  | normal plain _ inductionHypothesis =>
      rw [List.mem_cons, not_or]
      refine ⟨?_, inductionHypothesis⟩
      rintro rfl
      rcases mark with rfl | rfl | rfl
      · exact plain.1 rfl
      · exact plain.2.1 rfl
      · exact plain.2.2.1 rfl
  | @escaped first second _ _ _ read _ inductionHypothesis =>
      have noDigit : Text.digit? c = none := by
        rcases mark with rfl | rfl | rfl <;> decide
      have apart : c ≠ '\\' := by
        rcases mark with rfl | rfl | rfl <;> decide
      simp only [List.mem_cons, not_or]
      refine ⟨apart, ?_, ?_, inductionHypothesis⟩
      · rintro rfl
        simp [Text.natOfDigits?, noDigit] at read
      · rintro rfl
        simp [Text.natOfDigits?, noDigit] at read

/-- What is written with escapes writes the value. -/
theorem value_escape (value : String) : Value (escape value) (Filter.octets value) := by
  unfold escape Filter.octets
  induction value.toList with
  | nil => exact .nil
  | cons c rest inductionHypothesis =>
      rw [List.flatMap_cons, List.flatMap_cons]
      by_cases special : isSpecial c = true
      · obtain ⟨first, second, written, _, _, number, encoded⟩ :=
          Reader.escapeChar_of_special special
        obtain ⟨octet, read, same⟩ := Option.map_eq_some_iff.mp number
        rw [written, encoded, ← same]
        exact .escaped read inductionHypothesis
      · have plain : escapeChar c = [c] := if_neg special
        rw [plain]
        exact .normal (isNormal_iff.mpr (Bool.eq_false_iff.mpr special)) inductionHypothesis

end Values

section Items

variable {s t u v name value : List Char} {c : Char} {filter : Filter}

/-- A text is taken apart in one way at the first of some character. -/
theorem append_cons_inj (first : c ∉ s) (second : c ∉ t) (same : s ++ c :: u = t ++ c :: v) :
    s = t ∧ u = v := by
  induction s generalizing t with
  | nil =>
      cases t with
      | nil => exact ⟨rfl, (List.cons.inj same).2⟩
      | cons d t => exact absurd (List.cons.inj same).1 fun here => second (here ▸ List.mem_cons_self)
  | cons d s inductionHypothesis =>
      cases t with
      | nil => exact absurd (List.cons.inj same).1.symm fun here => first (here ▸ List.mem_cons_self)
      | cons e t =>
          obtain ⟨rfl, rest⟩ := List.cons.inj same
          obtain ⟨rfl, later⟩ := inductionHypothesis (List.not_mem_of_not_mem_cons first)
            (List.not_mem_of_not_mem_cons second) rest
          exact ⟨rfl, later⟩

theorem Inner.not_mem {parts : List Octets} (inner : Inner s parts) (paren : c = '(' ∨ c = ')') :
    c ∉ s := by
  induction inner with
  | nil => exact List.not_mem_nil
  | cons value _ inductionHypothesis =>
      have apart : c ≠ '*' := by rcases paren with rfl | rfl <;> decide
      have before := value.not_mem (paren.imp_right Or.inl)
      simp [before, apart, inductionHypothesis]

theorem IsDescription.not_mem (description : IsDescription s) (other : isDescriptive c = false) :
    c ∉ s :=
  not_mem_of_isDescriptive description.descriptive other

theorem not_mem_extensible {name rule : Option (List Char)} (inDn : Bool)
    (description : ∀ s, name = some s → IsDescription s) (isName : ∀ s, rule = some s → IsName s)
    (other : isDescriptive c = false) (apart : c ≠ ':') :
    c ∉ name.getD [] ++ (if inDn then [':', 'd', 'n'] else []) ++ rule.elim [] (':' :: ·) := by
  have first : c ∉ name.getD [] := by
    cases name with
    | none => exact List.not_mem_nil
    | some s => exact (description s rfl).not_mem other
  have second : c ∉ rule.elim [] (':' :: ·) := by
    cases rule with
    | none => exact List.not_mem_nil
    | some s => simp [apart, not_mem_of_isDescriptive (isName s rfl).descriptive other]
  have letters : c ≠ 'd' ∧ c ≠ 'n' := by
    constructor
    all_goals
      rintro rfl
      cases other
  cases inDn <;> simp [first, second, apart, letters]

theorem Item.not_mem (item : Item s filter) (paren : c = '(' ∨ c = ')') : c ∉ s := by
  have other : isDescriptive c = false := by rcases paren with rfl | rfl <;> decide
  have signs : c ≠ '=' ∧ c ≠ '>' ∧ c ≠ '<' ∧ c ≠ '~' ∧ c ≠ '*' ∧ c ≠ ':' := by
    rcases paren with rfl | rfl <;> decide
  have valued {s : List Char} {octets : Octets} (value : Value s octets) : c ∉ s :=
    value.not_mem (paren.imp_right Or.inl)
  cases item with
  | equality description value => simp [description.not_mem other, valued value, signs]
  | greaterOrEqual description value => simp [description.not_mem other, valued value, signs]
  | lessOrEqual description value => simp [description.not_mem other, valued value, signs]
  | approximately description value => simp [description.not_mem other, valued value, signs]
  | present description => simp [description.not_mem other, signs]
  | substrings description first inner last _ =>
      simp [description.not_mem other, valued first, valued last, inner.not_mem paren, signs]
  | @extensible _ inDn _ _ _ description isName _ value =>
      have head := not_mem_extensible inDn description isName other signs.2.2.2.2.2
      rw [List.mem_append, not_or]
      exact ⟨head, by simp [valued value, signs]⟩

/-- What stands in a test before its first equals sign describes an attribute, or has a sign in
it that is in no description. -/
theorem Item.head (item : Item s filter) :
    ∃ head tail, s = head ++ '=' :: tail ∧ '=' ∉ head ∧
      ((∃ sign ∈ head, isDescriptive sign = false) ∨
        (IsDescription head ∧ ('*' ∈ tail ∨
          ∃ octets, Value tail octets ∧ filter = .equality (String.ofList head) octets))) := by
  have equals : isDescriptive '=' = false := by decide
  have compared {name value : List Char} (sign : Char) (description : IsDescription name)
      (other : isDescriptive sign = false) (apart : '=' ≠ sign) :
      ∃ head tail, name ++ sign :: '=' :: value = head ++ '=' :: tail ∧ '=' ∉ head ∧
        ∃ sign ∈ head, isDescriptive sign = false :=
    ⟨name ++ [sign], value, by simp, by simp [description.not_mem equals, apart], sign, by simp, other⟩
  cases item with
  | equality description value =>
      exact ⟨_, _, rfl, description.not_mem equals, .inr ⟨description, .inr ⟨_, value, rfl⟩⟩⟩
  | greaterOrEqual description _ =>
      obtain ⟨head, tail, text, apart, sign⟩ := compared '>' description (by decide) (by decide)
      exact ⟨head, tail, text, apart, .inl sign⟩
  | lessOrEqual description _ =>
      obtain ⟨head, tail, text, apart, sign⟩ := compared '<' description (by decide) (by decide)
      exact ⟨head, tail, text, apart, .inl sign⟩
  | approximately description _ =>
      obtain ⟨head, tail, text, apart, sign⟩ := compared '~' description (by decide) (by decide)
      exact ⟨head, tail, text, apart, .inl sign⟩
  | present description =>
      exact ⟨_, _, rfl, description.not_mem equals, .inr ⟨description, .inl (by simp)⟩⟩
  | substrings description _ _ _ _ =>
      exact ⟨_, _, rfl, description.not_mem equals, .inr ⟨description, .inl (by simp)⟩⟩
  | @extensible _ inDn _ value _ description isName _ _ =>
      have head := not_mem_extensible inDn description isName equals (by decide)
      refine ⟨_ ++ [':'], value, List.append_cons _ _ _, ?_, .inl ⟨':', by simp, by decide⟩⟩
      rw [List.mem_append, not_or]
      exact ⟨head, by decide⟩

/-- A test that begins with a possible name and an equals sign is a test for a value, unless an
asterisk follows. -/
theorem Item.isEquality (item : Item (name ++ '=' :: value) filter)
    (inside : ∀ c ∈ name, isDescriptive c = true) (plain : '*' ∉ value) :
    IsDescription name ∧
      ∃ octets, Value value octets ∧ filter = .equality (String.ofList name) octets := by
  obtain ⟨head, tail, text, apart, known⟩ := item.head
  obtain ⟨rfl, rfl⟩ :=
    append_cons_inj (not_mem_of_isDescriptive inside (by decide)) apart text
  rcases known with ⟨sign, here, other⟩ | ⟨description, asterisk | test⟩
  · exact absurd here (not_mem_of_isDescriptive inside other)
  · exact absurd asterisk plain
  · exact ⟨description, test⟩

end Items

section Tests

variable {s t rest test : List Char} {filter : Filter} {parts : List Filter}
  {objectClass name value : String}

theorem WritesAll.ne_nil (writes : WritesAll s parts) : s ≠ [] := by
  cases writes with
  | one first => cases first <;> simp
  | more first _ => cases first <;> simp

/-- The text of a test is read as that test: it is over at the first parenthesis. -/
theorem Writes.item_of_append (writes : Writes s filter)
    (text : s ++ t = '(' :: (test ++ ')' :: rest)) (closed : ')' ∉ test)
    (plain : ∀ sign ∈ ['&', '|', '!'], ∀ later, test ++ ')' :: rest ≠ sign :: later) :
    Item test filter ∧ t = rest := by
  cases writes with
  | conjunction _ => exact absurd (List.cons.inj text).2.symm (plain '&' (by decide) _)
  | disjunction _ => exact absurd (List.cons.inj text).2.symm (plain '|' (by decide) _)
  | negation _ => exact absurd (List.cons.inj text).2.symm (plain '!' (by decide) _)
  | @item written _ isItem =>
      have same : written ++ ')' :: t = test ++ ')' :: rest :=
        (List.append_cons written ')' t).trans (List.cons.inj text).2
      obtain ⟨rfl, rfl⟩ := append_cons_inj (isItem.not_mem (.inr rfl)) closed same
      exact ⟨isItem, rfl⟩

theorem isDescription_objectClass : IsDescription "objectClass".toList :=
  ⟨_, [], (List.append_nil _).symm, .inl ⟨'o', _, rfl, rfl, List.all_eq_true.mp rfl⟩, .nil⟩

variable (inside : ∀ c ∈ name.toList, isDescriptive c = true)
include inside

theorem not_mem_equalityText : ')' ∉ equalityText name value := by
  have first : ')' ∉ name.toList := not_mem_of_isDescriptive inside (by decide)
  have second : ')' ∉ escape value := (value_escape value).not_mem (.inr (.inl rfl))
  simp [equalityText, first, second]

theorem equalityText_ne (t : List Char) :
    ∀ sign ∈ ['&', '|', '!'], ∀ later, equalityText name value ++ t ≠ sign :: later := by
  intro sign here later same
  have others : ∀ sign ∈ ['&', '|', '!'], (!isDescriptive sign && sign ≠ '=') = true :=
    List.all_eq_true.mp rfl
  have other := others sign here
  rw [Bool.and_eq_true, Bool.not_eq_true', decide_eq_true_eq] at other
  cases text : name.toList with
  | nil =>
      rw [equalityText, text] at same
      exact other.2 (List.cons.inj same).1.symm
  | cons first rest =>
      have descriptive := inside first (text ▸ List.mem_cons_self)
      rw [equalityText, text] at same
      rw [(List.cons.inj same).1, other.1] at descriptive
      cases descriptive

theorem item_equalityText_iff :
    Item (equalityText name value) filter ↔
      IsDescription name.toList ∧ filter = .equality name (octets value) := by
  constructor
  · intro item
    have noAsterisk := (value_escape value).not_mem (.inr (.inr rfl))
    obtain ⟨description, written, isValue, rfl⟩ := item.isEquality inside noAsterisk
    rw [String.ofList_toList, isValue.unique (value_escape value)]
    exact ⟨description, rfl⟩
  · rintro ⟨description, rfl⟩
    have item := Item.equality description (value_escape value)
    rwa [String.ofList_toList] at item

omit inside in
theorem writes_equalityText (description : IsDescription name.toList) (value : String) :
    Writes ('(' :: equalityText name value ++ [')']) (.equality name (octets value)) :=
  .item ((item_equalityText_iff description.descriptive).mpr ⟨description, rfl⟩)

theorem writesAll_equalityText (writes : WritesAll ('(' :: (equalityText name value ++ [')'])) parts) :
    IsDescription name.toList ∧ parts = [.equality name (octets value)] := by
  generalize text : '(' :: (equalityText name value ++ [')']) = s at writes
  cases writes with
  | one only =>
      obtain ⟨item, _⟩ := only.item_of_append ((List.append_nil _).trans text.symm)
        (not_mem_equalityText inside) (equalityText_ne inside _)
      obtain ⟨description, rfl⟩ := (item_equalityText_iff inside).mp item
      exact ⟨description, rfl⟩
  | more first later =>
      obtain ⟨_, rfl⟩ := first.item_of_append text.symm (not_mem_equalityText inside)
        (equalityText_ne inside _)
      exact absurd rfl later.ne_nil

/-- The text of the filter for a group writes the conjunction of its two tests, and nothing else,
if the name in it describes an attribute; otherwise it writes no filter. -/
theorem writes_ofGroup_iff :
    Writes (ofGroup objectClass name value).toList filter ↔
      IsDescription name.toList ∧
        filter = .conjunction
          [.equality "objectClass" (octets objectClass), .equality name (octets value)] := by
  have insideClass := isDescription_objectClass.descriptive
  have text : (ofGroup objectClass name value).toList =
      '(' :: '&' :: ('(' :: (equalityText "objectClass" objectClass ++ ')' ::
        '(' :: (equalityText name value ++ [')']))) ++ [')'] := by
    rw [toList_ofGroup]
    simp only [List.cons_append, List.append_assoc, List.nil_append]
  constructor
  · generalize (ofGroup objectClass name value).toList = s at text
    replace text := text.symm
    intro writes
    cases writes with
    | @conjunction tests parts all =>
        obtain rfl := List.append_cancel_right (List.cons.inj (List.cons.inj text).2).2
        generalize tests : '(' :: (equalityText "objectClass" objectClass ++ ')' ::
          '(' :: (equalityText name value ++ [')'])) = s at all
        cases all with
        | one only =>
            obtain ⟨_, nothing⟩ := only.item_of_append ((List.append_nil _).trans tests.symm)
              (not_mem_equalityText insideClass) (equalityText_ne insideClass _)
            cases nothing
        | more first later =>
            obtain ⟨item, rfl⟩ := first.item_of_append tests.symm
              (not_mem_equalityText insideClass) (equalityText_ne insideClass _)
            obtain ⟨_, rfl⟩ := (item_equalityText_iff insideClass).mp item
            obtain ⟨description, rfl⟩ := writesAll_equalityText inside later
            exact ⟨description, rfl⟩
    | disjunction _ => cases (List.cons.inj (List.cons.inj text).2).1
    | negation _ => cases (List.cons.inj (List.cons.inj text).2).1
    | @item test _ isItem =>
        have paren : '(' ∈ test := by
          rw [← List.append_cancel_right (List.cons.inj text).2]
          simp
        exact absurd paren (isItem.not_mem (.inl rfl))
  · rintro ⟨description, rfl⟩
    have both := Writes.conjunction (.more (writes_equalityText isDescription_objectClass objectClass)
      (.one (writes_equalityText description value)))
    rw [text]
    simpa only [List.cons_append, List.append_assoc, List.nil_append] using both

end Tests

end Listmaster.Ldap.Filter
