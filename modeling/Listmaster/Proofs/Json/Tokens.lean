import Listmaster.Json.Printer
import Listmaster.Proofs.Json.Fits
import Mathlib.Data.List.Basic

/-!
Texts and integers that are printed are read back.

The characters of a text are read back as they were, escaped or not (`characters_flatMap`), and
an integer of 64 bits is read as itself where its digits end (`number?_integer`).
-/

namespace Listmaster.Json.Reader

open Printer (character)

/-- A text goes on as it does after a value: with a comma, a new line or not at all. -/
def Ends (rest : List Char) : Prop := ∀ c ∈ rest.head?, c = ',' ∨ c = '\n'

theorem codeUnit?_control : ∀ n < 0x20,
    codeUnit? '0' '0' (Nat.digitChar (n / 16)) (Nat.digitChar (n % 16)) = some n := by
  decide

/-- The ways in which a character is printed: escaped by a letter, by its number, or as it is. -/
inductive Shows (c : Char) : List Char → Prop
  | escaped {e} : escaped? e = some c → Shows c ['\\', e]
  | numbered : c.toNat < 0x20 →
      Shows c ['\\', 'u', '0', '0', Nat.digitChar (c.toNat / 16), Nat.digitChar (c.toNat % 16)]
  | plain : c ≠ '"' → c ≠ '\\' → ¬ c.toNat < 0x20 → Shows c [c]

theorem shows_character (c : Char) : Shows c (character c) := by
  unfold character
  split_ifs with quote backslash newLine back tab backspace formFeed control
  · exact .escaped (by rw [quote]; rfl)
  · exact .escaped (by rw [backslash]; rfl)
  · exact .escaped (by rw [newLine]; rfl)
  · exact .escaped (by rw [back]; rfl)
  · exact .escaped (by rw [tab]; rfl)
  · exact .escaped (congrArg some (Char.toNat_inj.mp backspace.symm))
  · exact .escaped (congrArg some (Char.toNat_inj.mp formFeed.symm))
  · exact .numbered control
  · exact .plain quote backslash control

variable {rest after chars : List Char}

/-- A character is read back, escaped or not. -/
theorem characters_character (c : Char) (read : characters 0 rest = some (some chars, after)) :
    characters 0 (character c ++ rest) = some (some (c :: chars), after) := by
  have shown := shows_character c
  generalize character c = printed at shown ⊢
  cases shown with
  | @escaped e escaped =>
      rw [List.cons_append, List.singleton_append, characters]
      · rw [escaped]
        change (characters 0 rest).bind _ = _
        rw [read]
        rfl
      · rintro a b c d after ⟨⟩
        cases escaped
  | numbered control =>
      have unit := codeUnit?_control c.toNat control
      have notHigh : isHighSurrogate c.toNat = false := by simp [isHighSurrogate]; omega
      have notLow : isLowSurrogate c.toNat = false := by simp [isLowSurrogate]; omega
      simp only [List.cons_append, List.nil_append]
      rw [characters, unit]
      simp only [Option.bind_eq_bind, Option.bind_some, notHigh, notLow, Bool.false_eq_true, if_false]
      change (characters 0 rest).bind _ = _
      rw [read]
      simp
  | plain quote backslash visible =>
      rw [List.singleton_append, characters]
      · rw [if_neg visible, read]
        rfl
      · exact quote
      · exact backslash

theorem characters_flatMap (s rest : List Char) :
    characters 0 (s.flatMap character ++ '"' :: rest) = some (some s, rest) := by
  induction s with
  | nil => rfl
  | cons c s inductionHypothesis =>
      rw [List.flatMap_cons, List.append_assoc]
      exact characters_character c inductionHypothesis

section Numbers

theorem head?_toDigits {n : Nat} (positive : 0 < n) : (Nat.toDigits 10 n).head? ≠ some '0' := by
  induction n using Nat.strongRecOn with
  | _ n inductionHypothesis =>
      by_cases small : n < 10
      · have digit : ∀ n < 10, 0 < n → Nat.digitChar n ≠ '0' := by decide
        rw [Nat.toDigits_of_lt_base small]
        exact fun same => digit n small positive (Option.some.inj same)
      · rw [Nat.toDigits_of_base_le (by decide) (Nat.not_lt.mp small),
          List.head?_append_of_ne_nil _ Nat.toDigits_ne_nil]
        exact inductionHypothesis (n / 10) (by omega) (by omega)

theorem Ends.cases (ends : Ends rest) :
    rest = [] ∨ (∃ later, rest = ',' :: later) ∨ ∃ later, rest = '\n' :: later := by
  cases rest with
  | nil => exact .inl rfl
  | cons c later =>
      rcases ends c rfl with rfl | rfl
      · exact .inr (.inl ⟨later, rfl⟩)
      · exact .inr (.inr ⟨later, rfl⟩)

theorem spanDigits?_toDigits (n : Nat) (ends : Ends rest) :
    Text.spanDigits? (Nat.toDigits 10 n ++ rest) = some (Nat.toDigits 10 n, rest) := by
  have digits : ∀ c ∈ Nat.toDigits 10 n, c.isDigit = true :=
    fun c here => Nat.isDigit_of_mem_toDigits (by decide) (by decide) here
  have none : rest.takeWhile Char.isDigit = [] ∧ rest.dropWhile Char.isDigit = rest := by
    rcases ends.cases with rfl | ⟨later, rfl⟩ | ⟨later, rfl⟩ <;> exact ⟨rfl, rfl⟩
  unfold Text.spanDigits?
  rw [List.takeWhile_append_of_pos digits, List.dropWhile_append_of_pos digits, none.1, none.2,
    List.append_nil]
  exact if_neg (by simp [Nat.toDigits_ne_nil])

theorem fraction?_of_ends (ends : Ends rest) : fraction? rest = some ([], rest) := by
  rcases ends.cases with rfl | ⟨later, rfl⟩ | ⟨later, rfl⟩ <;> rfl

theorem exponent?_of_ends (ends : Ends rest) : exponent? rest = some (none, rest) := by
  rcases ends.cases with rfl | ⟨later, rfl⟩ | ⟨later, rfl⟩ <;> rfl

theorem not_leadingZero (n : Nat) :
    ¬ ((Nat.toDigits 10 n).head? = some '0' ∧ (Nat.toDigits 10 n).length ≠ 1) := by
  rintro ⟨zero, long⟩
  rcases Nat.eq_zero_or_pos n with rfl | positive
  · exact long rfl
  · exact head?_toDigits positive zero

theorem exists_cons_toDigits (n : Nat) :
    ∃ first later, Nat.toDigits 10 n = first :: later ∧ first.isDigit = true := by
  obtain ⟨first, later, same⟩ := List.exists_cons_of_ne_nil (@Nat.toDigits_ne_nil n 10)
  have here : first ∈ Nat.toDigits 10 n := same ▸ List.mem_cons_self
  exact ⟨first, later, same, Nat.isDigit_of_mem_toDigits (by decide) (by decide) here⟩

theorem number?_toDigits (n : Nat) (ends : Ends rest) :
    number? (Nat.toDigits 10 n ++ rest) =
      some (Numeral.toJson ⟨false, Nat.toDigits 10 n, [], none⟩, rest) := by
  unfold number?
  split
  rename_i isNegative s sign
  split at sign
  · rename_i later same
    obtain ⟨first, _, digits, isDigit⟩ := exists_cons_toDigits n
    rw [digits] at same
    cases same
    cases isDigit
  · cases sign
    simp only [spanDigits?_toDigits n ends, if_neg (not_leadingZero n), fraction?_of_ends ends,
      exponent?_of_ends ends, Option.bind_eq_bind, Option.bind_some]
    rfl

theorem number?_minus_toDigits (n : Nat) (ends : Ends rest) :
    number? ('-' :: (Nat.toDigits 10 n ++ rest)) =
      some (Numeral.toJson ⟨true, Nat.toDigits 10 n, [], none⟩, rest) := by
  unfold number?
  simp only [spanDigits?_toDigits n ends, if_neg (not_leadingZero n), fraction?_of_ends ends,
    exponent?_of_ends ends, Option.bind_eq_bind, Option.bind_some]
  rfl

theorem natOfDigits_toDigits (n : Nat) : Text.natOfDigits (Nat.toDigits 10 n) = n :=
  Nat.ofDigitChars_ten_toDigits

theorem toList_toString_natCast (n : Nat) :
    (toString (Int.ofNat n)).toList = Nat.toDigits 10 n := by
  change (Nat.repr n).toList = _
  rw [Nat.repr_eq_ofList_toDigits, String.toList_ofList]

theorem toList_toString_negSucc (n : Nat) :
    (toString (Int.negSucc n)).toList = '-' :: Nat.toDigits 10 (n + 1) := by
  change ("-" ++ Nat.repr (n + 1)).toList = _
  rw [Nat.repr_eq_ofList_toDigits, String.toList_append, String.toList_ofList,
    String.toList_ofList]
  rfl

theorem number?_integer {n : Int} (fits : IsInteger64 n) (ends : Ends rest) :
    number? ((toString n).toList ++ rest) = some (.integer n, rest) := by
  cases n with
  | ofNat n =>
      have word : Text.isWord n = true := decide_eq_true (Int.ofNat_lt.mp fits.2)
      rw [toList_toString_natCast, number?_toDigits n ends]
      simp [Numeral.toJson, Numeral.integer?, natOfDigits_toDigits, word]
  | negSucc n =>
      have small : n + 1 ≤ Nat.pow 2 63 := Int.ofNat_le.mp (Int.neg_le_neg_iff.mp fits.1)
      rw [toList_toString_negSucc, List.cons_append, number?_minus_toDigits (n + 1) ends]
      simp [Numeral.toJson, Numeral.integer?, natOfDigits_toDigits, small, Int.negSucc_eq]

theorem exists_cons_integer (n : Int) :
    ∃ c later, (toString n).toList = c :: later ∧ (c = '-' ∨ c.isDigit = true) := by
  cases n with
  | ofNat n =>
      obtain ⟨first, later, same, isDigit⟩ := exists_cons_toDigits n
      exact ⟨first, later, (toList_toString_natCast n).trans same, .inr isDigit⟩
  | negSucc n => exact ⟨'-', _, toList_toString_negSucc n, .inl rfl⟩

end Numbers

end Listmaster.Json.Reader
