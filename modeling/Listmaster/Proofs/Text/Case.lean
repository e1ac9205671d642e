import Mathlib
import Listmaster.Host.Ip
import Listmaster.Host.Label
import Listmaster.Text.Case

/-!
Letters in lowercase.

The classes of characters that hosts are made of, and the characters that
separate their parts, do not depend on the case of the letters `A` to `Z`.
-/

namespace Listmaster.Text

theorem toNat_toLower (c : Char) :
    c.toLower.toNat = if c.isUpper then c.toNat + 32 else c.toNat := by
  by_cases upper : c.isUpper
  · rw [Char.toLower_eq_of_isUpper upper, if_pos upper]
    simp only [Char.isUpper, ge_iff_le, UInt32.le_iff_toNat_le, decide_eq_true_eq] at upper
    have bounds : 65 ≤ c.toNat ∧ c.toNat ≤ 90 := upper
    have valid : (c.toNat + 32).isValidChar := Or.inl (by omega)
    simp [Char.toNat_ofNat, valid]
  · rw [Char.toLower_eq_of_not_isUpper upper, if_neg upper]

theorem isUpper_iff (c : Char) : c.isUpper = true ↔ 65 ≤ c.toNat ∧ c.toNat ≤ 90 := by
  simp only [Char.isUpper, ge_iff_le, UInt32.le_iff_toNat_le, decide_eq_true_eq]
  rfl

theorem isDigit_iff (c : Char) : c.isDigit = true ↔ 48 ≤ c.toNat ∧ c.toNat ≤ 57 := by
  simp only [Char.isDigit, ge_iff_le, UInt32.le_iff_toNat_le, Bool.and_eq_true,
    decide_eq_true_eq]
  rfl

@[simp]
theorem map_toLower_map_toLower (s : List Char) :
    (s.map Char.toLower).map Char.toLower = s.map Char.toLower := by
  have again : Char.toLower ∘ Char.toLower = Char.toLower :=
    funext Char.toLower_toLower_eq_toLower
  rw [List.map_map, again]

theorem toLower_eq_iff {c d : Char} (plain : d.isAlpha = false) : c.toLower = d ↔ c = d := by
  by_cases upper : c.isUpper
  · constructor
    · intro same
      have letter : c.toLower.isAlpha = true := by
        simp [Char.isAlpha, upper]
      rw [same, plain] at letter
      contradiction
    · intro same
      subst same
      simp [Char.isAlpha, upper] at plain
  · rw [Char.toLower_eq_of_not_isUpper upper]

@[simp]
theorem isDigit_toLower (c : Char) : c.toLower.isDigit = c.isDigit := by
  rw [Bool.eq_iff_iff, isDigit_iff, isDigit_iff, toNat_toLower]
  split
  · rename_i upper
    have bounds := (isUpper_iff c).mp upper
    omega
  · rfl

theorem toLower_of_isDigit {c : Char} (digit : c.isDigit = true) : c.toLower = c := by
  apply Char.toLower_eq_of_not_isUpper
  intro upper
  have first := (isUpper_iff c).mp upper
  have second := (isDigit_iff c).mp digit
  omega

theorem isAlpha_of_isDigit {c : Char} (digit : c.isDigit = true) : c.isAlpha = false := by
  have bounds := (isDigit_iff c).mp digit
  have noUpper : c.isUpper = false := by
    rw [← Bool.not_eq_true, isUpper_iff]
    omega
  have noLower : c.isLower = false := by
    rw [← Bool.not_eq_true]
    simp only [Char.isLower, ge_iff_le, UInt32.le_iff_toNat_le, Bool.and_eq_true, decide_eq_true_eq]
    intro lower
    have above : 97 ≤ c.toNat := lower.1
    omega
  rw [Char.isAlpha, noUpper, noLower, Bool.or_false]

@[simp]
theorem isAlphanum_toLower (c : Char) : c.toLower.isAlphanum = c.isAlphanum := by
  simp [Char.isAlphanum]

end Listmaster.Text

namespace Listmaster.Host

open Text

@[simp]
theorem isAscii_toLower (c : Char) : isAscii c.toLower = isAscii c := by
  simp only [isAscii, decide_eq_decide, toNat_toLower]
  split
  · rename_i upper
    have bounds := (isUpper_iff c).mp upper
    omega
  · rfl

theorem isHexDigit_iff (c : Char) :
    isHexDigit c = true ↔
      (48 ≤ c.toNat ∧ c.toNat ≤ 57) ∨ (97 ≤ c.toNat ∧ c.toNat ≤ 102) ∨
        (65 ≤ c.toNat ∧ c.toNat ≤ 70) := by
  simp only [isHexDigit, Bool.or_eq_true, isDigit_iff, Bool.and_eq_true, decide_eq_true_eq,
    Char.le_def, UInt32.le_iff_toNat_le]
  exact or_assoc

@[simp]
theorem isHexDigit_toLower (c : Char) : isHexDigit c.toLower = isHexDigit c := by
  rw [Bool.eq_iff_iff, isHexDigit_iff, isHexDigit_iff, toNat_toLower]
  split
  · rename_i upper
    have bounds := (isUpper_iff c).mp upper
    omega
  · rfl

end Listmaster.Host
