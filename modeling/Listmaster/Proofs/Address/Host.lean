import Listmaster.Address
import Listmaster.Proofs.Text.Pieces

/-!
Hosts in lowercase.

Whether a text is a host, and what is wrong with it if it is none, does not depend
on the case of its letters: `hostFlaw?_lower`.
-/

namespace Listmaster

open Text

namespace Host

theorem isOctet_lower (s : List Char) : isOctet (s.map Char.toLower) = isOctet s := by
  match s with
  | [] => rfl
  | [a] => simp [isOctet]
  | [a, b] =>
      have zero : (a.toLower != '0') = (a != '0') := by
        simp only [bne, beq_eq_decide, toLower_eq_iff (c := a) (d := '0') rfl]
      simp [isOctet, zero]
  | [a, b, c] =>
      simp only [List.map_cons, List.map_nil, isOctet, isDigit_toLower]
      cases first : a.isDigit with
      | false => simp
      | true =>
          cases second : b.isDigit with
          | false => simp
          | true =>
              cases third : c.isDigit with
              | false => simp
              | true =>
                  rw [toLower_of_isDigit first, toLower_of_isDigit second,
                    toLower_of_isDigit third]
  | _ :: _ :: _ :: _ :: _ => rfl

theorem isIpv4_lower (s : List Char) : isIpv4 (s.map Char.toLower) = isIpv4 s := by
  have octets : isOctet ∘ List.map Char.toLower = isOctet := funext isOctet_lower
  simp only [isIpv4, pieces_map fun c => toLower_eq_iff (d := '.') rfl, List.length_map,
    List.all_map, octets]

theorem isGroup_lower (s : List Char) : isGroup (s.map Char.toLower) = isGroup s := by
  have digits : isHexDigit ∘ Char.toLower = isHexDigit := funext isHexDigit_toLower
  simp only [isGroup, List.length_map, List.all_map, digits]

theorem countGroups?_lower (tail : Bool) (pieces : List (List Char)) :
    countGroups? tail (pieces.map (List.map Char.toLower)) = countGroups? tail pieces := by
  induction pieces with
  | nil => rfl
  | cons piece rest inductionHypothesis =>
      cases rest with
      | nil => simp [countGroups?, isGroup_lower, isIpv4_lower]
      | cons next later =>
          simp only [List.map_cons] at inductionHypothesis ⊢
          simp only [countGroups?, isGroup_lower, inductionHypothesis]

theorem groups?_lower (tail : Bool) (s : List Char) :
    groups? tail (s.map Char.toLower) = groups? tail s := by
  simp only [groups?, List.isEmpty_map, pieces_map fun c => toLower_eq_iff (d := ':') rfl,
    countGroups?_lower]

theorem splitGap?_lower (s : List Char) :
    splitGap? (s.map Char.toLower) =
      (splitGap? s).map fun (before, after) =>
        (before.map Char.toLower, after.map Char.toLower) := by
  fun_induction splitGap? s with
  | case1 rest => rfl
  | case2 c rest noGap inductionHypothesis =>
      have noLowerGap : ∀ later, c.toLower = ':' → rest.map Char.toLower = ':' :: later →
          False := by
        intro later colon colons
        obtain ⟨second, after, same, also, _⟩ := List.map_eq_cons_iff.mp colons
        rw [toLower_eq_iff rfl] at colon also
        exact noGap after colon (same ▸ also ▸ rfl)
      rw [List.map_cons, splitGap?, inductionHypothesis]
      · cases splitGap? rest <;> rfl
      · exact noLowerGap
  | case3 => rfl

theorem isIpv6_lower (s : List Char) : isIpv6 (s.map Char.toLower) = isIpv6 s := by
  simp only [isIpv6, splitGap?_lower]
  cases splitGap? s with
  | none => simp [groups?_lower]
  | some gap => simp [groups?_lower]

theorem isIp_lower (s : List Char) : isIp (s.map Char.toLower) = isIp s := by
  simp only [isIp, isIpv4_lower, isIpv6_lower]

theorem takeWhile_isDigit_lower (s : List Char) :
    (s.map Char.toLower).takeWhile Char.isDigit = s.takeWhile Char.isDigit := by
  induction s with
  | nil => rfl
  | cons c rest inductionHypothesis =>
      rw [List.map_cons, List.takeWhile_cons, List.takeWhile_cons, isDigit_toLower,
        inductionHypothesis]
      split
      · rename_i digit
        rw [toLower_of_isDigit digit]
      · rfl

theorem dropWhile_isDigit_lower (s : List Char) :
    (s.map Char.toLower).dropWhile Char.isDigit = (s.dropWhile Char.isDigit).map Char.toLower := by
  have digit : Char.isDigit ∘ Char.toLower = Char.isDigit := funext isDigit_toLower
  rw [List.dropWhile_map, digit]

namespace isNumeral

theorem isDigits_lower (s : List Char) : isDigits (s.map Char.toLower) = isDigits s := by
  have digit : Char.isDigit ∘ Char.toLower = Char.isDigit := funext isDigit_toLower
  simp only [isDigits, List.isEmpty_map, List.all_map, digit]

theorem isExponent_lower (s : List Char) : isExponent (s.map Char.toLower) = isExponent s := by
  cases s with
  | nil => rfl
  | cons c rest =>
      by_cases plus : c = '+'
      · subst plus
        exact isDigits_lower rest
      · by_cases minus : c = '-'
        · subst minus
          exact isDigits_lower rest
        · have plusLower : c.toLower ≠ '+' := mt (toLower_eq_iff rfl).mp plus
          have minusLower : c.toLower ≠ '-' := mt (toLower_eq_iff rfl).mp minus
          simpa [isExponent, plus, minus, plusLower, minusLower] using isDigits_lower (c :: rest)

theorem isMark_lower (mark : Char) :
    (mark.toLower = 'e' ∨ mark.toLower = 'E') ↔ (mark = 'e' ∨ mark = 'E') := by
  have bounds := isUpper_iff mark
  simp only [← Char.toNat_inj, toNat_toLower, Char.reduceToNat]
  split
  · rename_i upper
    have := bounds.mp upper
    omega
  · rename_i notUpper
    have := mt bounds.mpr notUpper
    omega

theorem isScientific_lower (s : List Char) :
    isScientific (s.map Char.toLower) = isScientific s := by
  simp only [isScientific, takeWhile_isDigit_lower, dropWhile_isDigit_lower]
  cases s.dropWhile Char.isDigit with
  | nil => rfl
  | cons mark power =>
      simp only [List.map_cons, isExponent_lower, ← Bool.decide_or, isMark_lower]

end isNumeral

theorem isNumeral_lower (label : List Char) :
    isNumeral (label.map Char.toLower) = isNumeral label := by
  have unsigned (s : List Char) :
      (isNumeral.isSpecial ((s.map Char.toLower).map Char.toLower) ||
          isNumeral.isScientific (s.map Char.toLower)) =
        (isNumeral.isSpecial (s.map Char.toLower) || isNumeral.isScientific s) := by
    have again : Char.toLower ∘ Char.toLower = Char.toLower :=
      funext Char.toLower_toLower_eq_toLower
    rw [List.map_map, again, isNumeral.isScientific_lower]
  cases label with
  | nil => rfl
  | cons c rest =>
      by_cases plus : c = '+'
      · subst plus
        exact unsigned rest
      · by_cases minus : c = '-'
        · subst minus
          exact unsigned rest
        · have plusLower : c.toLower ≠ '+' := mt (toLower_eq_iff rfl).mp plus
          have minusLower : c.toLower ≠ '-' := mt (toLower_eq_iff rfl).mp minus
          simpa [isNumeral, plus, minus, plusLower, minusLower] using unsigned (c :: rest)

theorem labelFlaw?_lower (isTopLevel : Bool) (label : List Char) :
    labelFlaw? isTopLevel (label.map Char.toLower) = labelFlaw? isTopLevel label := by
  have illegal :
      (fun c => isAscii c && c != '-' && !c.isAlphanum) ∘ Char.toLower =
        fun c => isAscii c && c != '-' && !c.isAlphanum := by
    funext c
    have hyphen : (c.toLower != '-') = (c != '-') := by
      simp only [bne, beq_eq_decide, toLower_eq_iff (c := c) (d := '-') rfl]
    simp [hyphen]
  unfold labelFlaw?
  rw [List.head?_map, List.getLast?_map]
  cases label.head? with
  | none => rfl
  | some first =>
      cases label.getLast? with
      | none => rfl
      | some last =>
          simp only [Option.map_some, List.length_map, isNumeral_lower, isAscii_toLower,
            isAlphanum_toLower, List.any_map, illegal]

theorem labelsFlaw?_lower (labels : List (List Char)) :
    labelsFlaw? (labels.map (List.map Char.toLower)) = labelsFlaw? labels := by
  induction labels with
  | nil => rfl
  | cons label rest inductionHypothesis =>
      cases rest with
      | nil => exact labelFlaw?_lower true label
      | cons next later =>
          simp only [List.map_cons] at inductionHypothesis ⊢
          simp only [labelsFlaw?, labelFlaw?_lower, inductionHypothesis]

end Host

namespace Address

theorem getLast?_lower_eq {s : List Char} {d : Char} (plain : d.isAlpha = false) :
    (s.map Char.toLower).getLast? = some d ↔ s.getLast? = some d := by
  rw [List.getLast?_map, Option.map_eq_some_iff]
  simp only [toLower_eq_iff plain, exists_eq_right]

theorem bracketed?_lower (s : List Char) :
    bracketed? (s.map Char.toLower) = (bracketed? s).map (List.map Char.toLower) := by
  cases s with
  | nil => rfl
  | cons c rest =>
      by_cases opening : c = '['
      · subst opening
        have lower : Char.toLower '[' = '[' := rfl
        rw [List.map_cons, lower]
        simp only [bracketed?, getLast?_lower_eq (d := ']') rfl]
        split
        · rw [Option.map_some, List.map_dropLast]
        · rfl
      · have openingLower : c.toLower ≠ '[' := mt (toLower_eq_iff rfl).mp opening
        simp [bracketed?, opening, openingLower]

theorem dropRootDot_lower (s : List Char) :
    dropRootDot (s.map Char.toLower) = (dropRootDot s).map Char.toLower := by
  simp only [dropRootDot, getLast?_lower_eq (d := '.') rfl]
  split
  · rw [List.map_dropLast]
  · rfl

/-- The case of its letters does not matter to a host. -/
theorem hostFlaw?_lower (s : List Char) : hostFlaw? (s.map Char.toLower) = hostFlaw? s := by
  unfold hostFlaw?
  rw [bracketed?_lower]
  cases bracketed? s with
  | some inside => simp [Host.isIp_lower]
  | none =>
      have isDot (c : Char) : c.toLower = '.' ↔ c = '.' := toLower_eq_iff rfl
      simp only [Option.map_none, dropRootDot_lower, pieces_map isDot, List.length_map,
        Host.labelsFlaw?_lower]

end Address

end Listmaster
