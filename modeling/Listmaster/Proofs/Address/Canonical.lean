import Listmaster.Proofs.Address.Host

/-!
The canonical text of an address.

What an address denotes is read back from its text: `parse?_full`.
-/

namespace Listmaster.Address

open Text

theorem not_mem_lower {separator : Char} (plain : separator.isAlpha = false) {s : List Char}
    (absent : separator ∉ s) : separator ∉ s.map Char.toLower := by
  intro here
  obtain ⟨c, inText, lower⟩ := List.mem_map.mp here
  rw [toLower_eq_iff plain] at lower
  exact absent (lower ▸ inText)

theorem splitLast?_canonical {s localPart domain : List Char}
    (parts : splitLast? '@' s = some (localPart, domain)) :
    splitLast? '@' (canonical s) = some (localPart, domain.map Char.toLower) := by
  unfold canonical
  rw [parts]
  exact splitLast?_append localPart (not_mem_lower rfl (not_mem_of_splitLast? parts))

theorem length_canonical (s : List Char) : (canonical s).length = s.length := by
  unfold canonical
  cases parts : splitLast? '@' s with
  | none => rfl
  | some pair =>
      obtain ⟨localPart, domain⟩ := pair
      rw [eq_append_of_splitLast? parts]
      simp

/-- Putting the domain into lowercase mends no flaw and makes none. -/
theorem flaw?_canonical (s : List Char) : flaw? (canonical s) = flaw? s := by
  unfold flaw?
  rw [length_canonical]
  cases parts : splitLast? '@' s with
  | none =>
      have same : canonical s = s := by simp [canonical, parts]
      rw [same, parts]
  | some pair =>
      obtain ⟨localPart, domain⟩ := pair
      simp only [splitLast?_canonical parts, hostFlaw?_lower]

theorem canonical_canonical (s : List Char) : canonical (canonical s) = canonical s := by
  cases parts : splitLast? '@' s with
  | none => simp [canonical, parts]
  | some pair =>
      obtain ⟨localPart, domain⟩ := pair
      have first : canonical s = localPart ++ '@' :: domain.map Char.toLower := by
        simp [canonical, parts]
      have second := splitLast?_canonical parts
      rw [canonical, second, first]
      simp only [map_toLower_map_toLower]

theorem flaw?_full (a : Address) : flaw? a.full.toList = none := by
  obtain ⟨s, sound, denotes⟩ := a.isCanonical
  rw [← denotes, flaw?_canonical, sound]

theorem canonical_full (a : Address) : canonical a.full.toList = a.full.toList := by
  obtain ⟨s, sound, denotes⟩ := a.isCanonical
  rw [← denotes, canonical_canonical]

theorem parse?_eq_some_iff {text : String} {a : Address} :
    parse? text = some a ↔ flaw? text.toList = none ∧ canonical text.toList = a.full.toList := by
  unfold parse? parse
  split
  · rename_i flaw found
    simp [Except.toOption, found]
  · rename_i sound
    simp only [Except.toOption, Option.some.injEq, sound, true_and]
    constructor
    · intro same
      rw [← same, String.toList_ofList]
    · intro same
      apply eq_of_full
      change String.ofList (canonical text.toList) = a.full
      rw [same, String.ofList_toList]

@[simp]
theorem parse?_full (a : Address) : parse? a.full = some a :=
  parse?_eq_some_iff.mpr ⟨flaw?_full a, canonical_full a⟩

theorem mapM_parse?_full (addresses : List Address) :
    (addresses.map full).mapM parse? = some addresses := by
  have denoted : parse? ∘ full = some := funext parse?_full
  rw [List.mapM_map, denoted]
  exact (List.mapM_pure (m := Option) (f := id)).trans (congrArg some addresses.map_id)

end Listmaster.Address
