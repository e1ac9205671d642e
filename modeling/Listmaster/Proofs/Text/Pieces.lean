import Listmaster.Proofs.Text.Case
import Listmaster.Text.Pieces

/-!
Texts taken apart.

A function on characters that moves no character to or from the separator can be
applied before a text is taken apart, or afterwards to the pieces.  What a text is
taken apart into is put together again, and the characters that are trimmed from its
end are added to it again.
-/

namespace Listmaster.Text

variable {separator : Char}

theorem pieces_map {f : Char → Char} (keeps : ∀ c, f c = separator ↔ c = separator)
    (s : List Char) :
    pieces separator (s.map f) = (pieces separator s).map (List.map f) := by
  induction s with
  | nil => rfl
  | cons c rest inductionHypothesis =>
      simp only [List.map_cons, pieces, keeps c, inductionHypothesis]
      by_cases here : c = separator
      · simp [here]
      · simp only [here, if_false]
        cases pieces separator rest <;> rfl

theorem not_mem_of_splitLast? {s before after : List Char}
    (found : splitLast? separator s = some (before, after)) : separator ∉ after := by
  have absent : ∀ {s : List Char}, splitLast? separator s = none → separator ∉ s := by
    intro s none
    induction s with
    | nil => simp
    | cons c rest inductionHypothesis =>
        simp only [splitLast?] at none
        split at none
        · contradiction
        · rename_i inRest
          split at none
          · contradiction
          · rename_i apart
            simp only [List.mem_cons, not_or]
            exact ⟨fun same => apart same.symm, inductionHypothesis inRest⟩
  induction s generalizing before with
  | nil => simp [splitLast?] at found
  | cons c rest inductionHypothesis =>
      simp only [splitLast?] at found
      split at found
      · rename_i first second inRest
        cases found
        exact inductionHypothesis inRest
      · rename_i inRest
        split at found
        · cases found
          exact absent inRest
        · contradiction

theorem splitLast?_eq_none {s : List Char} (absent : separator ∉ s) :
    splitLast? separator s = none := by
  induction s with
  | nil => rfl
  | cons c rest inductionHypothesis =>
      simp only [List.mem_cons, not_or] at absent
      have apart : c ≠ separator := fun same => absent.1 same.symm
      simp [splitLast?, inductionHypothesis absent.2, apart]

/-- A text is taken apart at the separator that no other one follows. -/
theorem splitLast?_append (before : List Char) {after : List Char} (last : separator ∉ after) :
    splitLast? separator (before ++ separator :: after) = some (before, after) := by
  induction before with
  | nil => simp [splitLast?, splitLast?_eq_none last]
  | cons c rest inductionHypothesis => simp [splitLast?, inductionHypothesis]

theorem splitFirst?_eq_some_iff {s before after : List Char} :
    splitFirst? separator s = some (before, after) ↔
      s = before ++ separator :: after ∧ separator ∉ before := by
  induction s generalizing before with
  | nil => simp [splitFirst?]
  | cons first rest inductionHypothesis =>
      by_cases here : first = separator
      · subst here
        cases before with
        | nil => simp [splitFirst?]
        | cons other later =>
            simp only [splitFirst?, if_pos, Option.some.injEq, Prod.mk.injEq, List.cons_append,
              List.cons.injEq, List.mem_cons, not_or, reduceCtorEq, false_and, false_iff, not_and]
            exact fun same apart => absurd same.1 apart
      · cases before with
        | nil => simp [splitFirst?, here]
        | cons other later =>
            simp only [splitFirst?, if_neg here, Option.map_eq_some_iff, Prod.exists, Prod.mk.injEq,
              List.cons.injEq, List.cons_append, List.mem_cons, not_or]
            constructor
            · rintro ⟨earlier, last, found, ⟨rfl, rfl⟩, rfl⟩
              obtain ⟨rfl, absent⟩ := inductionHypothesis.mp found
              exact ⟨⟨rfl, rfl⟩, Ne.symm here, absent⟩
            · rintro ⟨⟨rfl, rfl⟩, _, absent⟩
              exact ⟨later, after, inductionHypothesis.mpr ⟨rfl, absent⟩, ⟨rfl, rfl⟩, rfl⟩

theorem pieces_ne_nil (separator : Char) (s : List Char) : pieces separator s ≠ [] := by
  cases s with
  | nil => exact List.cons_ne_nil [] []
  | cons first rest =>
      rw [pieces]
      split
      · exact List.cons_ne_nil _ _
      · split <;> exact List.cons_ne_nil _ _

theorem pieces_append_cons (separator : Char) (s t : List Char) :
    pieces separator (s ++ separator :: t) = pieces separator s ++ pieces separator t := by
  induction s with
  | nil => simp [pieces]
  | cons first rest inductionHypothesis =>
      simp only [List.cons_append, pieces, inductionHypothesis]
      split
      · rfl
      · cases parts : pieces separator rest with
        | nil => exact absurd parts (pieces_ne_nil separator rest)
        | cons piece later => rfl

theorem trimEnd_map {drop : Char → Bool} {f : Char → Char} (keeps : ∀ c, drop (f c) = drop c)
    (s : List Char) : trimEnd drop (s.map f) = (trimEnd drop s).map f := by
  have same : drop ∘ f = drop := funext keeps
  unfold trimEnd
  rw [← List.map_reverse, List.dropWhile_map, same, List.map_reverse]

theorem trimEnd_trimEnd (drop : Char → Bool) (s : List Char) :
    trimEnd drop (trimEnd drop s) = trimEnd drop s :=
  List.rdropWhile_idempotent drop s

theorem trimEnd_eq_self_iff {c : Char} {s : List Char} :
    trimEnd (· = c) s = s ↔ s.getLast? ≠ some c := by
  change s.rdropWhile (· = c) = s ↔ _
  rw [List.rdropWhile_eq_self_iff]
  cases s with
  | nil => simp
  | cons first rest => simp [List.getLast?_eq_some_getLast]

theorem exists_trimEnd (c : Char) (s : List Char) :
    ∃ count, s = trimEnd (· = c) s ++ List.replicate count c := by
  refine ⟨(s.reverse.takeWhile (· = c)).length, ?_⟩
  have run : s.reverse.takeWhile (· = c) =
      List.replicate (s.reverse.takeWhile (· = c)).length c :=
    List.eq_replicate_iff.mpr ⟨rfl, fun x inside => by simpa using List.mem_takeWhile_imp inside⟩
  have whole : s.reverse.takeWhile (· = c) ++ s.reverse.dropWhile (· = c) = s.reverse :=
    List.takeWhile_append_dropWhile
  unfold trimEnd
  rw [← List.reverse_replicate, ← run, ← List.reverse_append, whole, List.reverse_reverse]

theorem trimEnd_append_replicate (s : List Char) (count : Nat) (c : Char) :
    trimEnd (· = c) (s ++ List.replicate count c) = trimEnd (· = c) s := by
  unfold trimEnd
  rw [List.reverse_append, List.reverse_replicate,
    List.dropWhile_append_of_pos (fun x inside => by simp [(List.mem_replicate.mp inside).2])]

/-- What begins a text in front of a separator and something else begins the text without a
separator at its end. -/
theorem exists_rest_iff {start whole trimmed : List Char}
    (plain : trimmed.getLast? ≠ some separator)
    (shape : whole = trimmed ∨ whole = trimmed ++ [separator]) :
    (∃ rest, rest ≠ [] ∧ whole = start ++ separator :: rest) ↔
      start ++ [separator] <+: trimmed := by
  constructor
  · rintro ⟨rest, occupied, begins⟩
    have inside : start ++ [separator] <+: whole := ⟨rest, by simp [begins]⟩
    rcases shape with same | rooted
    · exact same ▸ inside
    · rw [rooted] at inside
      refine (List.prefix_concat_iff.mp inside).resolve_left fun all => occupied ?_
      rw [rooted, ← all] at begins
      exact (List.cons.inj (List.append_cancel_left begins)).2.symm
  · rintro ⟨rest, same⟩
    have occupied : rest ≠ [] := by
      rintro rfl
      exact plain (by simp [← same])
    rcases shape with rfl | rfl
    · exact ⟨rest, occupied, by simp [← same]⟩
    · exact ⟨rest ++ [separator], by simp, by simp [← same]⟩

end Listmaster.Text
