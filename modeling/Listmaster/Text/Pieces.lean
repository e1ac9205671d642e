/-!
Texts taken apart: at the first, the last or every occurrence of a separator,
and without the characters at their ends.  All of it works on lists of
characters, where a text and its pieces are related by concatenation.
-/

namespace Listmaster.Text

def splitFirst? (separator : Char) : List Char → Option (List Char × List Char)
  | [] => none
  | c :: rest =>
      if c = separator then some ([], rest)
      else (splitFirst? separator rest).map fun (before, after) => (c :: before, after)

def splitLast? (separator : Char) : List Char → Option (List Char × List Char)
  | [] => none
  | c :: rest =>
      match splitLast? separator rest with
      | some (before, after) => some (c :: before, after)
      | none => if c = separator then some ([], rest) else none

/-- The pieces between the separators; without one, the text itself. -/
def pieces (separator : Char) : List Char → List (List Char)
  | [] => [[]]
  | c :: rest =>
      if c = separator then [] :: pieces separator rest
      else
        match pieces separator rest with
        | [] => [[c]]
        | piece :: later => (c :: piece) :: later

/-- The text without the longest run at its end of characters that satisfy `drop`. -/
def trimEnd (drop : Char → Bool) (s : List Char) : List Char :=
  (s.reverse.dropWhile drop).reverse

/-- The text without the runs at its ends of characters that satisfy `drop`. -/
def trim (drop : Char → Bool) (s : List Char) : List Char :=
  trimEnd drop (s.dropWhile drop)

/-- Whether `part` occurs in the text, at any place. -/
def occursIn (part : List Char) : List Char → Bool
  | [] => part.isEmpty
  | c :: rest => part.isPrefixOf (c :: rest) || occursIn part rest

/-- The text with every occurrence of the non-empty `part` replaced, from left to right. -/
def replaceAll (part replacement : List Char) (s : List Char) : List Char :=
  go 0 s
where
  /-- The first `skip` characters belong to an occurrence that is already replaced. -/
  go : Nat → List Char → List Char
    | _, [] => []
    | 0, c :: rest =>
        if !part.isEmpty && part.isPrefixOf (c :: rest) then
          replacement ++ go (part.length - 1) rest
        else c :: go 0 rest
    | skip + 1, _ :: rest => go skip rest

theorem eq_append_of_splitFirst? {separator : Char} {s before after : List Char}
    (found : splitFirst? separator s = some (before, after)) :
    s = before ++ separator :: after := by
  induction s generalizing before with
  | nil => simp [splitFirst?] at found
  | cons c rest ih =>
      unfold splitFirst? at found
      split at found
      · simp_all
      · obtain ⟨⟨first, second⟩, inRest, same⟩ := Option.map_eq_some_iff.1 found
        cases same
        rw [ih inRest, List.cons_append]

theorem eq_append_of_splitLast? {separator : Char} {s before after : List Char}
    (found : splitLast? separator s = some (before, after)) :
    s = before ++ separator :: after := by
  induction s generalizing before with
  | nil => simp [splitLast?] at found
  | cons c rest ih =>
      unfold splitLast? at found
      split at found
      · rename_i first second inRest
        cases found
        rw [ih inRest, List.cons_append]
      · split at found <;> simp_all

end Listmaster.Text
