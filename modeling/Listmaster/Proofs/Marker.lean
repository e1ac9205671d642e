import Listmaster.Category
import Listmaster.Proofs.Text.Case

/-!
How a category is read from a marker.

Only the essence of a marker counts, its letters and digits in lowercase, and two markers have the
same essence if and only if one becomes the other by changes of case and of punctuation
(`Category.essence_eq_iff`).  The essence of a part of a marker is a part of its essence, so that
what surrounds a word that is looked for may add words in front of it in the order of
`Category.words`, but does not hide it: `Category.classify_reads`.
-/

namespace Listmaster

theorem Text.occursIn_iff {part s : List Char} : occursIn part s = true ↔ part <:+: s := by
  induction s with
  | nil => rw [occursIn, List.isEmpty_iff, List.infix_nil]
  | cons first rest inductionHypothesis =>
      rw [occursIn, Bool.or_eq_true, List.isPrefixOf_iff_prefix, inductionHypothesis,
        List.infix_cons_iff]

namespace Category

open Relation

/-- One change of a marker that makes no difference: a letter is written in the other case, or a
character that is no letter or digit is put in or taken out. -/
inductive Retouches : List Char → List Char → Prop
  | recase {before after c d} :
      c.toLower = d.toLower → Retouches (before ++ c :: after) (before ++ d :: after)
  | insertion {before after c} :
      c.isAlphanum = false → Retouches (before ++ after) (before ++ c :: after)
  | removal {before after c} :
      c.isAlphanum = false → Retouches (before ++ c :: after) (before ++ after)

/-- The place among the words of the first one that occurs in the marker, or else the place after
the last one. -/
def rank (marker : String) : Nat :=
  words.findIdx fun (word, _) => Text.occursIn word.toList (essence marker)

variable {s t : List Char} {marker other part whole : String}

theorem Retouches.symm (retouches : Retouches s t) : Retouches t s := by
  cases retouches with
  | recase same => exact .recase same.symm
  | insertion other => exact .removal other
  | removal other => exact .insertion other

instance : Std.Symm Retouches := ⟨fun _ _ => Retouches.symm⟩

theorem Retouches.cons (first : Char) (retouches : Retouches s t) :
    Retouches (first :: s) (first :: t) := by
  cases retouches with
  | @recase before _ _ _ same => exact @recase (first :: before) _ _ _ same
  | @insertion before _ _ other => exact @insertion (first :: before) _ _ other
  | @removal before _ _ other => exact @removal (first :: before) _ _ other

theorem essence_append (a b : String) : essence (a ++ b) = essence a ++ essence b := by
  unfold essence
  rw [String.toList_append, List.filter_append, List.map_append]

theorem essence_ofList_append (s t : List Char) :
    essence (.ofList (s ++ t)) = essence (.ofList s) ++ essence (.ofList t) := by
  rw [String.ofList_append, essence_append]

theorem essence_ofList_cons (c : Char) (s : List Char) :
    essence (.ofList (c :: s)) =
      if c.isAlphanum then c.toLower :: essence (.ofList s) else essence (.ofList s) := by
  unfold essence
  rw [String.toList_ofList, String.toList_ofList, List.filter_cons]
  split <;> rfl

theorem Retouches.essence_eq (retouches : Retouches s t) :
    essence (.ofList s) = essence (.ofList t) := by
  cases retouches with
  | @recase before after c d same =>
      have kind : c.isAlphanum = d.isAlphanum := by
        rw [← Text.isAlphanum_toLower c, same, Text.isAlphanum_toLower d]
      rw [essence_ofList_append, essence_ofList_append, essence_ofList_cons, essence_ofList_cons,
        kind, same]
  | insertion other =>
      rw [essence_ofList_append, essence_ofList_append, essence_ofList_cons, other, if_neg nofun]
  | removal other =>
      rw [essence_ofList_append, essence_ofList_append, essence_ofList_cons, other, if_neg nofun]

/-- A marker becomes its essence by changes that make no difference. -/
theorem retouches_essence (s : List Char) :
    ReflTransGen Retouches s (essence (.ofList s)) := by
  induction s with
  | nil => exact .refl
  | cons first rest inductionHypothesis =>
      have later : ReflTransGen Retouches (first :: rest) (first :: essence (.ofList rest)) :=
        inductionHypothesis.lift (first :: ·) fun _ _ => Retouches.cons first
      rw [essence_ofList_cons]
      split
      · exact later.tail (@Retouches.recase [] _ _ _ (Char.toLower_toLower_eq_toLower first).symm)
      · rename_i other
        exact later.tail (@Retouches.removal [] _ _ (Bool.not_eq_true _ ▸ other))

theorem essence_of_retouched (retouched : ReflTransGen Retouches s t) :
    essence (.ofList s) = essence (.ofList t) := by
  induction retouched with
  | refl => rfl
  | tail _ last inductionHypothesis => exact inductionHypothesis.trans last.essence_eq

/-- Markers have the same essence if one becomes the other by changes that make no difference. -/
theorem essence_eq_iff :
    essence marker = essence other ↔ ReflTransGen Retouches marker.toList other.toList := by
  have first := retouches_essence marker.toList
  have second := retouches_essence other.toList
  rw [String.ofList_toList] at first second
  constructor
  · intro same
    rw [same] at first
    exact first.trans (ReflTransGen.stdSymm.symm _ _ second)
  · intro retouched
    have same := essence_of_retouched retouched
    rwa [String.ofList_toList, String.ofList_toList] at same

theorem classify_congr (same : essence marker = essence other) :
    classify (some marker) = classify (some other) := by
  change ofMarker marker = ofMarker other
  unfold ofMarker
  rw [same]

theorem classify_eq_of_rank (marker : String) :
    classify (some marker) = ((words[rank marker]?).map Prod.snd).getD unrecognized := by
  change ofMarker marker = _
  unfold ofMarker rank
  rw [← List.find?_eq_getElem?_findIdx]
  split
  · rename_i found
    rw [found]
    rfl
  · rename_i absent
    rw [absent]
    rfl

theorem rank_le_of_isInfix (inside : essence part <:+: essence whole) : rank whole ≤ rank part := by
  apply List.findIdx_le_findIdx
  intro entry _ occurs
  rw [Text.occursIn_iff] at occurs ⊢
  exact occurs.trans inside

theorem rank_append_le (before marker after : String) :
    rank (before ++ marker ++ after) ≤ rank marker := by
  apply rank_le_of_isInfix
  rw [essence_append, essence_append]
  exact List.infix_append _ _ _

theorem classify_of_rank_lt (first : rank marker < 3) :
    classify (some marker) ∈ [domainRestricted, ownerRestricted, memberRestricted] := by
  rw [classify_eq_of_rank]
  revert first
  generalize rank marker = place
  intro first
  interval_cases place <;> decide

theorem rank_lt_of_restricting : ∀ word ∈ ["domain", "owner", "member"], rank word < 3 := by
  decide

/-- Changes of case and of punctuation make no difference to what a marker says.  It says what the
first word says that occurs in it, and what is written around it can only bring words that come
before this one.  So a list whose marker has a restricting word in it is restricted, whatever else
the marker has. -/
theorem classify_reads :
    (∀ marker other : String, ReflTransGen Retouches marker.toList other.toList →
      classify (some marker) = classify (some other)) ∧
    (∀ marker, classify (some marker) =
      ((words[rank marker]?).map Prod.snd).getD unrecognized) ∧
    (∀ before marker after, rank (before ++ marker ++ after) ≤ rank marker) ∧
    ∀ word ∈ ["domain", "owner", "member"], ∀ before marker after : String,
      ReflTransGen Retouches word.toList marker.toList →
        classify (some (before ++ marker ++ after)) ∈
          [domainRestricted, ownerRestricted, memberRestricted] := by
  refine ⟨fun _ _ retouched => classify_congr (essence_eq_iff.mpr retouched),
    classify_eq_of_rank, rank_append_le, ?_⟩
  intro word restricting before marker after retouched
  have same : rank marker = rank word := by
    unfold rank
    rw [essence_eq_iff.mpr retouched]
  apply classify_of_rank_lt
  calc rank (before ++ marker ++ after) ≤ rank marker := rank_append_le before marker after
    _ = rank word := same
    _ < 3 := rank_lt_of_restricting word restricting

end Category

/-- A restricting word in other letters and with separators, after a word that opens a list. -/
theorem Category.classify_reads_sample :
    classify (some "OPEN, Own-er's!") = classify (some "open owners") ∧
      rank "OPEN, Own-er's!" ≤ rank "OPEN" ∧
      classify (some "OPEN, Own-er's!") ∈ [domainRestricted, ownerRestricted, memberRestricted] := by
  obtain ⟨insensitive, _, early, restricted⟩ := classify_reads
  exact ⟨insensitive "OPEN, Own-er's!" "open owners" (essence_eq_iff.mp (by decide)),
    early "" "OPEN" ", Own-er's!",
    restricted "owner" (by decide) "OPEN, " "Own-er" "'s!" (essence_eq_iff.mp (by decide))⟩

end Listmaster
