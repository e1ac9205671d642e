import Listmaster.Proofs.Locality

/-!
Which addresses are recognized as lists.

A list has the label of the lists in front of the domain that it serves.  The domain of an address
ends with one dot at most (`Address.toList_domain_cases`), and what decides about the address is its
domain without that dot.  So the answers are the same however the label, the local domains and the
domain of the address are written: `Classifier.make_recognizes`.
-/

namespace Listmaster

namespace Domain

/-- The texts differ at most in the case of their letters and in the dots at their ends. -/
def Alike (a b : String) : Prop :=
  ∃ m n, a.toList.map Char.toLower ++ List.replicate m '.' =
    b.toList.map Char.toLower ++ List.replicate n '.'

/-- Each domain on one side is written on the other one, too. -/
def AlikeAll (domains others : List String) : Prop :=
  (∀ domain ∈ domains, ∃ other ∈ others, Alike domain other) ∧
    ∀ other ∈ others, ∃ domain ∈ domains, Alike domain other

theorem toList_normalize_eq (domain : String) :
    (normalize domain).toList = Text.trimEnd (· = '.') (domain.toList.map Char.toLower) := by
  rw [toList_normalize, Text.trimEnd_map decide_toLower_dot]

theorem alike_iff {a b : String} : Alike a b ↔ normalize a = normalize b := by
  rw [← String.toList_inj, toList_normalize_eq, toList_normalize_eq]
  constructor
  · rintro ⟨m, n, same⟩
    rw [← Text.trimEnd_append_replicate _ m, same, Text.trimEnd_append_replicate]
  · intro same
    obtain ⟨n, first⟩ := Text.exists_trimEnd '.' (a.toList.map Char.toLower)
    obtain ⟨m, second⟩ := Text.exists_trimEnd '.' (b.toList.map Char.toLower)
    refine ⟨m, n, ?_⟩
    rw [first, second, same, List.append_assoc, List.append_assoc,
      List.replicate_append_replicate, List.replicate_append_replicate, Nat.add_comm]

theorem normalize_of_not_mem {domain : String} (single : '.' ∉ domain.toList) :
    normalize domain = Text.lower domain := by
  have whole : Text.trimEnd (· = '.') domain.toList = domain.toList := by
    rw [Text.trimEnd_eq_self_iff]
    exact fun last => single (List.mem_of_getLast? last)
  rw [normalize, whole, Text.lower]

end Domain

namespace Host

theorem labelFlaw?_of_labelsFlaw? {labels : List (List Char)} (sound : labelsFlaw? labels = none) :
    ∀ label ∈ labels, ∃ isTopLevel, labelFlaw? isTopLevel label = none := by
  induction labels with
  | nil => exact nofun
  | cons first rest inductionHypothesis =>
      intro label here
      cases rest with
      | nil => exact ⟨true, List.mem_singleton.mp here ▸ sound⟩
      | cons next later =>
          obtain ⟨firstSound, restSound⟩ := Option.or_eq_none_iff.mp sound
          rcases List.mem_cons.mp here with same | among
          · exact ⟨false, same ▸ firstSound⟩
          · exact inductionHypothesis restSound label among

theorem not_nil_mem {labels : List (List Char)} (sound : labelsFlaw? labels = none) :
    [] ∉ labels := by
  intro here
  obtain ⟨isTopLevel, labelSound⟩ := labelFlaw?_of_labelsFlaw? sound [] here
  cases labelSound

end Host

namespace Address

open Text

/-- A host ends with one dot at most. -/
theorem getLast?_dropRootDot {host : List Char} (sound : hostFlaw? host = none) :
    (dropRootDot host).getLast? ≠ some '.' := by
  intro last
  obtain ⟨name, whole⟩ := List.getLast?_eq_some_iff.mp last
  unfold hostFlaw? at sound
  cases bracketed : bracketed? host with
  | some inside =>
      -- What is in brackets ends with one of them.
      have ending : host.getLast? = some ']' := by
        unfold bracketed? at bracketed
        split at bracketed
        · rename_i rest
          split at bracketed
          · rename_i closing
            rw [List.getLast?_cons, closing, Option.getD_some]
          · cases bracketed
        · cases bracketed
      have same : dropRootDot host = host := by simp [dropRootDot, ending]
      rw [same, ending] at last
      cases last
  | none =>
      have empty : [] ∈ pieces '.' (dropRootDot host) := by
        rw [whole, pieces_append_cons]
        exact List.mem_append_right _ List.mem_cons_self
      simp only [bracketed] at sound
      split at sound
      · cases sound
      · split at sound
        · cases sound
        · exact Host.not_nil_mem (Option.map_eq_none_iff.mp sound) empty

theorem hostFlaw?_domain (a : Address) : hostFlaw? a.domain.toList = none := by
  have sound := flaw?_full a
  unfold flaw? at sound
  split at sound
  · cases sound
  · unfold domain
    cases parts : splitLast? '@' a.full.toList with
    | none =>
        rw [parts] at sound
        cases sound
    | some pair =>
        simp only [parts] at sound
        rw [String.toList_ofList]
        exact (Option.or_eq_none_iff.mp sound).2

theorem eq_dropRootDot (s : List Char) : s = dropRootDot s ∨ s = dropRootDot s ++ ['.'] := by
  unfold dropRootDot
  split
  · rename_i last
    obtain ⟨name, rfl⟩ := List.getLast?_eq_some_iff.mp last
    exact .inr (by rw [List.dropLast_concat])
  · exact .inl rfl

theorem toList_domain_cases (a : Address) :
    a.domain.toList = (Domain.normalize a.domain).toList ∨
      a.domain.toList = (Domain.normalize a.domain).toList ++ ['.'] := by
  have plain := trimEnd_eq_self_iff.mpr (getLast?_dropRootDot (hostFlaw?_domain a))
  have trimmed : (Domain.normalize a.domain).toList = dropRootDot a.domain.toList := by
    rw [normalize_domain, Domain.withoutRoot, String.toList_ofList]
    rcases eq_dropRootDot a.domain.toList with same | rooted
    · rw [← same] at plain ⊢
      exact plain
    · have trimmed := trimEnd_append_replicate (dropRootDot a.domain.toList) 1 '.'
      rw [List.replicate_one, ← rooted, plain] at trimmed
      exact trimmed
  rw [trimmed]
  exact eq_dropRootDot a.domain.toList

end Address

namespace Classifier

variable {c : Classifier} {domain rest : String} {predicate : Predicate} {label other : String}
  {domains others : List String} {a b : Address}

theorem afterLabel?_eq_some_iff :
    c.afterLabel? domain = some rest ↔
      '.' ∉ c.label.toList ∧ rest ≠ "" ∧ domain = c.label ++ "." ++ rest := by
  have occupied : rest.toList ≠ [] ↔ rest ≠ "" := by simp
  have joined : domain = c.label ++ "." ++ rest ↔
      domain.toList = c.label.toList ++ '.' :: rest.toList := by
    rw [← String.toList_inj, String.toList_append, String.toList_append, List.append_assoc]
    rfl
  rw [← occupied, joined, and_left_comm]
  unfold afterLabel?
  constructor
  · intro found
    split at found
    · rename_i first later parts
      split at found
      · rename_i begins
        obtain ⟨whole, single⟩ := Text.splitFirst?_eq_some_iff.mp parts
        cases found
        rw [String.toList_ofList]
        exact ⟨begins.2, begins.1 ▸ single, begins.1 ▸ whole⟩
      · cases found
    · cases found
  · rintro ⟨present, single, whole⟩
    have parts := Text.splitFirst?_eq_some_iff.mpr ⟨whole, single⟩
    simp [parts, present]

/-- A list is recognized by its domain without a dot at the end. -/
theorem isSome_afterLabel?_iff :
    (c.afterLabel? a.domain).isSome = true ↔
      '.' ∉ c.label.toList ∧
        c.label.toList ++ ['.'] <+: (Domain.normalize a.domain).toList := by
  rw [← Text.exists_rest_iff (Domain.getLast?_normalize a.domain) a.toList_domain_cases,
    Option.isSome_iff_exists]
  simp only [afterLabel?_eq_some_iff, exists_and_left]
  refine and_congr_right fun _ => ⟨?_, ?_⟩
  · rintro ⟨rest, occupied, whole⟩
    exact ⟨rest.toList, by simpa using occupied, by simp [whole]⟩
  · rintro ⟨rest, occupied, whole⟩
    exact ⟨String.ofList rest, by simpa using occupied, by simp [← String.toList_inj, whole]⟩

theorem isLocal_congr (alike : Domain.Alike a.domain b.domain) : c.isLocal a = c.isLocal b := by
  unfold isLocal
  rw [← a.normalize_domain, ← b.normalize_domain, Domain.alike_iff.mp alike]

theorem isCandidate_congr (alike : Domain.Alike a.domain b.domain) :
    c.isCandidate a = c.isCandidate b := by
  unfold isCandidate
  cases c.predicate with
  | listsPrefix =>
      dsimp only
      rw [Bool.eq_iff_iff, isSome_afterLabel?_iff, isSome_afterLabel?_iff,
        Domain.alike_iff.mp alike]
  | anyLocal => exact isLocal_congr alike

theorem ofList_normalize_congr (same : Domain.AlikeAll domains others) :
    SortedSet.ofList (domains.map Domain.normalize) = .ofList (others.map Domain.normalize) := by
  ext name
  simp only [SortedSet.mem_ofList, List.mem_map]
  constructor
  · rintro ⟨domain, here, rfl⟩
    obtain ⟨other, there, alike⟩ := same.1 domain here
    exact ⟨other, there, (Domain.alike_iff.mp alike).symm⟩
  · rintro ⟨other, here, rfl⟩
    obtain ⟨domain, there, alike⟩ := same.2 other here
    exact ⟨domain, there, Domain.alike_iff.mp alike⟩

theorem make_congr (labels : Domain.Alike label other) (same : Domain.AlikeAll domains others) :
    make predicate label domains = make predicate other others := by
  unfold make
  rw [Domain.alike_iff.mp labels, ofList_normalize_congr same]

theorem label_make (single : '.' ∉ label.toList) :
    (make predicate label domains).label = Text.lower label :=
  Domain.normalize_of_not_mem single

/-- An address is recognized as a list if its domain is the label of the lists in lowercase, a dot
and something else, which then is the domain that the list serves.  Which addresses are recognized
as lists, and which as local ones, does not depend on how the label, the local domains and the
domain of the address are written. -/
theorem make_recognizes :
    (∀ label domains, '.' ∉ label.toList → ∀ a : Address,
      ((make .listsPrefix label domains).isCandidate a = true ↔
        ∃ rest, rest ≠ "" ∧ a.domain = Text.lower label ++ "." ++ rest) ∧
      ∀ rest, rest ≠ "" → a.domain = Text.lower label ++ "." ++ rest →
        (make .listsPrefix label domains).servingDomain a = rest) ∧
    ∀ predicate label other domains others, Domain.Alike label other →
      Domain.AlikeAll domains others → ∀ a b : Address, Domain.Alike a.domain b.domain →
        (make predicate label domains).isCandidate a =
          (make predicate other others).isCandidate b ∧
        (make predicate label domains).isLocal a = (make predicate other others).isLocal b := by
  constructor
  · intro label domains single a
    have begins (rest : String) :
        (make .listsPrefix label domains).afterLabel? a.domain = some rest ↔
          rest ≠ "" ∧ a.domain = Text.lower label ++ "." ++ rest := by
      rw [afterLabel?_eq_some_iff, label_make single]
      refine and_iff_right ?_
      rw [Text.lower, String.toList_ofList]
      exact Address.not_mem_lower rfl single
    constructor
    · change ((make .listsPrefix label domains).afterLabel? a.domain).isSome = true ↔ _
      rw [Option.isSome_iff_exists]
      exact exists_congr begins
    · intro rest occupied whole
      change ((make .listsPrefix label domains).afterLabel? a.domain).getD a.domain = rest
      rw [(begins rest).mpr ⟨occupied, whole⟩, Option.getD_some]
  · intro predicate label other domains others labels same a b alike
    rw [make_congr labels same]
    exact ⟨isCandidate_congr alike, isLocal_congr alike⟩

end Classifier

namespace Sample

/-- The team, under the same domain with a dot at its end. -/
def rootedTeam : Address :=
  ⟨"team@lists.example.org.", "team@lists.example.org.".toList, by decide, by decide⟩

end Sample

open Sample in
theorem Classifier.make_recognizes_sample :
    (Classifier.make .listsPrefix "LISTS" ["EXAMPLE.org."]).isCandidate rootedTeam = true ∧
      (Classifier.make .listsPrefix "LISTS" ["EXAMPLE.org."]).servingDomain rootedTeam =
        "example.org." ∧
      (Classifier.make .listsPrefix "LISTS" ["EXAMPLE.org."]).isCandidate rootedTeam =
        (Classifier.make .listsPrefix "lists." ["example.org", "Example.Org.."]).isCandidate team ∧
      (Classifier.make .anyLocal "LISTS" ["EXAMPLE.org."]).isLocal rootedReader =
        (Classifier.make .anyLocal "lists." ["example.org", "Example.Org.."]).isLocal reader := by
  obtain ⟨recognizes, insensitive⟩ := Classifier.make_recognizes
  have team? := recognizes "LISTS" ["EXAMPLE.org."] (by decide) rootedTeam
  have labels : Domain.Alike "LISTS" "lists." := ⟨1, 0, by decide⟩
  have locals : Domain.AlikeAll ["EXAMPLE.org."] ["example.org", "Example.Org.."] := by
    simp only [Domain.AlikeAll, Domain.alike_iff]
    decide
  have byRoot : Domain.Alike rootedTeam.domain team.domain := ⟨0, 1, by decide⟩
  have readerByRoot : Domain.Alike rootedReader.domain reader.domain := ⟨0, 1, by decide⟩
  exact ⟨team?.1.mpr ⟨"example.org.", by decide, by decide⟩,
    team?.2 "example.org." (by decide) (by decide),
    (insensitive .listsPrefix _ _ _ _ labels locals rootedTeam team byRoot).1,
    (insensitive .anyLocal _ _ _ _ labels locals rootedReader reader readerByRoot).2⟩

end Listmaster
