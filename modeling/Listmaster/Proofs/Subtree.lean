import Listmaster.Proofs.Process

/-!
Locations as sequences of names.

A location is written as relative names with commas between them, and a comma that belongs to a name
is escaped by a backslash.  A location lies under a base if its last names are those of the base,
in any case.  The directory compares the texts, which comes to the same but where the base begins
inside a name, behind an escaped comma: `StaticDirectory.isUnder_iff`.
-/

namespace Listmaster

namespace Location

/-- Whether every backslash escapes the character behind it, and every comma is escaped. -/
def isEscaped : List Char → Bool
  | [] => true
  | c :: rest =>
      if c = '\\' then
        match rest with
        | [] => false
        | _ :: later => isEscaped later
      else c != ',' && isEscaped rest

/-- The names with commas between them. -/
def joined (names : List (List Char)) : List Char := [','].intercalate names

variable {name other text : List Char} {names others : List (List Char)}

theorem isEscaped_cons {c : Char} (plain : c ≠ '\\') (rest : List Char) :
    isEscaped (c :: rest) = (c != ',' && isEscaped rest) := by
  rw [isEscaped.eq_def]
  simp only [if_neg plain]

theorem isEscaped_append (escaped : isEscaped name = true) (rest : List Char) :
    isEscaped (name ++ rest) = isEscaped rest := by
  fun_induction isEscaped name with
  | case1 => rfl
  | case2 => cases escaped
  | case3 _ later inductionHypothesis => exact inductionHypothesis escaped
  | case4 c later plain inductionHypothesis =>
      rw [Bool.and_eq_true] at escaped
      rw [List.cons_append, isEscaped_cons plain, escaped.1, Bool.true_and]
      exact inductionHypothesis escaped.2

theorem isEscaped_lower (name : List Char) :
    isEscaped (name.map Char.toLower) = isEscaped name := by
  fun_induction isEscaped name with
  | case1 => rfl
  | case2 => rfl
  | case3 _ later inductionHypothesis => exact inductionHypothesis
  | case4 c later plain inductionHypothesis =>
      have plainToo : c.toLower ≠ '\\' := mt (Text.toLower_eq_iff rfl).mp plain
      have comma : (c.toLower != ',') = (c != ',') := by
        simp only [bne, beq_eq_decide, Text.toLower_eq_iff (c := c) (d := ',') rfl]
      rw [List.map_cons, isEscaped_cons plainToo, comma, inductionHypothesis]

/-- A comma in a name stands behind a backslash, and what is before the two and behind them is
escaped. -/
theorem exists_of_comma (escaped : isEscaped name = true) {before after : List Char}
    (parts : name = before ++ ',' :: after) :
    ∃ head, before = head ++ ['\\'] ∧ isEscaped head = true ∧ isEscaped after = true := by
  fun_induction isEscaped name generalizing before with
  | case1 => cases before <;> cases parts
  | case2 => cases escaped
  | case3 c later inductionHypothesis =>
      -- The comma is the escaped character, or behind both.
      rcases before with _ | ⟨first, _ | ⟨second, rest⟩⟩
      · cases parts
      · cases parts
        exact ⟨[], rfl, rfl, escaped⟩
      · cases parts
        obtain ⟨head, rfl, before, after⟩ := inductionHypothesis escaped rfl
        exact ⟨'\\' :: c :: head, rfl, before, after⟩
  | case4 c later plain inductionHypothesis =>
      rw [Bool.and_eq_true, bne_iff_ne] at escaped
      rcases before with _ | ⟨first, rest⟩
      · cases parts
        exact absurd rfl escaped.1
      · cases parts
        obtain ⟨head, rfl, before, after⟩ := inductionHypothesis escaped.2 rfl
        refine ⟨c :: head, rfl, ?_, after⟩
        rw [isEscaped_cons plain, before, Bool.and_true, bne_iff_ne]
        exact escaped.1

variable {names : List (List Char)}

theorem joined_singleton : joined [name] = name := List.intercalate_singleton

theorem joined_cons :
    joined (name :: other :: others) = name ++ ',' :: joined (other :: others) := by
  rw [joined, List.intercalate_cons_cons, List.append_assoc]
  rfl

theorem ne_append_comma (escaped : isEscaped name = true) (escapedToo : isEscaped other = true)
    (rest : List Char) : name ≠ other ++ ',' :: rest := by
  intro parts
  obtain ⟨head, same, before, _⟩ := exists_of_comma escaped parts
  rw [same, isEscaped_append before] at escapedToo
  cases escapedToo

theorem commas_of_same {before behind more after : List Char}
    (same : before ++ ',' :: behind = more ++ ',' :: after) :
    (before = more ∧ behind = after) ∨
      (∃ between, before = more ++ ',' :: between ∧ after = between ++ ',' :: behind) ∨
        ∃ between, more = before ++ ',' :: between ∧ behind = between ++ ',' :: after := by
  induction before generalizing more with
  | nil =>
      rcases more with _ | ⟨c, rest⟩
      · exact .inl ⟨rfl, List.tail_eq_of_cons_eq same⟩
      · obtain ⟨rfl, tails⟩ := List.cons.inj same
        exact .inr (.inr ⟨rest, rfl, tails⟩)
  | cons c rest inductionHypothesis =>
      rcases more with _ | ⟨d, later⟩
      · obtain ⟨rfl, tails⟩ := List.cons.inj same
        exact .inr (.inl ⟨rest, rfl, tails.symm⟩)
      · obtain ⟨rfl, tails⟩ := List.cons.inj same
        simpa only [List.cons_append, List.cons.injEq, true_and] using inductionHypothesis tails

theorem eq_of_append_comma (escaped : isEscaped name = true) (escapedToo : isEscaped other = true)
    {rest more : List Char} (same : name ++ ',' :: rest = other ++ ',' :: more) :
    name = other ∧ rest = more := by
  rcases commas_of_same same with first | ⟨between, longer, _⟩ | ⟨between, longer, _⟩
  · exact first
  · exact absurd longer (ne_append_comma escaped escapedToo between)
  · exact absurd longer (ne_append_comma escapedToo escaped between)

/-- What is written tells the names. -/
theorem eq_of_joined (escaped : ∀ name ∈ names, isEscaped name = true)
    (escapedToo : ∀ name ∈ others, isEscaped name = true) (some : names ≠ [])
    (someToo : others ≠ []) (same : joined names = joined others) : names = others := by
  induction names generalizing others with
  | nil => exact absurd rfl some
  | cons name rest inductionHypothesis =>
      obtain ⟨other, more, rfl⟩ := List.exists_cons_of_ne_nil someToo
      rw [List.forall_mem_cons] at escaped escapedToo
      rcases rest with _ | ⟨second, later⟩ <;> rcases more with _ | ⟨third, last⟩
      · rwa [joined_singleton, joined_singleton, ← List.singleton_inj] at same
      · rw [joined_singleton, joined_cons] at same
        exact absurd same (ne_append_comma escaped.1 escapedToo.1 _)
      · rw [joined_singleton, joined_cons] at same
        exact absurd same.symm (ne_append_comma escapedToo.1 escaped.1 _)
      · rw [joined_cons, joined_cons] at same
        obtain ⟨rfl, tails⟩ := eq_of_append_comma escaped.1 escapedToo.1 same
        rw [inductionHypothesis escaped.2 escapedToo.2 (List.cons_ne_nil second later)
          (List.cons_ne_nil third last) tails]

/-- Behind a comma of what is written stand the last names, or what an escaped comma leaves of a
name and the names behind it. -/
theorem exists_behind_comma (escaped : ∀ name ∈ names, isEscaped name = true)
    {before after : List Char} (parts : joined names = before ++ ',' :: after) :
    (∃ earlier later, names = earlier ++ later ∧ later ≠ [] ∧ after = joined later) ∨
      ∃ earlier head tail later, names = earlier ++ (head ++ '\\' :: ',' :: tail) :: later ∧
        isEscaped tail = true ∧ after = joined (tail :: later) := by
  induction names generalizing before with
  | nil => cases before <;> cases parts
  | cons name rest inductionHypothesis =>
      rw [List.forall_mem_cons] at escaped
      have inside : ∀ {between}, name = before ++ ',' :: between → isEscaped between = true ∧
          ∃ head, name = head ++ '\\' :: ',' :: between := by
        intro between longer
        obtain ⟨head, rfl, _, tail⟩ := exists_of_comma escaped.1 longer
        exact ⟨tail, head, by rw [longer, List.append_assoc]; rfl⟩
      rcases rest with _ | ⟨second, later⟩
      · rw [joined_singleton] at parts
        obtain ⟨tail, head, same⟩ := inside parts
        exact .inr ⟨[], head, after, [], by rw [same]; rfl, tail, joined_singleton.symm⟩
      · rw [joined_cons] at parts
        -- The comma is the first between two names, or it is in the first name, or behind it.
        rcases commas_of_same parts with ⟨_, same⟩ | ⟨between, longer, same⟩ | ⟨between, _, same⟩
        · exact .inl ⟨[name], second :: later, rfl, List.cons_ne_nil second later, same.symm⟩
        · obtain ⟨tail, head, whole⟩ := inside longer
          refine .inr ⟨[], head, between, second :: later, by rw [whole]; rfl, tail, ?_⟩
          rw [same, joined_cons]
        · rcases inductionHypothesis escaped.2 same with
            ⟨earlier, last, all, some, rfl⟩ | ⟨earlier, head, tail, last, all, whole, rfl⟩
          · exact .inl ⟨name :: earlier, last, by rw [all]; rfl, some, rfl⟩
          · exact .inr ⟨name :: earlier, head, tail, last, by rw [all]; rfl, whole, rfl⟩

theorem map_toLower_joined (names : List (List Char)) :
    (joined names).map Char.toLower = joined (names.map (List.map Char.toLower)) := by
  induction names with
  | nil => rfl
  | cons name rest inductionHypothesis =>
      rcases rest with _ | ⟨second, later⟩
      · simp only [joined_singleton, List.map_singleton]
      · rw [joined_cons, List.map_append, List.map_cons, inductionHypothesis]
        exact joined_cons.symm

theorem joined_append (some : names ≠ []) (someToo : others ≠ []) :
    joined (names ++ others) = joined names ++ ',' :: joined others := by
  induction names with
  | nil => exact absurd rfl some
  | cons name rest inductionHypothesis =>
      rcases rest with _ | ⟨second, later⟩
      · obtain ⟨other, more, rfl⟩ := List.exists_cons_of_ne_nil someToo
        rw [joined_singleton, List.singleton_append, joined_cons]
      · rw [List.cons_append, List.cons_append, joined_cons, joined_cons, ← List.cons_append,
          inductionHypothesis (List.cons_ne_nil second later), List.append_assoc]
        rfl

theorem joined_append_cons (head tail : List Char) (later : List (List Char)) :
    joined ((head ++ tail) :: later) = head ++ joined (tail :: later) := by
  rcases later with _ | ⟨second, rest⟩
  · rw [joined_singleton, joined_singleton]
  · rw [joined_cons, joined_cons, List.append_assoc]

end Location

/-- A relative name of a location. -/
structure RelativeName where
  text : String
  isNonempty : text ≠ ""
  isEscaped : Location.isEscaped text.toList = true
  deriving DecidableEq

namespace RelativeName

variable {names others base : List RelativeName}

/-- The name with the letters `A` to `Z` in lowercase. -/
def lower (name : RelativeName) : RelativeName where
  text := Text.lower name.text
  isNonempty := by
    have some := name.isNonempty
    rw [Text.lower, ne_eq, String.ofList_eq_empty_iff, List.map_eq_nil_iff]
    rwa [ne_eq, ← String.toList_eq_nil_iff] at some
  isEscaped := by
    rw [Text.lower, String.toList_ofList, Location.isEscaped_lower]
    exact name.isEscaped

theorem toList_lower (name : RelativeName) :
    name.lower.text.toList = name.text.toList.map Char.toLower := String.toList_ofList

/-- The location that is made of the names. -/
def written (names : List RelativeName) : String := ",".intercalate (names.map text)

/-- The letters of the names. -/
def pieces (names : List RelativeName) : List (List Char) := names.map fun name => name.text.toList

theorem pieces_inj : pieces names = pieces others ↔ names = others := by
  refine List.map_inj_right fun name other same => ?_
  cases name
  cases other
  cases String.toList_inj.mp same
  rfl

theorem isEscaped_of_mem_pieces : ∀ piece ∈ pieces names, Location.isEscaped piece = true := by
  rintro _ here
  obtain ⟨name, _, rfl⟩ := List.mem_map.mp here
  exact name.isEscaped

theorem toList_written (names : List RelativeName) :
    (written names).toList = Location.joined (pieces names) := by
  rw [written, String.toList_intercalate, List.map_map]
  rfl

theorem toLower_written (names : List RelativeName) :
    (written names).toList.map Char.toLower = (written (names.map lower)).toList := by
  rw [toList_written, toList_written, Location.map_toLower_joined, pieces, pieces, List.map_map,
    List.map_map]
  congr 2
  exact funext fun name => name.toList_lower.symm

/-- The base begins inside a name, behind an escaped comma. -/
def BeginsInside (base names : List RelativeName) : Prop :=
  ∃ earlier cut later first head, names = earlier ++ cut :: later ∧ base = first :: later ∧
    cut.text = head ++ "\\," ++ first.text

theorem pieces_ne_nil (some : names ≠ []) : pieces names ≠ [] := mt List.map_eq_nil_iff.mp some

theorem toList_written_eq_nil_iff : (written names).toList = [] ↔ names = [] := by
  constructor
  · intro empty
    rw [toList_written] at empty
    rcases names with _ | ⟨name, _ | ⟨second, later⟩⟩
    · rfl
    · rw [pieces, List.map_singleton, Location.joined_singleton, String.toList_eq_nil_iff] at empty
      exact absurd empty name.isNonempty
    · exact absurd empty (List.append_ne_nil_of_right_ne_nil _ (List.cons_ne_nil _ _))
  · rintro rfl
    rfl

theorem written_inj : (written names).toList = (written others).toList ↔ names = others := by
  refine ⟨fun same => ?_, fun same => by rw [same]⟩
  by_cases none : names = []
  · have empty := toList_written_eq_nil_iff.mpr none
    rw [same, toList_written_eq_nil_iff] at empty
    rw [none, empty]
  · have some : others ≠ [] := by
      rwa [ne_eq, ← toList_written_eq_nil_iff, ← same, toList_written_eq_nil_iff]
    rw [toList_written, toList_written] at same
    exact pieces_inj.mp (Location.eq_of_joined isEscaped_of_mem_pieces isEscaped_of_mem_pieces
      (pieces_ne_nil none) (pieces_ne_nil some) same)

/-- The base stands behind a comma of the location only if its names are the last names there, or
if it begins inside one of the names. -/
theorem suffix_of_behind_comma (some : base ≠ []) {before : List Char}
    (parts : (written names).toList = before ++ ',' :: (written base).toList) :
    base <:+ names ∨ BeginsInside base names := by
  rw [toList_written, toList_written] at parts
  rcases Location.exists_behind_comma isEscaped_of_mem_pieces parts with
    ⟨earlier, later, all, someLater, same⟩ | ⟨earlier, head, tail, later, all, escaped, same⟩
  · obtain ⟨first, last, rfl, rfl, rfl⟩ := List.map_eq_append_iff.mp all
    have whole := Location.eq_of_joined isEscaped_of_mem_pieces isEscaped_of_mem_pieces
      (pieces_ne_nil some) someLater same
    rw [pieces_inj.mp whole]
    exact .inl (List.suffix_append first last)
  · obtain ⟨first, last, rfl, rfl, rest⟩ := List.map_eq_append_iff.mp all
    obtain ⟨cut, behind, rfl, text, rfl⟩ := List.map_eq_cons_iff.mp rest
    have whole := Location.eq_of_joined isEscaped_of_mem_pieces
      (List.forall_mem_cons.mpr ⟨escaped, isEscaped_of_mem_pieces⟩) (pieces_ne_nil some)
      (List.cons_ne_nil _ _) same
    obtain ⟨name, more, rfl, rfl, tails⟩ := List.map_eq_cons_iff.mp whole
    cases pieces_inj.mp tails
    refine .inr ⟨first, cut, behind, name, String.ofList head, rfl, rfl, ?_⟩
    rw [← String.toList_inj, text, String.toList_append, String.toList_append, String.toList_ofList,
      List.append_assoc]
    rfl

theorem exists_before (earlier : List RelativeName) (some : names ≠ []) :
    earlier = [] ∨ ∃ before,
      (written (earlier ++ names)).toList = before ++ ',' :: (written names).toList := by
  by_cases none : earlier = []
  · exact .inl none
  · refine .inr ⟨(written earlier).toList, ?_⟩
    rw [toList_written, toList_written, toList_written, pieces, List.map_append]
    exact Location.joined_append (pieces_ne_nil none) (pieces_ne_nil some)

/-- A base that begins inside a name stands behind the escaped comma. -/
theorem BeginsInside.exists_before (inside : BeginsInside base names) :
    ∃ before, (written names).toList = before ++ ',' :: (written base).toList := by
  obtain ⟨earlier, cut, later, first, head, rfl, rfl, text⟩ := inside
  have last : (written (cut :: later)).toList =
      (head.toList ++ ['\\']) ++ ',' :: (written (first :: later)).toList := by
    have letters : cut.text.toList = (head.toList ++ ['\\', ',']) ++ first.text.toList := by
      rw [text, String.toList_append, String.toList_append]
      rfl
    rw [toList_written, toList_written, pieces, List.map_cons, letters,
      Location.joined_append_cons, List.append_assoc, List.append_assoc]
    rfl
  rcases RelativeName.exists_before earlier (List.cons_ne_nil cut later) with rfl | ⟨before, parts⟩
  · exact ⟨_, last⟩
  · refine ⟨before ++ ',' :: (head.toList ++ ['\\']), ?_⟩
    rw [parts, last, ← List.cons_append, ← List.append_assoc]

end RelativeName

namespace StaticDirectory

open RelativeName

variable {names base : List RelativeName}

theorem isUnder_written :
    isUnder (written names) (written base) = true ↔
      base = [] ∨ names.map lower = base.map lower ∨
        ∃ before, (written (names.map lower)).toList =
          before ++ ',' :: (written (base.map lower)).toList := by
  unfold isUnder
  simp only [toLower_written, Bool.or_eq_true, List.isEmpty_iff, toList_written_eq_nil_iff,
    List.map_eq_nil_iff, beq_iff_eq, written_inj, List.isSuffixOf_iff_suffix, or_assoc]
  exact or_congr_right (or_congr_right (exists_congr fun before => eq_comm))

theorem isUnder_iff_or :
    isUnder (written names) (written base) = true ↔
      base.map lower <:+ names.map lower ∨ BeginsInside (base.map lower) (names.map lower) := by
  rw [isUnder_written]
  by_cases none : base = []
  · subst none
    exact iff_of_true (.inl rfl) (.inl List.nil_suffix)
  · have some : base.map lower ≠ [] := mt List.map_eq_nil_iff.mp none
    constructor
    · rintro (absent | same | ⟨before, parts⟩)
      · contradiction
      · rw [same]
        exact .inl List.suffix_rfl
      · exact suffix_of_behind_comma some parts
    · rintro (⟨earlier, whole⟩ | inside)
      · rw [← whole]
        rcases exists_before earlier some with rfl | behind
        · exact .inr (.inl rfl)
        · exact .inr (.inr behind)
      · exact .inr (.inr inside.exists_before)

theorem not_beginsInside (plain : ∀ name ∈ names, ',' ∉ name.text.toList) :
    ¬ BeginsInside base (names.map lower) := by
  rintro ⟨earlier, cut, later, first, head, whole, _, text⟩
  have here : cut ∈ names.map lower := by
    rw [whole]
    exact List.mem_append_right earlier List.mem_cons_self
  obtain ⟨name, among, rfl⟩ := List.mem_map.mp here
  have comma : ',' ∈ (lower name).text.toList := by
    rw [text, String.toList_append, String.toList_append]
    simp
  rw [toList_lower, List.mem_map] at comma
  obtain ⟨c, inside, same⟩ := comma
  rw [(Text.toLower_eq_iff rfl).mp same] at inside
  exact plain name among inside

theorem find?_eq_some_iff {directory : StaticDirectory} {question : Lookup} {group : Group} :
    directory.find? question = some group ↔
      (∃ address, Address.parse? question.value = some address ∧
        directory.groups.get? address = some group) ∧
        isUnder group.location question.base = true := by
  unfold find?
  simp only [Option.bind_eq_bind, Option.bind_eq_some_iff, Option.ite_none_right_eq_some,
    Option.some.injEq]
  constructor
  · rintro ⟨address, denotes, _, held, under, rfl⟩
    exact ⟨⟨address, denotes, held⟩, under⟩
  · rintro ⟨⟨address, denotes, held⟩, under⟩
    exact ⟨address, denotes, group, held, under, rfl⟩

/-- A location lies under a base exactly if the names of the base are its last names in any case,
or if the base begins inside a name of it, behind an escaped comma.  Where no name has a comma,
this is the subtree of the base, and what a question is answered with are the groups of the
address there. -/
theorem isUnder_iff (names : List RelativeName) :
    (∀ base : List RelativeName,
      isUnder (written names) (written base) = true ↔
        base.map lower <:+ names.map lower ∨ BeginsInside (base.map lower) (names.map lower)) ∧
      ((∀ name ∈ names, ',' ∉ name.text.toList) →
        (∀ base : List RelativeName,
          isUnder (written names) (written base) = true ↔ base.map lower <:+ names.map lower) ∧
          ∀ (directory : StaticDirectory) (question : Lookup) (group : Group)
            (base : List RelativeName),
            group.location = written names → question.base = written base →
              (directory.find? question = some group ↔
                (∃ address, Address.parse? question.value = some address ∧
                  directory.groups.get? address = some group) ∧
                  base.map lower <:+ names.map lower)) := by
  refine ⟨fun base => isUnder_iff_or, fun plain => ?_⟩
  have subtree : ∀ base : List RelativeName,
      isUnder (written names) (written base) = true ↔ base.map lower <:+ names.map lower := by
    intro base
    rw [isUnder_iff_or, or_iff_left (not_beginsInside plain)]
  refine ⟨subtree, fun directory question group base location asked => ?_⟩
  rw [find?_eq_some_iff, location, asked, subtree]

end StaticDirectory

namespace Sample

def organization : RelativeName := ⟨"dc=org", by decide, by decide +kernel⟩

def exampleDomain : RelativeName := ⟨"DC=Example", by decide, by decide +kernel⟩

def teamName : RelativeName := ⟨"cn=team", by decide, by decide +kernel⟩

/-- A name whose value is `team,dc=example`. -/
def oddName : RelativeName := ⟨"cn=team\\,dc=example", by decide, by decide +kernel⟩

def locatedGroup (names : List RelativeName) : Group := { openGroup [reader] with
  location := RelativeName.written names }

/-- A directory with one group, which is at this place. -/
def teamAt (names : List RelativeName) : StaticDirectory :=
  StaticDirectory.empty.withGroup team (locatedGroup names)

/-- The question for the team under this place. -/
def teamUnder (base : List RelativeName) : Lookup :=
  ⟨RelativeName.written base, "mail", "team@lists.example.org"⟩

end Sample

open Sample RelativeName in
theorem StaticDirectory.isUnder_iff_sample :
    (∀ name ∈ [teamName, exampleDomain, organization], ',' ∉ name.text.toList) ∧
      (teamAt [teamName, exampleDomain, organization]).find?
        (teamUnder [exampleDomain, organization]) =
          some (locatedGroup [teamName, exampleDomain, organization]) := by
  have plain : ∀ name ∈ [teamName, exampleDomain, organization], ',' ∉ name.text.toList := by
    decide
  have answered := ((isUnder_iff _).2 plain).2 (teamAt [teamName, exampleDomain, organization])
    (teamUnder [exampleDomain, organization]) (locatedGroup [teamName, exampleDomain, organization])
    [exampleDomain, organization] rfl rfl
  refine ⟨plain, answered.mpr ⟨⟨team, by decide, ?_⟩, [lower teamName], rfl⟩⟩
  exact SortedMap.get?_insert_self _ _ _

open Sample RelativeName in
/-- The base is taken for the end of a location that has the domain in a name. -/
theorem StaticDirectory.find?_outside :
    (teamAt [oddName, organization]).find? (teamUnder [exampleDomain, organization]) =
        some (locatedGroup [oddName, organization]) ∧
      ¬ [exampleDomain, organization].map lower <:+ [oddName, organization].map lower := by
  constructor
  · decide +kernel
  · decide +kernel

end Listmaster
