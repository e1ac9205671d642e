import Listmaster.Directory.Static
import Listmaster.Proofs.Json.Records
import Listmaster.Proofs.Process

/-!
Texts that denote the same address.

A text is divided at its last `@`.  The address that it denotes has the local part as it is written
and the domain in lowercase, and its own text denotes it again.  So the texts of an address are
those with its local part and, in any case of the letters, its domain; and wherever an address is
written, in a question to a directory, in the record of a mail or in JSON, it is read back:
`Address.parse_canonizes`.
-/

namespace Listmaster

theorem Text.sameIgnoringCase_iff_lower {a b : String} :
    sameIgnoringCase a b = true ↔ lower a = lower b := by
  rw [sameIgnoringCase_iff, lower, lower, String.ofList_inj]

namespace Address

open Text

/-- The text is this local part and, after its last `@`, this domain. -/
def Divides (text localPart domain : String) : Prop :=
  text = localPart ++ "@" ++ domain ∧ '@' ∉ domain.toList

variable {text other localPart domain otherPart otherDomain : String} {a b : Address}

theorem divides_iff :
    Divides text localPart domain ↔
      splitLast? '@' text.toList = some (localPart.toList, domain.toList) := by
  constructor
  · rintro ⟨rfl, last⟩
    rw [String.toList_append, String.toList_append, List.append_assoc]
    exact splitLast?_append localPart.toList last
  · intro parts
    refine ⟨?_, not_mem_of_splitLast? parts⟩
    rw [← String.toList_inj, String.toList_append, String.toList_append, List.append_assoc]
    exact eq_append_of_splitLast? parts

theorem Divides.unique (first : Divides text localPart domain)
    (second : Divides text otherPart otherDomain) :
    localPart = otherPart ∧ domain = otherDomain := by
  rw [divides_iff] at first second
  have same := first.symm.trans second
  rw [Option.some.injEq, Prod.mk.injEq, String.toList_inj, String.toList_inj] at same
  exact same

theorem parse_eq_ok_iff : parse text = .ok a ↔ parse? text = some a := by
  unfold parse?
  cases parse text <;> simp [Except.toOption]

theorem exists_divides (accepted : parse text = .ok a) :
    ∃ localPart domain, Divides text localPart domain := by
  rw [parse_eq_ok_iff, parse?_eq_some_iff] at accepted
  have sound := accepted.1
  unfold flaw? at sound
  cases parts : splitLast? '@' text.toList with
  | none =>
      rw [parts] at sound
      split at sound <;> cases sound
  | some pair =>
      refine ⟨String.ofList pair.1, String.ofList pair.2, divides_iff.mpr ?_⟩
      rw [parts, String.toList_ofList, String.toList_ofList]

/-- What is denoted has the local part of the text, and its domain in lowercase. -/
theorem Divides.full (divides : Divides text localPart domain) (accepted : parse text = .ok a) :
    Divides a.full localPart (lower domain) := by
  rw [parse_eq_ok_iff, parse?_eq_some_iff] at accepted
  rw [divides_iff] at divides ⊢
  rw [← accepted.2, splitLast?_canonical divides, lower, String.toList_ofList]

theorem Divides.domain_eq (divides : Divides a.full localPart domain) : a.domain = domain := by
  rw [divides_iff] at divides
  rw [Address.domain, divides]
  exact String.ofList_toList

/-- Two texts denote the same address if they differ at most in the case of their domains. -/
theorem Divides.eq_iff (first : Divides text localPart domain)
    (second : Divides other otherPart otherDomain) (firstAccepted : parse text = .ok a)
    (secondAccepted : parse other = .ok b) :
    a = b ↔ localPart = otherPart ∧ sameIgnoringCase domain otherDomain = true := by
  have firstFull := first.full firstAccepted
  have secondFull := second.full secondAccepted
  rw [sameIgnoringCase_iff_lower]
  constructor
  · rintro rfl
    exact firstFull.unique secondFull
  · rintro ⟨rfl, alike⟩
    apply eq_of_full
    rw [firstFull.1, secondFull.1, alike]

theorem find?_question (directory : StaticDirectory) (r : Resolver) (a : Address) :
    directory.find? (r.question a) =
      (directory.groups.get? a).filter fun group =>
        StaticDirectory.isUnder group.location r.base := by
  unfold StaticDirectory.find? Resolver.question
  simp only [parse?_full, Option.bind_eq_bind, Option.bind_some]
  cases directory.groups.get? a with
  | none => rfl
  | some group => simp [Option.filter]

/-- An accepted text denotes an address whose text is accepted again and denotes the same; its
domain is what follows the last `@`, in lowercase.  Accepted texts denote the same address exactly
if their local parts are the same and their domains differ at most in case.  So an address is read
back from the questions, the records and the JSON that are made of it. -/
theorem parse_canonizes :
    (∀ text a, parse text = .ok a →
      parse a.full = .ok a ∧
        ∃ localPart domain, Divides text localPart domain ∧
          Divides a.full localPart (lower domain) ∧ a.domain = lower domain) ∧
      (∀ text localPart domain a other otherPart otherDomain b,
        Divides text localPart domain → parse text = .ok a →
        Divides other otherPart otherDomain → parse other = .ok b →
          (a = b ↔ localPart = otherPart ∧ sameIgnoringCase domain otherDomain = true)) ∧
      (∀ (a : Address) (directory : StaticDirectory) (r : Resolver),
        directory.find? (r.question a) =
          (directory.groups.get? a).filter fun group =>
            StaticDirectory.isUnder group.location r.base) ∧
      (∀ addresses : List Address,
        LoopGuard.ofValue? (.texts (addresses.map full)) = some ⟨.ofList addresses⟩) ∧
      ∀ a : Address, Json.Denotes ofJson? a.toJson a := by
  refine ⟨?_, ?_, fun a directory r => find?_question directory r a, ?_, denotes⟩
  · intro text a accepted
    obtain ⟨localPart, domain, divides⟩ := exists_divides accepted
    have full := divides.full accepted
    exact ⟨parse_eq_ok_iff.mpr (parse?_full a), localPart, domain, divides, full, full.domain_eq⟩
  · intro text localPart domain a other otherPart otherDomain b first accepted second acceptedToo
    exact first.eq_iff second accepted acceptedToo
  · intro addresses
    rw [LoopGuard.ofValue?_texts, mapM_parse?_full, Option.map_some]

end Address

namespace Sample

/-- The text of the team, with other letters in the domain and an `@` in the local part. -/
def loudTeam : String := "\"team@work\"@Lists.Example.ORG"

def quotedTeam : Address :=
  ⟨"\"team@work\"@lists.example.org", loudTeam.toList, by decide, by decide⟩

end Sample

open Sample in
theorem Address.parse_canonizes_sample :
    Address.parse loudTeam = .ok quotedTeam ∧ Address.parse quotedTeam.full = .ok quotedTeam ∧
      quotedTeam.domain = "lists.example.org" ∧ quotedTeam ≠ team := by
  have loud : Address.parse loudTeam = .ok quotedTeam :=
    Address.parse_eq_ok_iff.mpr (Address.parse?_eq_some_iff.mpr ⟨by decide, by decide⟩)
  have divides : Address.Divides loudTeam "\"team@work\"" "Lists.Example.ORG" :=
    ⟨by decide, by decide⟩
  have plain : Address.Divides team.full "team" "lists.example.org" := ⟨by decide, by decide⟩
  have again := (Address.parse_canonizes.1 loudTeam quotedTeam loud).1
  have apart := Address.parse_canonizes.2.1 _ _ _ _ _ _ _ _ divides loud plain
    (Address.parse_canonizes.1 team.full team (Address.parse_eq_ok_iff.mpr team.parse?_full)).1
  refine ⟨loud, again, rfl, fun same => ?_⟩
  exact absurd (apart.mp same).1 (by decide)

end Listmaster
