import Listmaster.Proofs.Independence
import Listmaster.Proofs.Occurrences

/-!
No recipient is lost, doubled or leaked.

`Service.Conserves` compares the continuing mail with the mail before.  Recipients that are
not treated as lists keep their occurrences.  Whoever else gets the mail gets it once, and
because of a list to which the sender may post; what is behind such a list gets it.
-/

namespace Listmaster

namespace Service

/-- The directory knows a group at an address that may be a list. -/
def IsList (service : Service) (x : Address) : Prop :=
  service.resolver.classifier.isCandidate x = true ∧
    ∃ group, service.lookup x = .ok (some group)

/-- The address is no list, and none that was expanded before. -/
def IsPlain (service : Service) (guard : LoopGuard) (x : Address) : Prop :=
  ¬ service.IsList x ∧
    ¬ (service.resolver.classifier.isCandidate x = true ∧ x ∈ guard.recorded)

/-- The sender may post to the list, which was not expanded before, and these are the addresses
behind it. -/
def Distributes (service : Service) (sender : Option Address) (guard : LoopGuard)
    (list : Address) (members : AddressSet) : Prop :=
  service.resolver.classifier.isCandidate list = true ∧ ¬ list ∈ guard.recorded ∧
    ∃ group, service.lookup list = .ok (some group) ∧
      service.MayPost sender guard list group ∧
      service.behind group.members (guard.record list) = .ok members

/-- What became of the recipients of a mail: after it, `after` goes on, and perhaps a copy. -/
structure Conserves (service : Service) (mail after : Mail) (copy : Option Mail) : Prop where
  noList : ∀ x ∈ after.addresses, ¬ service.IsList x
  apart : ∀ rejected, copy = some rejected → ∀ x ∈ after.addresses, ¬ x ∈ rejected.addresses
  kept : ∀ x ∈ mail.addresses, service.IsPlain (.load mail) x →
    after.addresses.count x = mail.addresses.count x
  once : ∀ x ∈ after.addresses, ¬ (x ∈ mail.addresses ∧ service.IsPlain (.load mail) x) →
    after.addresses.count x = 1 ∧
      ∃ list ∈ mail.addresses, ∃ members,
        service.Distributes mail.sender (.load mail) list members ∧ x ∈ members
  whole : ∀ list ∈ mail.addresses, ∀ members,
    service.Distributes mail.sender (.load mail) list members →
      ∀ x ∈ members, x ∈ after.addresses

variable {service : Service} {mail : Mail} {copy : Option Mail} {x list : Address}
  {guard : LoopGuard}

theorem isList_iff :
    service.IsList x ↔ ∃ group, service.resolver.groupAt x = .ok (some group) := by
  constructor
  · rintro ⟨candidate, group, answer⟩
    exact ⟨group, (groupAt_eq_lookup candidate).trans answer⟩
  · rintro ⟨group, answer⟩
    have candidate := Resolver.isCandidate_of_groupAt answer
    exact ⟨candidate, group, (groupAt_eq_lookup candidate).symm.trans answer⟩

theorem not_isList_of_groupAt (leaf : service.resolver.groupAt x = .ok none) :
    ¬ service.IsList x := by
  rw [isList_iff]
  rintro ⟨group, answer⟩
  rw [leaf] at answer
  cases answer

theorem Stays.isPlain (stays : service.Stays guard x) : service.IsPlain guard x := by
  constructor
  · intro isList
    exact not_isList_of_groupAt (stays isList.1).2 isList
  · rintro ⟨candidate, recorded⟩
    exact (stays candidate).1 recorded

theorem IsPlain.stays {sender : Option Address} {decision : Decision}
    (plain : service.IsPlain guard x)
    (decided : service.verdict sender guard x = .ok decision) : service.Stays guard x := by
  intro candidate
  cases judges_of_verdict decided with
  | other other =>
      rw [candidate] at other
      cases other
  | recorded _ recorded => exact absurd ⟨candidate, recorded⟩ plain.2
  | noGroup _ fresh answer => exact ⟨fresh, answer⟩
  | accepted _ answer => exact absurd (isList_iff.mpr ⟨_, answer⟩) plain.1
  | refused _ answer => exact absurd (isList_iff.mpr ⟨_, answer⟩) plain.1

theorem distributes_iff_expands {sender : Option Address} {decision : Decision}
    (decided : service.verdict sender guard list = .ok decision) (members : AddressSet) :
    service.Distributes sender guard list members ↔
      ∃ survey, service.Expands sender guard list survey ∧ survey.found = members := by
  constructor
  · intro distributes
    obtain ⟨outcome, records⟩ := decision
    have expanded : outcome = .expand members :=
      ((settles_of_verdict decided).expand members).mpr distributes
    subst expanded
    obtain ⟨survey, expands, found, _⟩ := verdict_expand_iff.mp decided
    exact ⟨survey, expands, found⟩
  · rintro ⟨survey, expands, found⟩
    have expanded := verdict_expand_iff.mpr ⟨survey, expands, found, rfl⟩
    exact ((settles_of_verdict expanded).expand members).mp rfl

section Success

variable (succeeded : (service.process mail).outcome = .ok copy)
include succeeded

/-- The directory knows no group at the addresses of the continuing mail. -/
theorem groupAt_of_mem_process (after : x ∈ (service.process mail).mail.addresses) :
    service.resolver.groupAt x = .ok none := by
  cases candidate : service.resolver.classifier.isCandidate x with
  | false => exact Resolver.groupAt_of_not_candidate candidate
  | true =>
      rcases (mem_addresses_process succeeded x).mp after with
        ⟨_, stays⟩ | ⟨list, _, survey, expands, found⟩
      · exact (stays candidate).2
      · exact (expands.leaf_of_found found).2

theorem stays_iff_isPlain (here : x ∈ mail.addresses) :
    service.Stays (.load mail) x ↔ service.IsPlain (.load mail) x := by
  obtain ⟨decision, decided⟩ := verdict_of_process succeeded here
  exact ⟨Stays.isPlain, fun plain => plain.stays decided⟩

end Success

/-- A run that succeeds neither loses, doubles nor leaks a recipient. -/
theorem process_conserves (service : Service) (mail : Mail) (copy : Option Mail)
    (succeeded : (service.process mail).outcome = .ok copy) :
    service.Conserves mail (service.process mail).mail copy where
  noList x after := not_isList_of_groupAt (groupAt_of_mem_process succeeded after)
  apart rejected same x after here := by
    obtain ⟨_, records, refused⟩ := (mem_addresses_copy succeeded x).mp ⟨rejected, same, here⟩
    cases judges_of_verdict refused with
    | refused _ answer =>
        rw [groupAt_of_mem_process succeeded after] at answer
        cases answer
  kept x here plain :=
    count_process_of_stays succeeded here ((stays_iff_isPlain succeeded here).mpr plain)
  once x after other := by
    have moved : ¬ (x ∈ mail.addresses ∧ service.Stays (.load mail) x) := fun stayed =>
      other ⟨stayed.1, (stays_iff_isPlain succeeded stayed.1).mp stayed.2⟩
    refine ⟨count_process_of_not_stays succeeded after moved, ?_⟩
    rcases (mem_addresses_process succeeded x).mp after with
      stayed | ⟨list, here, survey, expands, found⟩
    · exact absurd stayed moved
    · obtain ⟨decision, decided⟩ := verdict_of_process succeeded here
      exact ⟨list, here, survey.found,
        (distributes_iff_expands decided survey.found).mpr ⟨survey, expands, rfl⟩, found⟩
  whole list here members distributes x among := by
    obtain ⟨decision, decided⟩ := verdict_of_process succeeded here
    obtain ⟨survey, expands, same⟩ := (distributes_iff_expands decided members).mp distributes
    rw [← same] at among
    exact (mem_addresses_process succeeded x).mpr (.inr ⟨list, here, survey, expands, among⟩)

theorem process_conserves_sample :
    (Sample.office.process Sample.circular).outcome =
        .ok (some (Sample.circular.duplicate [.ofAddress Sample.board] .failed)) ∧
      Sample.office.Conserves Sample.circular (Sample.office.process Sample.circular).mail
        (some (Sample.circular.duplicate [.ofAddress Sample.board] .failed)) :=
  ⟨Sample.outcome_circular,
    process_conserves Sample.office Sample.circular _ Sample.outcome_circular⟩

end Service

end Listmaster
