import Listmaster.Proofs.Idempotence
import Listmaster.Proofs.Survey.Whole

/-!
What a run delivers where nothing is in its way.

`Service.Roomy` says that the directory answers, and that the limits leave room for a region
of addresses.  If the sender is welcome to all lists, a run delivers the mail to what its
recipients reach past the recorded groups, and records the groups among that:
`process_delivers`.
-/

namespace Listmaster

namespace Service

/-- The sender may post to the group, whoever its members and owners are. -/
def Welcomes (service : Service) (sender : Option Address) (list : Address) (group : Group) :
    Prop :=
  match service.policy group with
  | some .everyone => True
  | some .internal | some .anyLocal =>
      ∃ author, sender = some author ∧ service.resolver.classifier.isLocal author = true
  | some .domainRestricted =>
      ∃ author, sender = some author ∧
        author.isInDomain (service.resolver.classifier.servingDomain list) = true
  | _ => False

/-- Lookups do not fail, and the limits leave room for the region. -/
structure Roomy (service : Service) (near : Address → Prop) (groups others : AddressSet) :
    Prop where
  answers : ∀ x, ∃ known, service.resolver.groupAt x = .ok known
  region : Region service.resolver.groupAt near groups others
  depth : groups.size ≤ service.limits.depth
  members : others.size ≤ service.limits.members

/-- The address gets a mail to these recipients. -/
def Delivers (service : Service) (guard : LoopGuard) (recipients : List Address) (x : Address) :
    Prop :=
  (x ∈ recipients ∧ service.resolver.classifier.isCandidate x = false) ∨
    (service.resolver.groupAt x = .ok none ∧
      ∃ recipient ∈ recipients, Reaches service.resolver.groupAt guard recipient x)

variable {service : Service} {sender : Option Address} {guard : LoopGuard}
  {near : Address → Prop} {groups others : AddressSet} {list x : Address} {group : Group}

theorem accepts_of_welcomes (guard : LoopGuard)
    (welcome : service.Welcomes sender list group) :
    service.accepts sender guard list group = .ok true := by
  unfold Welcomes at welcome
  unfold accepts
  cases policy : service.policy group with
  | none => simp [policy] at welcome
  | some category =>
      simp only [policy] at welcome
      cases category with
      | everyone => rfl
      | internal | anyLocal | domainRestricted =>
          obtain ⟨author, rfl, holds⟩ := welcome
          exact congrArg Except.ok holds
      | memberRestricted | ownerRestricted | unrecognized => cases welcome

namespace Roomy

variable (roomy : service.Roomy near groups others)
include roomy

theorem seen_iff {survey : Survey} (here : near list)
    (expands : service.Expands sender guard list survey) :
    survey.Seen x ↔
      x ∈ guard.recorded ∨ Reaches service.resolver.groupAt guard list x := by
  obtain ⟨group, fresh, answer, _, gathered⟩ := expands
  have depth := roomy.depth
  exact (Survey.explore_eq_ok_iff.mp gathered).seen_iff roomy.region roomy.members (by omega) fresh
    here answer

theorem expands_of_welcomes (fresh : ¬ list ∈ guard.recorded)
    (answer : service.resolver.groupAt list = .ok (some group))
    (welcome : service.Welcomes sender list group) :
    ∃ survey, service.Expands sender guard list survey := by
  obtain ⟨survey, gathered⟩ := Survey.explore_total roomy.answers service.limits.members
    (service.limits.depth - 1) group.members.toList (.start (guard.record list))
  exact ⟨survey, group, fresh, answer, accepts_of_welcomes _ welcome, gathered⟩

end Roomy

/-- The recipients of a mail are in the region, and the sender is welcome to those that are
lists. -/
def Admits (service : Service) (near : Address → Prop) (sender : Option Address)
    (recipients : List Address) : Prop :=
  ∀ recipient ∈ recipients, near recipient ∧
    ∀ group, service.resolver.groupAt recipient = .ok (some group) →
      service.Welcomes sender recipient group

theorem groupAt_of_stays (stays : service.Stays guard x) :
    service.resolver.groupAt x = .ok none := by
  cases candidate : service.resolver.classifier.isCandidate x with
  | false => exact Resolver.groupAt_of_not_candidate candidate
  | true => exact (stays candidate).2

theorem Roomy.stays_or_expands (roomy : service.Roomy near groups others)
    {recipients : List Address} (admits : service.Admits near sender recipients)
    {recipient : Address} (here : recipient ∈ recipients)
    (fresh : ¬ recipient ∈ guard.recorded) :
    service.Stays guard recipient ∨
      ∃ survey, service.Expands sender guard recipient survey ∧
        ∀ x, survey.Seen x ↔
          x ∈ guard.recorded ∨ Reaches service.resolver.groupAt guard recipient x := by
  obtain ⟨inside, welcome⟩ := admits recipient here
  obtain ⟨known, answer⟩ := roomy.answers recipient
  cases known with
  | none => exact .inl fun _ => ⟨fresh, answer⟩
  | some group =>
      obtain ⟨survey, expands⟩ := roomy.expands_of_welcomes fresh answer (welcome group answer)
      exact .inr ⟨survey, expands, fun x => roomy.seen_iff inside expands⟩

variable {mail : Mail} {copy : Option Mail}

theorem Roomy.process_succeeds (roomy : service.Roomy near groups others)
    (admits : service.Admits near mail.sender mail.addresses) :
    ∃ copy, (service.process mail).outcome = .ok copy := by
  apply Service.process_succeeds
  intro recipient here
  by_cases recorded : recipient ∈ (LoopGuard.load mail).recorded
  · cases candidate : service.resolver.classifier.isCandidate recipient with
    | false => exact ⟨_, verdict_eq_ok_iff.mpr (.other candidate)⟩
    | true => exact ⟨_, verdict_eq_ok_iff.mpr (.recorded candidate recorded)⟩
  · rcases roomy.stays_or_expands admits here recorded with stays | ⟨survey, expands, _⟩
    · exact ⟨_, verdict_keep_iff.mpr ⟨stays, rfl⟩⟩
    · exact ⟨_, verdict_expand_iff.mpr ⟨survey, expands, rfl, rfl⟩⟩

section Success

variable (roomy : service.Roomy near groups others)
  (admits : service.Admits near mail.sender mail.addresses)
  (succeeded : (service.process mail).outcome = .ok copy) (x : Address)
include roomy admits succeeded

/-- A run delivers the mail to what its recipients reach. -/
theorem Roomy.mem_addresses_process :
    x ∈ (service.process mail).mail.addresses ↔
      service.Delivers (.load mail) mail.addresses x := by
  rw [Service.mem_addresses_process succeeded x]
  constructor
  · rintro (⟨here, stays⟩ | ⟨list, here, survey, expands, found⟩)
    · cases candidate : service.resolver.classifier.isCandidate x with
      | false => exact .inl ⟨here, candidate⟩
      | true =>
          obtain ⟨fresh, leaf⟩ := stays candidate
          exact .inr ⟨leaf, x, here, .self fresh⟩
    · obtain ⟨fresh, leaf⟩ := expands.leaf_of_found found
      rcases (roomy.seen_iff (admits list here).1 expands).mp (.inl found) with recorded | reaches
      · exact absurd recorded fresh
      · exact .inr ⟨leaf, list, here, reaches⟩
  · rintro (⟨here, other⟩ | ⟨leaf, recipient, here, reaches⟩)
    · exact .inl ⟨here, fun candidate => by simp [other] at candidate⟩
    · rcases roomy.stays_or_expands admits here reaches.start_fresh with
        stays | ⟨survey, expands, seen⟩
      · have same := reaches.eq_of_leaf (groupAt_of_stays stays)
        subst same
        exact .inl ⟨here, stays⟩
      · refine .inr ⟨recipient, here, survey, expands, ?_⟩
        rcases (seen x).mpr (.inr reaches) with found | recorded
        · exact found
        · rcases expands.group_of_recorded recorded with before | ⟨group, isGroup⟩
          · exact absurd before reaches.end_fresh
          · rw [leaf] at isGroup
            cases isGroup

/-- A run records the groups that its recipients reach. -/
theorem Roomy.mem_load_process :
    x ∈ (LoopGuard.load (service.process mail).mail).recorded ↔
      x ∈ (LoopGuard.load mail).recorded ∨
        ((∃ group, service.resolver.groupAt x = .ok (some group)) ∧
          ∃ recipient ∈ mail.addresses,
            Reaches service.resolver.groupAt (.load mail) recipient x) := by
  rw [Service.mem_load_process succeeded x]
  constructor
  · rintro (before | ⟨list, here, survey, expands, recorded⟩)
    · exact .inl before
    · rcases expands.group_of_recorded recorded with before | isGroup
      · exact .inl before
      · rcases (roomy.seen_iff (admits list here).1 expands).mp (.inr recorded) with
          before | reaches
        · exact .inl before
        · exact .inr ⟨isGroup, list, here, reaches⟩
  · rintro (before | ⟨⟨group, isGroup⟩, recipient, here, reaches⟩)
    · exact .inl before
    · rcases roomy.stays_or_expands admits here reaches.start_fresh with
        stays | ⟨survey, expands, seen⟩
      · have same := reaches.eq_of_leaf (groupAt_of_stays stays)
        subst same
        rw [groupAt_of_stays stays] at isGroup
        cases isGroup
      · refine .inr ⟨recipient, here, survey, expands, ?_⟩
        rcases (seen x).mpr (.inr reaches) with found | recorded
        · rw [(expands.leaf_of_found found).2] at isGroup
          cases isGroup
        · exact recorded

end Success

end Service

end Listmaster
