import Listmaster.Proofs.Process

/-!
Which senders are local, and which are in the domain of a list.

A local domain is compared with the domain of a sender without the dots at its end, the domain
that a list serves with the whole domain of a sender.  So the two notions agree on all senders
but those whose domain ends with a dot, who are in no domain at all
(`Address.isInDomain_iff`): `Service.isLocal_iff_isInDomain`.
-/

namespace Listmaster

namespace Domain

/-- The two texts write the same domain, in any case and with or without dots at the end. -/
def Same (a b : String) : Prop := normalize a = normalize b

instance (a b : String) : Decidable (Same a b) :=
  inferInstanceAs (Decidable (normalize a = normalize b))

theorem toList_normalize (domain : String) :
    (normalize domain).toList = (Text.trimEnd (· = '.') domain.toList).map Char.toLower :=
  String.toList_ofList

theorem decide_toLower_dot (c : Char) : decide (c.toLower = '.') = decide (c = '.') :=
  decide_eq_decide.mpr (Text.toLower_eq_iff rfl)

@[simp]
theorem normalize_normalize (domain : String) : normalize (normalize domain) = normalize domain := by
  rw [← String.toList_inj, toList_normalize, toList_normalize, Text.trimEnd_map decide_toLower_dot,
    Text.trimEnd_trimEnd, Text.map_toLower_map_toLower]

theorem getLast?_normalize (domain : String) : (normalize domain).toList.getLast? ≠ some '.' := by
  rw [← Text.trimEnd_eq_self_iff, toList_normalize, Text.trimEnd_map decide_toLower_dot,
    Text.trimEnd_trimEnd]

end Domain

namespace Address

/-- The domain of the address ends with a dot. -/
def IsRooted (a : Address) : Prop := a.domain.toList.getLast? = some '.'

instance (a : Address) : Decidable a.IsRooted :=
  inferInstanceAs (Decidable (a.domain.toList.getLast? = some '.'))

theorem map_toLower_domain (a : Address) :
    a.domain.toList.map Char.toLower = a.domain.toList := by
  obtain ⟨s, _, denotes⟩ := a.isCanonical
  unfold domain
  rw [← denotes]
  cases parts : Text.splitLast? '@' s with
  | none =>
      have same : canonical s = s := by simp [canonical, parts]
      rw [same, parts]
      rfl
  | some pair =>
      obtain ⟨localPart, host⟩ := pair
      simp only [splitLast?_canonical parts, String.toList_ofList, Text.map_toLower_map_toLower]

theorem normalize_domain (a : Address) : Domain.normalize a.domain = Domain.withoutRoot a.domain := by
  unfold Domain.normalize Domain.withoutRoot
  rw [← Text.trimEnd_map Domain.decide_toLower_dot, map_toLower_domain]

/-- An address whose domain ends with a dot is in no domain. -/
theorem isInDomain_iff {a : Address} {domain : String} :
    a.isInDomain domain = true ↔ Domain.Same a.domain domain ∧ ¬ a.IsRooted := by
  have whole : a.isInDomain domain = true ↔ a.domain = Domain.normalize domain := by
    unfold isInDomain
    rw [Text.sameIgnoringCase_iff, map_toLower_domain, ← String.toList_inj, Domain.toList_normalize,
      Domain.withoutRoot, String.toList_ofList]
  rw [whole]
  constructor
  · intro same
    unfold Domain.Same IsRooted
    rw [same]
    exact ⟨Domain.normalize_normalize domain, Domain.getLast?_normalize domain⟩
  · rintro ⟨same, plain⟩
    rw [← same, normalize_domain, Domain.withoutRoot, Text.trimEnd_eq_self_iff.mpr plain,
      String.ofList_toList]

end Address

namespace Classifier

theorem isLocal_make_iff {predicate : Predicate} {label : String} {domains : List String}
    {a : Address} :
    (make predicate label domains).isLocal a = true ↔
      ∃ domain ∈ domains, Domain.Same a.domain domain := by
  unfold isLocal make Domain.Same
  rw [SortedSet.contains_iff, SortedSet.mem_ofList, List.mem_map, Address.normalize_domain]
  simp only [eq_comm]

end Classifier

namespace Service

section Allowed

variable {m : Type → Type} [Monad m] (service : Service) (sender : Option Address) (list : Address)
  (membership : Membership m)

theorem isAllowed_internal :
    service.authorization.isAllowed .internal (service.posting sender list) membership =
      pure (sender.any service.resolver.classifier.isLocal) := by
  cases sender <;> rfl

theorem isAllowed_domainRestricted :
    service.authorization.isAllowed .domainRestricted (service.posting sender list) membership =
      pure (sender.any fun author =>
        author.isInDomain (service.resolver.classifier.servingDomain list)) := by
  cases sender <;> rfl

end Allowed

/-- A sender is in a local domain if he is local and his domain does not end with a dot.  Where
the domain that a list serves is the only local one, the list may be posted to by the same
senders whether it is internal or restricted to its domain, but for those whose domain ends with
a dot: if it is restricted, all of them are refused. -/
theorem isLocal_iff_isInDomain (service : Service) (predicate : Classifier.Predicate)
    (label : String) (domains : List String)
    (made : service.resolver.classifier = .make predicate label domains) :
    (∀ sender,
      (service.resolver.classifier.isLocal sender = true ↔
        ∃ domain ∈ domains, Domain.Same sender.domain domain) ∧
      (∀ domain, sender.isInDomain domain = true ↔
        Domain.Same sender.domain domain ∧ ¬ sender.IsRooted) ∧
      ((∃ domain ∈ domains, sender.isInDomain domain = true) ↔
        service.resolver.classifier.isLocal sender = true ∧ ¬ sender.IsRooted)) ∧
    ∀ list, service.resolver.classifier.localDomains =
        .singleton (Domain.normalize (service.resolver.classifier.servingDomain list)) →
      ∀ sender (m : Type → Type) [Monad m] (membership : Membership m),
        service.authorization.isAllowed .domainRestricted (service.posting sender list)
            membership =
          if sender.any (fun author => author.IsRooted) then pure false
          else service.authorization.isAllowed .internal (service.posting sender list)
            membership := by
  have isLocal (sender : Address) : service.resolver.classifier.isLocal sender = true ↔
      ∃ domain ∈ domains, Domain.Same sender.domain domain := by
    rw [made, Classifier.isLocal_make_iff]
  constructor
  · intro sender
    refine ⟨isLocal sender, fun _ => Address.isInDomain_iff, ?_⟩
    simp only [isLocal, Address.isInDomain_iff, ← and_assoc, exists_and_right]
  · intro list only sender m _ membership
    rw [isAllowed_internal, isAllowed_domainRestricted]
    cases sender with
    | none => rfl
    | some author =>
        have isServed : service.resolver.classifier.isLocal author = true ↔
            Domain.Same author.domain (service.resolver.classifier.servingDomain list) := by
          rw [Classifier.isLocal, only, SortedSet.contains_iff, SortedSet.mem_singleton,
            ← Address.normalize_domain, Domain.Same]
        by_cases rooted : author.IsRooted
        · have refused : author.isInDomain (service.resolver.classifier.servingDomain list) =
              false := by
            rw [← Bool.not_eq_true, Address.isInDomain_iff]
            exact fun inside => inside.2 rooted
          simp [rooted, refused]
        · have same : author.isInDomain (service.resolver.classifier.servingDomain list) =
              service.resolver.classifier.isLocal author := by
            rw [Bool.eq_iff_iff, Address.isInDomain_iff, isServed]
            simp [rooted]
          simp [rooted, same]

end Service

namespace Sample

/-- The reader, under the same domain with a dot at its end. -/
def rootedReader : Address :=
  ⟨"reader@example.org.", "reader@example.org.".toList, by decide, by decide⟩

end Sample

open Sample in
theorem Service.isLocal_iff_isInDomain_sample :
    service.resolver.classifier.isLocal reader = true ∧ reader.isInDomain "Example.org." = true ∧
      service.authorization.isAllowed .domainRestricted (service.posting (some reader) team)
          ⟨some ∅, some ∅⟩ =
        service.authorization.isAllowed .internal (service.posting (some reader) team)
          ⟨some ∅, some ∅⟩ := by
  obtain ⟨each, restricted⟩ :=
    Service.isLocal_iff_isInDomain service .listsPrefix "lists" ["example.org"] rfl
  refine ⟨(each reader).1.mpr ⟨"example.org", by decide, rfl⟩,
    ((each reader).2.1 "Example.org.").mpr ⟨by decide, by decide⟩, ?_⟩
  exact restricted team (by decide) (some reader) Option ⟨some ∅, some ∅⟩

open Sample in
/-- A local sender who is in no local domain, and may post to a list that is internal but not if
it is restricted to the domain that it serves. -/
theorem Service.isAllowed_of_rooted :
    service.resolver.classifier.localDomains =
        .singleton (Domain.normalize (service.resolver.classifier.servingDomain team)) ∧
      service.resolver.classifier.isLocal rootedReader = true ∧
      (¬ ∃ domain ∈ ["example.org"], rootedReader.isInDomain domain = true) ∧
      service.authorization.isAllowed .internal (service.posting (some rootedReader) team)
        ⟨some ∅, some ∅⟩ = some true ∧
      service.authorization.isAllowed .domainRestricted
        (service.posting (some rootedReader) team) ⟨some ∅, some ∅⟩ = some false := by
  decide

end Listmaster
