import Listmaster.Proofs.Delivery

/-!
A mail processed part by part.

The recipients of a mail may be handed to the service in parts, each added to what the last
run left.  A group that an earlier part recorded is cut in the later ones, but all that
lies behind it has the mail already: `Delivers.append_iff`.  So the parts reach the
addresses that a single run reaches.
-/

namespace Listmaster

/-- The mail with more recipients. -/
def Mail.withMore (mail : Mail) (part : List Recipient) : Mail :=
  { mail with recipients := mail.recipients ++ part }

/-- The mail without recipients. -/
def Mail.withoutRecipients (mail : Mail) : Mail := { mail with recipients := [] }

namespace Service

/-- Process a mail again and again, each time with one more part of its recipients. -/
def processInParts (service : Service) (mail : Mail) :
    List (List Recipient) → Except ServiceError Mail
  | [] => .ok mail
  | part :: rest =>
      let run := service.process (mail.withMore part)
      match run.outcome with
      | .error error => .error error
      | .ok _ => service.processInParts run.mail rest

/-- The address is a recipient, or lies behind one. -/
def Near (service : Service) (mail : Mail) (x : Address) : Prop :=
  ∃ recipient ∈ mail.addresses, Reaches service.resolver.groupAt .empty recipient x

/-- The directory never fails, the sender may post to every list among the recipients
whoever its members and owners are, and the limits leave room for the groups and for the
other addresses behind the recipients. -/
structure Suits (service : Service) (mail : Mail) (groups others : AddressSet) : Prop where
  answers : ∀ question, ∃ known, (service.resolver.directory question).outcome = .ok known
  welcome : ∀ list ∈ mail.addresses, ∀ group,
    service.resolver.groupAt list = .ok (some group) → service.Welcomes mail.sender list group
  group : ∀ x group, service.Near mail x → service.resolver.groupAt x = .ok (some group) →
    x ∈ groups
  other : ∀ x, service.Near mail x → service.resolver.groupAt x = .ok none → x ∈ others
  depth : groups.size ≤ service.limits.depth
  members : others.size ≤ service.limits.members

variable {service : Service} {mail : Mail} {near : Address → Prop} {groups others : AddressSet}
  {guard larger : LoopGuard} {recipients later : List Address} {x y : Address}

theorem near_of_mem (here : x ∈ mail.addresses) : service.Near mail x :=
  ⟨x, here, .self (LoopGuard.not_mem_empty x)⟩

theorem Suits.roomy (suits : service.Suits mail groups others) :
    service.Roomy (service.Near mail) groups others where
  answers := Resolver.groupAt_total suits.answers
  region := {
    closed := by
      rintro list group member ⟨recipient, here, reaches⟩ found inside
      refine ⟨recipient, here, reaches.trans ?_⟩
      exact .member (LoopGuard.not_mem_empty list) found inside
        (.self (LoopGuard.not_mem_empty member))
    group := suits.group
    other := suits.other }
  depth := suits.depth
  members := suits.members

theorem Suits.admits (suits : service.Suits mail groups others) :
    service.Admits (service.Near mail) mail.sender mail.addresses :=
  fun recipient here => ⟨near_of_mem here, suits.welcome recipient here⟩

theorem delivers_of_stays (stay : ∀ recipient ∈ recipients, service.Stays guard recipient) :
    service.Delivers guard recipients x ↔ x ∈ recipients := by
  constructor
  · rintro (⟨here, _⟩ | ⟨_, recipient, here, reaches⟩)
    · exact here
    · exact reaches.eq_of_leaf (groupAt_of_stays (stay recipient here)) ▸ here
  · intro here
    cases candidate : service.resolver.classifier.isCandidate x with
    | false => exact .inl ⟨here, candidate⟩
    | true =>
        obtain ⟨fresh, leaf⟩ := stay x here candidate
        exact .inr ⟨leaf, x, here, .self fresh⟩

theorem delivers_append :
    service.Delivers guard (recipients ++ later) x ↔
      service.Delivers guard recipients x ∨ service.Delivers guard later x := by
  simp only [Delivers, List.mem_append, or_and_right, exists_or, and_or_left]
  constructor
  · rintro ((first | second) | first | second)
    · exact .inl (.inl first)
    · exact .inr (.inl second)
    · exact .inl (.inr first)
    · exact .inr (.inr second)
  · rintro ((first | first) | second | second)
    · exact .inl (.inl first)
    · exact .inr (.inl first)
    · exact .inl (.inr second)
    · exact .inr (.inr second)

/-- The larger guard also records the groups that the recipients reach past the smaller one. -/
def Records (service : Service) (recipients : List Address) (guard larger : LoopGuard) : Prop :=
  ∀ x, x ∈ larger.recorded ↔
    x ∈ guard.recorded ∨ ((∃ group, service.resolver.groupAt x = .ok (some group)) ∧
      ∃ recipient ∈ recipients, Reaches service.resolver.groupAt guard recipient x)

/-- What is cut by the larger guard has been delivered by the recipients that were recorded. -/
theorem Records.reaches (records : service.Records recipients guard larger)
    (leaf : service.resolver.groupAt y = .ok none)
    (reaches : Reaches service.resolver.groupAt guard x y) :
    (∃ recipient ∈ recipients, Reaches service.resolver.groupAt guard recipient y) ∨
      Reaches service.resolver.groupAt larger x y := by
  induction reaches with
  | @self x fresh =>
      refine .inr (.self fun recorded => ?_)
      rcases (records x).mp recorded with before | ⟨⟨group, isGroup⟩, _⟩
      · exact fresh before
      · rw [leaf] at isGroup
        cases isGroup
  | @member list group member y fresh found here reaches inductionHypothesis =>
      by_cases recorded : list ∈ larger.recorded
      · rcases (records list).mp recorded with before | ⟨_, recipient, among, first⟩
        · exact absurd before fresh
        · exact .inl ⟨recipient, among, first.trans (.member fresh found here reaches)⟩
      · rcases inductionHypothesis leaf with delivered | still
        · exact .inl delivered
        · exact .inr (.member recorded found here still)

/-- Recipients that come later get the mail to the same addresses, whether the groups of the
earlier ones are recorded before or not. -/
theorem Delivers.append_iff (records : service.Records recipients guard larger) :
    service.Delivers guard (recipients ++ later) x ↔
      service.Delivers guard recipients x ∨ service.Delivers larger later x := by
  have included : guard.recorded ⊆ larger.recorded :=
    fun y recorded => (records y).mpr (.inl recorded)
  rw [delivers_append]
  constructor
  · rintro (first | ⟨here, other⟩ | ⟨leaf, recipient, here, reaches⟩)
    · exact .inl first
    · exact .inr (.inl ⟨here, other⟩)
    · rcases records.reaches leaf reaches with delivered | still
      · exact .inl (.inr ⟨leaf, delivered⟩)
      · exact .inr (.inr ⟨leaf, recipient, here, still⟩)
  · rintro (first | ⟨here, other⟩ | ⟨leaf, recipient, here, reaches⟩)
    · exact .inl first
    · exact .inr (.inl ⟨here, other⟩)
    · exact .inr (.inr ⟨leaf, recipient, here, reaches.mono included⟩)

theorem delivers_near (roomy : service.Roomy near groups others)
    (start : ∀ recipient ∈ recipients, near recipient)
    (delivers : service.Delivers guard recipients x) : near x := by
  rcases delivers with ⟨here, _⟩ | ⟨_, recipient, here, reaches⟩
  · exact start x here
  · exact reaches.near roomy.region (start recipient here)

theorem addresses_withMore (mail : Mail) (part : List Recipient) :
    (mail.withMore part).addresses = mail.addresses ++ part.map Recipient.address :=
  List.map_append

theorem processInParts_delivers (roomy : service.Roomy near groups others)
    (parts : List (List Recipient)) (mail : Mail)
    (start : ∀ recipient ∈ mail.addresses, near recipient)
    (stay : ∀ recipient ∈ mail.addresses, service.Stays (.load mail) recipient)
    (admits : service.Admits near mail.sender (parts.flatten.map Recipient.address)) :
    ∃ final, service.processInParts mail parts = .ok final ∧
      ∀ x, x ∈ final.addresses ↔
        service.Delivers (.load mail)
          (mail.addresses ++ parts.flatten.map Recipient.address) x := by
  induction parts generalizing mail with
  | nil =>
      refine ⟨mail, rfl, ?_⟩
      intro x
      rw [List.flatten_nil, List.map_nil, List.append_nil, delivers_of_stays stay]
  | cons part rest inductionHypothesis =>
      rw [List.flatten_cons, List.map_append] at admits ⊢
      have admitsMore : service.Admits near (mail.withMore part).sender
          (mail.withMore part).addresses := by
        intro recipient here
        rw [addresses_withMore] at here
        rcases List.mem_append.mp here with before | added
        · refine ⟨start recipient before, ?_⟩
          intro group isGroup
          rw [groupAt_of_stays (stay recipient before)] at isGroup
          cases isGroup
        · exact admits recipient (List.mem_append_left _ added)
      obtain ⟨copy, succeeded⟩ := roomy.process_succeeds admitsMore
      have delivered := roomy.mem_addresses_process admitsMore succeeded
      have records : service.Records (mail.withMore part).addresses (.load mail)
          (.load (service.process (mail.withMore part)).mail) :=
        roomy.mem_load_process admitsMore succeeded
      have stayAfter : ∀ recipient ∈ (service.process (mail.withMore part)).mail.addresses,
          service.Stays (.load (service.process (mail.withMore part)).mail) recipient :=
        fun recipient here => stays_of_process succeeded here
      obtain ⟨final, finished, reached⟩ := inductionHypothesis
        (service.process (mail.withMore part)).mail
        (fun recipient here => delivers_near roomy (fun other among => (admitsMore other among).1)
          ((delivered recipient).mp here))
        stayAfter
        (by
          rw [sender_process]
          exact fun recipient here => admits recipient (List.mem_append_right _ here))
      refine ⟨final, ?_, ?_⟩
      · simp only [processInParts, succeeded]
        exact finished
      · intro x
        rw [reached x, delivers_append, delivers_of_stays stayAfter, delivered x,
          ← List.append_assoc, ← addresses_withMore]
        exact (Delivers.append_iff records).symm

/-- Whichever way the recipients are split into parts, the parts end with the addresses of a
single run: with all that the recipients reach. -/
theorem processInParts_reaches_same (service : Service) (mail : Mail)
    (parts : List (List Recipient)) (groups others : AddressSet)
    (suits : service.Suits mail groups others) (split : parts.flatten.Perm mail.recipients) :
    ∃ final copy,
      service.processInParts mail.withoutRecipients parts = .ok final ∧
      (service.process mail).outcome = .ok copy ∧
      ∀ x, (x ∈ final.addresses ↔ x ∈ (service.process mail).mail.addresses) ∧
        (x ∈ final.addresses ↔ service.Delivers (.load mail) mail.addresses x) := by
  have roomy := suits.roomy
  have same : (parts.flatten.map Recipient.address).Perm mail.addresses :=
    split.map Recipient.address
  obtain ⟨copy, succeeded⟩ := roomy.process_succeeds suits.admits
  obtain ⟨final, finished, reached⟩ := processInParts_delivers roomy parts mail.withoutRecipients
    nofun nofun fun recipient here => suits.admits recipient (same.mem_iff.mp here)
  have nobody : mail.withoutRecipients.addresses = [] := rfl
  have delivered (x : Address) :
      x ∈ final.addresses ↔ service.Delivers (.load mail) mail.addresses x := by
    rw [reached x, nobody, List.nil_append]
    unfold Delivers
    simp only [same.mem_iff]
    rfl
  refine ⟨final, copy, finished, succeeded, ?_⟩
  intro x
  refine ⟨?_, delivered x⟩
  rw [delivered x, roomy.mem_addresses_process suits.admits succeeded x]

end Service

namespace Sample

theorem region : Region service.resolver.groupAt (fun x => x ∈ [team, crew, reader, writer])
    (.ofList [team, crew]) (.ofList [reader, writer]) := by
  have readerLeaf : service.resolver.groupAt reader = .ok none := by decide
  have writerLeaf : service.resolver.groupAt writer = .ok none := by decide
  constructor
  · intro list group member here found inside
    rcases List.mem_cons.mp here with rfl | here
    · rw [groupAt_team] at found
      cases found
      have among : member ∈ [crew, reader] := SortedSet.mem_ofList.mp inside
      rcases List.mem_pair.mp among with rfl | rfl <;> simp
    rcases List.mem_cons.mp here with rfl | here
    · rw [groupAt_crew] at found
      cases found
      have among : member ∈ [team, writer] := SortedSet.mem_ofList.mp inside
      rcases List.mem_pair.mp among with rfl | rfl <;> simp
    rcases List.mem_pair.mp here with rfl | rfl
    · rw [readerLeaf] at found
      cases found
    · rw [writerLeaf] at found
      cases found
  · intro x group here found
    rw [SortedSet.mem_ofList, List.mem_pair]
    rcases List.mem_cons.mp here with rfl | here
    · exact .inl rfl
    rcases List.mem_cons.mp here with rfl | here
    · exact .inr rfl
    rcases List.mem_pair.mp here with rfl | rfl
    · rw [readerLeaf] at found
      cases found
    · rw [writerLeaf] at found
      cases found
  · intro x here leaf
    rw [SortedSet.mem_ofList, List.mem_pair]
    rcases List.mem_cons.mp here with rfl | here
    · rw [groupAt_team] at leaf
      cases leaf
    rcases List.mem_cons.mp here with rfl | here
    · rw [groupAt_crew] at leaf
      cases leaf
    exact List.mem_pair.mp here

theorem near_mail {x : Address} (near : service.Near mail x) :
    x ∈ [team, crew, reader, writer] := by
  obtain ⟨recipient, here, reaches⟩ := near
  have here : recipient ∈ [team, crew] := here
  apply reaches.near region
  rcases List.mem_pair.mp here with rfl | rfl <;> simp

theorem suits : service.Suits mail (.ofList [team, crew]) (.ofList [reader, writer]) where
  answers _ := ⟨_, rfl⟩
  welcome list here group found := by
    have here : list ∈ [team, crew] := here
    rcases List.mem_pair.mp here with rfl | rfl
    · rw [groupAt_team] at found
      cases found
      trivial
    · rw [groupAt_crew] at found
      cases found
      trivial
  group x group near := region.group x group (near_mail near)
  other x near := region.other x (near_mail near)
  depth := by decide
  members := by decide

end Sample

theorem Service.processInParts_reaches_same_sample :
    ∃ final copy,
      Sample.service.processInParts Sample.mail.withoutRecipients
          [[.ofAddress Sample.crew], [], [.ofAddress Sample.team]] = .ok final ∧
        (Sample.service.process Sample.mail).outcome = .ok copy ∧
        ∀ x, (x ∈ final.addresses ↔ x ∈ (Sample.service.process Sample.mail).mail.addresses) ∧
          (x ∈ final.addresses ↔
            Sample.service.Delivers (.load Sample.mail) Sample.mail.addresses x) :=
  Service.processInParts_reaches_same Sample.service Sample.mail _ _ _ Sample.suits
    (List.Perm.swap _ _ _)

end Listmaster
