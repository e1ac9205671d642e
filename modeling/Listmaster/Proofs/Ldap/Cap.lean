import Listmaster.Command
import Listmaster.Proofs.Independence
import Listmaster.Proofs.Ldap.Host
import Listmaster.Proofs.Survey.Reach

/-!
Groups of which not all references are read.

A service on a server reads the references of a group until it has as many addresses as a list
may expand to.  The groups among these addresses count too, so that people of a list can be
missed that has room for them (`Config.onServer_misses`).  A list whose groups each have no
more members than that is expanded as if all references were read:
`Config.behind_of_small`.
-/

namespace Listmaster

namespace Ldap.Client

variable {client : Client} {question : Lookup} {known : Option Group} {count : Nat}
  {groupAttribute attributeName : String} {entry : Entry} {total : AddressSet}

/-- The client with another number of addresses after which no more references are read. -/
def limitedTo (client : Client) (limit : Option Nat) : Client :=
  { client with maxReferences := limit }

theorem readReferences_of_complete (limit : Option Nat)
    (complete : Yields ((client.limitedTo none).readReferences groupAttribute entry attributeName)
      (.ok total)) :
    ∃ fewer, Yields ((client.limitedTo limit).readReferences groupAttribute entry attributeName)
        (.ok fewer) ∧
      ((∀ count, limit = some count → total.size ≤ count) → fewer = total) := by
  obtain ⟨reads, each, whole⟩ :=
    reads_of_readCapped (readReference_settled client groupAttribute) (tell_yields _) complete
  obtain ⟨fewer, yields⟩ := readCapped_succeeds limit ∅ (tell_yields _) each
  refine ⟨fewer, yields, fun room => ?_⟩
  have same := yields.unique (readCapped_of_room (tell_yields _) each whole room)
  exact Except.ok.inj same

/-- A group that is found with all its members is found again if fewer references are read, and
has these members if they are no more than are read. -/
theorem readGroup_of_complete {group : Group} (limit : Option Nat)
    (complete : Yields ((client.limitedTo none).readGroup groupAttribute entry) (.ok group)) :
    ∃ other, Yields ((client.limitedTo limit).readGroup groupAttribute entry) (.ok other) ∧
      ((∀ count, limit = some count → group.members.size ≤ count) →
        other.members = group.members) := by
  have settled := readReferences_settled (client.limitedTo none) groupAttribute entry
  obtain ⟨members, first, later⟩ := Settled.of_bind (settled _)
    (fun _ => (settled _).bind fun _ => ⟨_, Yields.pure _⟩) complete
  obtain ⟨owners, second, last⟩ := Settled.of_bind (settled _) (fun _ => ⟨_, Yields.pure _⟩) later
  obtain ⟨someMembers, firstToo, same⟩ := readReferences_of_complete limit first
  obtain ⟨someOwners, secondToo, _⟩ := readReferences_of_complete limit second
  cases last.unique (Yields.pure _)
  exact ⟨_, firstToo.bind_ok (secondToo.bind_ok (Yields.pure _)), same⟩

theorem lookup_of_complete (limit : Option Nat)
    (complete : Yields ((client.limitedTo none).lookup question) (.ok known)) :
    ∃ other, Yields ((client.limitedTo limit).lookup question) (.ok other) ∧
      ((∀ group count, known = some group → limit = some count → group.members.size ≤ count) →
        other.map Group.members = known.map Group.members) := by
  rw [lookup_eq] at complete
  obtain ⟨found, first, second⟩ := Settled.of_bind (find_settled _ _ _ _ _)
    (readFirst_settled (client.limitedTo none) _) complete
  have searched (result : Option Group)
      (read : Yields ((client.limitedTo limit).readFirst question.attributeName found)
        (.ok result)) :
      Yields ((client.limitedTo limit).lookup question) (.ok result) := by
    rw [lookup_eq]
    exact Yields.bind_ok (show Yields ((client.limitedTo limit).find _ _ _ _) _ from first) read
  match found with
  | none | some [] =>
      cases second.unique (Yields.pure _)
      exact ⟨none, searched none (Yields.pure none), fun _ => rfl⟩
  | some (entry :: others) =>
      obtain ⟨result, read⟩ :=
        readGroup_settled (client.limitedTo none) question.attributeName entry
      have same := second.unique (readFirst_cons others read)
      cases result with
      | error cause => cases same
      | ok group =>
          cases same
          obtain ⟨other, readToo, sameMembers⟩ := readGroup_of_complete limit read
          refine ⟨some other, searched _ (readFirst_cons others readToo), fun room => ?_⟩
          exact congrArg some (sameMembers fun count cut => room group count rfl cut)

variable {classifier : Classifier} {base : String} {x : Address}

theorem groupAt_limitedTo (client : Client) (limit : Option Nat)
    (found : ((client.limitedTo none).resolver classifier base groupAttribute).groupAt x =
      .ok known)
    (room : ∀ group count, known = some group → limit = some count → group.members.size ≤ count) :
    SameMembers (.ok known)
      (((client.limitedTo limit).resolver classifier base groupAttribute).groupAt x) := by
  rw [groupAt_resolver] at found ⊢
  by_cases candidate : classifier.isCandidate x = true
  · have complete := lookup_yields (client.limitedTo none) ⟨base, groupAttribute, x.full⟩
    rw [if_pos candidate] at found ⊢
    rw [found] at complete
    obtain ⟨other, yields, same⟩ := lookup_of_complete limit complete
    rw [outcome_toDirectory yields]
    exact congrArg Except.ok (same room).symm
  · rw [if_neg candidate] at found ⊢
    rw [found]
    rfl

end Ldap.Client

namespace Config

/-- The service of a configuration on a server. -/
def onServer (config : Config) (parameters : Ldap.Parameters)
    (connection : Except String Ldap.Server) : Service :=
  config.service (config.client parameters connection).toDirectory

/-- The service that would read all references. -/
def uncapped (config : Config) (parameters : Ldap.Parameters)
    (connection : Except String Ldap.Server) : Service :=
  config.service ((config.client parameters connection).limitedTo none).toDirectory

/-- A list whose groups each have no more members than a list may expand to is expanded as if
all references were read. -/
theorem behind_of_small (config : Config) (parameters : Ldap.Parameters)
    (connection : Except String Ldap.Server) (list : Address) (group : Group)
    (members : AddressSet)
    (found : (config.uncapped parameters connection).resolver.groupAt list = .ok (some group))
    (expands : (config.uncapped parameters connection).behind group.members
      (LoopGuard.empty.record list) = .ok members)
    (small : ∀ x nested,
      Reaches (config.uncapped parameters connection).resolver.groupAt .empty list x →
      (config.uncapped parameters connection).resolver.groupAt x = .ok (some nested) →
      nested.members.size ≤ config.lists.limits.members) :
    ∃ same, (config.onServer parameters connection).resolver.groupAt list = .ok (some same) ∧
      same.members = group.members ∧
      (config.onServer parameters connection).behind group.members
        (LoopGuard.empty.record list) = .ok members := by
  have transferred (x : Address) (known : Option Group)
      (reaches : Reaches (config.uncapped parameters connection).resolver.groupAt .empty list x)
      (answer : (config.uncapped parameters connection).resolver.groupAt x = .ok known) :
      SameMembers (.ok known) ((config.onServer parameters connection).resolver.groupAt x) := by
    apply (config.client parameters connection).groupAt_limitedTo
      (some config.lists.limits.members) answer
    rintro nested _ rfl ⟨⟩
    exact small x nested reaches answer
  have fresh := LoopGuard.not_mem_empty list
  obtain ⟨same, foundToo, members?⟩ := (transferred list _ (.self fresh) found).of_group
  refine ⟨same, foundToo, members?, ?_⟩
  rw [Service.behind_eq_gather] at expands ⊢
  cases gathered : (config.uncapped parameters connection).resolver.gather
    (config.uncapped parameters connection).limits group.members
    (LoopGuard.empty.record list) with
  | error error =>
      rw [gathered] at expands
      cases expands
  | ok survey =>
      rw [gathered] at expands
      have gatheredToo : (config.onServer parameters connection).resolver.gather
          (config.onServer parameters connection).limits group.members
          (LoopGuard.empty.record list) = .ok survey := by
        apply Survey.explore_eq_ok_iff.mpr
        apply (Survey.explore_eq_ok_iff.mp gathered).transfer
        intro reference here x known reaches
        apply transferred x known
        exact .member fresh found here
          (reaches.mono fun x recorded => LoopGuard.mem_record.mpr (.inr recorded))
      rw [gatheredToo]
      exact expands

end Config

/-! A list with two groups that share their only member, and one more person. -/

namespace Sample

def branches : Ldap.Tree :=
  .ofEntries
    [.ofTexts "cn=team"
      [("objectClass", ["groupOfNames"]), ("mail", ["team@lists.example.org"]),
        ("member", ["cn=crew", "cn=staff", "uid=writer"])],
      .ofTexts "cn=crew"
        [("objectClass", ["groupOfNames"]), ("mail", ["crew@lists.example.org"]),
          ("member", ["uid=reader"])],
      .ofTexts "cn=staff"
        [("objectClass", ["groupOfNames"]), ("mail", ["staff@lists.example.org"]),
          ("member", ["uid=reader"])],
      .ofTexts "uid=reader" [("mail", ["reader@example.org"])],
      .ofTexts "uid=writer" [("mail", ["writer@example.org"])]]

def staff : Address :=
  ⟨"staff@lists.example.org", "staff@lists.example.org".toList, by decide, by decide⟩

def parameters : Ldap.Parameters where
  url := "ldapi:///run/ldap"
  timeout := Ldap.Parameters.defaultTimeout
  connections := Ldap.Parameters.defaultConnections
  tls := none
  credentials := none
  schema := {}

/-- A list may expand to this many addresses. -/
def branchConfig (count : Nat) : Config where
  requirement := ⟨[]⟩
  domains := .ofList ["example.org"]
  lists := { base := "ou=lists", limits := ⟨10, count⟩ }
  groups := .ldap parameters
  logs := {}

def branchServer : Except String Ldap.Server := .ok (branches.host {} "mail")

def branchTeam (members : List Address) : Group := ⟨"cn=team", none, .ofList members, ∅⟩

/-- The addresses of all entries. -/
def branchAddresses : List Address := [team, crew, staff, reader, writer]

theorem known_branches :
    ((branchConfig 3).uncapped parameters branchServer).resolver.groupAt team =
        .ok (some (branchTeam [crew, staff, writer])) ∧
      ((branchConfig 3).uncapped parameters branchServer).behind
        (branchTeam [crew, staff, writer]).members (LoopGuard.empty.record team) =
        .ok (.ofList [reader, writer]) ∧
      ∀ x ∈ branchAddresses,
        (((branchConfig 3).uncapped parameters branchServer).resolver.groupAt x).toOption.join.all
          (fun nested => nested.members.size ≤ 3 ∧
            ∀ member ∈ nested.members.toList, member ∈ branchAddresses) = true := by
  decide +kernel

theorem members_of_branches {x : Address} {nested : Group} (here : x ∈ branchAddresses)
    (found : ((branchConfig 3).uncapped parameters branchServer).resolver.groupAt x =
      .ok (some nested)) :
    nested.members.size ≤ 3 ∧ ∀ member ∈ nested.members, member ∈ branchAddresses := by
  have checked := known_branches.2.2 x here
  rw [found] at checked
  exact of_decide_eq_true checked

theorem region_branches :
    Region ((branchConfig 3).uncapped parameters branchServer).resolver.groupAt
      (· ∈ branchAddresses) (.ofList branchAddresses) (.ofList branchAddresses) where
  closed _ _ member here found inside := (members_of_branches here found).2 member inside
  group _ _ here _ := SortedSet.mem_ofList.mpr here
  other _ here _ := SortedSet.mem_ofList.mpr here

end Sample

theorem Config.behind_of_small_sample :
    ∃ same,
      ((Sample.branchConfig 3).onServer Sample.parameters Sample.branchServer).resolver.groupAt
        Sample.team = .ok (some same) ∧
      same.members = .ofList [Sample.crew, Sample.staff, Sample.writer] ∧
      ((Sample.branchConfig 3).onServer Sample.parameters Sample.branchServer).behind
        (.ofList [Sample.crew, Sample.staff, Sample.writer])
        (LoopGuard.empty.record Sample.team) = .ok (.ofList [Sample.reader, Sample.writer]) :=
  Config.behind_of_small (Sample.branchConfig 3) Sample.parameters Sample.branchServer Sample.team
    (Sample.branchTeam [Sample.crew, Sample.staff, Sample.writer])
    (.ofList [Sample.reader, Sample.writer]) Sample.known_branches.1 Sample.known_branches.2.1
    fun _ _ reaches found => (Sample.members_of_branches
      (reaches.near Sample.region_branches (by simp [Sample.branchAddresses])) found).1

/-- The two groups are as many addresses as the list may expand to, and the person after them is
not read. -/
theorem Config.onServer_misses :
    (Sample.branchConfig 2).lists.limits.members = 2 ∧
      ((Sample.branchConfig 2).uncapped Sample.parameters Sample.branchServer).resolver.groupAt
        Sample.team = .ok (some (Sample.branchTeam [Sample.crew, Sample.staff, Sample.writer])) ∧
      ((Sample.branchConfig 2).uncapped Sample.parameters Sample.branchServer).behind
        (Sample.branchTeam [Sample.crew, Sample.staff, Sample.writer]).members
        (LoopGuard.empty.record Sample.team) = .ok (.ofList [Sample.reader, Sample.writer]) ∧
      ((Sample.branchConfig 2).onServer Sample.parameters Sample.branchServer).resolver.groupAt
        Sample.team = .ok (some (Sample.branchTeam [Sample.crew, Sample.staff])) ∧
      ((Sample.branchConfig 2).onServer Sample.parameters Sample.branchServer).behind
        (Sample.branchTeam [Sample.crew, Sample.staff]).members
        (LoopGuard.empty.record Sample.team) = .ok (.ofList [Sample.reader]) := by
  decide +kernel

end Listmaster
