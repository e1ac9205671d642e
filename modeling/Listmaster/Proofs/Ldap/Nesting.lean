import Listmaster.Proofs.Ldap.Host
import Listmaster.Proofs.Process
import Listmaster.Proofs.Survey.Whole
import Listmaster.Proofs.Survey.Walk

/-!
Nested groups of a tree.

Groups refer to their members by distinguished names, and the walk follows addresses.  Where
each group has an address of its own, both lead to the same entries: `Tree.expand_follows`
says that the expansion of a group are the people that its members lead to.
-/

namespace Listmaster.Ldap

/-- The entries to which the members of groups lead. -/
inductive Tree.Reaches (tree : Tree) (schema : Schema) (start : Entry) : Entry → Prop
  | start : Reaches tree schema start start
  | member {group names dn entry} :
      Reaches tree schema start group → group.IsGroup schema →
      group.Has schema.memberAttribute names → dn ∈ names → tree.entryAt dn = some entry →
      Reaches tree schema start entry

/-- All limits are larger than the tree. -/
structure Tree.Roomy (tree : Tree) (client : Client) (limits : Limits) : Prop where
  references : ∀ count, client.maxReferences = some count → tree.entries.length < count
  members : tree.entries.length < limits.members
  depth : tree.entries.length < limits.depth

/-- The addresses of all entries. -/
def Tree.addresses (tree : Tree) (schema : Schema) (groupAttribute : String) : AddressSet :=
  .ofList (tree.entries.filterMap fun entry =>
    (entry.address? schema groupAttribute).bind Address.parse?)

variable {tree : Tree} {client : Client} {server : Server} {classifier : Classifier}
  {base groupAttribute attributeName : String} {entry group person start : Entry}
  {address x : Address} {schema : Schema} {limits : Limits} {survey : Survey}

theorem Tree.Reaches.mem (here : start ∈ tree.entries) (reaches : tree.Reaches schema start entry) :
    entry ∈ tree.entries := by
  cases reaches with
  | start => exact here
  | member _ _ _ _ found => exact tree.mem_of_entryAt _ _ found

theorem Tree.size_addresses_le (tree : Tree) (schema : Schema) (groupAttribute : String) :
    (tree.addresses schema groupAttribute).size ≤ tree.entries.length := by
  apply Nat.le_trans (SortedSet.size_ofList_le _)
  exact List.length_filterMap_le _ _

section Fits

variable (fits : tree.Fits classifier schema base groupAttribute)
include fits

theorem Tree.mem_addresses_iff :
    x ∈ tree.addresses schema groupAttribute ↔
      ∃ entry ∈ tree.entries, entry.KnownBy schema groupAttribute x := by
  unfold addresses
  rw [SortedSet.mem_ofList, List.mem_filterMap]
  apply exists_congr
  intro entry
  apply and_congr_right
  intro here
  exact Entry.address?_bind_parse?_iff (fits.apart entry here) fun isGroup =>
    (fits.addressed entry here isGroup).imp fun _ => And.left

theorem Tree.references_subset_addresses (here : entry ∈ tree.entries) :
    tree.references schema groupAttribute entry attributeName ⊆
      tree.addresses schema groupAttribute := by
  intro x among
  obtain ⟨names, dn, other, _, _, found, known⟩ := (mem_references_iff fits here).mp among
  exact (mem_addresses_iff fits).mpr ⟨other, tree.mem_of_entryAt dn other found, known⟩

theorem Tree.only_of_knownBy (here : entry ∈ tree.entries) (isGroup : entry.IsGroup schema)
    (known : entry.KnownBy schema groupAttribute x) : entry.Only groupAttribute x := by
  rcases known with ⟨_, first⟩ | ⟨notGroup, _⟩
  · obtain ⟨address, only, _⟩ := fits.addressed entry here isGroup
    rwa [Entry.first_unique (fits.apart entry here) first only.first]
  · exact absurd isGroup notGroup

end Fits

theorem Entry.Only.knownBy (only : entry.Only groupAttribute x) (isGroup : entry.IsGroup schema) :
    entry.KnownBy schema groupAttribute x := .inl ⟨isGroup, only.first⟩

section Walk

variable (connected : client.connection = .ok server)
  (serves : tree.Serves server client.schema base groupAttribute)
  (fits : tree.Fits classifier client.schema base groupAttribute)
  (roomy : tree.Roomy client limits)
include connected serves fits roomy

theorem groupAt_of_only (here : entry ∈ tree.entries) (isGroup : entry.IsGroup client.schema)
    (only : entry.Only groupAttribute address) :
    (client.resolver classifier base groupAttribute).groupAt address =
      .ok (some (tree.group client groupAttribute entry)) := by
  apply groupAt_of_group connected serves fits here isGroup only
  intro count known attributeName
  have included : tree.references client.schema groupAttribute entry attributeName ⊆ _ :=
    Tree.references_subset_addresses fits here
  have few := tree.size_addresses_le client.schema groupAttribute
  have large := roomy.references count known
  have size := SortedSet.size_le_of_subset included
  omega

theorem groupAt_cases (x : Address) :
    (∃ entry ∈ tree.entries, entry.IsGroup client.schema ∧ entry.Only groupAttribute x ∧
      (client.resolver classifier base groupAttribute).groupAt x =
        .ok (some (tree.group client groupAttribute entry))) ∨
    (client.resolver classifier base groupAttribute).groupAt x = .ok none := by
  by_cases group : ∃ entry ∈ tree.entries, entry.IsGroup client.schema ∧
    entry.Only groupAttribute x
  · obtain ⟨entry, here, isGroup, only⟩ := group
    exact .inl ⟨entry, here, isGroup, only,
      groupAt_of_only connected serves fits roomy here isGroup only⟩
  · refine .inr (groupAt_of_no_group connected serves fits ?_)
    intro entry here isGroup only
    exact group ⟨entry, here, isGroup, only⟩

theorem group_of_groupAt {answer : Group} (here : entry ∈ tree.entries)
    (known : entry.KnownBy client.schema groupAttribute x)
    (found : (client.resolver classifier base groupAttribute).groupAt x = .ok (some answer)) :
    entry.IsGroup client.schema ∧ answer = tree.group client groupAttribute entry := by
  rcases groupAt_cases connected serves fits roomy x with
    ⟨other, there, isGroup, only, foundToo⟩ | noGroup
  · obtain rfl := fits.alone other there isGroup x only entry here known
    rw [found] at foundToo
    exact ⟨isGroup, Option.some.inj (Except.ok.inj foundToo)⟩
  · rw [found] at noGroup
    cases noGroup

theorem groupAt_of_person (here : person ∈ tree.entries) (notGroup : ¬ person.IsGroup client.schema)
    (first : person.First client.schema.mailAttribute x) :
    (client.resolver classifier base groupAttribute).groupAt x = .ok none := by
  rcases groupAt_cases connected serves fits roomy x with ⟨_, _, _, _, found⟩ | noGroup
  · have known : person.KnownBy client.schema groupAttribute x := .inr ⟨notGroup, first⟩
    exact absurd (group_of_groupAt connected serves fits roomy here known found).1 notGroup
  · exact noGroup

theorem region : Region (client.resolver classifier base groupAttribute).groupAt
    (fun x => x ∈ tree.addresses client.schema groupAttribute)
    (tree.addresses client.schema groupAttribute)
    (tree.addresses client.schema groupAttribute) where
  closed list group member near found here := by
    obtain ⟨entry, among, known⟩ := (Tree.mem_addresses_iff fits).mp near
    obtain ⟨_, rfl⟩ := group_of_groupAt connected serves fits roomy among known found
    exact Tree.references_subset_addresses fits among member here
  group _ _ near _ := near
  other _ near _ := near

variable (here : start ∈ tree.entries)
include here

/-- What an address reaches through groups is the address of an entry that is reached too. -/
theorem tree_reaches_of_reaches {guard : LoopGuard} {y : Address}
    (reaches : Reaches (client.resolver classifier base groupAttribute).groupAt guard y x)
    (reached : tree.Reaches client.schema start entry)
    (known : entry.KnownBy client.schema groupAttribute y) :
    ∃ other, tree.Reaches client.schema start other ∧
      other.KnownBy client.schema groupAttribute x := by
  induction reaches generalizing entry with
  | self _ => exact ⟨entry, reached, known⟩
  | @member list answer member x _ found inside _ inductionHypothesis =>
      have among := reached.mem here
      obtain ⟨isGroup, rfl⟩ := group_of_groupAt connected serves fits roomy among known found
      obtain ⟨names, dn, other, has, inNames, there, knownToo⟩ :=
        (Tree.mem_references_iff fits among).mp inside
      exact inductionHypothesis (.member reached isGroup has inNames there) knownToo

variable (isGroup : start.IsGroup client.schema) (only : start.Only groupAttribute address)
include isGroup only

/-- The address of an entry that is reached is reached by the address of the first group. -/
theorem reaches_of_tree_reaches (reached : tree.Reaches client.schema start entry)
    (known : entry.KnownBy client.schema groupAttribute x) :
    Reaches (client.resolver classifier base groupAttribute).groupAt .empty address x := by
  induction reached generalizing x with
  | start =>
      obtain rfl := Entry.first_unique (fits.apart start here) only.first
        (Tree.only_of_knownBy fits here isGroup known).first
      exact .self (LoopGuard.not_mem_empty address)
  | @member group names dn entry reached isGroupToo has inNames found inductionHypothesis =>
      have there := reached.mem here
      have inside : x ∈ (tree.group client groupAttribute group).members :=
        (Tree.mem_references_iff fits there).mpr ⟨names, dn, entry, has, inNames, found, known⟩
      obtain ⟨y, onlyToo, _⟩ := fits.addressed group there isGroupToo
      have answer := groupAt_of_only connected serves fits roomy there isGroupToo onlyToo
      have last : Reaches (client.resolver classifier base groupAttribute).groupAt .empty y x :=
        .member (LoopGuard.not_mem_empty y) answer inside (.self (LoopGuard.not_mem_empty x))
      exact (inductionHypothesis (onlyToo.knownBy isGroupToo)).trans last

variable (gathered : (client.resolver classifier base groupAttribute).gather limits
  (tree.group client groupAttribute start).members (LoopGuard.empty.record address) = .ok survey)
include gathered

theorem seen_iff_reaches :
    survey.Seen x ↔
      Reaches (client.resolver classifier base groupAttribute).groupAt .empty address x := by
  have room := tree.size_addresses_le client.schema groupAttribute
  have members := roomy.members
  have depth := roomy.depth
  have near : address ∈ tree.addresses client.schema groupAttribute :=
    (Tree.mem_addresses_iff fits).mpr ⟨start, here, only.knownBy isGroup⟩
  have answer := groupAt_of_only connected serves fits roomy here isGroup only
  have seen := (Survey.explore_eq_ok_iff.mp gathered).seen_iff (x := x)
    (region connected serves fits roomy) (by omega) (by omega) (LoopGuard.not_mem_empty address)
    near answer
  simpa [LoopGuard.not_mem_empty] using seen

/-- A survey finds the addresses of the people that are reached. -/
theorem mem_found_iff :
    x ∈ survey.found ↔
      ∃ person, tree.Reaches client.schema start person ∧ ¬ person.IsGroup client.schema ∧
        person.First client.schema.mailAttribute x := by
  have explored := Survey.explore_eq_ok_iff.mp gathered
  have seen := seen_iff_reaches connected serves fits roomy here isGroup only gathered (x := x)
  constructor
  · intro found
    have leaf := (explored.leaf_of_found found).2
    obtain ⟨person, reached, known⟩ := tree_reaches_of_reaches connected serves fits roomy here
      (seen.mp (.inl found)) .start (only.knownBy isGroup)
    have there := reached.mem here
    have notGroup : ¬ person.IsGroup client.schema := by
      intro isGroupToo
      have onlyToo := Tree.only_of_knownBy fits there isGroupToo known
      rw [groupAt_of_only connected serves fits roomy there isGroupToo onlyToo] at leaf
      cases leaf
    rcases known with ⟨isGroupToo, _⟩ | ⟨_, first⟩
    · exact absurd isGroupToo notGroup
    · exact ⟨person, reached, notGroup, first⟩
  · rintro ⟨person, reached, notGroup, first⟩
    have leaf := groupAt_of_person connected serves fits roomy (reached.mem here) notGroup first
    have reaches := reaches_of_tree_reaches connected serves fits roomy here isGroup only reached
      (.inr ⟨notGroup, first⟩)
    rcases seen.mpr reaches with found | recorded
    · exact found
    · rcases explored.growth.newlyRecorded x recorded with first | ⟨group, found⟩
      · rcases LoopGuard.mem_record.mp first with rfl | none
        · rw [groupAt_of_only connected serves fits roomy here isGroup only] at leaf
          cases leaf
        · exact absurd none (LoopGuard.not_mem_empty x)
      · rw [leaf] at found
        cases found

end Walk

/-- A group expands to the people that its members lead to, through other groups too, and to no
group. -/
theorem Tree.expand_follows (tree : Tree) (client : Client) (server : Server)
    (classifier : Classifier) (base groupAttribute : String) (limits : Limits)
    (start : Entry) (address : Address) (session : Session)
    (connected : client.connection = .ok server)
    (serves : tree.Serves server client.schema base groupAttribute)
    (fits : tree.Fits classifier client.schema base groupAttribute)
    (roomy : tree.Roomy client limits) (here : start ∈ tree.entries)
    (isGroup : start.IsGroup client.schema) (only : start.Only groupAttribute address)
    (faithful : session.Faithful (client.resolver classifier base groupAttribute)) :
    ∃ group after members,
      (client.resolver classifier base groupAttribute).resolve address session =
        .ok (some group) after ∧
      ((client.resolver classifier base groupAttribute).expand limits group.members
        (LoopGuard.empty.record address) after).outcome = .ok members ∧
      (∀ x, x ∈ members ↔
        ∃ person, tree.Reaches client.schema start person ∧ ¬ person.IsGroup client.schema ∧
          person.First client.schema.mailAttribute x) ∧
      ∀ other ∈ tree.entries, other.IsGroup client.schema →
        ∀ x, other.Only groupAttribute x → ¬ x ∈ members := by
  have answer := groupAt_of_only connected serves fits roomy here isGroup only
  have answers (x : Address) :
      ∃ known, (client.resolver classifier base groupAttribute).groupAt x = .ok known := by
    rcases groupAt_cases connected serves fits roomy x with ⟨_, _, _, _, found⟩ | noGroup
    · exact ⟨_, found⟩
    · exact ⟨_, noGroup⟩
  obtain ⟨survey, gathered⟩ := Survey.explore_total answers limits.members (limits.depth - 1)
    (tree.group client groupAttribute start).members.toList
    (.start (LoopGuard.empty.record address))
  have resolved := Resolver.resolve_spec address faithful
  cases result : (client.resolver classifier base groupAttribute).resolve address session with
  | error error after =>
      have failed := (resolved.of_error result).1
      rw [answer] at failed
      cases failed
  | ok known after =>
      obtain ⟨same, still⟩ := resolved.of_ok result
      rw [answer] at same
      cases same
      have found (x : Address) := mem_found_iff connected serves fits roomy here isGroup only
        gathered (x := x)
      refine ⟨_, after, survey.found, rfl, ?_, found, ?_⟩
      · rw [Resolver.expand_outcome limits _ _ still]
        unfold Resolver.gather
        rw [gathered]
        rfl
      · intro other there isGroupToo x onlyToo inside
        obtain ⟨person, reached, notGroup, first⟩ := (found x).mp inside
        have same := fits.alone other there isGroupToo x onlyToo person (reached.mem here)
          (.inr ⟨notGroup, first⟩)
        exact notGroup (same ▸ isGroupToo)

deriving instance DecidableEq for Entry

namespace Sample

def team : Entry :=
  .ofTexts "cn=team"
    [("objectClass", ["top", "groupOfNames"]), ("mail", ["office@example.org"]),
      ("listAddress", ["team@lists.example.org"]), ("member", ["cn=crew", "uid=reader", "uid=gone"])]

def crew : Entry :=
  .ofTexts "cn=crew"
    [("objectclass", ["GroupOfNames"]), ("LISTADDRESS", ["Crew@Lists.example.org"]),
      ("Member", ["cn=team", "uid=writer", "uid=guest"])]

def reader : Entry :=
  .ofTexts "uid=reader" [("mail", ["reader@example.org", "team@lists.example.org"])]

def writer : Entry := .ofTexts "uid=writer" [("Mail", ["writer@example.org"])]

def guest : Entry := .ofTexts "uid=guest" [("mail", ["nowhere"])]

def entries : List Entry := [team, crew, reader, writer, guest]

/-- Two groups that contain each other, with people, one of whom has no address. -/
def offices : Tree := .ofEntries entries

def officeClient : Client := { connection := .ok (offices.host {} "listAddress"), schema := {} }

theorem apart_entries : ∀ entry ∈ entries, entry.NamesApart := by decide +kernel

def officeResolver : Resolver :=
  officeClient.resolver Listmaster.Sample.service.resolver.classifier "" "listAddress"

theorem fits_offices : offices.Fits officeResolver.classifier {} "" "listAddress" :=
  Tree.fits_of_values (by decide) apart_entries (by decide +kernel) (by decide +kernel)

theorem isGroup_team : team.IsGroup {} :=
  (Entry.isGroup_iff (apart_entries team (by decide))).mp (by decide +kernel)

theorem reaches_writer : offices.Reaches {} team writer := by
  have apart := apart_entries crew (by decide)
  have isGroup : crew.IsGroup {} := (Entry.isGroup_iff apart).mp (by decide +kernel)
  have first : team.Has "member" _ :=
    Entry.has_values (apart_entries team (by decide)) (by decide +kernel)
  have second : crew.Has "member" _ := Entry.has_values apart (by decide +kernel)
  have nested : offices.Reaches {} team crew :=
    .member .start isGroup_team first (show "cn=crew" ∈ _ by decide +kernel) rfl
  exact .member nested isGroup second (show "uid=writer" ∈ _ by decide +kernel) rfl

end Sample

theorem Tree.expand_follows_sample :
    ∃ group after members,
      Sample.officeResolver.resolve Listmaster.Sample.team .empty = .ok (some group) after ∧
      (Sample.officeResolver.expand ⟨6, 6⟩ group.members
        (LoopGuard.empty.record Listmaster.Sample.team) after).outcome = .ok members ∧
      Listmaster.Sample.writer ∈ members := by
  obtain ⟨group, after, members, resolved, expanded, found, _⟩ :=
    Tree.expand_follows Sample.offices Sample.officeClient (Sample.offices.host {} "listAddress")
      Sample.officeResolver.classifier "" "listAddress" ⟨6, 6⟩ Sample.team Listmaster.Sample.team .empty rfl
      (Tree.host_serves Sample.apart_entries) Sample.fits_offices ⟨nofun, by decide, by decide⟩
      (by decide) Sample.isGroup_team
      (Entry.only_of_values (Sample.apart_entries Sample.team (by decide)) (by decide +kernel)
        (by decide +kernel))
      (Session.Faithful.empty _)
  have apart := Sample.apart_entries Sample.writer (by decide)
  refine ⟨group, after, members, resolved, expanded, (found _).mpr ?_⟩
  refine ⟨Sample.writer, Sample.reaches_writer, ?_, ?_⟩
  · rw [← Entry.isGroup_iff apart]
    decide +kernel
  · rw [← Entry.value?_bind_parse?_iff apart]
    decide +kernel

end Listmaster.Ldap
