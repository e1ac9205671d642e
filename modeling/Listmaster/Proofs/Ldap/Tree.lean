import Listmaster.Proofs.Ldap.Entry
import Listmaster.Proofs.Ldap.Filter
import Listmaster.Proofs.Ldap.Reading

/-!
Groups of a tree, looked up by their addresses.

A tree has entries, found by their distinguished names, and a server serves it if it answers
the two searches of a client by them (`Tree.Serves`).  Where each group of the tree has an
address of its own (`Tree.Fits`), an address leads to the group that has it and to the
addresses of its members: `groupAt_of_group`, `groupAt_of_no_group`.
-/

namespace Listmaster.Ldap

/-- Entries under their distinguished names. -/
structure Tree where
  entries : List Entry
  entryAt : String → Option Entry
  /-- Whether a distinguished name is in the subtree under a base. -/
  isBelow : String → String → Prop
  mem_of_entryAt : ∀ dn entry, entryAt dn = some entry → entry ∈ entries

namespace Entry

/-- The entry has a value under the name that denotes the address. -/
def Denotes (entry : Entry) (name : String) (address : Address) : Prop :=
  ∃ values, entry.Has name values ∧ ∃ text ∈ values, Address.parse? text = some address

/-- The address by which the entry is known: a group by an attribute of groups, any other entry
by its first mail address. -/
def KnownBy (entry : Entry) (schema : Schema) (groupAttribute : String) (address : Address) :
    Prop :=
  (entry.IsGroup schema ∧ entry.First groupAttribute address) ∨
    (¬ entry.IsGroup schema ∧ entry.First schema.mailAttribute address)

end Entry

/-- The search succeeds, and the entries that it finds are those that are wanted. -/
def Reply.Gives (reply : Reply) (attributes : List String) (wanted : Entry → Prop) : Prop :=
  ∃ found text, reply = .done found 0 text ∧
    (∀ copy ∈ found.filterMap Found.entry?, ∃ entry, wanted entry ∧ copy.Shows attributes entry) ∧
    ∀ entry, wanted entry → ∃ copy ∈ found.filterMap Found.entry?, copy.Shows attributes entry

/-- The base of the search does not exist. -/
def Reply.Misses (reply : Reply) : Prop := ∃ found text, reply = .done found noSuchObject text

/-- The filter for the group with an address. -/
def groupFilter (schema : Schema) (groupAttribute : String) (address : Address) : Filter :=
  .conjunction
    [.equality "objectClass" (Filter.octets schema.groupClass),
      .equality groupAttribute (Filter.octets address.full)]

namespace Tree

/-- The entry is a group under the base whose attribute denotes the address. -/
structure HasGroup (tree : Tree) (schema : Schema) (base groupAttribute : String)
    (address : Address) (entry : Entry) : Prop where
  mem : entry ∈ tree.entries
  below : tree.isBelow entry.dn base
  isGroup : entry.IsGroup schema
  denotes : entry.Denotes groupAttribute address

/-- The server answers the read of a name by the entry there, and the search for a group by the
groups under the base that have the address. -/
structure Serves (tree : Tree) (server : Server) (schema : Schema) (base groupAttribute : String) :
    Prop where
  present : ∀ dn entry attributes controls, tree.entryAt dn = some entry →
    (server ⟨dn, .base, .present "objectClass", attributes, controls⟩).Gives attributes
      (· = entry)
  absent : ∀ dn attributes controls, tree.entryAt dn = none →
    (server ⟨dn, .base, .present "objectClass", attributes, controls⟩).Misses
  group : ∀ address attributes controls,
    let reply := server ⟨base, .subtree, groupFilter schema groupAttribute address, attributes,
      controls⟩
    reply.Gives attributes (tree.HasGroup schema base groupAttribute address) ∨
      (reply.Misses ∧ ∀ entry, ¬ tree.HasGroup schema base groupAttribute address entry)

/-- Every group is under the base and has one address, by which no other entry is known and
which may be a list. -/
structure Fits (tree : Tree) (classifier : Classifier) (schema : Schema)
    (base groupAttribute : String) : Prop where
  isAttribute : Filter.IsAttribute groupAttribute
  apart : ∀ entry ∈ tree.entries, entry.NamesApart
  below : ∀ entry ∈ tree.entries, entry.IsGroup schema → tree.isBelow entry.dn base
  addressed : ∀ entry ∈ tree.entries, entry.IsGroup schema →
    ∃ address, entry.Only groupAttribute address ∧ classifier.isCandidate address = true
  alone : ∀ entry ∈ tree.entries, entry.IsGroup schema →
    ∀ address, entry.Only groupAttribute address →
      ∀ other ∈ tree.entries, other.KnownBy schema groupAttribute address → other = entry

/-- The address of the entry at a name. -/
def addressAt (tree : Tree) (schema : Schema) (groupAttribute dn : String) : Option Address :=
  (tree.entryAt dn).bind fun entry => (entry.address? schema groupAttribute).bind Address.parse?

/-- The addresses to which an attribute of an entry refers. -/
def references (tree : Tree) (schema : Schema) (groupAttribute : String) (entry : Entry)
    (attributeName : String) : AddressSet :=
  .ofList ((entry.values attributeName).filterMap (tree.addressAt schema groupAttribute))

/-- The group that an entry denotes. -/
def group (tree : Tree) (client : Client) (groupAttribute : String) (entry : Entry) : Group where
  location := entry.dn
  category := entry.value? client.categoryAttribute
  members := tree.references client.schema groupAttribute entry client.schema.memberAttribute
  owners := tree.references client.schema groupAttribute entry client.schema.ownerAttribute

end Tree

variable {tree : Tree} {client : Client} {server : Server} {classifier : Classifier}
  {base groupAttribute : String} {entry copy : Entry} {address x : Address} {schema : Schema}

theorem Entry.Shows.address?_eq
    (shows : copy.Shows ["objectClass", schema.mailAttribute, groupAttribute] entry)
    (apart : entry.NamesApart) :
    copy.address? schema groupAttribute = entry.address? schema groupAttribute := by
  have classes := shows.values_eq apart (show "objectClass" ∈ _ by simp)
  have mails := shows.values_eq apart (show schema.mailAttribute ∈ _ by simp)
  have addresses := shows.values_eq apart (show groupAttribute ∈ _ by simp)
  unfold Entry.address? Entry.isGroup Entry.value?
  rw [classes, mails, addresses]

theorem Entry.address?_bind_parse?_iff (apart : entry.NamesApart)
    (addressed : entry.IsGroup schema → ∃ address, entry.Only groupAttribute address) :
    (entry.address? schema groupAttribute).bind Address.parse? = some x ↔
      entry.KnownBy schema groupAttribute x := by
  unfold Entry.address? Entry.KnownBy
  dsimp only
  by_cases isGroup : entry.IsGroup schema
  · obtain ⟨address, text, has, _⟩ := addressed isGroup
    have value : entry.value? groupAttribute = some text := by
      unfold Entry.value?
      rw [Entry.values_of_has apart has]
      rfl
    rw [if_pos ((Entry.isGroup_iff apart).mpr isGroup), value, Option.some_or, ← value,
      Entry.value?_bind_parse?_iff apart]
    simp [isGroup]
  · rw [if_neg fun isGroup? => isGroup ((Entry.isGroup_iff apart).mp isGroup?),
      Entry.value?_bind_parse?_iff apart]
    simp [isGroup]

namespace Tree

variable (fits : tree.Fits classifier schema base groupAttribute)
include fits

theorem addressAt_eq_some_iff {dn : String} :
    tree.addressAt schema groupAttribute dn = some x ↔
      ∃ entry, tree.entryAt dn = some entry ∧ entry.KnownBy schema groupAttribute x := by
  unfold addressAt
  rw [Option.bind_eq_some_iff]
  apply exists_congr
  intro entry
  apply and_congr_right
  intro found
  have here := tree.mem_of_entryAt dn entry found
  exact Entry.address?_bind_parse?_iff (fits.apart entry here) fun isGroup =>
    (fits.addressed entry here isGroup).imp fun _ => And.left

theorem mem_references_iff (here : entry ∈ tree.entries) {attributeName : String} :
    x ∈ tree.references schema groupAttribute entry attributeName ↔
      ∃ names dn other, entry.Has attributeName names ∧ dn ∈ names ∧
        tree.entryAt dn = some other ∧ other.KnownBy schema groupAttribute x := by
  unfold references
  rw [SortedSet.mem_ofList, List.mem_filterMap]
  simp only [addressAt_eq_some_iff fits, Entry.mem_values_iff (fits.apart entry here)]
  constructor
  · rintro ⟨dn, ⟨names, has, among⟩, other, found, known⟩
    exact ⟨names, dn, other, has, among, found, known⟩
  · rintro ⟨names, dn, other, has, among, found, known⟩
    exact ⟨dn, ⟨names, has, among⟩, other, found, known⟩

theorem only_of_denotes (here : entry ∈ tree.entries) (isGroup : entry.IsGroup schema)
    (denotes : entry.Denotes groupAttribute x) : entry.Only groupAttribute x := by
  obtain ⟨address, ⟨text, has, read⟩, _⟩ := fits.addressed entry here isGroup
  obtain ⟨values, hasToo, other, among, readToo⟩ := denotes
  cases Entry.has_unique (fits.apart entry here) has hasToo
  rw [List.mem_singleton.mp among] at readToo
  exact ⟨text, has, readToo⟩

theorem hasGroup_iff :
    tree.HasGroup schema base groupAttribute x entry ↔
      entry ∈ tree.entries ∧ entry.IsGroup schema ∧ entry.Only groupAttribute x := by
  constructor
  · rintro ⟨here, _, isGroup, denotes⟩
    exact ⟨here, isGroup, only_of_denotes fits here isGroup denotes⟩
  · rintro ⟨here, isGroup, text, has, read⟩
    exact ⟨here, fits.below entry here isGroup, isGroup, [text], has, text,
      List.mem_singleton_self text, read⟩

end Tree

section Lookup

variable (connected : client.connection = .ok server)
  (serves : tree.Serves server client.schema base groupAttribute)
  (fits : tree.Fits classifier client.schema base groupAttribute)
include connected serves fits

/-- A reference is read as the address of the entry at its name. -/
theorem readReference_yields (dn : String) :
    Yields (client.readReference groupAttribute dn)
      (.ok (tree.addressAt client.schema groupAttribute dn)) := by
  unfold Client.readReference Tree.addressAt
  cases found : tree.entryAt dn with
  | none =>
      obtain ⟨_, _, reply⟩ := serves.absent dn _ client.controls found
      apply (Client.find_of_noSuchObject connected Filter.read?_anyEntry reply).bind_ok
      exact (Client.tell_yields _).bind_ok (Yields.pure none)
  | some entry =>
      obtain ⟨_, _, reply, copies, complete⟩ := serves.present dn entry _ client.controls found
      apply (Client.find_of_success connected Filter.read?_anyEntry reply).bind_ok
      obtain ⟨copy, inside, _⟩ := complete entry rfl
      split
      · contradiction
      · rename_i none
        rw [Option.some.inj none] at inside
        cases inside
      · rename_i first others list
        rw [Option.some.inj list] at copies
        obtain ⟨_, rfl, shows⟩ := copies first List.mem_cons_self
        rw [shows.address?_eq (fits.apart _ (tree.mem_of_entryAt dn _ found)), Option.bind_some]
        cases Entry.address? _ client.schema groupAttribute with
        | none => exact (Client.tell_yields _).bind_ok (Yields.pure none)
        | some text =>
            dsimp only
            rw [Option.bind_some]
            split
            · exact (Client.tell_yields _).bind_ok (Yields.pure _)
            · exact Yields.pure _

theorem readReferences_yields {attributeName : String}
    (same : copy.values attributeName = entry.values attributeName)
    (room : ∀ count, client.maxReferences = some count →
      (tree.references client.schema groupAttribute entry attributeName).size ≤ count) :
    Yields (client.readReferences groupAttribute copy attributeName)
      (.ok (tree.references client.schema groupAttribute entry attributeName)) := by
  unfold Client.readReferences
  rw [same]
  apply readCapped_of_room (Client.tell_yields _)
    (fun dn _ => readReference_yields connected serves fits dn) _ room
  intro x
  simp [Tree.references]

theorem readGroup_yields (here : entry ∈ tree.entries)
    (shows : copy.Shows [client.categoryAttribute, client.schema.memberAttribute,
      client.schema.ownerAttribute] entry)
    (room : ∀ count, client.maxReferences = some count → ∀ attributeName,
      (tree.references client.schema groupAttribute entry attributeName).size ≤ count) :
    Yields (client.readGroup groupAttribute copy) (.ok (tree.group client groupAttribute entry)) := by
  have apart := fits.apart entry here
  have categories := shows.values_eq apart (show client.categoryAttribute ∈ _ by simp)
  have members := shows.values_eq apart (show client.schema.memberAttribute ∈ _ by simp)
  have owners := shows.values_eq apart (show client.schema.ownerAttribute ∈ _ by simp)
  unfold Client.readGroup Tree.group Entry.value?
  rw [← shows.dn, ← categories]
  apply (readReferences_yields connected serves fits members
    fun count known => room count known _).bind_ok
  apply (readReferences_yields connected serves fits owners
    fun count known => room count known _).bind_ok
  exact Yields.pure _

/-- An address that a group of the tree has leads to this group. -/
theorem lookup_of_group (here : entry ∈ tree.entries) (isGroup : entry.IsGroup client.schema)
    (only : entry.Only groupAttribute address)
    (room : ∀ count, client.maxReferences = some count → ∀ attributeName,
      (tree.references client.schema groupAttribute entry attributeName).size ≤ count) :
    Yields (client.lookup ⟨base, groupAttribute, address.full⟩)
      (.ok (some (tree.group client groupAttribute entry))) := by
  have hasGroup := (Tree.hasGroup_iff fits).mpr ⟨here, isGroup, only⟩
  have read := Filter.read?_ofGroup fits.isAttribute client.schema.groupClass address.full
  rcases serves.group address
    [client.categoryAttribute, client.schema.memberAttribute, client.schema.ownerAttribute]
    client.controls with ⟨_, _, reply, copies, complete⟩ | ⟨_, noGroup⟩
  · obtain ⟨copy, inside, _⟩ := complete entry hasGroup
    generalize list : List.filterMap Found.entry? _ = found at inside copies
    cases found with
    | nil => cases inside
    | cons first others =>
        obtain ⟨other, hasGroupToo, shows⟩ := copies first List.mem_cons_self
        obtain ⟨amongEntries, isGroupToo, onlyToo⟩ := (Tree.hasGroup_iff fits).mp hasGroupToo
        obtain rfl := fits.alone entry here isGroup address only other amongEntries
          (.inl ⟨isGroupToo, onlyToo.first⟩)
        have group := readGroup_yields connected serves fits here shows room
        rw [Client.lookup_eq]
        apply (Client.find_of_success connected read reply).bind_ok
        rw [list]
        exact Client.readFirst_cons others group
  · exact absurd hasGroup (noGroup entry)

/-- An address that no group of the tree has leads to no group. -/
theorem lookup_of_no_group
    (noGroup : ∀ entry ∈ tree.entries, entry.IsGroup client.schema →
      ¬ entry.Only groupAttribute address) :
    Yields (client.lookup ⟨base, groupAttribute, address.full⟩) (.ok none) := by
  have nothing (entry : Entry) :
      ¬ tree.HasGroup client.schema base groupAttribute address entry := by
    intro hasGroup
    obtain ⟨here, isGroup, only⟩ := (Tree.hasGroup_iff fits).mp hasGroup
    exact noGroup entry here isGroup only
  have read := Filter.read?_ofGroup fits.isAttribute client.schema.groupClass address.full
  rw [Client.lookup_eq]
  rcases serves.group address
    [client.categoryAttribute, client.schema.memberAttribute, client.schema.ownerAttribute]
    client.controls with ⟨_, _, reply, copies, _⟩ | ⟨⟨_, _, reply⟩, _⟩
  · apply (Client.find_of_success connected read reply).bind_ok
    generalize List.filterMap Found.entry? _ = found at copies
    cases found with
    | nil => exact Yields.pure _
    | cons first others =>
        obtain ⟨entry, hasGroup, _⟩ := copies first List.mem_cons_self
        exact absurd hasGroup (nothing entry)
  · exact (Client.find_of_noSuchObject connected read reply).bind_ok (Yields.pure _)

theorem groupAt_of_group (here : entry ∈ tree.entries) (isGroup : entry.IsGroup client.schema)
    (only : entry.Only groupAttribute address)
    (room : ∀ count, client.maxReferences = some count → ∀ attributeName,
      (tree.references client.schema groupAttribute entry attributeName).size ≤ count) :
    (client.resolver classifier base groupAttribute).groupAt address =
      .ok (some (tree.group client groupAttribute entry)) := by
  have yields := lookup_of_group connected serves fits here isGroup only room
  obtain ⟨other, onlyToo, candidate⟩ := fits.addressed entry here isGroup
  obtain rfl := Entry.first_unique (fits.apart entry here) only.first onlyToo.first
  rw [Client.groupAt_resolver, if_pos candidate]
  exact Client.outcome_toDirectory yields

theorem groupAt_of_no_group
    (noGroup : ∀ entry ∈ tree.entries, entry.IsGroup client.schema →
      ¬ entry.Only groupAttribute address) :
    (client.resolver classifier base groupAttribute).groupAt address = .ok none := by
  rw [Client.groupAt_resolver]
  split
  · exact Client.outcome_toDirectory (lookup_of_no_group connected serves fits noGroup)
  · rfl

end Lookup

end Listmaster.Ldap
