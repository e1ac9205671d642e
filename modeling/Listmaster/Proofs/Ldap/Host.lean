import Listmaster.Ldap.Script
import Listmaster.Proofs.Ldap.Tree

/-!
A server that holds a tree.

It answers the searches of a client by the entries themselves and so serves the tree that they
make, `Tree.host_serves`.  Whether groups can be looked up in this tree is decided by what a
client reads of the entries, `Tree.fits_of_values`.
-/

namespace Listmaster.Ldap

variable {entry : Entry} {entries : List Entry} {schema : Schema} {classifier : Classifier}
  {base groupAttribute attributeName : String} {address : Address}

/-- Entries under the names that they have, below every base. -/
def Tree.ofEntries (entries : List Entry) : Tree where
  entries := entries
  entryAt dn := entries.find? (·.dn = dn)
  isBelow _ _ := True
  mem_of_entryAt _ _ found := List.mem_of_find?_eq_some found

/-- Whether the filter asks for the address that the text denotes. -/
def Filter.asksFor (filter : Filter) (text : String) : Bool :=
  (Address.parse? text).any fun address =>
    filter.askedValues.getLast? = some (octets address.full)

/-- The server that answers by the entries of a tree. -/
def Tree.host (tree : Tree) (schema : Schema) (groupAttribute : String) : Server := fun search =>
  match search.scope with
  | .base =>
      match tree.entryAt search.base with
      | some entry => .done [.entry entry] 0 ""
      | none => .done [] noSuchObject ""
  | .subtree =>
      let found := tree.entries.filter fun entry =>
        entry.isGroup schema && (entry.values groupAttribute).any search.filter.asksFor
      .done (found.map .entry) 0 ""

/-- An entry whose values are texts. -/
def Entry.ofTexts (dn : String) (attributes : List (String × List String)) : Entry :=
  ⟨dn, attributes.map fun (name, values) => (name, values.map String.toUTF8)⟩

theorem Filter.asksFor_iff {text : String} :
    (groupFilter schema groupAttribute address).asksFor text = true ↔
      Address.parse? text = some address := by
  unfold asksFor
  rw [Option.any_eq_true]
  constructor
  · rintro ⟨other, read, asked⟩
    have same : octets address.full = octets other.full := Option.some.inj (of_decide_eq_true asked)
    rw [read, Address.eq_of_full (octets_injective same)]
  · intro read
    exact ⟨address, read, decide_eq_true rfl⟩

theorem Entry.Shows.refl (apart : entry.NamesApart) (names : List String) :
    entry.Shows names entry := ⟨rfl, apart, fun _ _ _ => .rfl⟩

theorem Tree.filterMap_map_found (entries : List Entry) :
    (entries.map Found.entry).filterMap Found.entry? = entries := by
  rw [List.filterMap_map]
  exact List.filterMap_some

theorem Tree.host_serves (apart : ∀ entry ∈ entries, entry.NamesApart) :
    (ofEntries entries).Serves ((ofEntries entries).host schema groupAttribute) schema base
      groupAttribute where
  present dn entry attributes controls found := by
    have here := (ofEntries entries).mem_of_entryAt dn entry found
    have reply : (ofEntries entries).host schema groupAttribute
        ⟨dn, .base, .present "objectClass", attributes, controls⟩ = .done [.entry entry] 0 "" := by
      simp only [host, found]
    refine ⟨_, _, reply, ?_, ?_⟩
    · intro copy inside
      obtain rfl : copy = entry := by simpa [Found.entry?] using inside
      exact ⟨copy, rfl, .refl (apart copy here) attributes⟩
    · intro other same
      rw [same]
      exact ⟨entry, by simp [Found.entry?], .refl (apart entry here) attributes⟩
  absent dn attributes controls missing := ⟨[], "", by simp only [host, missing]⟩
  group address attributes controls := by
    refine .inl ⟨_, _, rfl, ?_⟩
    have wanted (entry : Entry) :
        entry ∈ (ofEntries entries).entries.filter (fun entry => entry.isGroup schema &&
          (entry.values groupAttribute).any (groupFilter schema groupAttribute address).asksFor) ↔
        (ofEntries entries).HasGroup schema base groupAttribute address entry := by
      rw [List.mem_filter, Bool.and_eq_true, List.any_eq_true]
      simp only [Filter.asksFor_iff]
      constructor
      · rintro ⟨here, isGroup, text, inside, read⟩
        obtain ⟨values, has, among⟩ := (Entry.mem_values_iff (apart entry here)).mp inside
        exact ⟨here, trivial, (Entry.isGroup_iff (apart entry here)).mp isGroup, values, has, text,
          among, read⟩
      · rintro ⟨here, _, isGroup, values, has, text, among, read⟩
        exact ⟨here, (Entry.isGroup_iff (apart entry here)).mpr isGroup, text,
          (Entry.mem_values_iff (apart entry here)).mpr ⟨values, has, among⟩, read⟩
    rw [filterMap_map_found]
    constructor
    · intro copy inside
      exact ⟨copy, (wanted copy).mp inside,
        .refl (apart copy (List.mem_of_mem_filter inside)) attributes⟩
    · intro entry hasGroup
      exact ⟨entry, (wanted entry).mpr hasGroup, .refl (apart entry hasGroup.mem) attributes⟩

instance (entry : Entry) : Decidable entry.NamesApart :=
  inferInstanceAs (Decidable (∀ a ∈ entry.attributes, ∀ b ∈ entry.attributes,
    Text.sameIgnoringCase a.1 b.1 = true → a = b))

theorem Entry.has_values (apart : entry.NamesApart) (occupied : entry.values attributeName ≠ []) :
    entry.Has attributeName (entry.values attributeName) := by
  by_cases some : ∃ values, entry.Has attributeName values
  · obtain ⟨values, has⟩ := some
    rwa [Entry.values_of_has apart has]
  · exact absurd (Entry.values_of_not_has apart some) occupied

theorem Entry.only_of_values (apart : entry.NamesApart)
    (single : (entry.values groupAttribute).length = 1)
    (read : (entry.value? groupAttribute).bind Address.parse? = some address) :
    entry.Only groupAttribute address := by
  obtain ⟨text, values⟩ := List.length_eq_one_iff.mp single
  have has := Entry.has_values apart (show entry.values groupAttribute ≠ [] by simp [values])
  unfold Entry.value? at read
  rw [values] at has read
  exact ⟨text, has, read⟩

theorem Tree.fits_of_values (isAttribute : Filter.IsAttribute groupAttribute)
    (apart : ∀ entry ∈ entries, entry.NamesApart)
    (addressed : ∀ entry ∈ entries, entry.isGroup schema = true →
      (entry.values groupAttribute).length = 1 ∧
        ((entry.value? groupAttribute).bind Address.parse?).any classifier.isCandidate = true)
    (alone : ∀ entry ∈ entries, entry.isGroup schema = true → ∀ other ∈ entries,
      (other.address? schema groupAttribute).bind Address.parse? =
        (entry.value? groupAttribute).bind Address.parse? → other = entry) :
    (ofEntries entries).Fits classifier schema base groupAttribute := by
  have groups (entry : Entry) (here : entry ∈ entries) (isGroup : entry.IsGroup schema) :
      ∃ address, entry.Only groupAttribute address ∧ classifier.isCandidate address = true := by
    obtain ⟨single, candidate⟩ :=
      addressed entry here ((Entry.isGroup_iff (apart entry here)).mpr isGroup)
    obtain ⟨address, read, candidate⟩ := (Option.any_eq_true _ _).mp candidate
    exact ⟨address, Entry.only_of_values (apart entry here) single read, candidate⟩
  refine ⟨isAttribute, apart, fun _ _ _ => trivial, groups, ?_⟩
  intro entry here isGroup address only other there known
  apply alone entry here ((Entry.isGroup_iff (apart entry here)).mpr isGroup) other there
  rw [(Entry.value?_bind_parse?_iff (apart entry here)).mpr only.first]
  exact (Entry.address?_bind_parse?_iff (apart other there) fun isGroup =>
    (groups other there isGroup).imp fun _ => And.left).mpr known

end Listmaster.Ldap
