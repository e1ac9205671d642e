import Listmaster.Ldap.Client
import Listmaster.Proofs.Sorted

/-!
What stands in an entry of a tree.

`Entry.Has` tells the values under a name, `Entry.Shows` that an entry in an answer has what
the entry in the tree has, as far as it was asked for.  A client reads the same values
(`values_of_has`), if no two attributes of the entry have the same name.
-/

namespace Listmaster.Ldap.Entry

/-- The entry has these values under the name, whose letters may be of any case. -/
def Has (entry : Entry) (name : String) (values : List String) : Prop :=
  ∃ other raw, (other, raw) ∈ entry.attributes ∧ Text.sameIgnoringCase other name = true ∧
    raw.mapM String.fromUTF8? = some values

/-- No two attributes have names that differ at most in the case of their letters. -/
def NamesApart (entry : Entry) : Prop :=
  ∀ a ∈ entry.attributes, ∀ b ∈ entry.attributes, Text.sameIgnoringCase a.1 b.1 = true → a = b

/-- The text is the first value under the name. -/
def Begins (entry : Entry) (name text : String) : Prop :=
  ∃ others, entry.Has name (text :: others)

/-- The values under the name are these, which are none if there is no such attribute. -/
def Lists (entry : Entry) (name : String) (values : List String) : Prop :=
  entry.Has name values ∨ (values = [] ∧ ¬ ∃ others, entry.Has name others)

/-- The entry is of the class of groups. -/
def IsGroup (entry : Entry) (schema : Schema) : Prop :=
  ∃ classes, entry.Has "objectClass" classes ∧
    ∃ name ∈ classes, Text.sameIgnoringCase name schema.groupClass = true

/-- The first value under the name denotes the address. -/
def First (entry : Entry) (name : String) (address : Address) : Prop :=
  ∃ text others, entry.Has name (text :: others) ∧ Address.parse? text = some address

/-- There is one value under the name, and it denotes the address. -/
def Only (entry : Entry) (name : String) (address : Address) : Prop :=
  ∃ text, entry.Has name [text] ∧ Address.parse? text = some address

/-- An answer shows what the entry has under these names. -/
structure Shows (copy : Entry) (names : List String) (entry : Entry) : Prop where
  dn : copy.dn = entry.dn
  apart : copy.NamesApart
  values : ∀ name ∈ names, ∀ values, copy.Has name values ↔ entry.Has name values

variable {entry copy : Entry} {name text : String} {values others names : List String}
  {schema : Schema} {address : Address}

theorem attribute_unique (apart : entry.NamesApart) {a b : String × List ByteArray}
    (here : a ∈ entry.attributes) (there : b ∈ entry.attributes)
    (first : Text.sameIgnoringCase a.1 name = true)
    (second : Text.sameIgnoringCase b.1 name = true) : a = b := by
  apply apart a here b there
  rw [Text.sameIgnoringCase_iff] at *
  exact first.trans second.symm

theorem has_unique (apart : entry.NamesApart) (first : entry.Has name values)
    (second : entry.Has name others) : values = others := by
  obtain ⟨a, raw, here, same, read⟩ := first
  obtain ⟨b, bytes, there, equal, decoded⟩ := second
  cases attribute_unique apart here there same equal
  rw [read] at decoded
  exact Option.some.inj decoded

theorem first_unique {x y : Address} (apart : entry.NamesApart) (first : entry.First name x)
    (second : entry.First name y) : x = y := by
  obtain ⟨text, rest, has, read⟩ := first
  obtain ⟨other, later, hasToo, readToo⟩ := second
  cases has_unique apart has hasToo
  rw [read] at readToo
  exact Option.some.inj readToo

theorem Only.first (only : entry.Only name address) : entry.First name address := by
  obtain ⟨text, has, read⟩ := only
  exact ⟨text, [], has, read⟩

/-- What a client keeps of an answer are the attributes whose values are texts. -/
theorem mem_texts_iff (apart : entry.NamesApart) {other : String} :
    (other, values) ∈ entry.texts.toList ↔
      ∃ raw, (other, raw) ∈ entry.attributes ∧ raw.mapM String.fromUTF8? = some values := by
  unfold texts
  rw [SortedMap.mem_ofList_iff]
  · simp only [List.mem_filterMap, Option.map_eq_some_iff, Prod.exists]
    constructor
    · rintro ⟨_, raw, here, _, read, ⟨⟩⟩
      exact ⟨raw, here, read⟩
    · rintro ⟨raw, here, read⟩
      exact ⟨other, raw, here, values, read, rfl⟩
  · simp only [List.mem_filterMap, Option.map_eq_some_iff, Prod.exists]
    rintro _ ⟨a, raw, among, first, read, rfl⟩ _ ⟨_, bytes, amongToo, second, readToo, rfl⟩ ⟨⟩
    cases attribute_unique apart among amongToo (Text.sameIgnoringCase_refl a)
      (Text.sameIgnoringCase_refl a)
    rw [read] at readToo
    cases readToo
    rfl

theorem values_of_has (apart : entry.NamesApart) (has : entry.Has name values) :
    entry.values name = values := by
  obtain ⟨other, raw, here, same, read⟩ := has
  have only : entry.texts.toList.filter (fun pair => Text.sameIgnoringCase pair.1 name) =
      [(other, values)] := by
    apply List.perm_singleton.mp
    rw [List.perm_ext_iff_of_nodup ((SortedMap.nodup_toList _).filter _) (List.nodup_singleton _)]
    rintro ⟨another, texts⟩
    rw [List.mem_filter, mem_texts_iff apart, List.mem_singleton]
    constructor
    · rintro ⟨⟨bytes, there, decoded⟩, equal⟩
      cases attribute_unique apart here there same equal
      rw [read] at decoded
      cases decoded
      rfl
    · rintro ⟨⟩
      exact ⟨⟨raw, here, read⟩, same⟩
  unfold Entry.values
  rw [only]
  simp

theorem values_of_not_has (apart : entry.NamesApart) (none : ¬ ∃ values, entry.Has name values) :
    entry.values name = [] := by
  have nothing : entry.texts.toList.filter (fun pair => Text.sameIgnoringCase pair.1 name) =
      [] := by
    rw [List.filter_eq_nil_iff]
    rintro ⟨other, values⟩ here same
    obtain ⟨raw, among, read⟩ := (mem_texts_iff apart).mp here
    exact none ⟨values, other, raw, among, same, read⟩
  unfold Entry.values
  rw [nothing]
  rfl

theorem mem_values_iff (apart : entry.NamesApart) :
    text ∈ entry.values name ↔ ∃ values, entry.Has name values ∧ text ∈ values := by
  by_cases some : ∃ values, entry.Has name values
  · obtain ⟨values, has⟩ := some
    rw [values_of_has apart has]
    constructor
    · exact fun here => ⟨values, has, here⟩
    · rintro ⟨others, hasToo, here⟩
      rwa [has_unique apart has hasToo]
  · rw [values_of_not_has apart some]
    constructor
    · exact nofun
    · rintro ⟨values, has, _⟩
      exact absurd ⟨values, has⟩ some

theorem isGroup_iff (apart : entry.NamesApart) :
    entry.isGroup schema = true ↔ entry.IsGroup schema := by
  unfold isGroup
  rw [List.any_eq_true]
  simp only [mem_values_iff apart, IsGroup]
  constructor
  · rintro ⟨className, ⟨classes, has, here⟩, same⟩
    exact ⟨classes, has, className, here, same⟩
  · rintro ⟨classes, has, className, here, same⟩
    exact ⟨className, ⟨classes, has, here⟩, same⟩

theorem lists_iff (apart : entry.NamesApart) :
    entry.Lists name values ↔ entry.values name = values := by
  unfold Lists
  by_cases some : ∃ others, entry.Has name others
  · obtain ⟨others, has⟩ := some
    rw [values_of_has apart has]
    constructor
    · rintro (hasToo | ⟨_, none⟩)
      · exact has_unique apart has hasToo
      · exact absurd ⟨others, has⟩ none
    · rintro rfl
      exact .inl has
  · rw [values_of_not_has apart some]
    constructor
    · rintro (has | ⟨nothing, _⟩)
      · exact absurd ⟨values, has⟩ some
      · exact nothing.symm
    · rintro rfl
      exact .inr ⟨rfl, some⟩

theorem value?_eq_some_iff (apart : entry.NamesApart) :
    entry.value? name = some text ↔ entry.Begins name text := by
  unfold value? Begins
  rw [List.head?_eq_some_iff]
  constructor
  · rintro ⟨others, values⟩
    rcases (lists_iff apart).mpr values with has | ⟨nothing, _⟩
    · exact ⟨others, has⟩
    · cases nothing
  · rintro ⟨others, has⟩
    exact ⟨others, values_of_has apart has⟩

theorem value?_bind_parse?_iff (apart : entry.NamesApart) :
    (entry.value? name).bind Address.parse? = some address ↔ entry.First name address := by
  simp only [Option.bind_eq_some_iff, value?_eq_some_iff apart, Begins, First, exists_and_right]

/-- An answer is read as the entry itself would be. -/
theorem Shows.values_eq (shows : copy.Shows names entry) (apart : entry.NamesApart)
    (asked : name ∈ names) : copy.values name = entry.values name := by
  by_cases some : ∃ values, entry.Has name values
  · obtain ⟨values, has⟩ := some
    rw [values_of_has apart has,
      values_of_has shows.apart ((shows.values name asked values).mpr has)]
  · have none : ¬ ∃ values, copy.Has name values := fun ⟨values, has⟩ =>
      some ⟨values, (shows.values name asked values).mp has⟩
    rw [values_of_not_has apart some, values_of_not_has shows.apart none]

end Listmaster.Ldap.Entry
