import Listmaster.Proofs.Json.Meaning
import Listmaster.Proofs.Process

/-!
The record of a mail, stored and loaded.

A value of the attribute is accepted if it is a list of texts of addresses, in any order, with
repetitions and in any case (`LoopGuard.exists_ofValue?_iff`).  What is stored is the canonical
list of these addresses, and a mail whose record is canonical stays as it is when its own guard is
stored in it again: `LoopGuard.record_survives`.
-/

namespace Listmaster

/-- The texts of the addresses that are written, each once and in their order. -/
structure Address.IsCanonical (written canonical : List String) : Prop where
  increasing : canonical.Pairwise (fun earlier later => compare earlier later = .lt)
  mem_iff : ∀ text, text ∈ canonical ↔
    ∃ spelling ∈ written, ∃ address, parse? spelling = some address ∧ address.full = text

theorem AddressSet.isCanonical {written : List String} {addresses : List Address}
    (read : written.mapM Address.parse? = some addresses) :
    Address.IsCanonical written ((SortedSet.ofList addresses).toList.map Address.full) where
  increasing := by
    rw [List.pairwise_map]
    exact (SortedSet.ofList addresses).increasing
  mem_iff text := by
    simp only [List.mem_map, ← SortedSet.mem_def, SortedSet.mem_ofList, Json.mem_mapM_iff read]
    constructor
    · rintro ⟨address, ⟨spelling, here, denotes⟩, same⟩
      exact ⟨spelling, here, address, denotes, same⟩
    · rintro ⟨spelling, here, address, denotes, same⟩
      exact ⟨address, ⟨spelling, here, denotes⟩, same⟩

namespace LoopGuard

/-- The mail with the record of its own guard. -/
def refresh (mail : Mail) : Mail := (load mail).store mail

variable {guard : LoopGuard} {value : JsonValue} {mail : Mail} {texts : List String}
  {addresses : List Address}

theorem load?_of_held (held : mail.attributes.get? attributeName = some value) :
    load? mail = ofValue? value := by
  rw [load?, held]

theorem load_of_accepted (held : mail.attributes.get? attributeName = some value)
    (accepted : ofValue? value = some guard) : load mail = guard := by
  rw [load, load?_of_held held, accepted, Option.getD_some]

theorem exists_texts_of_mapM {items : List Json}
    (read : items.mapM (fun item => item.text?.bind Address.parse?) = some addresses) :
    ∃ texts : List String, items = texts.map .text := by
  rw [Json.mapM_eq_some_iff] at read
  induction read with
  | nil => exact ⟨[], rfl⟩
  | @cons item _ _ _ denotes _ inductionHypothesis =>
      obtain ⟨texts, rfl⟩ := inductionHypothesis
      cases item with
      | text first => exact ⟨first :: texts, rfl⟩
      | null | bool | integer | float | array | object | unreadable => cases denotes

theorem exists_texts_of_accepted (accepted : ofValue? value = some guard) :
    ∃ texts, value = .texts texts := by
  obtain ⟨json, isNormal⟩ := value
  obtain ⟨addresses, read, _⟩ := Option.bind_eq_some_iff.mp accepted
  cases json with
  | array items =>
      obtain ⟨texts, rfl⟩ := exists_texts_of_mapM read
      exact ⟨texts, rfl⟩
  | null | bool | integer | float | text | object | unreadable => cases read

theorem accepted_texts_iff :
    ofValue? (.texts texts) = some guard ↔
      ∃ addresses, texts.mapM Address.parse? = some addresses ∧ ⟨.ofList addresses⟩ = guard := by
  rw [ofValue?_texts, Option.map_eq_some_iff]

/-- The values that are accepted are the lists of texts of addresses. -/
theorem exists_accepted_iff :
    (∃ guard, ofValue? value = some guard) ↔
      ∃ texts, value = .texts texts ∧
        ∀ text ∈ texts, ∃ address, Address.parse? text = some address := by
  simp only [← Json.exists_mapM_iff]
  constructor
  · rintro ⟨guard, accepted⟩
    obtain ⟨texts, rfl⟩ := exists_texts_of_accepted accepted
    obtain ⟨addresses, read, _⟩ := accepted_texts_iff.mp accepted
    exact ⟨texts, rfl, addresses, read⟩
  · rintro ⟨texts, rfl, addresses, read⟩
    exact ⟨_, accepted_texts_iff.mpr ⟨addresses, read, rfl⟩⟩

theorem store_of_held (held : mail.attributes.get? attributeName = some guard.toValue) :
    guard.store mail = mail := by
  unfold store
  split
  · rfl
  · unfold Mail.setAttribute
    rw [SortedMap.insert_of_get? held]

theorem eq_nil_of_isEmpty (read : texts.mapM Address.parse? = some addresses)
    (none : (SortedSet.ofList addresses).isEmpty = true) : texts = [] := by
  rw [SortedSet.isEmpty_iff] at none
  cases texts with
  | nil => rfl
  | cons first rest =>
      obtain ⟨address, denotes⟩ :=
        Json.exists_mapM_iff.mp ⟨addresses, read⟩ first List.mem_cons_self
      have here := (Json.mem_mapM_iff read).mpr ⟨first, List.mem_cons_self, denotes⟩
      exact absurd (SortedSet.mem_ofList.mpr here) (none address)

theorem get?_refresh (held : mail.attributes.get? attributeName = some (.texts texts))
    (read : texts.mapM Address.parse? = some addresses) :
    (refresh mail).attributes.get? attributeName = some (toValue ⟨.ofList addresses⟩) := by
  rw [refresh, load_of_accepted held (accepted_texts_iff.mpr ⟨addresses, read, rfl⟩), store]
  split
  · -- Nothing is stored, and the record is the empty list as it stands.
    rename_i none
    have nothing := eq_nil_of_isEmpty read none
    subst nothing
    cases read
    exact held
  · exact SortedMap.get?_insert_self _ _ _

/-- What is stored in a mail is loaded from it, a guard without lists apart, which leaves the record
as it is; nothing else of the mail changes.  The records that are accepted are the lists of texts of
addresses, and the mail with the record of its own guard has the canonical list, which is stored
unchanged from then on. -/
theorem record_survives :
    (∀ (guard : LoopGuard) (mail : Mail),
      load (guard.store mail) = (if guard.recorded.isEmpty then load mail else guard) ∧
        (∀ name, name ≠ attributeName →
          (guard.store mail).attributes.get? name = mail.attributes.get? name) ∧
        { guard.store mail with attributes := mail.attributes } = mail) ∧
      (∀ mail value, mail.attributes.get? attributeName = some value →
        ((∃ guard, load? mail = some guard) ↔
          ∃ texts, value = .texts texts ∧
            ∀ text ∈ texts, ∃ address, Address.parse? text = some address)) ∧
      ∀ mail texts, mail.attributes.get? attributeName = some (.texts texts) →
        (∀ text ∈ texts, ∃ address, Address.parse? text = some address) →
          ∃ canonical, Address.IsCanonical texts canonical ∧
            (refresh mail).attributes.get? attributeName = some (.texts canonical) ∧
            ∀ other, other.attributes.get? attributeName = some (.texts canonical) →
              refresh other = other := by
  refine ⟨fun guard mail => ⟨load_store guard mail, ?_, ?_⟩, ?_, ?_⟩
  · exact fun name other => get?_store_of_ne guard mail other
  · rw [store_eq]
  · intro mail value held
    rw [load?_of_held held]
    exact exists_accepted_iff
  · intro mail texts held each
    obtain ⟨addresses, read⟩ := Json.exists_mapM_iff.mpr each
    refine ⟨_, AddressSet.isCanonical read, get?_refresh held read, ?_⟩
    intro other canonical
    have loaded := load_of_accepted canonical (ofValue?_toValue ⟨.ofList addresses⟩)
    rw [refresh, loaded]
    exact store_of_held canonical

end LoopGuard

namespace Sample

/-- A record that names the team twice, once in other letters, and is not sorted. -/
def looseRecord : List String :=
  ["team@lists.example.org", "crew@lists.example.org", "team@LISTS.example.org"]

/-- A mail with this record. -/
def forwarded : Mail :=
  mail.setAttribute LoopGuard.attributeName (.texts looseRecord)

end Sample

open Sample in
theorem LoopGuard.record_survives_sample :
    (∀ text ∈ looseRecord, ∃ address, Address.parse? text = some address) ∧
      ∃ canonical, Address.IsCanonical looseRecord canonical ∧
        (LoopGuard.refresh forwarded).attributes.get? LoopGuard.attributeName =
          some (.texts canonical) := by
  have held : forwarded.attributes.get? LoopGuard.attributeName = some (.texts looseRecord) := rfl
  have valid : ∀ text ∈ looseRecord, ∃ address, Address.parse? text = some address := by
    simp only [looseRecord, List.forall_mem_cons]
    exact ⟨⟨team, by decide⟩, ⟨crew, by decide⟩, ⟨team, by decide⟩, nofun⟩
  obtain ⟨canonical, isCanonical, stored, _⟩ :=
    LoopGuard.record_survives.2.2 forwarded looseRecord held valid
  exact ⟨valid, canonical, isCanonical, stored⟩

end Listmaster
