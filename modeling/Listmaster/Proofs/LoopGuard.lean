import Listmaster.LoopGuard
import Listmaster.Proofs.Address.Canonical
import Listmaster.Proofs.Sorted

/-!
The lists that a mail records.

What is stored in a mail is loaded from it again: `load_store`.
-/

namespace Listmaster

namespace LoopGuard

@[simp]
theorem wasVisited_iff {guard : LoopGuard} {list : Address} :
    guard.wasVisited list = true ↔ list ∈ guard.recorded := SortedSet.contains_iff

theorem wasVisited_eq_false_iff {guard : LoopGuard} {list : Address} :
    guard.wasVisited list = false ↔ ¬ list ∈ guard.recorded := by
  rw [← wasVisited_iff, Bool.not_eq_true]

@[simp]
theorem not_mem_empty (list : Address) : ¬ list ∈ empty.recorded := SortedSet.not_mem_empty list

@[simp]
theorem mem_record {guard : LoopGuard} {list other : Address} :
    other ∈ (guard.record list).recorded ↔ other = list ∨ other ∈ guard.recorded :=
  SortedSet.mem_insert

@[simp]
theorem mem_merge {guard other : LoopGuard} {list : Address} :
    list ∈ (guard.merge other).recorded ↔ list ∈ guard.recorded ∨ list ∈ other.recorded :=
  SortedSet.mem_union

theorem mem_foldl_merge {guards : List LoopGuard} {guard : LoopGuard} {list : Address} :
    list ∈ (guards.foldl merge guard).recorded ↔
      list ∈ guard.recorded ∨ ∃ other ∈ guards, list ∈ other.recorded := by
  induction guards generalizing guard with
  | nil => simp
  | cons first rest inductionHypothesis =>
      simp only [List.foldl_cons, inductionHypothesis, mem_merge, List.mem_cons,
        exists_eq_or_imp, or_assoc]

theorem ofValue?_texts (texts : List String) :
    ofValue? (.texts texts) =
      (texts.mapM Address.parse?).map fun addresses => ⟨.ofList addresses⟩ := by
  have denoted : (fun item => item.text?.bind Address.parse?) ∘ Json.text = Address.parse? := rfl
  unfold ofValue? JsonValue.texts
  simp only [Json.list?, List.mapM_map, denoted]
  cases texts.mapM Address.parse? <;> rfl

theorem ofValue?_toValue (guard : LoopGuard) : ofValue? guard.toValue = some guard := by
  rw [toValue, ofValue?_texts, Address.mapM_parse?_full, Option.map_some, SortedSet.ofList_toList]

theorem load_congr {mail other : Mail}
    (same : mail.attributes.get? attributeName = other.attributes.get? attributeName) :
    load mail = load other := by
  simp only [load, load?, same]

theorem attributes_store_congr (guard : LoopGuard) {mail other : Mail}
    (same : mail.attributes = other.attributes) :
    (guard.store mail).attributes = (guard.store other).attributes := by
  unfold store
  split
  · exact same
  · simp only [Mail.setAttribute, same]

theorem store_eq (guard : LoopGuard) (mail : Mail) :
    guard.store mail = { mail with attributes := (guard.store mail).attributes } := by
  unfold store
  split <;> rfl

theorem get?_store_of_ne (guard : LoopGuard) (mail : Mail) {name : String}
    (other : name ≠ attributeName) :
    (guard.store mail).attributes.get? name = mail.attributes.get? name := by
  unfold store
  split
  · rfl
  · unfold Mail.setAttribute
    rw [SortedMap.get?_insert, if_neg]
    simpa using other

/-- What is stored is loaded again; without lists the mail keeps its record. -/
theorem load_store (guard : LoopGuard) (mail : Mail) :
    load (guard.store mail) = if guard.recorded.isEmpty then load mail else guard := by
  unfold store
  split
  · rfl
  · simp [load, load?, Mail.setAttribute, ofValue?_toValue]

/-- A guard that only grew is loaded again, whether there was anything to store or not. -/
theorem load_store_of_subset {guard : LoopGuard} {mail : Mail}
    (grown : (load mail).recorded ⊆ guard.recorded) : load (guard.store mail) = guard := by
  rw [load_store]
  split
  · rename_i none
    rw [SortedSet.isEmpty_iff] at none
    have same : (load mail).recorded = guard.recorded := by
      ext list
      exact ⟨grown list, fun here => absurd here (none list)⟩
    cases loaded : load mail
    cases guard
    simp_all
  · rfl

end LoopGuard

end Listmaster
