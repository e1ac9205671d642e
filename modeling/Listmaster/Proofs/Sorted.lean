import Mathlib.Data.List.Sublists
import Listmaster.Sorted.Map

/-!
Sorted sets compared: inclusion, and what it says about sizes.  What a map of entries holds.
-/

namespace Listmaster.SortedSet

variable {α : Type} [Ord α]

instance : HasSubset (SortedSet α) := ⟨fun s t => ∀ x, x ∈ s → x ∈ t⟩

theorem Subset.refl (s : SortedSet α) : s ⊆ s := fun _ here => here

theorem Subset.trans {s t u : SortedSet α} (first : s ⊆ t) (second : t ⊆ u) : s ⊆ u :=
  fun x here => second x (first x here)

theorem isEmpty_iff {s : SortedSet α} : s.isEmpty = true ↔ ∀ x, ¬ x ∈ s := by
  simp only [isEmpty, List.isEmpty_iff, mem_def, List.eq_nil_iff_forall_not_mem]

variable [Std.LawfulEqOrd α]

theorem nodup_toList (s : SortedSet α) : s.toList.Nodup :=
  s.increasing.imp fun less same => by simp [same] at less

theorem not_isEmpty_and_contains (s : SortedSet α) (x : α) :
    (!s.isEmpty && s.contains x) = s.contains x := by
  cases here : s.contains x with
  | false => simp
  | true =>
      have occupied : s.isEmpty ≠ true :=
        fun none => isEmpty_iff.mp none x (contains_iff.mp here)
      simp [occupied]

theorem size_lt_of_subset {s t : SortedSet α} (included : s ⊆ t) {x : α} (here : x ∈ t)
    (absent : ¬ x ∈ s) : s.size < t.size := by
  have nodup : (x :: s.toList).Nodup := List.nodup_cons.mpr ⟨absent, s.nodup_toList⟩
  have inside : (x :: s.toList) ⊆ t.toList := by
    intro y among
    rcases List.mem_cons.mp among with same | later
    · exact same ▸ here
    · exact included y later
  exact (List.subperm_of_subset nodup inside).length_le

theorem size_le_of_subset {s t : SortedSet α} (included : s ⊆ t) : s.size ≤ t.size :=
  (List.subperm_of_subset s.nodup_toList included).length_le

theorem size_insert_le [Std.TransOrd α] (s : SortedSet α) (x : α) :
    (s.insert x).size ≤ s.size + 1 := by
  have inside : (s.insert x).toList ⊆ x :: s.toList :=
    fun y here => List.mem_cons.mpr (mem_insert.mp here)
  exact (List.subperm_of_subset (s.insert x).nodup_toList inside).length_le

theorem insert_of_mem [Std.TransOrd α] {s : SortedSet α} {x : α} (here : x ∈ s) :
    s.insert x = s := by
  ext y
  rw [mem_insert]
  exact ⟨fun among => among.elim (fun same => same ▸ here) id, .inr⟩

theorem size_ofList_le [Std.TransOrd α] (list : List α) : (ofList list).size ≤ list.length := by
  apply (List.subperm_of_subset (ofList list).nodup_toList _).length_le
  intro x here
  exact mem_ofList.mp here

theorem eq_of_subset_of_size_le [Std.TransOrd α] {s t : SortedSet α} (included : s ⊆ t)
    (large : t.size ≤ s.size) : s = t := by
  ext x
  refine ⟨included x, fun here => ?_⟩
  by_contra absent
  exact Nat.not_lt.mpr large (size_lt_of_subset included here absent)

end Listmaster.SortedSet

namespace Listmaster.SortedMap

variable {κ β : Type} [Ord κ] {key : κ} {value : β} {list : List (κ × β)} {entry : κ × β}

theorem eq_empty_of_isEmpty {m : SortedMap κ β} (none : m.isEmpty = true) : m = ∅ := by
  obtain ⟨entries, increasing⟩ := m
  cases List.isEmpty_iff.mp none
  rfl

theorem mem_insertInto_self (key : κ) (value : β) (list : List (κ × β)) :
    (key, value) ∈ insertInto key value list := by
  induction list with
  | nil => exact List.mem_cons_self
  | cons first rest inductionHypothesis =>
      unfold insertInto
      split
      · exact List.mem_cons_self
      · exact List.mem_cons_self
      · exact List.mem_cons_of_mem first inductionHypothesis

variable [Std.LawfulEqOrd κ]

theorem nodup_toList (m : SortedMap κ β) : m.toList.Nodup :=
  m.increasing.imp fun less same => by simp [same] at less

theorem nodup_keys (m : SortedMap κ β) : (m.toList.map Prod.fst).Nodup := by
  rw [List.nodup_iff_pairwise_ne, List.pairwise_map]
  exact m.increasing.imp fun less same => by simp [same] at less

theorem mem_insertInto_of_ne (here : entry ∈ list) (other : entry.1 ≠ key) :
    entry ∈ insertInto key value list := by
  induction list with
  | nil => cases here
  | cons first rest inductionHypothesis =>
      unfold insertInto
      split
      · exact List.mem_cons_of_mem _ here
      · rename_i same
        rcases List.mem_cons.mp here with first | later
        · subst first
          exact absurd (Std.LawfulEqCmp.compare_eq_iff_eq.mp same).symm other
        · exact List.mem_cons_of_mem _ later
      · rcases List.mem_cons.mp here with first | later
        · exact first ▸ List.mem_cons_self
        · exact List.mem_cons_of_mem _ (inductionHypothesis later)

theorem mem_of_lookup (found : lookup key list = some value) : (key, value) ∈ list := by
  induction list with
  | nil => cases found
  | cons first rest inductionHypothesis =>
      rw [lookup] at found
      split at found
      · rename_i same
        rw [beq_iff_eq, Std.LawfulEqCmp.compare_eq_iff_eq] at same
        cases found
        exact same ▸ List.mem_cons_self
      · exact List.mem_cons_of_mem first (inductionHypothesis found)

variable [Std.TransOrd κ]

theorem insertInto_of_lookup (increasing : list.Pairwise (fun a b => compare a.1 b.1 = .lt))
    (found : lookup key list = some value) : insertInto key value list = list := by
  induction list with
  | nil => cases found
  | cons first rest inductionHypothesis =>
      rw [List.pairwise_cons] at increasing
      rw [lookup] at found
      rw [insertInto]
      split
      · -- The key would stand before all others, and is one of them.
        rename_i less
        rw [less] at found
        have greater := increasing.1 _ (mem_of_lookup found)
        exact absurd (Std.TransCmp.lt_trans less greater) (by simp)
      · rename_i same
        rw [same] at found
        cases found
        cases Std.LawfulEqCmp.eq_of_compare same
        rfl
      · rename_i greater
        rw [greater] at found
        rw [inductionHypothesis increasing.2 found]

theorem insert_of_get? {m : SortedMap κ β} (found : m.get? key = some value) :
    m.insert key value = m := by
  obtain ⟨entries, increasing⟩ := m
  unfold insert
  congr 1
  exact insertInto_of_lookup increasing found

theorem mem_foldl_insert_of_agree {m : SortedMap κ β} (here : entry ∈ m.toList)
    (agree : ∀ other ∈ list, other.1 = entry.1 → other = entry) :
    entry ∈ (list.foldl (fun m entry => m.insert entry.1 entry.2) m).toList := by
  induction list generalizing m with
  | nil => exact here
  | cons first rest inductionHypothesis =>
      rw [List.foldl_cons]
      apply inductionHypothesis
      · by_cases same : first.1 = entry.1
        · rw [agree first List.mem_cons_self same]
          exact mem_insertInto_self entry.1 entry.2 m.toList
        · exact mem_insertInto_of_ne here fun equal => same equal.symm
      · exact fun other later => agree other (List.mem_cons_of_mem first later)

/-- Entries are all kept if there is one only for each key. -/
theorem mem_ofList_iff (agree : ∀ a ∈ list, ∀ b ∈ list, a.1 = b.1 → a = b) :
    entry ∈ (ofList list).toList ↔ entry ∈ list := by
  refine ⟨mem_of_mem_ofList, fun here => ?_⟩
  obtain ⟨earlier, later, rfl⟩ := List.append_of_mem here
  unfold ofList
  rw [List.foldl_append, List.foldl_cons]
  apply mem_foldl_insert_of_agree (mem_insertInto_self entry.1 entry.2 _)
  intro other among same
  apply agree other _ entry here same
  exact List.mem_append_right earlier (List.mem_cons_of_mem entry among)

omit [Std.LawfulEqOrd κ] in
theorem insertInto_of_above (above : ∀ entry ∈ list, compare entry.1 key = .lt) :
    insertInto key value list = list ++ [(key, value)] := by
  induction list with
  | nil => rfl
  | cons first rest inductionHypothesis =>
      have greater : compare key first.1 = .gt :=
        Std.OrientedCmp.gt_iff_lt.mpr (above first List.mem_cons_self)
      rw [insertInto, greater, List.cons_append, inductionHypothesis fun entry later =>
        above entry (List.mem_cons_of_mem first later)]

theorem toList_foldl_insert {m : SortedMap κ β}
    (increasing : (m.toList ++ list).Pairwise (fun a b => compare a.1 b.1 = .lt)) :
    (list.foldl (fun m entry => m.insert entry.1 entry.2) m).toList = m.toList ++ list := by
  induction list generalizing m with
  | nil => simp
  | cons first rest inductionHypothesis =>
      have above : ∀ entry ∈ m.toList, compare entry.1 first.1 = .lt := fun entry here =>
        (List.pairwise_append.mp increasing).2.2 entry here first List.mem_cons_self
      have inserted : (m.insert first.1 first.2).toList = m.toList ++ [first] :=
        insertInto_of_above above
      rw [List.foldl_cons, inductionHypothesis, inserted, List.append_assoc,
        List.singleton_append]
      rwa [inserted, List.append_assoc, List.singleton_append]

theorem toList_ofList (increasing : list.Pairwise (fun a b => compare a.1 b.1 = .lt)) :
    (ofList list).toList = list :=
  toList_foldl_insert increasing

theorem ofList_toList (m : SortedMap κ β) : ofList m.toList = m := by
  cases made : ofList m.toList with
  | mk entries increasing =>
      have same : entries = m.toList := by
        rw [← toList_ofList m.increasing, made]
      cases m
      cases same
      rfl

end Listmaster.SortedMap
