import Listmaster.Sorted.Set

/-!
Finite maps from ordered keys, held as lists of entries with strictly
increasing keys.  As for sets, the representation is unique; `get?_insert` says
what an insertion changes.
-/

namespace Listmaster

/-- Entries with strictly increasing keys. -/
structure SortedMap (κ : Type) [Ord κ] (β : Type) where
  toList : List (κ × β)
  increasing : toList.Pairwise (fun a b => compare a.1 b.1 = .lt)

namespace SortedMap

variable {κ β : Type} [Ord κ]

/-- Put an entry at the place of its key, instead of the one that was there. -/
def insertInto (key : κ) (value : β) : List (κ × β) → List (κ × β)
  | [] => [(key, value)]
  | entry :: rest =>
      match compare key entry.1 with
      | .lt => (key, value) :: entry :: rest
      | .eq => (key, value) :: rest
      | .gt => entry :: insertInto key value rest

def empty : SortedMap κ β := ⟨[], .nil⟩

instance : EmptyCollection (SortedMap κ β) := ⟨empty⟩

instance : Inhabited (SortedMap κ β) := ⟨∅⟩

instance [DecidableEq κ] [DecidableEq β] : DecidableEq (SortedMap κ β) := fun s t =>
  decidable_of_iff (s.toList = t.toList)
    ⟨fun same => by cases s; cases t; cases same; rfl, fun same => same ▸ rfl⟩

def isEmpty (m : SortedMap κ β) : Bool := m.toList.isEmpty

def size (m : SortedMap κ β) : Nat := m.toList.length

def lookup (key : κ) : List (κ × β) → Option β
  | [] => none
  | entry :: rest => if compare key entry.1 == .eq then some entry.2 else lookup key rest

def get? (m : SortedMap κ β) (key : κ) : Option β := lookup key m.toList

@[simp]
theorem get?_empty (key : κ) : (∅ : SortedMap κ β).get? key = none := rfl

theorem mem_insertInto {key : κ} {value : β} {list : List (κ × β)} {entry : κ × β}
    (here : entry ∈ insertInto key value list) : entry = (key, value) ∨ entry ∈ list := by
  induction list with
  | nil => simpa [insertInto] using here
  | cons first rest ih =>
      unfold insertInto at here
      split at here
      · simpa using here
      · rcases List.mem_cons.1 here with same | later
        · exact .inl same
        · exact .inr (List.mem_cons_of_mem _ later)
      · rcases List.mem_cons.1 here with same | later
        · exact .inr (same ▸ List.mem_cons_self)
        · exact (ih later).imp id (List.mem_cons_of_mem _)

variable [Std.LawfulEqOrd κ]

theorem lookup_insertInto (key other : κ) (value : β) (list : List (κ × β)) :
    lookup other (insertInto key value list) =
      if compare other key == .eq then some value else lookup other list := by
  induction list with
  | nil => simp [insertInto, lookup]
  | cons first rest ih =>
      unfold insertInto
      split
      · simp [lookup]
      · rename_i same
        have same : key = first.1 := Std.LawfulEqCmp.compare_eq_iff_eq.1 same
        simp only [lookup, ← same]
        split <;> rfl
      · rename_i greater
        simp only [lookup, ih, beq_iff_eq, Std.LawfulEqCmp.compare_eq_iff_eq]
        by_cases at_key : other = key
        · subst at_key
          have apart : other ≠ first.1 := fun same => by simp [same] at greater
          simp [apart]
        · simp [at_key]

variable [Std.TransOrd κ]

theorem increasing_insertInto (key : κ) (value : β) {list : List (κ × β)}
    (increasing : list.Pairwise (fun a b => compare a.1 b.1 = .lt)) :
    (insertInto key value list).Pairwise (fun a b => compare a.1 b.1 = .lt) := by
  induction list with
  | nil => simp [insertInto]
  | cons first rest ih =>
      rw [List.pairwise_cons] at increasing
      unfold insertInto
      split
      · rename_i less
        refine List.pairwise_cons.2 ⟨fun entry here => ?_, List.pairwise_cons.2 increasing⟩
        rcases List.mem_cons.1 here with same | later
        · exact same ▸ less
        · exact Std.TransCmp.lt_trans less (increasing.1 entry later)
      · rename_i same
        have same : key = first.1 := Std.LawfulEqCmp.compare_eq_iff_eq.1 same
        exact List.pairwise_cons.2 ⟨fun entry here => same ▸ increasing.1 entry here, increasing.2⟩
      · rename_i greater
        refine List.pairwise_cons.2 ⟨fun entry here => ?_, ih increasing.2⟩
        rcases mem_insertInto here with same | later
        · exact same ▸ Std.OrientedCmp.gt_iff_lt.1 greater
        · exact increasing.1 entry later

def insert (m : SortedMap κ β) (key : κ) (value : β) : SortedMap κ β :=
  ⟨insertInto key value m.toList, increasing_insertInto key value m.increasing⟩

/-- The entries of a list; the last one of two with the same key is kept. -/
def ofList (list : List (κ × β)) : SortedMap κ β :=
  list.foldl (fun m entry => m.insert entry.1 entry.2) ∅

theorem mem_foldl_insert {list : List (κ × β)} {m : SortedMap κ β} {entry : κ × β}
    (here : entry ∈ (list.foldl (fun m entry => m.insert entry.1 entry.2) m).toList) :
    entry ∈ m.toList ∨ entry ∈ list := by
  induction list generalizing m with
  | nil => exact .inl here
  | cons first rest ih =>
      rcases ih here with inserted | later
      · rcases mem_insertInto inserted with same | before
        · exact .inr (same ▸ List.mem_cons_self)
        · exact .inl before
      · exact .inr (List.mem_cons_of_mem _ later)

theorem mem_of_mem_ofList {list : List (κ × β)} {entry : κ × β}
    (here : entry ∈ (ofList list).toList) : entry ∈ list :=
  (mem_foldl_insert here).resolve_left (fun before => nomatch before)

theorem get?_insert (m : SortedMap κ β) (key other : κ) (value : β) :
    (m.insert key value).get? other =
      if compare other key == .eq then some value else m.get? other :=
  lookup_insertInto key other value m.toList

@[simp]
theorem get?_insert_self (m : SortedMap κ β) (key : κ) (value : β) :
    (m.insert key value).get? key = some value := by
  simp [get?_insert]

end SortedMap

end Listmaster
