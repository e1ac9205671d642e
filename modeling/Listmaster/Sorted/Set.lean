/-!
Finite sets of ordered elements, held as strictly increasing lists.

A set has one representation only: two sets with the same elements are equal
(`SortedSet.ext`).  Membership after each operation is what `mem_insert`,
`mem_union` and `mem_ofList` say.
-/

namespace Listmaster

/-- A strictly increasing list of elements. -/
structure SortedSet (α : Type) [Ord α] where
  toList : List α
  increasing : toList.Pairwise (fun a b => compare a b = .lt)

namespace SortedSet

variable {α : Type} [Ord α]

/-- Put an element at its place, unless it is there already. -/
def insertInto (x : α) : List α → List α
  | [] => [x]
  | y :: rest =>
      match compare x y with
      | .lt => x :: y :: rest
      | .eq => y :: rest
      | .gt => y :: insertInto x rest

def empty : SortedSet α := ⟨[], .nil⟩

instance : EmptyCollection (SortedSet α) := ⟨empty⟩

instance : Inhabited (SortedSet α) := ⟨∅⟩

instance : Membership α (SortedSet α) := ⟨fun s x => x ∈ s.toList⟩

instance [DecidableEq α] : DecidableEq (SortedSet α) := fun s t =>
  decidable_of_iff (s.toList = t.toList)
    ⟨fun same => by cases s; cases t; cases same; rfl, fun same => same ▸ rfl⟩

theorem mem_def {x : α} {s : SortedSet α} : x ∈ s ↔ x ∈ s.toList := .rfl

@[simp]
theorem not_mem_empty (x : α) : ¬ x ∈ (∅ : SortedSet α) := List.not_mem_nil

def size (s : SortedSet α) : Nat := s.toList.length

def isEmpty (s : SortedSet α) : Bool := s.toList.isEmpty

variable [Std.LawfulEqOrd α]

theorem mem_insertInto {x z : α} {list : List α} :
    z ∈ insertInto x list ↔ z = x ∨ z ∈ list := by
  induction list with
  | nil => simp [insertInto]
  | cons y rest ih =>
      unfold insertInto
      split
      · simp
      · rename_i same
        have same : x = y := Std.LawfulEqCmp.compare_eq_iff_eq.1 same
        subst same
        simp
      · simp only [List.mem_cons, ih]
        exact ⟨fun h => by rcases h with h | h | h <;> simp [h],
          fun h => by rcases h with h | h | h <;> simp [h]⟩

def contains (s : SortedSet α) (x : α) : Bool :=
  s.toList.any (fun y => compare x y == .eq)

@[simp]
theorem contains_iff {s : SortedSet α} {x : α} : s.contains x = true ↔ x ∈ s := by
  simp only [contains, mem_def, List.any_eq_true, beq_iff_eq,
    Std.LawfulEqCmp.compare_eq_iff_eq]
  exact ⟨fun ⟨y, here, same⟩ => same ▸ here, fun here => ⟨x, here, rfl⟩⟩

instance (x : α) (s : SortedSet α) : Decidable (x ∈ s) :=
  decidable_of_iff (s.contains x = true) contains_iff

variable [Std.TransOrd α]

theorem increasing_insertInto (x : α) {list : List α}
    (increasing : list.Pairwise (fun a b => compare a b = .lt)) :
    (insertInto x list).Pairwise (fun a b => compare a b = .lt) := by
  induction list with
  | nil => simp [insertInto]
  | cons y rest ih =>
      rw [List.pairwise_cons] at increasing
      unfold insertInto
      split
      · rename_i less
        refine List.pairwise_cons.2 ⟨fun z here => ?_, List.pairwise_cons.2 increasing⟩
        rcases List.mem_cons.1 here with same | later
        · exact same ▸ less
        · exact Std.TransCmp.lt_trans less (increasing.1 z later)
      · exact List.pairwise_cons.2 increasing
      · rename_i greater
        refine List.pairwise_cons.2 ⟨fun z here => ?_, ih increasing.2⟩
        rcases mem_insertInto.1 here with same | later
        · exact same ▸ Std.OrientedCmp.gt_iff_lt.1 greater
        · exact increasing.1 z later

def insert (s : SortedSet α) (x : α) : SortedSet α :=
  ⟨insertInto x s.toList, increasing_insertInto x s.increasing⟩

/-- The elements of a list, in any order and with repetitions. -/
def ofList (list : List α) : SortedSet α := list.foldl insert ∅

def singleton (x : α) : SortedSet α := insert ∅ x

def union (s t : SortedSet α) : SortedSet α := t.toList.foldl insert s

instance : Union (SortedSet α) := ⟨union⟩

@[simp]
theorem mem_insert {s : SortedSet α} {x z : α} : z ∈ s.insert x ↔ z = x ∨ z ∈ s :=
  mem_insertInto

theorem mem_foldl_insert {list : List α} {s : SortedSet α} {z : α} :
    z ∈ list.foldl insert s ↔ z ∈ s ∨ z ∈ list := by
  induction list generalizing s with
  | nil => simp
  | cons x rest ih =>
      simp only [List.foldl_cons, ih, mem_insert, List.mem_cons]
      exact ⟨fun h => by rcases h with (h | h) | h <;> simp [h],
        fun h => by rcases h with h | h | h <;> simp [h]⟩

@[simp]
theorem mem_ofList {list : List α} {z : α} : z ∈ ofList list ↔ z ∈ list := by
  simp [ofList, mem_foldl_insert]

@[simp]
theorem mem_singleton {x z : α} : z ∈ singleton x ↔ z = x := by simp [singleton]

@[simp]
theorem mem_union {s t : SortedSet α} {z : α} : z ∈ s ∪ t ↔ z ∈ s ∨ z ∈ t :=
  mem_foldl_insert

/-- Two increasing lists with the same elements are the same list. -/
theorem eq_of_increasing {s t : List α}
    (hs : s.Pairwise (fun a b => compare a b = .lt))
    (ht : t.Pairwise (fun a b => compare a b = .lt))
    (same : ∀ x, x ∈ s ↔ x ∈ t) : s = t := by
  have irreflexive (x : α) : compare x x ≠ .lt := by
    simp
  induction s generalizing t with
  | nil =>
      cases t with
      | nil => rfl
      | cons y rest => exact absurd ((same y).2 (by simp)) (by simp)
  | cons x s ih =>
      cases t with
      | nil => exact absurd ((same x).1 (by simp)) (by simp)
      | cons y t =>
          rw [List.pairwise_cons] at hs ht
          have heads : x = y := by
            rcases List.mem_cons.1 ((same x).1 (by simp)) with here | later
            · exact here
            · rcases List.mem_cons.1 ((same y).2 (by simp)) with here | earlier
              · exact here.symm
              · exact absurd (Std.TransCmp.lt_trans (ht.1 x later) (hs.1 y earlier))
                  (irreflexive y)
          subst heads
          refine congrArg (x :: ·) (ih hs.2 ht.2 fun z => ⟨fun here => ?_, fun here => ?_⟩)
          · rcases List.mem_cons.1 ((same z).1 (List.mem_cons_of_mem x here)) with at_head | later
            · exact absurd (at_head ▸ hs.1 z here) (irreflexive z)
            · exact later
          · rcases List.mem_cons.1 ((same z).2 (List.mem_cons_of_mem x here)) with at_head | later
            · exact absurd (at_head ▸ ht.1 z here) (irreflexive z)
            · exact later

@[ext]
theorem ext {s t : SortedSet α} (same : ∀ x, x ∈ s ↔ x ∈ t) : s = t := by
  obtain ⟨s, hs⟩ := s
  obtain ⟨t, ht⟩ := t
  have : s = t := eq_of_increasing hs ht same
  subst this
  rfl

@[simp]
theorem ofList_toList (s : SortedSet α) : ofList s.toList = s := by
  ext z; simp [mem_def (s := s)]

end SortedSet

end Listmaster
