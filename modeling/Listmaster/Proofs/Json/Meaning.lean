import Listmaster.Json.Record
import Listmaster.Proofs.Sorted

/-!
Values as they are written and as they are meant.

What is written denotes something if it is read as this, from the value as it is written and
from the value as it is meant (`Json.Denotes`).  A record denotes what its fields give
(`Json.Denotes.object`), wherever its names stand after they were sorted.
-/

namespace Listmaster

namespace Json

variable {α : Type}

theorem increasing_of_isNormalFields {bound : Option String} {fields : List (String × Json)}
    (normal : isNormalFields bound fields = true) :
    fields.Pairwise (fun a b => compare a.1 b.1 = .lt) ∧
      ∀ entry ∈ fields, ∀ earlier ∈ bound, compare earlier entry.1 = .lt := by
  induction fields generalizing bound with
  | nil => exact ⟨.nil, nofun⟩
  | cons first rest inductionHypothesis =>
      obtain ⟨name, value⟩ := first
      simp only [isNormalFields, Bool.and_eq_true] at normal
      obtain ⟨⟨above, _⟩, later⟩ := normal
      obtain ⟨increasing, greater⟩ := inductionHypothesis later
      refine ⟨List.pairwise_cons.mpr ⟨fun entry here => greater entry here name rfl, increasing⟩, ?_⟩
      rintro entry here earlier rfl
      have first : compare earlier name = .lt := by simpa using above
      rcases List.mem_cons.mp here with rfl | inRest
      · exact first
      · exact Std.TransCmp.lt_trans first (greater entry inRest name rfl)

mutual

theorem normalize?_of_isNormal : {value : Json} → value.isNormal = true →
    normalize? value = some value
  | .null, _ | .bool _, _ | .integer _, _ | .float _, _ | .text _, _ => rfl
  | .unreadable, normal => nomatch normal
  | .array items, normal => by
      have normal : isNormalItems items = true := normal
      rw [normalize?, normalizeItems?_of_isNormalItems normal]
      rfl
  | .object fields, normal => by
      have normal : isNormalFields none fields = true := normal
      rw [normalize?, normalizeFields?_of_isNormalFields normal, Option.map_some,
        SortedMap.toList_ofList (increasing_of_isNormalFields normal).1]

theorem normalizeItems?_of_isNormalItems : {items : List Json} → isNormalItems items = true →
    normalizeItems? items = some items
  | [], _ => rfl
  | item :: rest, normal => by
      simp only [isNormalItems, Bool.and_eq_true] at normal
      rw [normalizeItems?, normalize?_of_isNormal normal.1,
        normalizeItems?_of_isNormalItems normal.2]
      rfl

theorem normalizeFields?_of_isNormalFields : {bound : Option String} →
    {fields : List (String × Json)} → isNormalFields bound fields = true →
    normalizeFields? fields = some fields
  | _, [], _ => rfl
  | _, (name, value) :: rest, normal => by
      simp only [isNormalFields, Bool.and_eq_true] at normal
      rw [normalizeFields?, normalize?_of_isNormal normal.1.2,
        normalizeFields?_of_isNormalFields normal.2]
      rfl

end

/-- The fields as they are written, and these fields as they are meant. -/
abbrev Meant (fields results : List (String × Json)) : Prop :=
  List.Forall₂ (fun field result => result.1 = field.1 ∧ normalize? field.2 = some result.2)
    fields results

theorem normalizeFields?_eq_some_iff {fields results : List (String × Json)} :
    normalizeFields? fields = some results ↔ Meant fields results := by
  induction fields generalizing results with
  | nil => simp [normalizeFields?, eq_comm]
  | cons field rest inductionHypothesis =>
      obtain ⟨name, value⟩ := field
      simp only [normalizeFields?, Option.pure_def, Option.bind_eq_bind, Option.bind_eq_some_iff,
        Option.some.injEq, List.forall₂_cons_left_iff, ← inductionHypothesis]
      constructor
      · rintro ⟨result, first, later, made, rfl⟩
        exact ⟨(name, result), later, ⟨rfl, first⟩, made, rfl⟩
      · rintro ⟨⟨_, result⟩, later, ⟨rfl, first⟩, made, rfl⟩
        exact ⟨result, first, later, made, rfl⟩

namespace Meant

variable {fields results : List (String × Json)} {name : String} {written : Json}

theorem names (meant : Meant fields results) :
    results.map Prod.fst = fields.map Prod.fst := by
  induction meant with
  | nil => rfl
  | cons first _ inductionHypothesis => rw [List.map_cons, List.map_cons, first.1, inductionHypothesis]

theorem exists_of_mem (meant : Meant fields results) (here : (name, written) ∈ fields) :
    ∃ value, (name, value) ∈ results ∧ normalize? written = some value := by
  induction meant with
  | nil => cases here
  | @cons field result _ _ first _ inductionHypothesis =>
      rcases List.mem_cons.mp here with same | later
      · subst same
        exact ⟨result.2, List.mem_cons.mpr (.inl (Prod.ext first.1.symm rfl)), first.2⟩
      · obtain ⟨value, among, normalized⟩ := inductionHypothesis later
        exact ⟨value, List.mem_cons_of_mem result among, normalized⟩

theorem exists_of_readable (readable : ∀ field ∈ fields, ∃ value, field.2.normalize? = some value) :
    ∃ results, Meant fields results := by
  induction fields with
  | nil => exact ⟨[], .nil⟩
  | cons field rest inductionHypothesis =>
      obtain ⟨value, normalized⟩ := readable field List.mem_cons_self
      obtain ⟨results, later⟩ := inductionHypothesis fun field here =>
        readable field (List.mem_cons_of_mem _ here)
      exact ⟨(field.1, value) :: results, .cons ⟨rfl, normalized⟩ later⟩

end Meant

theorem mapM_eq_some_iff {β : Type} {read : β → Option α} {items : List β} {xs : List α} :
    items.mapM read = some xs ↔ List.Forall₂ (fun item x => read item = some x) items xs := by
  induction items generalizing xs with
  | nil => simp [eq_comm]
  | cons item rest inductionHypothesis =>
      simp only [List.mapM_cons, Option.pure_def, Option.bind_eq_bind, Option.bind_eq_some_iff,
        Option.some.injEq, List.forall₂_cons_left_iff, inductionHypothesis]
      constructor
      · rintro ⟨first, read, later, all, rfl⟩
        exact ⟨first, later, read, all, rfl⟩
      · rintro ⟨first, later, read, all, rfl⟩
        exact ⟨first, read, later, all, rfl⟩

theorem mem_mapM_iff {β : Type} {read : β → Option α} {items : List β} {xs : List α} {x : α}
    (all : items.mapM read = some xs) : x ∈ xs ↔ ∃ item ∈ items, read item = some x := by
  rw [mapM_eq_some_iff] at all
  induction all with
  | nil => simp
  | @cons item first _ _ same _ inductionHypothesis =>
      rw [List.mem_cons, inductionHypothesis, List.exists_mem_cons_iff, same, Option.some.injEq,
        eq_comm]

theorem exists_mapM_iff {β : Type} {read : β → Option α} {items : List β} :
    (∃ xs, items.mapM read = some xs) ↔ ∀ item ∈ items, ∃ x, read item = some x := by
  simp only [mapM_eq_some_iff]
  induction items with
  | nil => exact ⟨fun _ => List.forall_mem_nil _, fun _ => ⟨[], .nil⟩⟩
  | cons item rest inductionHypothesis =>
      rw [List.forall_mem_cons, ← inductionHypothesis]
      simp only [List.forall₂_cons_left_iff]
      constructor
      · rintro ⟨_, first, later, here, all, _⟩
        exact ⟨⟨first, here⟩, later, all⟩
      · rintro ⟨⟨first, here⟩, later, all⟩
        exact ⟨_, first, later, here, all, rfl⟩

/-- The value as it is written, or as it is meant. -/
def Means (written value : Json) : Prop := value = written ∨ written.normalize? = some value

/-- What is written is read as this, as it is written and as it is meant. -/
structure Denotes (read : Json → Option α) (written : Json) (x : α) : Prop where
  readable : ∃ value, written.normalize? = some value
  reads : ∀ value, written.Means value → read value = some x

namespace Denotes

variable {β : Type} {read : Json → Option α} {written : Json} {x : α}

theorem of_isNormal (normal : written.isNormal = true) (same : read written = some x) :
    Denotes read written x where
  readable := ⟨written, normalize?_of_isNormal normal⟩
  reads value means := by
    rcases means with rfl | meant
    · exact same
    · rw [normalize?_of_isNormal normal] at meant
      cases meant
      exact same

theorem text (s : String) : Denotes text? (.text s) s := of_isNormal rfl rfl

theorem bind {y : β} (denotes : Denotes read written x) {parse : α → Option β}
    (parsed : parse x = some y) : Denotes (fun value => (read value).bind parse) written y where
  readable := denotes.readable
  reads value means := by rw [denotes.reads value means, Option.bind_some, parsed]

theorem map (denotes : Denotes read written x) (f : α → β) :
    Denotes (fun value => (read value).map f) written (f x) where
  readable := denotes.readable
  reads value means := by rw [denotes.reads value means, Option.map_some]

/-- What may be missing, where null is nothing that could be meant. -/
theorem ofOption {write : α → Json} {o : Option α} (some? : read .null = none)
    (denotes : ∀ x ∈ o, Denotes read (write x) x) :
    Denotes (nullable? read) (.ofOption write o) o := by
  cases o with
  | none => exact of_isNormal rfl rfl
  | some x =>
      have denotes := denotes x rfl
      refine ⟨denotes.readable, fun value means => ?_⟩
      have same := denotes.reads value means
      unfold nullable?
      split
      · rw [some?] at same
        cases same
      · rw [same]
        rfl

theorem list {write : α → Json} {xs : List α} (denotes : ∀ x ∈ xs, Denotes read (write x) x) :
    Denotes (list? read) (.array (xs.map write)) xs := by
  obtain ⟨items, meant, all⟩ : ∃ items, normalizeItems? (xs.map write) = some items ∧
      List.Forall₂ (fun item x => read item = some x) items xs := by
    induction xs with
    | nil => exact ⟨[], rfl, .nil⟩
    | cons first rest inductionHypothesis =>
        obtain ⟨items, meant, all⟩ := inductionHypothesis fun x later =>
          denotes x (List.mem_cons_of_mem first later)
        obtain ⟨value, meantFirst⟩ := (denotes first List.mem_cons_self).readable
        refine ⟨value :: items, ?_, .cons ?_ all⟩
        · rw [List.map_cons, normalizeItems?, meantFirst, meant]
          rfl
        · exact (denotes first List.mem_cons_self).reads value (.inr meantFirst)
  refine ⟨⟨.array items, by rw [normalize?, meant]; rfl⟩, fun value means => ?_⟩
  rcases means with rfl | same
  · apply mapM_eq_some_iff.mpr
    rw [List.forall₂_map_left_iff, List.forall₂_same]
    exact fun x here => (denotes x here).reads _ (.inl rfl)
  · rw [normalize?, meant] at same
    cases same
    exact mapM_eq_some_iff.mpr all

end Denotes

/-- The names are distinct, and they are names of fields of the shape. -/
def RecordShape.Admits (shape : RecordShape) (names : List String) : Prop :=
  names.Nodup ∧ ∀ name ∈ names, shape.field? name = some name

instance (shape : RecordShape) (names : List String) : Decidable (shape.Admits names) :=
  inferInstanceAs (Decidable (names.Nodup ∧ ∀ name ∈ names, shape.field? name = some name))

namespace Record

variable {record : Record} {fields : List (String × Json)} {name : String} {written : Json}
  {read : Json → Option α} {x : α}

/-- The record has the values of these fields, and no others. -/
structure Holds (record : Record) (fields : List (String × Json)) : Prop where
  isObject : record.isPositional = false
  given : ∀ name written, fields.lookup name = some written →
    ∃ value, record.get? name = some value ∧ written.Means value
  missing : ∀ name, fields.lookup name = none → record.get? name = none

section Given

variable (holds : record.Holds fields) (name : String)
  (given : fields.lookup name = some written)
include holds given

theorem Holds.required (denotes : Denotes read written x) : record.required name read = some x := by
  obtain ⟨value, here, means⟩ := holds.given name written given
  rw [Record.required, here, Option.bind_some, denotes.reads value means]

theorem Holds.withDefault (denotes : Denotes read written x) (default : α) :
    record.withDefault name default read = some x := by
  obtain ⟨value, here, means⟩ := holds.given name written given
  rw [Record.withDefault, here]
  exact denotes.reads value means

theorem Holds.optional {o : Option α} (denotes : Denotes (nullable? read) written o) :
    record.optional name read = some o :=
  holds.withDefault name given denotes none

theorem Holds.nullable {o : Option α} (denotes : Denotes (nullable? read) written o) :
    record.nullable name read = some o := by
  obtain ⟨value, here, means⟩ := holds.given name written given
  rw [Record.nullable, here]
  exact denotes.reads value means

end Given

theorem Holds.withDefault_optional (holds : record.Holds fields) (name : String) {skipped : Bool}
    (given : fields.lookup name = if skipped then none else some written)
    (denotes : Denotes read written x) {default : α} (same : skipped = true → x = default) :
    record.withDefault name default read = some x := by
  cases skipped with
  | false => exact holds.withDefault name given denotes default
  | true => rw [Record.withDefault, holds.missing name given, same rfl]

theorem collect?_of_distinct {shape : RecordShape} {values : List (String × Json)}
    (known : ∀ field ∈ fields, shape.field? field.1 = some field.1)
    (distinct : ((values ++ fields).map Prod.fst).Nodup) :
    collect? shape values fields = some (values ++ fields) := by
  induction fields generalizing values with
  | nil => simp [collect?]
  | cons field rest inductionHypothesis =>
      obtain ⟨name, value⟩ := field
      have fresh : ¬ (values.any (·.1 == name)) = true := by
        rw [List.any_eq_true]
        rintro ⟨other, here, same⟩
        rw [List.map_append, List.nodup_append] at distinct
        exact distinct.2.2 other.1 (List.mem_map_of_mem here) name List.mem_cons_self
          (beq_iff_eq.mp same)
      rw [collect?, known (name, value) List.mem_cons_self]
      simp only [fresh, Bool.false_eq_true, if_false]
      rw [List.append_cons] at distinct
      rw [inductionHypothesis (fun field later => known field (List.mem_cons_of_mem _ later))
        distinct, ← List.append_cons]

theorem lookup_eq_some_iff_mem (distinct : (fields.map Prod.fst).Nodup) :
    fields.lookup name = some written ↔ (name, written) ∈ fields := by
  constructor
  · intro found
    obtain ⟨before, after, rfl, _⟩ := List.lookup_eq_some_iff.mp found
    exact List.mem_append_right before List.mem_cons_self
  · intro here
    obtain ⟨before, after, rfl⟩ := List.append_of_mem here
    refine List.lookup_eq_some_iff.mpr ⟨before, after, rfl, fun field earlier => ?_⟩
    rw [List.map_append, List.nodup_append] at distinct
    exact bne_iff_ne.mpr fun same =>
      distinct.2.2 field.1 (List.mem_map_of_mem earlier) name List.mem_cons_self same.symm

/-- A record of distinct fields that it knows has their values. -/
theorem ofJson?_of_admits {shape : RecordShape} (admits : shape.Admits (fields.map Prod.fst)) :
    ofJson? shape (.object fields) = some ⟨fields, false⟩ := by
  have collected : collect? shape [] fields = some fields :=
    collect?_of_distinct (List.forall_mem_map.mp admits.2) admits.1
  rw [ofJson?, collected]
  rfl

theorem holds_self (fields : List (String × Json)) : Holds ⟨fields, false⟩ fields where
  isObject := rfl
  given _ written found := ⟨written, found, .inl rfl⟩
  missing _ none := none

section Sorted

variable {results : List (String × Json)} (distinct : (fields.map Prod.fst).Nodup)
  (meant : Meant fields results)
include distinct meant

theorem mem_ofList_iff_of_meant {entry : String × Json} :
    entry ∈ (SortedMap.ofList results).toList ↔ entry ∈ results := by
  apply SortedMap.mem_ofList_iff
  intro a here b there same
  rw [← meant.names] at distinct
  exact List.inj_on_of_nodup_map distinct here there same

/-- Fields that were normalized and sorted are still the fields of the record. -/
theorem holds_of_meant : Holds ⟨(SortedMap.ofList results).toList, false⟩ fields where
  isObject := rfl
  given name written found := by
    obtain ⟨value, here, normalized⟩ :=
      meant.exists_of_mem ((lookup_eq_some_iff_mem distinct).mp found)
    refine ⟨value, ?_, .inr normalized⟩
    rw [← mem_ofList_iff_of_meant distinct meant] at here
    exact (lookup_eq_some_iff_mem (SortedMap.ofList results).nodup_keys).mpr here
  missing name none := by
    refine List.lookup_eq_none_iff.mpr fun entry here => bne_iff_ne.mpr ?_
    rintro rfl
    have among : entry.1 ∈ results.map Prod.fst :=
      List.mem_map_of_mem ((mem_ofList_iff_of_meant distinct meant).mp here)
    rw [meant.names] at among
    obtain ⟨field, there, same⟩ := List.mem_map.mp among
    exact bne_iff_ne.mp (List.lookup_eq_none_iff.mp none field there) same.symm

end Sorted

end Record

/-- A record denotes what is read of its fields. -/
theorem Denotes.object {shape : RecordShape} {fields : List (String × Json)}
    {read : Record → Option α} {x : α} (admits : shape.Admits (fields.map Prod.fst))
    (readable : ∀ field ∈ fields, ∃ value, field.2.normalize? = some value)
    (reads : ∀ record : Record, record.Holds fields → read record = some x) :
    Denotes (fun value => (Record.ofJson? shape value).bind read) (.object fields) x := by
  obtain ⟨results, meant⟩ := Meant.exists_of_readable readable
  have normalized : normalize? (.object fields) =
      some (.object (SortedMap.ofList results).toList) := by
    rw [normalize?, normalizeFields?_eq_some_iff.mpr meant]
    rfl
  refine ⟨⟨_, normalized⟩, fun value means => ?_⟩
  rcases means with rfl | same
  · rw [Record.ofJson?_of_admits admits, Option.bind_some]
    exact reads _ (Record.holds_self fields)
  · rw [normalized] at same
    cases same
    have admitsToo : shape.Admits ((SortedMap.ofList results).toList.map Prod.fst) := by
      refine ⟨(SortedMap.ofList results).nodup_keys, List.forall_mem_map.mpr fun entry here => ?_⟩
      apply admits.2
      rw [← meant.names]
      exact List.mem_map_of_mem ((Record.mem_ofList_iff_of_meant admits.1 meant).mp here)
    rw [Record.ofJson?_of_admits admitsToo, Option.bind_some]
    exact reads _ (Record.holds_of_meant admits.1 meant)

end Json

end Listmaster
