import Listmaster.Mail

/-!
Headers of recipients.

Names of headers are compared without their case.  Setting a header changes what is read by its
name, `Recipient.header?_setHeader`, and no header with another name, `Recipient.filter_setIn`.
So a recipient that is told a list says that list, `Recipient.header?_annotate`, and keeps its
other headers, `Recipient.unrelated_annotate`.

Names may be repeated.  `Recipient.Sets` says where a header is set among them: at the first header
of the name, or behind all headers.  The last value that is set is the only one that is left of
those set before, and the first list that is named stays: `Recipient.setHeader_lawful`.
-/

namespace Listmaster

theorem Text.sameIgnoringCase_congr {a b : String} (same : sameIgnoringCase a b = true)
    (other : String) : sameIgnoringCase a other = sameIgnoringCase b other := by
  unfold sameIgnoringCase at same ⊢
  rw [beq_iff_eq] at same
  rw [same]

theorem Text.sameIgnoringCase_comm (a b : String) :
    sameIgnoringCase a b = sameIgnoringCase b a := BEq.comm

namespace Recipient

/-- The headers that are not about lists. -/
def unrelated (recipient : Recipient) : List (String × String) :=
  recipient.headers.filter fun header =>
    !Text.sameIgnoringCase header.1 "List-Id" && !Text.sameIgnoringCase header.1 "List-Post"

variable {recipient : Recipient} {name other value : String} {headers : List (String × String)}

theorem find?_setIn :
    ((setIn name value headers).find? fun header => Text.sameIgnoringCase header.1 other).map
        Prod.snd =
      if Text.sameIgnoringCase name other = true then some value
      else (headers.find? fun header => Text.sameIgnoringCase header.1 other).map Prod.snd := by
  induction headers with
  | nil =>
      rw [setIn, List.find?_singleton]
      split <;> rfl
  | cons header rest inductionHypothesis =>
      rw [setIn]
      by_cases here : Text.sameIgnoringCase header.1 name = true
      · have alike := Text.sameIgnoringCase_congr here other
        rw [if_pos here, List.find?_cons, List.find?_cons, alike]
        cases Text.sameIgnoringCase name other <;> rfl
      · rw [if_neg here, List.find?_cons, List.find?_cons]
        by_cases read : Text.sameIgnoringCase header.1 other = true
        · have apart : ¬ Text.sameIgnoringCase name other = true := by
            rw [Text.sameIgnoringCase_iff] at here read ⊢
            exact fun also => here (read.trans also.symm)
          rw [read, if_neg apart]
        · rw [Bool.not_eq_true] at read
          rw [read]
          exact inductionHypothesis

theorem header?_setHeader :
    (recipient.setHeader name value).header? other =
      if Text.sameIgnoringCase name other = true then some value else recipient.header? other :=
  find?_setIn

theorem filter_setIn {p : String → Bool}
    (apart : ∀ k, Text.sameIgnoringCase k name = true → p k = false) :
    (setIn name value headers).filter (fun header => p header.1) =
      headers.filter fun header => p header.1 := by
  induction headers with
  | nil =>
      have here := apart name (Text.sameIgnoringCase_refl name)
      simp [setIn, here]
  | cons header rest inductionHypothesis =>
      rw [setIn]
      by_cases here : Text.sameIgnoringCase header.1 name = true
      · rw [if_pos here, List.filter_cons, List.filter_cons, apart _ here]
        rfl
      · rw [if_neg here, List.filter_cons, List.filter_cons, inductionHypothesis]

theorem header?_annotate (recipient : Recipient) (list : Address) :
    (recipient.annotate list).header? "List-Id" = some s!"<{list.full}>" ∧
      (recipient.annotate list).header? "List-Post" = some s!"<mailto:{list.full}>" := by
  have apart : ¬ Text.sameIgnoringCase "List-Post" "List-Id" = true := by decide
  unfold annotate
  constructor
  · rw [header?_setHeader, if_neg apart, header?_setHeader, if_pos (Text.sameIgnoringCase_refl _)]
  · rw [header?_setHeader, if_pos (Text.sameIgnoringCase_refl _)]

theorem unrelated_annotate (recipient : Recipient) (list : Address) :
    (recipient.annotate list).unrelated = recipient.unrelated := by
  let isUnrelated (k : String) : Bool :=
    !Text.sameIgnoringCase k "List-Id" && !Text.sameIgnoringCase k "List-Post"
  have post (k : String) (same : Text.sameIgnoringCase k "List-Post" = true) :
      isUnrelated k = false := by
    simp only [isUnrelated, same, Bool.not_true, Bool.and_false]
  have id (k : String) (same : Text.sameIgnoringCase k "List-Id" = true) :
      isUnrelated k = false := by
    simp only [isUnrelated, same, Bool.not_true, Bool.false_and]
  exact (filter_setIn post).trans (filter_setIn id)

/-- The first header of a name gets the value, or one is added at the end if there is none. -/
inductive Sets (name value : String) : List (String × String) → List (String × String) → Prop
  | replaced {before later : List (String × String)} {key old : String} :
      (∀ header ∈ before, ¬ Text.sameIgnoringCase header.1 name = true) →
      Text.sameIgnoringCase key name = true →
      Sets name value (before ++ (key, old) :: later) (before ++ (key, value) :: later)
  | added {others : List (String × String)} :
      (∀ header ∈ others, ¬ Text.sameIgnoringCase header.1 name = true) →
      Sets name value others (others ++ [(name, value)])

theorem Sets.cons {header : String × String} {after : List (String × String)}
    (apart : ¬ Text.sameIgnoringCase header.1 name = true) (sets : Sets name value headers after) :
    Sets name value (header :: headers) (header :: after) := by
  cases sets with
  | replaced earlier here => exact .replaced (List.forall_mem_cons.mpr ⟨apart, earlier⟩) here
  | added all => exact .added (List.forall_mem_cons.mpr ⟨apart, all⟩)

theorem sets_setIn (name value : String) (headers : List (String × String)) :
    Sets name value headers (setIn name value headers) := by
  induction headers with
  | nil => exact .added nofun
  | cons header rest inductionHypothesis =>
      rw [setIn]
      by_cases here : Text.sameIgnoringCase header.1 name = true
      · rw [if_pos here]
        exact .replaced (List.forall_mem_nil _) here
      · rw [if_neg here]
        exact inductionHypothesis.cons here

/-- The header that was set is the one that is set again. -/
theorem setIn_setIn {variant new : String} (same : Text.sameIgnoringCase variant name = true) :
    setIn variant new (setIn name value headers) = setIn name new headers := by
  have alike (key : String) :
      Text.sameIgnoringCase key variant = Text.sameIgnoringCase key name := by
    rw [Text.sameIgnoringCase_comm, Text.sameIgnoringCase_congr same, Text.sameIgnoringCase_comm]
  induction headers with
  | nil => simp only [setIn, alike, Text.sameIgnoringCase_refl, if_true]
  | cons header rest inductionHypothesis =>
      rw [setIn, setIn]
      by_cases here : Text.sameIgnoringCase header.1 name = true
      · rw [if_pos here, if_pos here, setIn, alike, if_pos here]
      · rw [if_neg here, if_neg here, setIn, alike, if_neg here, inductionHypothesis]

theorem isSome_header?_annotateOnce (recipient : Recipient) (list : Address) :
    ((recipient.annotateOnce list).header? "List-Id").isSome = true := by
  unfold annotateOnce
  split
  · rw [(header?_annotate recipient list).1, Option.isSome_some]
  · rename_i named
    rwa [Option.isNone_iff_eq_none, ← ne_eq, Option.ne_none_iff_isSome] at named

theorem annotateOnce_of_isSome (named : (recipient.header? "List-Id").isSome = true)
    (list : Address) : recipient.annotateOnce list = recipient := by
  rw [annotateOnce, ← Option.not_isSome, named]
  rfl

theorem foldl_annotateOnce_of_isSome (named : (recipient.header? "List-Id").isSome = true)
    (lists : List Address) : lists.foldl annotateOnce recipient = recipient := by
  induction lists with
  | nil => rfl
  | cons list rest inductionHypothesis =>
      rw [List.foldl_cons, annotateOnce_of_isSome named, inductionHypothesis]

/-- A header that is set is read under its name in any case, and under no other one.  It is set at
the first header of the name, or else behind all headers, so that all others keep their places and
values.  To set it again leaves nothing of the value before.  Once a recipient is told a list, it
is told no further one. -/
theorem setHeader_lawful (recipient : Recipient) (name value : String) :
    (∀ variant, Text.sameIgnoringCase variant name = true →
      (recipient.setHeader name value).header? variant = some value) ∧
    (∀ other, ¬ Text.sameIgnoringCase other name = true →
      (recipient.setHeader name value).header? other = recipient.header? other) ∧
    Sets name value recipient.headers (recipient.setHeader name value).headers ∧
    (∀ variant new, Text.sameIgnoringCase variant name = true →
      (recipient.setHeader name value).setHeader variant new = recipient.setHeader name new) ∧
    ∀ (list : Address) (others : List Address),
      others.foldl annotateOnce (recipient.annotateOnce list) = recipient.annotateOnce list := by
  refine ⟨fun variant same => ?_, fun other apart => ?_, sets_setIn name value recipient.headers,
    fun variant new same => ?_, fun list others => ?_⟩
  · rw [header?_setHeader, Text.sameIgnoringCase_comm, if_pos same]
  · rw [header?_setHeader, Text.sameIgnoringCase_comm, if_neg apart]
  · unfold setHeader
    rw [setIn_setIn same]
  · exact foldl_annotateOnce_of_isSome (isSome_header?_annotateOnce recipient list) others

end Recipient

/-- A recipient with two headers of one name, in different cases. -/
def Sample.tagged : Recipient where
  address := ⟨"tagged@example.org", "tagged@example.org".toList, by decide, by decide⟩
  headers := [("X-Topic", "news"), ("X-Tag", "first"), ("x-tag", "second")]

theorem Recipient.setHeader_lawful_sample :
    Sets "X-TAG" "third" Sample.tagged.headers
        [("X-Topic", "news"), ("X-Tag", "third"), ("x-tag", "second")] ∧
      (Sample.tagged.setHeader "X-TAG" "third").header? "x-tag" = some "third" ∧
      (Sample.tagged.setHeader "X-TAG" "third").header? "X-TOPIC" =
        Sample.tagged.header? "X-TOPIC" ∧
      (Sample.tagged.setHeader "X-TAG" "third").setHeader "x-Tag" "fourth" =
        Sample.tagged.setHeader "X-TAG" "fourth" := by
  obtain ⟨read, others, sets, again, _⟩ := setHeader_lawful Sample.tagged "X-TAG" "third"
  exact ⟨sets, read "x-tag" (by decide), others "X-TOPIC" (by decide),
    again "x-Tag" "fourth" (by decide)⟩

end Listmaster
