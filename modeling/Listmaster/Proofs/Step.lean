/-!
What a step leads to.

A step of a session, of a walk or of a roster ends with a value or with an error,
and with a new state in both cases.  `Ensures` tells both ends, `Leads` what becomes of a
property of the state, and `Keeps` that it survives.  A step `Yields` a result that
does not depend on the state.
-/

namespace Listmaster

variable {ε σ α β : Type}

theorem ok_of_run' {step : EStateM ε σ α} {state : σ} {value : α}
    (answer : step.run' state = some value) : ∃ after, step state = .ok value after := by
  unfold EStateM.run' EStateM.run at answer
  cases result : step state with
  | error cause after =>
      rw [result] at answer
      cases answer
  | ok other after =>
      rw [result] at answer
      cases answer
      exact ⟨after, rfl⟩

/-- The step ends in `ok` if it succeeds, and in `error` if it fails. -/
def Ensures (step : EStateM ε σ α) (state : σ) (ok : α → σ → Prop) (error : ε → σ → Prop) :
    Prop :=
  match step state with
  | .ok value after => ok value after
  | .error cause after => error cause after

/-- From a state with `P` the step ends in one with `P` if it succeeds, and with `Q` if it
fails. -/
def Leads (P Q : σ → Prop) (step : EStateM ε σ α) : Prop :=
  ∀ state, P state → Ensures step state (fun _ => P) (fun _ => Q)

/-- A property of the state holds after the step if it held before. -/
def Keeps (P : σ → Prop) (step : EStateM ε σ α) : Prop :=
  ∀ state, P state → Ensures step state (fun _ => P) (fun _ => P)

/-- From every state the step ends with this result. -/
def Yields (step : EStateM ε σ α) (result : Except ε α) : Prop :=
  ∀ state, Ensures step state (fun value _ => result = .ok value)
    (fun cause _ => result = .error cause)

namespace Ensures

variable {step : EStateM ε σ α} {next : α → EStateM ε σ β} {state : σ}
  {ok ok' : α → σ → Prop} {error error' : ε → σ → Prop}

theorem mono (ensured : Ensures step state ok error)
    (okStep : ∀ value after, ok value after → ok' value after)
    (errorStep : ∀ cause after, error cause after → error' cause after) :
    Ensures step state ok' error' := by
  unfold Ensures at ensured ⊢
  cases result : step state with
  | ok value after =>
      rw [result] at ensured
      exact okStep value after ensured
  | error cause after =>
      rw [result] at ensured
      exact errorStep cause after ensured

theorem of_eq {other : EStateM ε σ α} {start : σ} (same : step state = other start)
    (ensured : Ensures other start ok error) : Ensures step state ok error := by
  unfold Ensures at ensured ⊢
  rwa [same]

theorem intro_ok {value : α} {after : σ} (result : step state = .ok value after)
    (holds : ok value after) : Ensures step state ok error := by
  unfold Ensures
  rwa [result]

theorem intro_error {cause : ε} {after : σ} (result : step state = .error cause after)
    (holds : error cause after) : Ensures step state ok error := by
  unfold Ensures
  rwa [result]

theorem of_ok (ensured : Ensures step state ok error) {value : α} {after : σ}
    (result : step state = .ok value after) : ok value after := by
  unfold Ensures at ensured
  rwa [result] at ensured

theorem of_error (ensured : Ensures step state ok error) {cause : ε} {after : σ}
    (result : step state = .error cause after) : error cause after := by
  unfold Ensures at ensured
  rwa [result] at ensured

theorem bind {ok : β → σ → Prop}
    (ensured : Ensures step state (fun value after => Ensures (next value) after ok error) error) :
    Ensures (step >>= next) state ok error := by
  unfold Ensures at ensured ⊢
  change match EStateM.bind step next state with
    | .ok value after => ok value after
    | .error cause after => error cause after
  unfold EStateM.bind
  cases result : step state with
  | ok value after =>
      rw [result] at ensured
      exact ensured
  | error cause after =>
      rw [result] at ensured
      exact ensured

end Ensures

namespace Leads

variable {P Q : σ → Prop} {step : EStateM ε σ α} {next : α → EStateM ε σ β}

theorem pure (value : α) : Leads P Q (pure value : EStateM ε σ α) := fun _ holds => holds

theorem bind (first : Leads P Q step) (later : ∀ value, Leads P Q (next value)) :
    Leads P Q (step >>= next) := by
  intro state holds
  apply Ensures.bind
  exact (first state holds).mono (fun value after => later value after) fun _ _ failed => failed

theorem forM {visit : α → EStateM ε σ PUnit} {list : List α}
    (each : ∀ x ∈ list, Leads P Q (visit x)) : Leads P Q (list.forM visit) := by
  induction list with
  | nil => exact Leads.pure _
  | cons x rest inductionHypothesis =>
      apply (each x List.mem_cons_self).bind
      intro _
      exact inductionHypothesis fun y later => each y (List.mem_cons_of_mem x later)

theorem mapM {visit : α → EStateM ε σ β} {list : List α}
    (each : ∀ x ∈ list, Leads P Q (visit x)) : Leads P Q (list.mapM visit) := by
  induction list with
  | nil => exact Leads.pure _
  | cons x rest inductionHypothesis =>
      rw [List.mapM_cons]
      apply (each x List.mem_cons_self).bind
      intro _
      apply (inductionHypothesis fun y later => each y (List.mem_cons_of_mem x later)).bind
      intro _
      exact Leads.pure _

end Leads

namespace Keeps

variable {P : σ → Prop} {step : EStateM ε σ α} {next : α → EStateM ε σ β}

theorem pure (value : α) : Keeps P (pure value : EStateM ε σ α) := Leads.pure value

theorem bind (first : Keeps P step) (later : ∀ value, Keeps P (next value)) :
    Keeps P (step >>= next) := Leads.bind first later

end Keeps

namespace Yields

variable {step : EStateM ε σ α} {next : α → EStateM ε σ β} {result : Except ε α}

theorem pure (value : α) : Yields (pure value : EStateM ε σ α) (.ok value) := fun _ => rfl

theorem throw (cause : ε) : Yields (throw cause : EStateM ε σ α) (.error cause) := fun _ => rfl

theorem modify (change : σ → σ) : Yields (modify change : EStateM ε σ PUnit) (.ok ⟨⟩) :=
  fun _ => rfl

theorem bind_ok {value : α} {later : Except ε β} (first : Yields step (.ok value))
    (second : Yields (next value) later) : Yields (step >>= next) later := by
  intro state
  apply Ensures.bind
  apply (first state).mono
  · rintro _ after ⟨⟩
    exact second after
  · rintro _ _ ⟨⟩

theorem bind_error {cause : ε} (first : Yields step (.error cause)) :
    Yields (step >>= next) (.error cause) := by
  intro state
  apply Ensures.bind
  apply (first state).mono
  · rintro _ _ ⟨⟩
  · rintro _ _ ⟨⟩
    rfl

theorem unique [Inhabited σ] {other : Except ε α} (first : Yields step result)
    (second : Yields step other) : result = other := by
  cases ended : step default with
  | ok value after =>
      exact ((first default).of_ok ended).trans ((second default).of_ok ended).symm
  | error cause after =>
      exact ((first default).of_error ended).trans ((second default).of_error ended).symm

end Yields

/-- The step does not depend on the state. -/
def Settled (step : EStateM ε σ α) : Prop := ∃ result, Yields step result

namespace Settled

variable {step : EStateM ε σ α} {next : α → EStateM ε σ β}

theorem bind (first : Settled step) (second : ∀ value, Settled (next value)) :
    Settled (step >>= next) := by
  obtain ⟨result, first⟩ := first
  cases result with
  | error cause => exact ⟨.error cause, first.bind_error⟩
  | ok value =>
      obtain ⟨result, second⟩ := second value
      exact ⟨result, first.bind_ok second⟩

/-- Where two steps succeed together both succeed. -/
theorem of_bind [Inhabited σ] (first : Settled step) (second : ∀ value, Settled (next value))
    {last : β} (whole : Yields (step >>= next) (.ok last)) :
    ∃ middle, Yields step (.ok middle) ∧ Yields (next middle) (.ok last) := by
  obtain ⟨result, first⟩ := first
  cases result with
  | error cause => cases whole.unique first.bind_error
  | ok middle =>
      obtain ⟨result, second⟩ := second middle
      cases whole.unique (first.bind_ok second)
      exact ⟨middle, first, second⟩

end Settled

end Listmaster
