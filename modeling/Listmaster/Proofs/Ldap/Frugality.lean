import Mathlib.Data.Finset.Card
import Listmaster.Proofs.Ldap.Reading

/-!
How many references are read.

Each read of a reference may fail, and may change a state.  `noting` is the way of reading that also
notes what is read, and a `Perusal` is what reading up to a limit leads to, with the notes.  The
references that are needed are the shortest beginning of all of them that leads to as many different
addresses as the limit, and these are read, up to the first one that fails, by a client too:
`peruse_frugal`.
-/

namespace Listmaster.Ldap

variable {ε σ : Type}

/-- The shortest beginning of a list that has a property, or the whole list if none has. -/
structure IsShortest {α : Type} (p : List α → Prop) (list part : List α) : Prop where
  begins : part <+: list
  reached : p part ∨ part = list
  least : ∀ shorter, shorter <+: part → p shorter → shorter = part

namespace IsShortest

variable {α : Type} {p : List α → Prop} {list rest part other : List α} {x : α}

theorem nil (reached : p [] ∨ [] = list) : IsShortest p list [] where
  begins := List.nil_prefix
  reached := reached
  least _ begins _ := List.prefix_nil.mp begins

theorem cons (more : ¬ p []) (later : IsShortest (fun part => p (x :: part)) rest part) :
    IsShortest p (x :: rest) (x :: part) where
  begins := (List.prefix_cons_inj x).mpr later.begins
  reached := later.reached.imp_right (congrArg (x :: ·))
  least shorter begins reached := by
    rcases List.prefix_cons_iff.mp begins with rfl | ⟨tail, rfl, within⟩
    · exact absurd reached more
    · rw [later.least tail within reached]

theorem eq_of_begins (shortest : IsShortest p list part) (also : IsShortest p list other)
    (begins : part <+: other) : part = other := by
  rcases shortest.reached with reached | rfl
  · exact also.least part begins reached
  · exact begins.eq_of_length_le also.begins.length_le

theorem unique (shortest : IsShortest p list part) (also : IsShortest p list other) :
    part = other := by
  rcases List.prefix_or_prefix_of_prefix shortest.begins also.begins with begins | begins
  · exact shortest.eq_of_begins also begins
  · exact (also.eq_of_begins shortest begins).symm

end IsShortest

theorem exists_isShortest {α : Type} (p : List α → Prop) (list : List α) :
    ∃ part, IsShortest p list part := by
  induction list generalizing p with
  | nil => exact ⟨[], .nil (.inr rfl)⟩
  | cons x rest inductionHypothesis =>
      by_cases reached : p []
      · exact ⟨[], .nil (.inl reached)⟩
      · obtain ⟨part, shortest⟩ := inductionHypothesis fun part => p (x :: part)
        exact ⟨x :: part, shortest.cons reached⟩

/-- A reference that was read, with what it led to. -/
structure Reading (ε : Type) where
  dn : String
  outcome : Except ε (Option Address)
  deriving DecidableEq

namespace Reading

def address? (reading : Reading ε) : Option Address :=
  match reading.outcome with
  | .ok known => known
  | .error _ => none

def error? (reading : Reading ε) : Option ε :=
  match reading.outcome with
  | .ok _ => none
  | .error cause => some cause

/-- The addresses that were found, each of them once. -/
def addresses (readings : List (Reading ε)) : Finset Address :=
  (readings.filterMap address?).toFinset

/-- There are as many different addresses as the limit. -/
def Enough (limit : Option Nat) (readings : List (Reading ε)) : Prop :=
  ∃ count, limit = some count ∧ count ≤ (addresses readings).card

def firstError? (readings : List (Reading ε)) : Option ε := readings.findSome? error?

/-- The readings up to the first one that failed, or all of them. -/
def untilFailure (readings : List (Reading ε)) : List (Reading ε) :=
  readings.take (readings.findIdx (fun reading => reading.error?.isSome) + 1)

/-- The set holds the addresses that were found. -/
def Collects (found : AddressSet) (readings : List (Reading ε)) : Prop :=
  ∀ x, x ∈ found ↔ x ∈ addresses readings

variable {limit : Option Nat} {found : AddressSet} {readings before : List (Reading ε)}
  {dn : String} {x : Address}

theorem mem_addresses :
    x ∈ addresses readings ↔ ∃ reading ∈ readings, reading.address? = some x := by
  rw [addresses, List.mem_toFinset, List.mem_filterMap]

theorem collects_nil : Collects ∅ ([] : List (Reading ε)) := by
  intro x
  simp [addresses]

theorem Collects.concat (collects : Collects found before) (dn : String)
    (known : Option Address) :
    Collects (known.elim found found.insert) (before ++ [⟨dn, .ok known⟩]) := by
  intro x
  cases known with
  | none => simp [collects x, mem_addresses, address?]
  | some address => simp [collects x, mem_addresses, address?, or_comm, eq_comm]

theorem Collects.size_eq (collects : Collects found readings) :
    found.size = (addresses readings).card := by
  have same : addresses readings = found.toList.toFinset := by
    ext x
    rw [← collects x, List.mem_toFinset, SortedSet.mem_def]
  rw [same, List.toFinset_card_of_nodup found.nodup_toList]
  rfl

theorem Collects.full_iff (collects : Collects found readings) :
    limit.any (· ≤ found.size) = true ↔ Enough limit readings := by
  rw [Option.any_eq_true, collects.size_eq]
  simp only [decide_eq_true_eq]
  rfl

theorem untilFailure_cons_ok (dn : String) (known : Option Address) (readings : List (Reading ε)) :
    untilFailure (⟨dn, .ok known⟩ :: readings) = ⟨dn, .ok known⟩ :: untilFailure readings := by
  simp [untilFailure, List.findIdx_cons, error?]

theorem firstError?_cons_ok (dn : String) (known : Option Address) (readings : List (Reading ε)) :
    firstError? (⟨dn, .ok known⟩ :: readings) = firstError? readings := rfl

theorem untilFailure_eq_self (whole : firstError? readings = none) :
    untilFailure readings = readings := by
  induction readings with
  | nil => rfl
  | cons reading rest inductionHypothesis =>
      obtain ⟨dn, outcome⟩ := reading
      cases outcome with
      | ok known =>
          rw [firstError?_cons_ok] at whole
          rw [untilFailure_cons_ok, inductionHypothesis whole]
      | error cause => cases whole

theorem Collects.unique {other : AddressSet} (collects : Collects found readings)
    (also : Collects other readings) : found = other := by
  ext x
  rw [collects x, also x]

theorem enough_concat_iff {reading : Reading ε}
    (known : ∀ x, reading.address? = some x → x ∈ addresses readings) :
    Enough limit (readings ++ [reading]) ↔ Enough limit readings := by
  have same : addresses (readings ++ [reading]) = addresses readings := by
    ext x
    simp only [addresses, List.filterMap_append, List.toFinset_append, Finset.mem_union]
    refine or_iff_left_of_imp fun here => known x ?_
    simpa using here
  rw [Enough, Enough, same]

end Reading

open Reading

/-- The way of reading, which also notes what is read. -/
def noting (read : String → EStateM ε σ (Option Address)) (dn : String) :
    EStateM ε (σ × List (Reading ε)) (Option Address) := fun (state, readings) =>
  match read dn state with
  | .ok known after => .ok known (after, readings ++ [⟨dn, .ok known⟩])
  | .error cause after => .error cause (after, readings ++ [⟨dn, .error cause⟩])

/-- What all references lead to, one after another, also behind one that fails. -/
def readThrough (read : String → EStateM ε σ (Option Address)) :
    List String → σ → List (Reading ε)
  | [], _ => []
  | dn :: rest, state =>
      match read dn state with
      | .ok known after => ⟨dn, .ok known⟩ :: readThrough read rest after
      | .error cause after => ⟨dn, .error cause⟩ :: readThrough read rest after

/-- What reading leads to, with what was read. -/
structure Perusal (ε σ : Type) where
  outcome : Except ε AddressSet
  state : σ
  readings : List (Reading ε)

namespace Perusal

def ofResult : EStateM.Result ε (σ × List (Reading ε)) AddressSet → Perusal ε σ
  | .ok found (state, readings) => ⟨.ok found, state, readings⟩
  | .error cause (state, readings) => ⟨.error cause, state, readings⟩

/-- What reading leads to alone. -/
def toResult (perusal : Perusal ε σ) : EStateM.Result ε σ AddressSet :=
  match perusal.outcome with
  | .ok found => .ok found perusal.state
  | .error cause => .error cause perusal.state

end Perusal

/-- References are read up to a limit, with notes.  References that are left over are warned of. -/
def peruse (limit : Option Nat) (warn : σ → σ) (read : String → EStateM ε σ (Option Address))
    (dns : List String) (state : σ) : Perusal ε σ :=
  .ofResult (readCapped limit (modify (Prod.map warn id)) (noting read) dns ∅ (state, []))

variable {limit : Option Nat} {cut : EStateM ε σ Unit}
  {read : String → EStateM ε σ (Option Address)} {dn : String} {known : Option Address} {cause : ε}
  {state after : σ} {found : AddressSet} {before : List (Reading ε)}

theorem noting_of_ok (ran : read dn state = .ok known after) (before : List (Reading ε)) :
    noting read dn (state, before) = .ok known (after, before ++ [⟨dn, .ok known⟩]) := by
  rw [noting, ran]

theorem noting_of_error (ran : read dn state = .error cause after) (before : List (Reading ε)) :
    noting read dn (state, before) = .error cause (after, before ++ [⟨dn, .error cause⟩]) := by
  rw [noting, ran]

theorem dns_readThrough (read : String → EStateM ε σ (Option Address)) (dns : List String)
    (state : σ) : (readThrough read dns state).map Reading.dn = dns := by
  induction dns generalizing state with
  | nil => rfl
  | cons dn rest inductionHypothesis =>
      unfold readThrough
      cases read dn state with
      | ok known after => exact congrArg (dn :: ·) (inductionHypothesis after)
      | error cause after => exact congrArg (dn :: ·) (inductionHypothesis after)

theorem readCapped_cons (limit : Option Nat) (cut : EStateM ε σ Unit)
    (read : String → EStateM ε σ (Option Address)) (dn : String) (rest : List String)
    (found : AddressSet) :
    readCapped limit cut read (dn :: rest) found =
      if limit.any (· ≤ found.size) then cut >>= fun _ => pure found
      else read dn >>= fun known =>
        readCapped limit cut read rest (known.elim found found.insert) := by
  rw [readCapped]
  split
  · rfl
  · apply bind_congr
    intro known
    cases known <;> rfl

theorem readCapped_of_full (full : limit.any (· ≤ found.size) = true) (warn : σ → σ)
    (rest : List String) :
    readCapped limit (modify warn) read (dn :: rest) found state = .ok found (warn state) := by
  rw [readCapped_cons, if_pos full]
  rfl

theorem readCapped_of_ok (room : ¬ limit.any (· ≤ found.size) = true)
    (ran : read dn state = .ok known after) (rest : List String) :
    readCapped limit cut read (dn :: rest) found state =
      readCapped limit cut read rest (known.elim found found.insert) after := by
  rw [readCapped_cons, if_neg room]
  change EStateM.bind _ _ _ = _
  rw [EStateM.bind, ran]

theorem readCapped_of_error (room : ¬ limit.any (· ≤ found.size) = true)
    (ran : read dn state = .error cause after) (rest : List String) :
    readCapped limit cut read (dn :: rest) found state = .error cause after := by
  rw [readCapped_cons, if_neg room]
  change EStateM.bind _ _ _ = _
  rw [EStateM.bind, ran]

/-- The notes change nothing else. -/
theorem toResult_readCapped (limit : Option Nat) (warn : σ → σ)
    (read : String → EStateM ε σ (Option Address)) (dns : List String) (found : AddressSet)
    (state : σ) (readings : List (Reading ε)) :
    (Perusal.ofResult (readCapped limit (modify (Prod.map warn id)) (noting read) dns found
      (state, readings))).toResult = readCapped limit (modify warn) read dns found state := by
  induction dns generalizing found state readings with
  | nil => rfl
  | cons dn rest inductionHypothesis =>
      by_cases full : limit.any (· ≤ found.size) = true
      · rw [readCapped_of_full full, readCapped_of_full full]
        rfl
      · cases ran : read dn state with
        | ok known after =>
            rw [readCapped_of_ok full (noting_of_ok ran readings), readCapped_of_ok full ran]
            exact inductionHypothesis _ after _
        | error cause after =>
            rw [readCapped_of_error full (noting_of_error ran readings),
              readCapped_of_error full ran]
            rfl

theorem Client.readReferences_eq (client : Client) (groupAttribute : String) (entry : Entry)
    (attributeName : String) (events : Array Event) :
    client.readReferences groupAttribute entry attributeName events =
      (peruse client.maxReferences (·.push (.notice .tooManyReferences))
        (client.readReference groupAttribute) (entry.values attributeName) events).toResult :=
  (toResult_readCapped client.maxReferences _ _ (entry.values attributeName) ∅ events []).symm

namespace Perusal

/-- How reading ends, where these readings were made before and these ones are still needed. -/
inductive Ends (before needed : List (Reading ε)) : Perusal ε σ → Prop
  | found {found : AddressSet} {state : σ} :
      firstError? needed = none → Collects found (before ++ needed) →
      Ends before needed ⟨.ok found, state, before ++ needed⟩
  | failed {cause : ε} {state : σ} :
      firstError? needed = some cause →
      Ends before needed ⟨.error cause, state, before ++ untilFailure needed⟩

namespace Ends

variable {needed later : List (Reading ε)} {perusal : Perusal ε σ}

theorem nil (collects : Collects found before) (state : σ) :
    Ends before [] ⟨.ok found, state, before⟩ := by
  rw [← List.append_nil before] at collects
  have ends : Ends before [] ⟨.ok found, state, before ++ []⟩ := .found rfl collects
  rwa [List.append_nil] at ends

theorem cons (ends : Ends (before ++ [⟨dn, .ok known⟩]) later perusal) :
    Ends before (⟨dn, .ok known⟩ :: later) perusal := by
  cases ends with
  | found whole collects =>
      rw [List.append_assoc] at collects ⊢
      exact .found whole collects
  | failed first =>
      rw [List.append_assoc, List.singleton_append, ← untilFailure_cons_ok]
      exact .failed first

theorem error_iff (ends : Ends [] needed perusal) (cause : ε) :
    perusal.outcome = .error cause ↔ firstError? needed = some cause := by
  cases ends with
  | found whole => simp [whole]
  | failed first => simp [first]

theorem ok_iff (ends : Ends [] needed perusal) (found : AddressSet) :
    perusal.outcome = .ok found ↔ firstError? needed = none ∧ Collects found needed := by
  cases ends with
  | @found other state whole collects =>
      refine ⟨?_, fun also => congrArg Except.ok (collects.unique also.2)⟩
      rintro ⟨⟩
      exact ⟨whole, collects⟩
  | failed first => simp [first]

theorem readings_eq (ends : Ends [] needed perusal) : perusal.readings = untilFailure needed := by
  cases ends with
  | found whole => exact (untilFailure_eq_self whole).symm
  | failed => rfl

end Ends

end Perusal

/-- Where some readings were made before, those are made that are still needed, up to the first
that fails. -/
theorem ends_readCapped (limit : Option Nat) (warn : σ → σ)
    (read : String → EStateM ε σ (Option Address)) (dns : List String) (state : σ)
    (collects : Collects found before) :
    ∃ needed,
      IsShortest (fun part => Enough limit (before ++ part)) (readThrough read dns state) needed ∧
      (Perusal.ofResult (readCapped limit (modify (Prod.map warn id)) (noting read) dns found
        (state, before))).Ends before needed := by
  -- A reading that succeeds joins those made before, and so counts for the limit further on.
  induction dns generalizing found state before with
  | nil => exact ⟨[], .nil (.inr rfl), .nil collects state⟩
  | cons dn rest inductionHypothesis =>
      have reached : limit.any (· ≤ found.size) = true ↔ Enough limit (before ++ []) := by
        rw [List.append_nil, collects.full_iff]
      by_cases full : limit.any (· ≤ found.size) = true
      · rw [readCapped_of_full full]
        exact ⟨[], .nil (.inl (reached.mp full)), .nil collects (warn state)⟩
      · have more : ¬ Enough limit (before ++ []) := fun enough => full (reached.mpr enough)
        cases ran : read dn state with
        | ok known after =>
            obtain ⟨later, shortest, ends⟩ :=
              inductionHypothesis after (collects.concat dn known)
            simp only [List.append_assoc, List.singleton_append] at shortest
            rw [readThrough, ran, readCapped_of_ok full (noting_of_ok ran before)]
            exact ⟨⟨dn, .ok known⟩ :: later, .cons more shortest, ends.cons⟩
        | error cause after =>
            -- What is needed behind a failure is never read.
            obtain ⟨unread, shortest⟩ := exists_isShortest
              (fun part => Enough limit (before ++ ⟨dn, .error cause⟩ :: part))
              (readThrough read rest after)
            rw [readThrough, ran, readCapped_of_error full (noting_of_error ran before)]
            exact ⟨⟨dn, .error cause⟩ :: unread, .cons more shortest, .failed rfl⟩

/-- Of the references, exactly those are read that are needed to have as many different addresses as
the limit, all of them if there are not as many, and none if the limit is zero.  The addresses that
are found in them are returned, unless one of them fails: then reading ends with the first that
does, and with its error.  What leads to no address, or to one that was found, does not count.  So
a client reads the references of an entry. -/
theorem peruse_frugal (limit : Option Nat) (warn : σ → σ)
    (read : String → EStateM ε σ (Option Address)) (dns : List String) (state : σ) :
    let perusal := peruse limit warn read dns state
    perusal.toResult = readCapped limit (modify warn) read dns ∅ state ∧
      (∀ (client : Client) (groupAttribute : String) (entry : Entry) (attributeName : String)
          (events : Array Event),
        client.readReferences groupAttribute entry attributeName events =
          (peruse client.maxReferences (·.push (.notice .tooManyReferences))
            (client.readReference groupAttribute) (entry.values attributeName) events).toResult) ∧
      (readThrough read dns state).map Reading.dn = dns ∧
      (∃ needed,
        (∀ part, IsShortest (Enough limit) (readThrough read dns state) part ↔ part = needed) ∧
        (limit = some 0 → needed = []) ∧
        perusal.readings = untilFailure needed ∧
        (firstError? needed = none → perusal.readings = needed) ∧
        (∀ cause, perusal.outcome = .error cause ↔ firstError? needed = some cause) ∧
        ∀ found, perusal.outcome = .ok found ↔
          firstError? needed = none ∧ Collects found needed) ∧
      ∀ (readings : List (Reading ε)) (reading : Reading ε),
        (∀ x, reading.address? = some x → x ∈ addresses readings) →
        (Enough limit (readings ++ [reading]) ↔ Enough limit readings) := by
  intro perusal
  obtain ⟨needed, shortest, ends⟩ := ends_readCapped limit warn read dns state collects_nil
  refine ⟨toResult_readCapped limit warn read dns ∅ state [],
    fun client => client.readReferences_eq, dns_readThrough read dns state,
    ⟨needed, fun part => ⟨fun also => also.unique shortest, fun same => same ▸ shortest⟩, ?_,
      ends.readings_eq, fun whole => ?_, ends.error_iff, ends.ok_iff⟩,
    fun readings reading => enough_concat_iff⟩
  · rintro rfl
    exact shortest.unique (.nil (.inl ⟨0, rfl, Nat.zero_le _⟩))
  · exact ends.readings_eq.trans (untilFailure_eq_self whole)

/-! References of which two lead to the same address, one to none, and the last one fails. -/

namespace Sample

/-- Counts the reads. -/
def tally (dn : String) : EStateM String Nat (Option Address) := do
  modify (· + 1)
  match dn with
  | "uid=reader" | "cn=Reader" => return Address.parse? "reader@example.org"
  | "uid=writer" => return Address.parse? "writer@example.org"
  | "uid=nobody" => return none
  | _ => throw "timed out"

def tallied : List String := ["uid=reader", "uid=nobody", "cn=Reader", "uid=writer", "uid=late"]

def tallyReadings : List (Reading String) :=
  [⟨"uid=reader", .ok (Address.parse? "reader@example.org")⟩, ⟨"uid=nobody", .ok none⟩,
    ⟨"cn=Reader", .ok (Address.parse? "reader@example.org")⟩,
    ⟨"uid=writer", .ok (Address.parse? "writer@example.org")⟩]

end Sample

theorem peruse_frugal_sample :
    IsShortest (Enough (some 2)) (readThrough Sample.tally Sample.tallied 0)
        Sample.tallyReadings ∧
      (peruse (some 2) id Sample.tally Sample.tallied 0).readings = Sample.tallyReadings ∧
      (peruse (some 3) id Sample.tally Sample.tallied 0).outcome = .error "timed out" := by
  obtain ⟨_, _, _, ⟨needed, shortest, _, _, whole, _, found⟩, _⟩ :=
    peruse_frugal (some 2) id Sample.tally Sample.tallied 0
  have complete : firstError? needed = none :=
    ((found (.ofList (Sample.tallyReadings.filterMap Reading.address?))).mp (by decide +kernel)).1
  have same : needed = Sample.tallyReadings := (whole complete).symm.trans (by decide +kernel)
  exact ⟨(shortest _).mpr same.symm, (whole complete).trans same, by decide +kernel⟩

end Listmaster.Ldap
