import Listmaster.Proofs.Ldap.Search
import Listmaster.Proofs.Session
import Listmaster.Proofs.Sorted

/-!
What a client reads.

The steps of a lookup only tell events, so that each has one result (`lookup_settled`), which
the replies of the server decide: `find_of_success`, `find_of_noSuchObject`.  References are
all read if their addresses are no more than the limit: `readCapped_of_room`.
-/

namespace Listmaster.Ldap

section Capped

variable {ε σ : Type} {limit : Option Nat} {cut : EStateM ε σ Unit}
  {read : String → EStateM ε σ (Option Address)} {reads : String → Option Address}
  {names : List String} {found total : AddressSet}

/-- Reading ends with all addresses if there are no more of them than the limit. -/
theorem readCapped_of_room (cutYields : Yields cut (.ok ()))
    (each : ∀ dn ∈ names, Yields (read dn) (.ok (reads dn)))
    (whole : ∀ x, x ∈ total ↔ x ∈ found ∨ ∃ dn ∈ names, reads dn = some x)
    (room : ∀ count, limit = some count → total.size ≤ count) :
    Yields (readCapped limit cut read names found) (.ok total) := by
  induction names generalizing found with
  | nil =>
      obtain rfl : found = total := by
        ext x
        simp [whole]
      exact Yields.pure found
  | cons dn rest inductionHypothesis =>
      unfold readCapped
      by_cases full : limit.any (· ≤ found.size) = true
      · -- The addresses that were found are already as many as there are.
        obtain ⟨count, known, reached⟩ := (Option.any_eq_true _ _).mp full
        have included : found ⊆ total := fun x here => (whole x).mpr (.inl here)
        have enough := Nat.le_trans (room count known) (of_decide_eq_true reached)
        rw [if_pos full, SortedSet.eq_of_subset_of_size_le included enough]
        exact cutYields.bind_ok (Yields.pure total)
      · rw [if_neg full]
        apply (each dn List.mem_cons_self).bind_ok
        have later (other : String) (here : other ∈ rest) :=
          each other (List.mem_cons_of_mem dn here)
        cases known : reads dn with
        | none =>
            apply inductionHypothesis later
            simp [whole, known]
        | some address =>
            apply inductionHypothesis later
            intro x
            simp [whole, known, eq_comm, or_assoc, or_left_comm]

theorem readCapped_succeeds (limit : Option Nat) (found : AddressSet)
    (cutYields : Yields cut (.ok ()))
    (each : ∀ dn ∈ names, Yields (read dn) (.ok (reads dn))) :
    ∃ total, Yields (readCapped limit cut read names found) (.ok total) := by
  induction names generalizing found with
  | nil => exact ⟨found, Yields.pure found⟩
  | cons dn rest inductionHypothesis =>
      have later (other : String) (here : other ∈ rest) :=
        each other (List.mem_cons_of_mem dn here)
      unfold readCapped
      split
      · exact ⟨found, cutYields.bind_ok (Yields.pure found)⟩
      · have first := each dn List.mem_cons_self
        cases known : reads dn with
        | none =>
            rw [known] at first
            obtain ⟨total, yields⟩ := inductionHypothesis found later
            exact ⟨total, first.bind_ok yields⟩
        | some address =>
            rw [known] at first
            obtain ⟨total, yields⟩ := inductionHypothesis (found.insert address) later
            exact ⟨total, first.bind_ok yields⟩

theorem readCapped_settled (limit : Option Nat) (cutYields : Yields cut (.ok ()))
    (settled : ∀ dn, Settled (read dn)) (names : List String) (found : AddressSet) :
    Settled (readCapped limit cut read names found) := by
  induction names generalizing found with
  | nil => exact ⟨.ok found, Yields.pure found⟩
  | cons dn rest inductionHypothesis =>
      unfold readCapped
      split
      · exact ⟨.ok found, cutYields.bind_ok (Yields.pure found)⟩
      · apply (settled dn).bind
        intro known
        cases known with
        | none => exact inductionHypothesis found
        | some address => exact inductionHypothesis (found.insert address)

/-- Where all references are read, each of them was, and led to the addresses. -/
theorem reads_of_readCapped [Inhabited σ] (settled : ∀ dn, Settled (read dn))
    (cutYields : Yields cut (.ok ()))
    (complete : Yields (readCapped none cut read names found) (.ok total)) :
    ∃ reads : String → Option Address, (∀ dn ∈ names, Yields (read dn) (.ok (reads dn))) ∧
      ∀ x, x ∈ total ↔ x ∈ found ∨ ∃ dn ∈ names, reads dn = some x := by
  choose result yields using settled
  let reads (dn : String) : Option Address :=
    match result dn with
    | .ok known => known
    | .error _ => none
  refine ⟨reads, ?_⟩
  induction names generalizing found with
  | nil =>
      cases complete.unique (Yields.pure found)
      simp
  | cons dn rest inductionHypothesis =>
      unfold readCapped at complete
      rw [if_neg (by simp)] at complete
      obtain ⟨known, first, second⟩ := Settled.of_bind ⟨_, yields dn⟩ (fun known => by
        cases known with
        | none => exact readCapped_settled none cutYields (fun dn => ⟨_, yields dn⟩) rest found
        | some address =>
            exact readCapped_settled none cutYields (fun dn => ⟨_, yields dn⟩) rest _) complete
      have same : reads dn = known := by
        simp only [reads, (yields dn).unique first]
      cases known with
      | none =>
          obtain ⟨each, whole⟩ := inductionHypothesis second
          refine ⟨List.forall_mem_cons.mpr ⟨by rwa [same], each⟩, ?_⟩
          simp [whole, same]
      | some address =>
          obtain ⟨each, whole⟩ := inductionHypothesis second
          refine ⟨List.forall_mem_cons.mpr ⟨by rwa [same], each⟩, ?_⟩
          intro x
          simp [whole, same, eq_comm, or_assoc, or_left_comm]

end Capped

namespace Client

variable {client : Client} {server : Server} {base filter text : String} {scope : Scope}
  {attributes : List String} {test : Filter} {found : List Found}

theorem tell_yields (notice : Notice) : Yields (ClientM.tell notice) (.ok ()) :=
  Yields.modify (·.push (.notice notice))

section Reply

variable (connected : client.connection = .ok server) (read : Filter.read? filter = some test)
include connected read

theorem find_of_success
    (reply : server ⟨base, scope, test, attributes, client.controls⟩ = .done found 0 text) :
    Yields (client.find base scope filter attributes)
      (.ok (some (found.filterMap Found.entry?))) :=
  (Gives.entries connected read reply).yields

theorem find_of_noSuchObject
    (reply : server ⟨base, scope, test, attributes, client.controls⟩ =
      .done found noSuchObject text) :
    Yields (client.find base scope filter attributes) (.ok none) :=
  (Gives.absent connected read reply).yields

end Reply

theorem find_settled (client : Client) (base : String) (scope : Scope) (filter : String)
    (attributes : List String) : Settled (client.find base scope filter attributes) := by
  obtain ⟨result, gives⟩ := client.exists_gives base scope filter attributes
  exact ⟨result, gives.yields⟩

theorem readReference_settled (client : Client) (groupAttribute dn : String) :
    Settled (client.readReference groupAttribute dn) := by
  have told (notice : Notice) (known : Option Address) :
      Settled (ClientM.tell notice >>= fun _ => (pure known : ClientM (Option Address))) :=
    ⟨_, (tell_yields notice).bind_ok (Yields.pure known)⟩
  unfold readReference
  apply (find_settled client dn .base Filter.anyEntry _).bind
  intro found
  split
  · exact told _ none
  · exact ⟨_, Yields.pure none⟩
  · split
    · exact told _ none
    · dsimp only
      split
      · exact told _ _
      · exact ⟨_, Yields.pure _⟩

theorem readReferences_settled (client : Client) (groupAttribute : String) (entry : Entry)
    (attributeName : String) :
    Settled (client.readReferences groupAttribute entry attributeName) :=
  readCapped_settled client.maxReferences (tell_yields _)
    (readReference_settled client groupAttribute) _ ∅

theorem readGroup_settled (client : Client) (groupAttribute : String) (entry : Entry) :
    Settled (client.readGroup groupAttribute entry) := by
  unfold readGroup
  apply (readReferences_settled client groupAttribute entry _).bind
  intro members
  apply (readReferences_settled client groupAttribute entry _).bind
  intro owners
  exact ⟨_, Yields.pure _⟩

/-- What a lookup does with the entries that are found. -/
def readFirst (client : Client) (groupAttribute : String) :
    Option (List Entry) → ClientM (Option Group)
  | none | some [] => return none
  | some (entry :: others) => do
      if !others.isEmpty then
        ClientM.tell .severalGroups
      return some (← client.readGroup groupAttribute entry)

theorem lookup_eq (client : Client) (question : Lookup) :
    client.lookup question =
      client.find question.base .subtree
        (Filter.ofGroup client.schema.groupClass question.attributeName question.value)
        [client.categoryAttribute, client.schema.memberAttribute, client.schema.ownerAttribute] >>=
      client.readFirst question.attributeName := by
  unfold lookup
  apply bind_congr
  intro found
  unfold readFirst
  split <;> rfl

theorem readFirst_cons {client : Client} {groupAttribute : String} {first : Entry}
    {result : Except DirectoryError Group} (others : List Entry)
    (read : Yields (client.readGroup groupAttribute first) result) :
    Yields (client.readFirst groupAttribute (some (first :: others))) (result.map some) := by
  have last : Yields (client.readGroup groupAttribute first >>= fun group =>
      (pure (some group) : ClientM (Option Group))) (result.map some) := by
    cases result with
    | error cause => exact read.bind_error
    | ok group => exact read.bind_ok (Yields.pure _)
  unfold readFirst
  dsimp only
  split
  · exact (tell_yields _).bind_ok last
  · exact last

theorem readFirst_settled (client : Client) (groupAttribute : String)
    (found : Option (List Entry)) : Settled (client.readFirst groupAttribute found) := by
  match found with
  | none | some [] => exact ⟨_, Yields.pure none⟩
  | some (first :: others) =>
      obtain ⟨result, read⟩ := readGroup_settled client groupAttribute first
      exact ⟨_, readFirst_cons others read⟩

theorem lookup_settled (client : Client) (question : Lookup) :
    Settled (client.lookup question) := by
  rw [lookup_eq]
  exact (find_settled client question.base .subtree _ _).bind (readFirst_settled client _)

/-- What a directory on a server answers is the result of the lookup. -/
theorem outcome_toDirectory {question : Lookup} {result : Except DirectoryError (Option Group)}
    (yields : Yields (client.lookup question) result) :
    (client.toDirectory question).outcome = result := by
  have result? := yields #[]
  unfold toDirectory
  cases answer : client.lookup question #[] with
  | ok group events => exact (result?.of_ok answer).symm
  | error error events => exact (result?.of_error answer).symm

theorem lookup_yields (client : Client) (question : Lookup) :
    Yields (client.lookup question) (client.toDirectory question).outcome := by
  obtain ⟨result, yields⟩ := lookup_settled client question
  rwa [outcome_toDirectory yields]

/-- A resolver that asks the client. -/
def resolver (client : Client) (classifier : Classifier) (base groupAttribute : String) :
    Resolver :=
  ⟨client.toDirectory, classifier, base, groupAttribute⟩

theorem groupAt_resolver (client : Client) (classifier : Classifier)
    (base groupAttribute : String) (x : Address) :
    (client.resolver classifier base groupAttribute).groupAt x =
      if classifier.isCandidate x then
        (client.toDirectory ⟨base, groupAttribute, x.full⟩).outcome
      else .ok none := rfl

end Client

end Listmaster.Ldap
