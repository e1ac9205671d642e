import Listmaster.Ldap.Client
import Listmaster.Proofs.Step

/-!
What one search tells a client.

A search gives entries, or that its base does not exist, or an error: `Client.Gives`.  A step
`Spends` searches, which are counted by the events that it tells.
-/

namespace Listmaster

def Event.isSearch : Event → Bool
  | search _ => true
  | lookup _ | notice _ => false

namespace Ldap

/-- The number of searches among the events. -/
def searchesIn (events : Array Event) : Nat := events.countP Event.isSearch

/-- From every state after `before` searches the step ends with the result, after `after` searches
if it succeeds. -/
def Spends {α : Type} (step : ClientM α) (before : Nat) (result : Except DirectoryError α)
    (after : Nat) : Prop :=
  ∀ events, searchesIn events = before →
    Ensures step events (fun value later => result = .ok value ∧ searchesIn later = after)
      (fun cause _ => result = .error cause)

namespace Spends

variable {α β : Type} {step : ClientM α} {next : α → ClientM β} {before middle after : Nat}

theorem pure (value : α) (count : Nat) : Spends (pure value) count (.ok value) count :=
  fun _ counted => ⟨rfl, counted⟩

theorem throw (cause : DirectoryError) (before after : Nat) :
    Spends (throw cause : ClientM α) before (.error cause) after := fun _ _ => rfl

theorem tell (notice : Notice) (count : Nat) :
    Spends (ClientM.tell notice) count (.ok ()) count := by
  intro events counted
  have same : searchesIn (events.push (.notice notice)) = searchesIn events := by
    simp [searchesIn, Event.isSearch]
  exact ⟨rfl, same.trans counted⟩

theorem search (search : Search) (count : Nat) :
    Spends (modify (·.push (.search search))) count (.ok ⟨⟩) (count + 1) := by
  intro events counted
  have more : searchesIn (events.push (.search search)) = searchesIn events + 1 :=
    Array.countP_push_of_pos rfl
  exact ⟨rfl, counted ▸ more⟩

theorem bind_ok {value : α} {later : Except DirectoryError β}
    (first : Spends step before (.ok value) middle)
    (second : Spends (next value) middle later after) :
    Spends (step >>= next) before later after := by
  intro events counted
  apply Ensures.bind
  apply (first events counted).mono
  · rintro _ between ⟨⟨⟩, countedToo⟩
    exact second between countedToo
  · rintro _ _ ⟨⟩

theorem bind_error {cause : DirectoryError} (first : Spends step before (.error cause) middle) :
    Spends (step >>= next) before (.error cause) after := by
  intro events counted
  apply Ensures.bind
  apply (first events counted).mono
  · rintro _ _ ⟨⟨⟩, _⟩
  · rintro _ _ ⟨⟩
    rfl

theorem yields {result : Except DirectoryError α} {later : Nat → Nat}
    (spends : ∀ count, Spends step count result (later count)) : Yields step result := by
  intro events
  apply (spends _ events rfl).mono
  · exact fun _ _ ended => ended.1
  · exact fun _ _ failed => failed

end Spends

namespace Client

/-- What a search gives. -/
inductive Gives (client : Client) (base : String) (scope : Scope) (filter : String)
    (attributes : List String) : Except DirectoryError (Option (List Entry)) → Prop
  | unconnected {reason} : client.connection = .error reason →
      Gives client base scope filter attributes (.error (.unavailable reason))
  | unreadable {server} : client.connection = .ok server → Filter.read? filter = none →
      Gives client base scope filter attributes (.error (.unavailable "filter parse error"))
  | silent {server test silence} : client.connection = .ok server →
      Filter.read? filter = some test →
      server ⟨base, scope, test, attributes, client.controls⟩ = .none silence →
      Gives client base scope filter attributes (.error (.unavailable silence.message))
  | entries {server test found text} : client.connection = .ok server →
      Filter.read? filter = some test →
      server ⟨base, scope, test, attributes, client.controls⟩ = .done found 0 text →
      Gives client base scope filter attributes (.ok (some (found.filterMap Found.entry?)))
  | absent {server test found text} : client.connection = .ok server →
      Filter.read? filter = some test →
      server ⟨base, scope, test, attributes, client.controls⟩ = .done found noSuchObject text →
      Gives client base scope filter attributes (.ok none)
  | failed {server test found code text} : client.connection = .ok server →
      Filter.read? filter = some test →
      server ⟨base, scope, test, attributes, client.controls⟩ = .done found code text →
      code ≠ 0 → code ≠ noSuchObject →
      Gives client base scope filter attributes (.error (.failure code text))

variable {client : Client} {base filter : String} {scope : Scope} {attributes : List String}

theorem exists_gives (client : Client) (base : String) (scope : Scope) (filter : String)
    (attributes : List String) : ∃ result, client.Gives base scope filter attributes result := by
  cases connected : client.connection with
  | error reason => exact ⟨_, .unconnected connected⟩
  | ok server =>
      cases read : Filter.read? filter with
      | none => exact ⟨_, .unreadable connected read⟩
      | some test =>
          cases reply : server ⟨base, scope, test, attributes, client.controls⟩ with
          | none silence => exact ⟨_, .silent connected read reply⟩
          | done found code text =>
              by_cases success : code = 0
              · exact ⟨_, .entries connected read (success ▸ reply)⟩
              · by_cases absent : code = noSuchObject
                · exact ⟨_, .absent connected read (absent ▸ reply)⟩
                · exact ⟨_, .failed connected read reply success absent⟩

/-- What a search gives is what the client finds. -/
theorem Gives.spends {result : Except DirectoryError (Option (List Entry))}
    (gives : client.Gives base scope filter attributes result) (count : Nat) :
    Spends (client.find base scope filter attributes) count result (count + 1) := by
  unfold find
  cases gives with
  | unconnected connected =>
      rw [connected]
      exact Spends.throw _ _ _
  | unreadable connected read =>
      rw [connected, read]
      exact Spends.throw _ _ _
  | silent connected read reply =>
      rw [connected, read]
      apply (Spends.search _ count).bind_ok
      rw [reply]
      exact Spends.throw _ _ _
  | entries connected read reply =>
      rw [connected, read]
      apply (Spends.search _ count).bind_ok
      rw [reply]
      exact Spends.pure _ _
  | absent connected read reply =>
      rw [connected, read]
      apply (Spends.search _ count).bind_ok
      rw [reply]
      exact Spends.pure _ _
  | failed connected read reply failure noAbsence =>
      rw [connected, read]
      apply (Spends.search _ count).bind_ok
      rw [reply]
      dsimp only
      rw [if_neg failure, if_neg noAbsence]
      exact Spends.throw _ _ _

theorem Gives.yields {result : Except DirectoryError (Option (List Entry))}
    (gives : client.Gives base scope filter attributes result) :
    Yields (client.find base scope filter attributes) result :=
  Spends.yields gives.spends

end Client

end Ldap

end Listmaster
