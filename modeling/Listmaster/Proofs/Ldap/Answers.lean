import Listmaster.Proofs.Ldap.Entry
import Listmaster.Proofs.Ldap.Search

/-!
What the read of a reference tells a client.

A reference that is read leads to the address that its entry denotes, or to none, or to the error
of the search: `Client.ReadsAs`, which is what a client reads (`Client.ReadsAs.spends`).
-/

namespace Listmaster.Ldap

namespace Entry

/-- The entry is known by the text: a group by the first value of an attribute of groups if it has
one, and every other entry by its first mail address. -/
def IsNamed (entry : Entry) (schema : Schema) (groupAttribute text : String) : Prop :=
  (entry.IsGroup schema ∧ entry.Begins groupAttribute text) ∨
    ((entry.IsGroup schema → ∀ other, ¬ entry.Begins groupAttribute other) ∧
      entry.Begins schema.mailAttribute text)

variable {entry : Entry} {text groupAttribute : String} {schema : Schema}

theorem address?_eq_some_iff (apart : entry.NamesApart) :
    entry.address? schema groupAttribute = some text ↔
      entry.IsNamed schema groupAttribute text := by
  unfold address? IsNamed
  simp only [← value?_eq_some_iff apart, ← isGroup_iff apart]
  by_cases isGroup : entry.isGroup schema = true
  · cases entry.value? groupAttribute <;> simp [isGroup]
  · simp [isGroup]

end Entry

/-- No two attributes of an entry that the server sends have the same name. -/
def Server.NamesApart (server : Server) : Prop :=
  ∀ search found code text, server search = .done found code text →
    ∀ entry ∈ found.filterMap Found.entry?, entry.NamesApart

namespace Client

/-- What the search for the entry of a reference gives. -/
def GivesReferred (client : Client) (groupAttribute dn : String) :
    Except DirectoryError (Option (List Entry)) → Prop :=
  client.Gives dn .base Filter.anyEntry
    ["objectClass", client.schema.mailAttribute, groupAttribute]

/-- What reading a reference leads to. -/
inductive ReadsAs (client : Client) (groupAttribute dn : String) :
    Except DirectoryError (Option Address) → Prop
  | failed {cause} : client.GivesReferred groupAttribute dn (.error cause) →
      ReadsAs client groupAttribute dn (.error cause)
  | missing : client.GivesReferred groupAttribute dn (.ok none) →
      ReadsAs client groupAttribute dn (.ok none)
  | nothing : client.GivesReferred groupAttribute dn (.ok (some [])) →
      ReadsAs client groupAttribute dn (.ok none)
  | entry {entry others known} :
      client.GivesReferred groupAttribute dn (.ok (some (entry :: others))) →
      (∀ x, known = some x ↔ ∃ text, entry.IsNamed client.schema groupAttribute text ∧
        Address.parse? text = some x) →
      ReadsAs client groupAttribute dn (.ok known)

variable {client : Client} {base filter groupAttribute dn : String} {scope : Scope}
  {attributes : List String}

section Apart

variable (apart : ∀ server, client.connection = .ok server → server.NamesApart)
include apart

theorem Gives.namesApart {entries : List Entry}
    (gives : client.Gives base scope filter attributes (.ok (some entries))) :
    ∀ entry ∈ entries, entry.NamesApart := by
  cases gives with
  | entries connected read reply => exact apart _ connected _ _ _ _ reply

theorem exists_readsAs (groupAttribute dn : String) :
    ∃ result, client.ReadsAs groupAttribute dn result := by
  obtain ⟨result, gives⟩ := client.exists_gives dn .base Filter.anyEntry
    ["objectClass", client.schema.mailAttribute, groupAttribute]
  match result with
  | .error cause => exact ⟨_, .failed gives⟩
  | .ok none => exact ⟨_, .missing gives⟩
  | .ok (some []) => exact ⟨_, .nothing gives⟩
  | .ok (some (entry :: others)) =>
      have entryApart := gives.namesApart apart entry List.mem_cons_self
      refine ⟨.ok ((entry.address? client.schema groupAttribute).bind Address.parse?),
        .entry gives fun x => ?_⟩
      simp only [Option.bind_eq_some_iff, Entry.address?_eq_some_iff entryApart]

/-- What reading a reference leads to is what the client reads. -/
theorem ReadsAs.spends {result : Except DirectoryError (Option Address)}
    (reads : client.ReadsAs groupAttribute dn result) (count : Nat) :
    Spends (client.readReference groupAttribute dn) count result (count + 1) := by
  unfold readReference
  cases reads with
  | failed gives => exact (gives.spends count).bind_error
  | missing gives =>
      exact (gives.spends count).bind_ok ((Spends.tell _ _).bind_ok (Spends.pure _ _))
  | nothing gives => exact (gives.spends count).bind_ok (Spends.pure _ _)
  | @entry entry others known gives denotes =>
      have entryApart := gives.namesApart apart entry List.mem_cons_self
      apply (gives.spends count).bind_ok
      have same : known = (entry.address? client.schema groupAttribute).bind Address.parse? := by
        ext x
        rw [denotes, Option.bind_eq_some_iff]
        simp only [Entry.address?_eq_some_iff entryApart]
      rw [same]
      dsimp only
      cases entry.address? client.schema groupAttribute with
      | none => exact (Spends.tell _ _).bind_ok (Spends.pure _ _)
      | some text =>
          dsimp only
          split
          · exact (Spends.tell _ _).bind_ok (Spends.pure _ _)
          · exact Spends.pure _ _

end Apart

end Client

end Listmaster.Ldap
