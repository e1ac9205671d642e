import Mathlib.Data.List.Infix
import Listmaster.Proofs.Ldap.Answers
import Listmaster.Proofs.Ldap.Host

/-!
A lookup as a conversation.

A server may answer a search one way now and another way later, and may not be there at all.
`Client.lookupOver` is a lookup over connections that may change before each search.  It gives no
group exactly if there is none, the whole group if the references that it needs can be read, and
otherwise the first error that it meets: `Client.lookup_gives`.
-/

namespace Listmaster.Ldap

/-- What reading a reference led to. -/
abbrev Read := Except DirectoryError (Option Address)

namespace Read

/-- The addresses with the one that was read. -/
def add (found : AddressSet) : Read → AddressSet
  | .ok (some address) => found.insert address
  | .ok none => found
  | .error _ => found

/-- The reads up to the one by which there are as many addresses as the limit, or all of them. -/
def needed (limit : Option Nat) (found : AddressSet) (reads : List Read) : List Read :=
  (reads.inits.find? fun part => limit.any (· ≤ (part.foldl add found).size)).getD reads

def firstError? (reads : List Read) : Option DirectoryError :=
  reads.findSome? fun
    | .ok _ => none
    | .error cause => some cause

variable {limit : Option Nat} {found : AddressSet}

theorem mem_foldl_add {reads : List Read} {x : Address} :
    x ∈ reads.foldl add found ↔ x ∈ found ∨ .ok (some x) ∈ reads := by
  induction reads generalizing found with
  | nil => simp
  | cons read rest inductionHypothesis =>
      rw [List.foldl_cons, inductionHypothesis]
      match read with
      | .error cause => simp [add]
      | .ok none => simp [add]
      | .ok (some address) => simp [add, or_assoc, or_left_comm]

theorem firstError?_append (reads others : List Read) :
    firstError? (reads ++ others) = (firstError? reads).or (firstError? others) :=
  List.findSome?_append

theorem needed_nil : needed limit found [] = [] := by
  unfold needed
  rw [List.inits, List.find?_singleton]
  split <;> rfl

theorem needed_of_full (full : limit.any (· ≤ found.size) = true) (reads : List Read) :
    needed limit found reads = [] := by
  have first (parts : List (List Read)) :
      ([] :: parts).find? (fun part => limit.any (· ≤ (part.foldl add found).size)) = some [] :=
    List.find?_cons_of_pos full
  unfold needed
  cases reads with
  | nil => rw [List.inits, first, Option.getD_some]
  | cons read rest => rw [List.inits, first, Option.getD_some]

theorem needed_cons (room : ¬ limit.any (· ≤ found.size) = true) (read : Read) (rest : List Read) :
    needed limit found (read :: rest) = read :: needed limit (add found read) rest := by
  have later (parts : List (List Read)) :
      ([] :: parts).find? (fun part => limit.any (· ≤ (part.foldl add found).size)) =
        parts.find? fun part => limit.any (· ≤ (part.foldl add found).size) :=
    List.find?_cons_of_neg room
  unfold needed
  rw [List.inits, later, List.find?_map]
  exact Option.getD_map _ _ _

end Read

namespace Client

/-- The client with another connection. -/
def connectedTo (client : Client) (connection : Except String Server) : Client :=
  { client with connection }

/-- The client as it is connected after the searches that were made. -/
def now (client : Client) (connections : Nat → Except String Server) : ClientM Client :=
  return client.connectedTo (connections (searchesIn (← get)))

def readReferenceOver (client : Client) (connections : Nat → Except String Server)
    (groupAttribute dn : String) : ClientM (Option Address) := do
  (← client.now connections).readReference groupAttribute dn

def readReferencesOver (client : Client) (connections : Nat → Except String Server)
    (groupAttribute : String) (entry : Entry) (attributeName : String) : ClientM AddressSet :=
  readCapped client.maxReferences (ClientM.tell .tooManyReferences)
    (client.readReferenceOver connections groupAttribute)
    (entry.values attributeName) ∅

def readGroupOver (client : Client) (connections : Nat → Except String Server)
    (groupAttribute : String) (entry : Entry) : ClientM Group := do
  let members ←
    client.readReferencesOver connections groupAttribute entry client.schema.memberAttribute
  let owners ←
    client.readReferencesOver connections groupAttribute entry client.schema.ownerAttribute
  return { location := entry.dn, category := entry.value? client.categoryAttribute,
           members, owners }

/-- A lookup over connections that may change before each search. -/
def lookupOver (client : Client) (connections : Nat → Except String Server) (question : Lookup) :
    ClientM (Option Group) := do
  let filter := Filter.ofGroup client.schema.groupClass question.attributeName question.value
  let attributes :=
    [client.categoryAttribute, client.schema.memberAttribute, client.schema.ownerAttribute]
  match ← (← client.now connections).find question.base .subtree filter attributes with
  | none | some [] => return none
  | some (entry :: others) =>
      if !others.isEmpty then
        ClientM.tell .severalGroups
      return some (← client.readGroupOver connections question.attributeName entry)

theorem lookupOver_constant (client : Client) (question : Lookup) :
    client.lookupOver (fun _ => client.connection) question = client.lookup question := by
  rfl

/-- What a lookup over connections ends with. -/
def outcomeOver (client : Client) (connections : Nat → Except String Server) (question : Lookup) :
    Except DirectoryError (Option Group) :=
  match client.lookupOver connections question #[] with
  | .ok group _ => .ok group
  | .error cause _ => .error cause

/-- The reads of references one after another, from a moment on, each of them after one search
more. -/
inductive ReadsFrom (client : Client) (connections : Nat → Except String Server)
    (groupAttribute : String) : Nat → List String → List Read → Prop
  | nil {moment} : ReadsFrom client connections groupAttribute moment [] []
  | cons {moment dn rest read reads} :
      (client.connectedTo (connections moment)).ReadsAs groupAttribute dn read →
      ReadsFrom client connections groupAttribute (moment + 1) rest reads →
      ReadsFrom client connections groupAttribute moment (dn :: rest) (read :: reads)

/-- The reads that are needed, from a moment on, of the references under a name. -/
def Needs (client : Client) (connections : Nat → Except String Server) (groupAttribute : String)
    (entry : Entry) (attributeName : String) (moment : Nat) (reads : List Read) : Prop :=
  ∃ dns results, entry.Lists attributeName dns ∧
    client.ReadsFrom connections groupAttribute moment dns results ∧
    reads = Read.needed client.maxReferences ∅ results

/-- The group has the location and the category of the entry, and the addresses that were read. -/
structure IsWhole (client : Client) (entry : Entry) (members owners : List Read) (group : Group) :
    Prop where
  location : group.location = entry.dn
  category : ∀ text,
    group.category = some text ↔ entry.Begins client.categoryAttribute text
  members : ∀ x, x ∈ group.members ↔ .ok (some x) ∈ members
  owners : ∀ x, x ∈ group.owners ↔ .ok (some x) ∈ owners

/-- What the search for the group gives, before any other search. -/
def GivesGroups (client : Client) (connections : Nat → Except String Server) (question : Lookup) :
    Except DirectoryError (Option (List Entry)) → Prop :=
  (client.connectedTo (connections 0)).Gives question.base .subtree
    (Filter.ofGroup client.schema.groupClass question.attributeName question.value)
    [client.categoryAttribute, client.schema.memberAttribute, client.schema.ownerAttribute]

variable {client : Client} {connections : Nat → Except String Server} {groupAttribute : String}
  {moment : Nat} {found : AddressSet} {dns : List String} {reads : List Read} {question : Lookup}
  {entry : Entry} {attributeName : String}

theorem outcomeOver_of_spends {result : Except DirectoryError (Option Group)} {after : Nat}
    (spends : Spends (client.lookupOver connections question) 0 result after) :
    client.outcomeOver connections question = result := by
  have ended := spends #[] rfl
  unfold outcomeOver
  cases answer : client.lookupOver connections question #[] with
  | ok group events => exact (ended.of_ok answer).1.symm
  | error cause events => exact (ended.of_error answer).symm

theorem outcomeOver_constant (client : Client) (question : Lookup) :
    client.outcomeOver (fun _ => client.connection) question =
      (client.toDirectory question).outcome := by
  unfold outcomeOver toDirectory
  rw [lookupOver_constant]
  cases client.lookup question #[] <;> rfl

theorem now_spends (client : Client) (connections : Nat → Except String Server) (moment : Nat) :
    Spends (client.now connections) moment (.ok (client.connectedTo (connections moment)))
      moment := by
  intro events counted
  subst counted
  exact ⟨rfl, rfl⟩

theorem outcomeOver_of_error {cause : DirectoryError}
    (gives : client.GivesGroups connections question (.error cause)) :
    client.outcomeOver connections question = .error cause := by
  have ended : Spends (client.lookupOver connections question) 0 (.error cause) 1 :=
    (now_spends client connections 0).bind_ok (gives.spends 0).bind_error
  exact outcomeOver_of_spends ended

theorem outcomeOver_of_absence
    (gives : client.GivesGroups connections question (.ok none) ∨
      client.GivesGroups connections question (.ok (some []))) :
    client.outcomeOver connections question = .ok none := by
  rcases gives with gives | gives
  · exact outcomeOver_of_spends ((now_spends client connections 0).bind_ok
      ((gives.spends 0).bind_ok (Spends.pure none 1)))
  · exact outcomeOver_of_spends ((now_spends client connections 0).bind_ok
      ((gives.spends 0).bind_ok (Spends.pure none 1)))

section Apart

variable (apart : ∀ moment server, connections moment = .ok server → server.NamesApart)
include apart

theorem exists_readsFrom (client : Client) (groupAttribute : String) (moment : Nat)
    (dns : List String) :
    ∃ reads, client.ReadsFrom connections groupAttribute moment dns reads := by
  induction dns generalizing moment with
  | nil => exact ⟨[], .nil⟩
  | cons dn rest inductionHypothesis =>
      obtain ⟨read, first⟩ :=
        (client.connectedTo (connections moment)).exists_readsAs (apart moment) groupAttribute dn
      obtain ⟨reads, later⟩ := inductionHypothesis (moment + 1)
      exact ⟨read :: reads, .cons first later⟩

/-- Reading references goes on to the end of the reads that are needed, and leads to their addresses
or to the first error among them. -/
theorem ReadsFrom.spends (steps : client.ReadsFrom connections groupAttribute moment dns reads)
    (limit : Option Nat) (found : AddressSet) :
    Spends
      (readCapped limit (ClientM.tell .tooManyReferences)
        (client.readReferenceOver connections groupAttribute) dns found)
      moment
      ((Read.firstError? (Read.needed limit found reads)).elim
        (.ok ((Read.needed limit found reads).foldl Read.add found)) .error)
      (moment + (Read.needed limit found reads).length) := by
  induction steps generalizing found with
  | nil =>
      rw [Read.needed_nil]
      exact Spends.pure found _
  | @cons moment dn rest read reads first later inductionHypothesis =>
      unfold readCapped
      by_cases full : limit.any (· ≤ found.size) = true
      · rw [if_pos full, Read.needed_of_full full]
        exact (Spends.tell _ moment).bind_ok (Spends.pure found _)
      · rw [if_neg full, Read.needed_cons full]
        have step : Spends (client.readReferenceOver connections groupAttribute dn) moment read
            (moment + 1) :=
          (now_spends client connections moment).bind_ok (first.spends (apart moment) moment)
        have next := inductionHypothesis (Read.add found read)
        rw [List.length_cons, Nat.add_comm _ 1, ← Nat.add_assoc]
        cases read with
        | error cause => exact step.bind_error
        | ok known =>
            cases known with
            | none => exact step.bind_ok next
            | some address => exact step.bind_ok next

theorem exists_needs (client : Client) (groupAttribute : String) (entryApart : entry.NamesApart)
    (attributeName : String) (moment : Nat) :
    ∃ reads, client.Needs connections groupAttribute entry attributeName moment reads := by
  obtain ⟨results, steps⟩ :=
    exists_readsFrom apart client groupAttribute moment (entry.values attributeName)
  exact ⟨_, _, results, (Entry.lists_iff entryApart).mpr rfl, steps, rfl⟩

theorem Needs.spends (entryApart : entry.NamesApart)
    (needs : client.Needs connections groupAttribute entry attributeName moment reads) :
    Spends (client.readReferencesOver connections groupAttribute entry attributeName) moment
      ((Read.firstError? reads).elim (.ok (reads.foldl Read.add ∅)) .error)
      (moment + reads.length) := by
  obtain ⟨dns, results, lists, steps, rfl⟩ := needs
  obtain rfl := (Entry.lists_iff entryApart).mp lists
  exact steps.spends apart client.maxReferences ∅

theorem readGroupOver_spends {members owners : List Read} (entryApart : entry.NamesApart)
    (first : client.Needs connections groupAttribute entry client.schema.memberAttribute moment
      members)
    (second : client.Needs connections groupAttribute entry client.schema.ownerAttribute
      (moment + members.length) owners) :
    Spends (client.readGroupOver connections groupAttribute entry) moment
      ((Read.firstError? (members ++ owners)).elim
        (.ok
          { location := entry.dn
            category := entry.value? client.categoryAttribute
            members := members.foldl Read.add ∅
            owners := owners.foldl Read.add ∅ })
        .error)
      (moment + members.length + owners.length) := by
  have readMembers := first.spends apart entryApart
  have readOwners := second.spends apart entryApart
  unfold readGroupOver
  rw [Read.firstError?_append]
  cases failed : Read.firstError? members with
  | some cause =>
      rw [failed] at readMembers
      exact readMembers.bind_error
  | none =>
      rw [failed] at readMembers
      apply readMembers.bind_ok
      cases failedToo : Read.firstError? owners with
      | some cause =>
          rw [failedToo] at readOwners
          exact readOwners.bind_error
      | none =>
          rw [failedToo] at readOwners
          exact readOwners.bind_ok (Spends.pure _ _)

theorem outcomeOver_of_entry {others : List Entry}
    (gives : client.GivesGroups connections question (.ok (some (entry :: others)))) :
    ∃ members owners group,
      client.Needs connections question.attributeName entry client.schema.memberAttribute 1
        members ∧
      client.Needs connections question.attributeName entry client.schema.ownerAttribute
        (1 + members.length) owners ∧
      client.IsWhole entry members owners group ∧
      client.outcomeOver connections question =
        (Read.firstError? (members ++ owners)).elim (.ok (some group)) .error := by
  have entryApart := gives.namesApart (apart 0) entry List.mem_cons_self
  obtain ⟨members, first⟩ := exists_needs apart client question.attributeName entryApart
    client.schema.memberAttribute 1
  obtain ⟨owners, second⟩ := exists_needs apart client question.attributeName entryApart
    client.schema.ownerAttribute (1 + members.length)
  let group : Group :=
    { location := entry.dn
      category := entry.value? client.categoryAttribute
      members := members.foldl Read.add ∅
      owners := owners.foldl Read.add ∅ }
  have whole : client.IsWhole entry members owners group :=
    { location := rfl
      category := fun text => Entry.value?_eq_some_iff entryApart
      members := fun x => by simp [group, Read.mem_foldl_add]
      owners := fun x => by simp [group, Read.mem_foldl_add] }
  refine ⟨members, owners, group, first, second, whole, ?_⟩
  have read := readGroupOver_spends apart entryApart first second
  have last : Spends (client.readGroupOver connections question.attributeName entry >>= fun group =>
        (pure (some group) : ClientM (Option Group))) 1
      ((Read.firstError? (members ++ owners)).elim (.ok (some group)) .error)
      (1 + members.length + owners.length) := by
    cases failed : Read.firstError? (members ++ owners) with
    | some cause =>
        rw [failed] at read
        exact read.bind_error
    | none =>
        rw [failed] at read
        exact read.bind_ok (Spends.pure _ _)
  apply outcomeOver_of_spends
  apply (now_spends client connections 0).bind_ok
  apply (gives.spends 0).bind_ok
  dsimp only
  split
  · exact (Spends.tell _ 1).bind_ok last
  · exact last

end Apart

/-- Whatever the server does during a lookup, the search for the group gives something: an error,
which is the outcome, or no group, which exactly then is the outcome, or an entry.  Then the
outcome is the whole group of the entry with the addresses of all references that are needed, or
the first error in reading them. -/
theorem lookup_gives (client : Client) (connections : Nat → Except String Server)
    (question : Lookup)
    (apart : ∀ moment server, connections moment = .ok server → server.NamesApart) :
    (client.outcomeOver connections question = .ok none ↔
      client.GivesGroups connections question (.ok none) ∨
        client.GivesGroups connections question (.ok (some []))) ∧
    (∀ cause, client.GivesGroups connections question (.error cause) →
      client.outcomeOver connections question = .error cause) ∧
    (∀ entry others, client.GivesGroups connections question (.ok (some (entry :: others))) →
      ∃ members owners group,
        client.Needs connections question.attributeName entry client.schema.memberAttribute 1
          members ∧
        client.Needs connections question.attributeName entry client.schema.ownerAttribute
          (1 + members.length) owners ∧
        client.IsWhole entry members owners group ∧
        client.outcomeOver connections question =
          (Read.firstError? (members ++ owners)).elim (.ok (some group)) .error) ∧
    (∃ first, client.GivesGroups connections question first) ∧
    ((∀ moment, connections moment = client.connection) →
      client.outcomeOver connections question = (client.toDirectory question).outcome) := by
  obtain ⟨first, gives⟩ : ∃ first, client.GivesGroups connections question first :=
    exists_gives _ _ _ _ _
  refine ⟨⟨fun absent => ?_, outcomeOver_of_absence⟩, fun _ => outcomeOver_of_error,
    fun _ _ => outcomeOver_of_entry apart, ⟨first, gives⟩, fun constant => ?_⟩
  · match first with
    | .error cause => exact absurd (absent.symm.trans (outcomeOver_of_error gives)) nofun
    | .ok none => exact .inl gives
    | .ok (some []) => exact .inr gives
    | .ok (some (entry :: others)) =>
        obtain ⟨members, owners, group, _, _, _, outcome⟩ := outcomeOver_of_entry apart gives
        rw [absent] at outcome
        cases failed : Read.firstError? (members ++ owners) with
        | some cause =>
            rw [failed] at outcome
            cases outcome
        | none =>
            rw [failed] at outcome
            cases outcome
  · rw [funext constant]
    exact outcomeOver_constant client question

end Client

/-! A server that finds a group and two of its references, one of them missing, and then is
silent. -/

namespace Sample

def deskEntry : Entry :=
  .ofTexts "cn=desk" [("member", ["uid=reader", "uid=nobody"]), ("owner", ["uid=writer"])]

def readerEntry : Entry := .ofTexts "uid=reader" [("mail", ["reader@example.org"])]

def deskConnections : Nat → Except String Server
  | 0 => .ok fun _ => .done [.entry deskEntry] 0 ""
  | 1 => .ok fun _ => .done [.entry readerEntry] 0 ""
  | 2 => .ok fun _ => .done [] noSuchObject ""
  | _ => .ok fun _ => .none .timedOut

def deskClient : Client := { connection := deskConnections 0, schema := {} }

def deskQuestion : Lookup := ⟨"ou=lists", "mail", "desk@lists.example.org"⟩

theorem apart_deskConnections (moment : Nat) (server : Server)
    (connected : deskConnections moment = .ok server) : server.NamesApart := by
  intro search found code text reply
  match moment with
  | 0 =>
      cases connected
      cases reply
      exact (by decide +kernel : ∀ entry ∈ [deskEntry], entry.NamesApart)
  | 1 =>
      cases connected
      cases reply
      exact (by decide +kernel : ∀ entry ∈ [readerEntry], entry.NamesApart)
  | 2 =>
      cases connected
      cases reply
      nofun
  | _ + 3 =>
      cases connected
      cases reply

theorem gives_deskEntry :
    deskClient.GivesGroups deskConnections deskQuestion (.ok (some [deskEntry])) := by
  have isName : Filter.IsAttribute "mail" := by decide
  change deskClient.GivesGroups deskConnections deskQuestion
    (.ok (some ([Found.entry deskEntry].filterMap Found.entry?)))
  exact Client.Gives.entries rfl (Filter.read?_ofGroup isName _ _) rfl

end Sample

theorem Client.lookup_gives_sample :
    (∀ moment server, Sample.deskConnections moment = .ok server → server.NamesApart) ∧
      ∃ members owners group,
        Sample.deskClient.Needs Sample.deskConnections "mail" Sample.deskEntry "member" 1 members ∧
        Sample.deskClient.Needs Sample.deskConnections "mail" Sample.deskEntry "owner"
          (1 + members.length) owners ∧
        Sample.deskClient.IsWhole Sample.deskEntry members owners group ∧
        Sample.deskClient.outcomeOver Sample.deskConnections Sample.deskQuestion =
          (Read.firstError? (members ++ owners)).elim (.ok (some group)) .error :=
  ⟨Sample.apart_deskConnections,
    (Client.lookup_gives Sample.deskClient Sample.deskConnections Sample.deskQuestion
      Sample.apart_deskConnections).2.2.1 Sample.deskEntry [] Sample.gives_deskEntry⟩

/-- The owner is the third reference, and is not read in time. -/
example :
    Sample.deskClient.outcomeOver Sample.deskConnections Sample.deskQuestion =
      .error (.unavailable "timeout: deadline has elapsed") := by decide +kernel

end Listmaster.Ldap
