import Listmaster.Directory
import Listmaster.Ldap.Parameters
import Listmaster.Text.Case

/-!
Looking up groups on an LDAP server.

A group is found by a search below a base, and refers to its members and owners
by their distinguished names.  Each of them is read to learn its address, until
there are enough of them.  A reference that leads to no address is passed over;
an error ends the lookup.
-/

namespace Listmaster.Ldap

abbrev Server := Search → Reply

def Silence.message : Silence → String
  | closed => "premature end of search stream"
  | timedOut => "timeout: deadline has elapsed"

namespace Entry

/-- The attributes whose values are all texts.  Of two attributes of the same name the last
one counts. -/
def texts (entry : Entry) : SortedMap String (List String) :=
  .ofList <| entry.attributes.filterMap fun (name, values) =>
    (values.mapM String.fromUTF8?).map fun values => (name, values)

/-- The values of an attribute, whose name may be written in any case. -/
def values (entry : Entry) (name : String) : List String :=
  (entry.texts.toList.filter fun (other, _) => Text.sameIgnoringCase other name).flatMap
    Prod.snd

def value? (entry : Entry) (name : String) : Option String := (entry.values name).head?

def isGroup (entry : Entry) (schema : Schema) : Bool :=
  (entry.values "objectClass").any fun name => Text.sameIgnoringCase name schema.groupClass

/-- The address of an entry.  A group is known by the attribute `groupAttribute`, under which
it can be looked up again, or else by its mail attribute, as all other entries are. -/
def address? (entry : Entry) (schema : Schema) (groupAttribute : String) : Option String :=
  let mail := entry.value? schema.mailAttribute
  if entry.isGroup schema then (entry.value? groupAttribute).or mail else mail

end Entry

def Found.entry? : Found → Option Entry
  | entry found => some found
  | reference _ => none

/-- How groups are looked up on a server. -/
structure Client where
  /-- The server, or why there is no connection to it. -/
  connection : Except String Server
  schema : Schema
  categoryAttribute : String := "businessCategory"
  identity : Option String := none
  /-- The number of addresses after which no more references of a group are read. -/
  maxReferences : Option Nat := none

/-- A step of a lookup; the events of a step that fails are kept. -/
abbrev ClientM := EStateM DirectoryError (Array Event)

def ClientM.tell (notice : Notice) : ClientM Unit := modify (·.push (.notice notice))

/-- Read references one after the other, until there are `limit` addresses.  If references are
left over then, `cut` is done. -/
def readCapped {m : Type → Type} [Monad m] (limit : Option Nat) (cut : m Unit)
    (read : String → m (Option Address)) : List String → AddressSet → m AddressSet
  | [], found => pure found
  | dn :: rest, found =>
      if limit.any (· ≤ found.size) then do
        cut
        return found
      else do
        match ← read dn with
        | some address => readCapped limit cut read rest (found.insert address)
        | none => readCapped limit cut read rest found

namespace Client

/-- An identity as it is written in a control: by a distinguished name, unless it tells
otherwise. -/
def authorizationId (identity : String) : String :=
  if identity.startsWith "dn:" || identity.startsWith "u:" then identity else "dn:" ++ identity

def controls (client : Client) : List Control :=
  (client.identity.map fun identity =>
    Control.proxyAuthorization (authorizationId identity)).toList

/-- The entries that a search finds; nothing if its base does not exist. -/
def find (client : Client) (base : String) (scope : Scope) (filter : String)
    (attributes : List String) : ClientM (Option (List Entry)) := do
  match client.connection, Filter.read? filter with
  | .error reason, _ => throw (.unavailable reason)
  | .ok _, none => throw (.unavailable "filter parse error")
  | .ok server, some filter =>
      let search : Search := { base, scope, filter, attributes, controls := client.controls }
      modify (·.push (.search search))
      match server search with
      | .none silence => throw (.unavailable silence.message)
      | .done found code text =>
          if code = 0 then return some (found.filterMap Found.entry?)
          else if code = noSuchObject then return none
          else throw (.failure code text)

def readReference (client : Client) (groupAttribute dn : String) :
    ClientM (Option Address) := do
  let attributes := ["objectClass", client.schema.mailAttribute, groupAttribute]
  match ← client.find dn .base Filter.anyEntry attributes with
  | none =>
      ClientM.tell .missingEntry
      return none
  | some [] => return none
  | some (entry :: _) =>
      match entry.address? client.schema groupAttribute with
      | none =>
          ClientM.tell .entryWithoutAddress
          return none
      | some text =>
          let address := Address.parse? text
          if address.isNone then
            ClientM.tell .entryWithInvalidAddress
          return address

def readReferences (client : Client) (groupAttribute : String) (entry : Entry)
    (attributeName : String) : ClientM AddressSet :=
  readCapped client.maxReferences (ClientM.tell .tooManyReferences)
    (client.readReference groupAttribute) (entry.values attributeName) ∅

def readGroup (client : Client) (groupAttribute : String) (entry : Entry) : ClientM Group := do
  let members ← client.readReferences groupAttribute entry client.schema.memberAttribute
  let owners ← client.readReferences groupAttribute entry client.schema.ownerAttribute
  return { location := entry.dn, category := entry.value? client.categoryAttribute,
           members, owners }

def lookup (client : Client) (question : Lookup) : ClientM (Option Group) := do
  let filter := Filter.ofGroup client.schema.groupClass question.attributeName question.value
  let attributes :=
    [client.categoryAttribute, client.schema.memberAttribute, client.schema.ownerAttribute]
  match ← client.find question.base .subtree filter attributes with
  | none | some [] => return none
  | some (entry :: others) =>
      if !others.isEmpty then
        ClientM.tell .severalGroups
      return some (← client.readGroup question.attributeName entry)

def toDirectory (client : Client) : Directory := fun question =>
  match client.lookup question #[] with
  | .ok group events => ⟨.ok group, events.toList⟩
  | .error error events => ⟨.error error, events.toList⟩

end Client

end Listmaster.Ldap
