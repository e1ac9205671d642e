import Listmaster.Address.Json
import Listmaster.Directory.Static
import Listmaster.Json.Record

/-!
Groups and static directories in JSON.

    { "groups": { "team@lists.example.org":
        { "location": "cn=team,dc=example,dc=org", "category": "internal",
          "members": ["a@example.org"], "owners": [] } } }

What is written is read back as it was.
-/

namespace Listmaster

namespace Group

def shape : Json.RecordShape := .ofNames ["location", "category", "members", "owners"] true

def toJson (group : Group) : Json :=
  .object
    [("location", .text group.location), ("category", .ofOption .text group.category),
      ("members", group.members.toJson), ("owners", group.owners.toJson)]

/-- The group that a value writes; only its location is required. -/
def ofJson? (value : Json) : Option Group := do
  let record ← Json.Record.ofJson? shape value
  let location ← record.required "location" Json.text?
  let category ← record.optional "category" Json.text?
  let members ← record.withDefault "members" ∅ AddressSet.ofJson?
  let owners ← record.withDefault "owners" ∅ AddressSet.ofJson?
  return { location, category, members, owners }

end Group

namespace StaticDirectory

def shape : Json.RecordShape := .ofNames ["groups"] true

def toJson (directory : StaticDirectory) : Json :=
  .object
    [("groups", .object (directory.groups.toList.map fun (address, group) =>
      (address.full, group.toJson)))]

/-- The groups of an object whose names are addresses.  Of two groups at the same address
the last one counts. -/
def groupsOfJson? : Json → Option (SortedMap Address Group)
  | .object fields => do
      let groups ← fields.mapM fun (name, value) => do
        return (← Address.parse? name, ← Group.ofJson? value)
      return .ofList groups
  | _ => none

def ofJson? (value : Json) : Option StaticDirectory := do
  let record ← Json.Record.ofJson? shape value
  return ⟨← record.withDefault "groups" ∅ groupsOfJson?⟩

end StaticDirectory

end Listmaster
