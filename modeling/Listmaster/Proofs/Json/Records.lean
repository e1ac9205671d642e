import Listmaster.Group.Json
import Listmaster.Mail.Json
import Listmaster.Proofs.Json.Meaning
import Listmaster.Proofs.LoopGuard

/-!
Mails and static directories, written and read back.

What is written for a mail denotes the mail (`Mail.denotes`), and what is written for a static
directory the directory (`StaticDirectory.denotes`).
-/

namespace Listmaster

open Json (Denotes)

theorem Address.denotes (address : Address) : Denotes Address.ofJson? address.toJson address :=
  (Denotes.text address.full).bind address.parse?_full

theorem AddressSet.denotes (addresses : AddressSet) :
    Denotes AddressSet.ofJson? addresses.toJson addresses := by
  have listed := Denotes.list fun address (_ : address ∈ addresses.toList) => address.denotes
  have set := listed.map SortedSet.ofList
  rwa [SortedSet.ofList_toList] at set

theorem MailState.denotes (state : MailState) : Denotes MailState.ofJson? state.toJson state :=
  (Denotes.text state.name).map MailState.mk

theorem Json.Denotes.textOrNull (o : Option String) :
    Denotes (Json.nullable? Json.text?) (.ofOption .text o) o :=
  .ofOption rfl fun s _ => .text s

theorem Json.Denotes.texts (values : List String) :
    Denotes (Json.list? Json.text?) (.array (values.map .text)) values :=
  .list fun s _ => .text s

namespace Recipient

theorem headers_denote (headers : List (String × String)) :
    Denotes (Json.list? headerOfJson?) (headersToJson headers) headers :=
  .list fun _ _ => .of_isNormal rfl rfl

theorem denotes (recipient : Recipient) :
    Denotes Recipient.ofJson? recipient.toJson recipient := by
  obtain ⟨address, headers⟩ := recipient
  have headersDenote := headers_denote headers
  refine .object ?_ ?_ fun record holds => ?_
  · split
    · exact (by decide : shape.Admits ["address"])
    · exact (by decide : shape.Admits ["address", "headers"])
  · refine List.forall_mem_cons.mpr ⟨address.denotes.readable, ?_⟩
    split
    · nofun
    · exact List.forall_mem_singleton.mpr headersDenote.readable
  · rw [holds.required "address" rfl address.denotes,
      holds.withDefault_optional "headers" (by cases headers <;> rfl) headersDenote
        List.isEmpty_iff.mp]
    rfl

end Recipient

theorem Message.denotes (message : Message) :
    Denotes Message.ofJson? message.toJson message := by
  have headers := Denotes.texts message.headers
  have body := Denotes.textOrNull message.body
  refine .object (by decide : shape.Admits ["headers", "body"]) ?_ fun record holds => ?_
  · simp only [List.forall_mem_cons]
    exact ⟨headers.readable, body.readable, nofun⟩
  · rw [holds.required "headers" rfl headers, holds.nullable "body" rfl body]
    rfl

namespace Json

variable {κ β : Type} [Ord κ]

/-- The entries of an object, each read by its name and value. -/
def entries? [Std.TransOrd κ] [Std.LawfulEqOrd κ] (readEntry : String × Json → Option (κ × β)) :
    Json → Option (SortedMap κ β)
  | .object fields => do return .ofList (← fields.mapM readEntry)
  | _ => none

theorem Denotes.entries [Std.TransOrd κ] [Std.LawfulEqOrd κ]
    {readEntry : String × Json → Option (κ × β)} {write : κ × β → String × Json}
    {m : SortedMap κ β}
    (increasing : (m.toList.map write).Pairwise (fun a b => compare a.1 b.1 = .lt))
    (denotes : ∀ entry ∈ m.toList,
      Denotes (fun value => readEntry ((write entry).1, value)) (write entry).2 entry) :
    Denotes (entries? readEntry) (.object (m.toList.map write)) m := by
  obtain ⟨results, meant⟩ := Meant.exists_of_readable
    (List.forall_mem_map.mpr fun entry here => (denotes entry here).readable)
  -- The names are sorted already, so that each entry keeps its place.
  have sorted : (SortedMap.ofList results).toList = results := by
    apply SortedMap.toList_ofList
    rw [← List.pairwise_map (R := fun a b => compare a b = .lt), meant.names, List.pairwise_map]
    exact increasing
  have normalized : normalize? (.object (m.toList.map write)) = some (.object results) := by
    rw [normalize?, normalizeFields?_eq_some_iff.mpr meant, Option.map_some, sorted]
  refine ⟨⟨_, normalized⟩, fun value means => ?_⟩
  rcases means with rfl | same
  · have all : (m.toList.map write).mapM readEntry = some m.toList := by
      apply mapM_eq_some_iff.mpr
      rw [List.forall₂_map_left_iff, List.forall₂_same]
      exact fun entry here => (denotes entry here).reads _ (.inl rfl)
    rw [entries?, all]
    exact congrArg some m.ofList_toList
  · rw [normalized] at same
    cases same
    have all : results.mapM readEntry = some m.toList := by
      apply mapM_eq_some_iff.mpr
      apply List.Forall₂.flip
      have paired := (List.forall₂_and_left _ _).mpr
        ⟨denotes, List.forall₂_map_left_iff.mp meant⟩
      refine paired.imp fun entry result both => ?_
      obtain ⟨denotes, name, normalized⟩ := both
      have read := denotes.reads result.2 (.inr normalized)
      rwa [← name] at read
    rw [entries?, all]
    exact congrArg some m.ofList_toList

end Json

theorem JsonValue.ofJson?_json (value : JsonValue) : JsonValue.ofJson? value.json = some value := by
  have normal := Json.normalize?_of_isNormal value.isNormal
  unfold JsonValue.ofJson?
  split
  · rename_i none
    rw [normal] at none
    cases none
  · rename_i json made
    rw [normal] at made
    cases made
    rfl

namespace Mail

theorem attributes_denote (attributes : SortedMap String JsonValue) :
    Denotes attributesOfJson? (attributesToJson attributes) attributes := by
  refine Json.Denotes.entries ?_ fun entry here => ?_
  · exact List.pairwise_map.mpr attributes.increasing
  · apply Denotes.of_isNormal entry.2.isNormal
    change (JsonValue.ofJson? entry.2.json).bind _ = _
    rw [JsonValue.ofJson?_json]
    rfl

/-- What is written for a mail denotes it. -/
theorem denotes (mail : Mail) : Denotes Mail.ofJson? mail.toJson mail := by
  obtain ⟨id, state, sender, recipients, message, attributes⟩ := mail
  have named := Denotes.text id
  have sender := Denotes.ofOption rfl fun address (_ : address ∈ sender) => address.denotes
  have recipients := Denotes.list fun recipient (_ : recipient ∈ recipients) => recipient.denotes
  have attributesDenote := attributes_denote attributes
  refine .object ?_ ?_ fun record holds => ?_
  · split
    · exact (by decide : shape.Admits ["message_id", "state", "reverse_path", "rcpt", "body"])
    · exact (by decide : shape.Admits
        ["message_id", "state", "reverse_path", "rcpt", "body", "attributes"])
  · simp only [List.cons_append, List.nil_append, List.forall_mem_cons]
    refine ⟨named.readable, state.denotes.readable, sender.readable, recipients.readable,
      message.denotes.readable, ?_⟩
    split
    · nofun
    · exact List.forall_mem_singleton.mpr attributesDenote.readable
  · rw [holds.required "message_id" rfl named, holds.withDefault "state" rfl state.denotes,
      holds.nullable "reverse_path" rfl sender, holds.required "rcpt" rfl recipients,
      holds.withDefault "body" rfl message.denotes,
      holds.withDefault_optional "attributes" (by split <;> rfl) attributesDenote
        SortedMap.eq_empty_of_isEmpty]
    rfl

end Mail

theorem Group.denotes (group : Group) : Denotes Group.ofJson? group.toJson group := by
  have location := Denotes.text group.location
  have category := Denotes.textOrNull group.category
  have admits : shape.Admits ["location", "category", "members", "owners"] := by decide
  refine .object admits ?_ fun record holds => ?_
  · simp only [List.forall_mem_cons]
    exact ⟨location.readable, category.readable, group.members.denotes.readable,
      group.owners.denotes.readable, nofun⟩
  · rw [holds.required "location" rfl location, holds.optional "category" rfl category,
      holds.withDefault "members" rfl group.members.denotes,
      holds.withDefault "owners" rfl group.owners.denotes]
    rfl

namespace StaticDirectory

theorem groups_denote (groups : SortedMap Address Group) :
    Denotes groupsOfJson?
      (.object (groups.toList.map fun (address, group) => (address.full, group.toJson))) groups := by
  refine Json.Denotes.entries ?_ fun entry here => ?_
  · exact List.pairwise_map.mpr groups.increasing
  · refine ⟨entry.2.denotes.readable, fun value means => ?_⟩
    change (Address.parse? entry.1.full).bind _ = _
    rw [Address.parse?_full, Option.bind_some, entry.2.denotes.reads value means]
    rfl

theorem denotes (directory : StaticDirectory) :
    Denotes StaticDirectory.ofJson? directory.toJson directory := by
  have groups := groups_denote directory.groups
  refine .object (by decide : shape.Admits ["groups"]) ?_ fun record holds => ?_
  · exact List.forall_mem_singleton.mpr groups.readable
  · rw [holds.withDefault "groups" rfl groups]
    rfl

end StaticDirectory

end Listmaster
