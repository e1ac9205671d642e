import Listmaster.Address.Json
import Listmaster.Json.Record
import Listmaster.Mail

/-!
Mails in JSON.

The headers of a recipient and the attributes of a mail are left out where there
are none.  Fields of other names are ignored.
-/

namespace Listmaster

namespace MailState

def toJson (state : MailState) : Json := .text state.name

def ofJson? (value : Json) : Option MailState := value.text?.map MailState.mk

end MailState

namespace Recipient

def shape : Json.RecordShape := .ofNames ["address", "headers"] false

def headersToJson (headers : List (String × String)) : Json :=
  .array (headers.map fun (name, value) => .array [.text name, .text value])

def headerOfJson? : Json → Option (String × String)
  | .array [name, value] => do return (← name.text?, ← value.text?)
  | _ => none

def toJson (recipient : Recipient) : Json :=
  .object <|
    ("address", recipient.address.toJson) ::
      if recipient.headers.isEmpty then []
      else [("headers", headersToJson recipient.headers)]

def ofJson? (value : Json) : Option Recipient := do
  let record ← Json.Record.ofJson? shape value
  let address ← record.required "address" Address.ofJson?
  let headers ← record.withDefault "headers" [] (Json.list? headerOfJson?)
  return { address, headers }

end Recipient

namespace Message

def shape : Json.RecordShape := .ofNames ["headers", "body"] false

def toJson (message : Message) : Json :=
  .object
    [("headers", .array (message.headers.map .text)), ("body", .ofOption .text message.body)]

def ofJson? (value : Json) : Option Message := do
  let record ← Json.Record.ofJson? shape value
  let headers ← record.required "headers" (Json.list? Json.text?)
  let body ← record.nullable "body" Json.text?
  return { headers, body }

end Message

namespace Mail

def shape : Json.RecordShape :=
  .ofNames ["message_id", "state", "reverse_path", "rcpt", "body", "attributes"] false

def attributesToJson (attributes : SortedMap String JsonValue) : Json :=
  .object (attributes.toList.map fun (name, value) => (name, value.json))

/-- The attributes that an object writes.  Of two values of the same name the last one
counts. -/
def attributesOfJson? : Json → Option (SortedMap String JsonValue)
  | .object fields => do
      let attributes ← fields.mapM fun (name, value) => do
        return (name, ← JsonValue.ofJson? value)
      return .ofList attributes
  | _ => none

def toJson (mail : Mail) : Json :=
  .object <|
    [("message_id", .text mail.id), ("state", mail.state.toJson),
      ("reverse_path", .ofOption Address.toJson mail.sender),
      ("rcpt", .array (mail.recipients.map Recipient.toJson)),
      ("body", mail.message.toJson)] ++
    if mail.attributes.isEmpty then [] else [("attributes", attributesToJson mail.attributes)]

def ofJson? (value : Json) : Option Mail := do
  let record ← Json.Record.ofJson? shape value
  let id ← record.required "message_id" Json.text?
  let state ← record.withDefault "state" .root MailState.ofJson?
  let sender ← record.nullable "reverse_path" Address.ofJson?
  let recipients ← record.required "rcpt" (Json.list? Recipient.ofJson?)
  let message ← record.withDefault "body" .empty Message.ofJson?
  let attributes ← record.withDefault "attributes" ∅ attributesOfJson?
  return { id, state, sender, recipients, message, attributes }

end Mail

end Listmaster
