import Listmaster.Json.Trial
import Listmaster.Ldap.Parameters

/-!
The parameters of a server in JSON.  A duration is a text, as in `1m 30s`.
-/

namespace Listmaster

namespace Duration

def toJson (duration : Duration) : Json := .text duration.text

def ofJson? (value : Json) : Option Duration := value.text?.bind fun text => (parse text).toOption

end Duration

namespace Ldap

namespace Schema

def shape : Json.RecordShape :=
  .ofNames ["group_object_class", "member_attribute", "owner_attribute", "mail_attribute"] true

def toJson (schema : Schema) : Json :=
  .object
    [("group_object_class", .text schema.groupClass),
      ("member_attribute", .text schema.memberAttribute),
      ("owner_attribute", .text schema.ownerAttribute),
      ("mail_attribute", .text schema.mailAttribute)]

/-- The schema that a value writes; every name has a default. -/
def ofJson? (value : Json) : Option Schema := do
  let record ← Json.Record.ofJson? shape value
  let usual : Schema := {}
  let groupClass ← record.withDefault "group_object_class" usual.groupClass Json.text?
  let memberAttribute ← record.withDefault "member_attribute" usual.memberAttribute Json.text?
  let ownerAttribute ← record.withDefault "owner_attribute" usual.ownerAttribute Json.text?
  let mailAttribute ← record.withDefault "mail_attribute" usual.mailAttribute Json.text?
  return { groupClass, memberAttribute, ownerAttribute, mailAttribute }

end Schema

namespace TlsParameters

def shape : Json.RecordShape := .ofNames ["starttls", "cafile"] true

def toJson (tls : TlsParameters) : Json :=
  .object [("starttls", .bool tls.startTls), ("cafile", .ofOption .text tls.caFile)]

def ofJson? (value : Json) : Option TlsParameters := do
  let record ← Json.Record.ofJson? shape value
  let startTls ← record.withDefault "starttls" false Json.bool?
  let caFile ← record.optional "cafile" Json.text?
  return { startTls, caFile }

end TlsParameters

namespace Credentials

def shape : Json.RecordShape := .ofNames ["dn", "pw"] true

def toJson (credentials : Credentials) : Json :=
  .object [("dn", .text credentials.dn), ("pw", .text credentials.password)]

def ofJson? (value : Json) : Option Credentials := do
  let record ← Json.Record.ofJson? shape value
  let dn ← record.required "dn" Json.text?
  let password ← record.required "pw" Json.text?
  return { dn, password }

end Credentials

namespace Parameters

def shape : Json.RecordShape :=
  .ofNames ["url", "timeout", "connections", "tls", "bind", "schema"] true

def fields (parameters : Parameters) : List (String × Json) :=
  [("url", .text parameters.url), ("timeout", parameters.timeout.toJson),
    ("connections", .integer parameters.connections),
    ("tls", .ofOption TlsParameters.toJson parameters.tls),
    ("bind", .ofOption Credentials.toJson parameters.credentials),
    ("schema", parameters.schema.toJson)]

def toJson (parameters : Parameters) : Json := .object parameters.fields

/-- The parameters that a value writes; only the url is required. -/
def ofJson? (value : Json) : Option Parameters := do
  let record ← Json.Record.ofJson? shape value
  let url ← record.required "url" Json.text?
  let timeout ← record.withDefault "timeout" defaultTimeout Duration.ofJson?
  let connections ←
    record.withDefault "connections" defaultConnections (Json.natBelow? (Nat.pow 2 32))
  let tls ← record.optional "tls" TlsParameters.ofJson?
  let credentials ← record.optional "bind" Credentials.ofJson?
  let schema ← record.withDefault "schema" {} Schema.ofJson?
  return { url, timeout, connections, tls, credentials, schema }

/-- The trial of the parameters: the timeout can be too long. -/
def trial : Json.Trial :=
  .ofRecord shape fun
    | "timeout" => .ofText Duration.parse
    | "connections" => .ofReader (Json.natBelow? (Nat.pow 2 32))
    | "tls" => .ofReader (Json.nullable? TlsParameters.ofJson?)
    | "bind" => .ofReader (Json.nullable? Credentials.ofJson?)
    | "schema" => .ofReader Schema.ofJson?
    | _ => .ofReader Json.text?

/-- The parameters that a value writes, or why there are none. -/
def read (value : Json) : Except Refusal Parameters := trial.explain ofJson? value

end Parameters

end Ldap

end Listmaster
