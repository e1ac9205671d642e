import Listmaster.Category.Json
import Listmaster.Classifier.Json
import Listmaster.Config
import Listmaster.Ldap.Parameters.Json
import Listmaster.Mail.Json

/-!
Configurations in JSON.  All fields are written, those that are not set as null;
where there is a default, a field may be left out.
-/

namespace Listmaster

namespace VersionRequirement

def toJson (requirement : VersionRequirement) : Json := .text requirement.text

def ofJson? (value : Json) : Option VersionRequirement := value.text?.bind parse?

end VersionRequirement

namespace Log.Directive

def toJson (directive : Directive) : Json := .text directive.text

def ofJson? (value : Json) : Option Directive :=
  value.text?.bind fun text => (parse text).toOption

end Log.Directive

namespace ListSettings

def shape : Json.RecordShape where
  fields :=
    [⟨"base_dn", ["baseDN"]⟩, ⟨"rejected_sender_processor", ["rejectedSenderProcessor"]⟩,
      ⟨"mailing_list_predicate", ["mailingListPredicate"]⟩,
      ⟨"mail_attribute_for_groups", ["mailAttributeForGroups"]⟩,
      ⟨"business_category_extract_attribute", ["businessCategoryExtractAttribute"]⟩,
      ⟨"administrator_id", ["administratorId"]⟩, ⟨"list_domain_prefix", []⟩,
      ⟨"category_attribute", []⟩, ⟨"max_depth", []⟩, ⟨"max_members", []⟩,
      ⟨"unrecognized_category", []⟩]
  isClosed := true

def toJson (settings : ListSettings) : Json :=
  .object
    [("base_dn", .text settings.base),
      ("rejected_sender_processor", settings.rejectedState.toJson),
      ("mailing_list_predicate", settings.predicate.toJson),
      ("mail_attribute_for_groups", .text settings.groupAttribute),
      ("business_category_extract_attribute", .ofOption .text settings.extractAttribute),
      ("administrator_id", .ofOption .text settings.administrator),
      ("list_domain_prefix", .text settings.label),
      ("category_attribute", .text settings.categoryAttribute),
      ("max_depth", .integer settings.limits.depth),
      ("max_members", .integer settings.limits.members),
      ("unrecognized_category", .ofOption Category.toJson settings.fallback)]

/-- The settings that a value writes; only the base is required. -/
def ofJson? (value : Json) : Option ListSettings := do
  let record ← Json.Record.ofJson? shape value
  let base ← record.required "base_dn" Json.text?
  let usual : ListSettings := { base }
  let rejectedState ←
    record.withDefault "rejected_sender_processor" usual.rejectedState MailState.ofJson?
  let predicate ←
    record.withDefault "mailing_list_predicate" usual.predicate Classifier.Predicate.ofJson?
  let groupAttribute ←
    record.withDefault "mail_attribute_for_groups" usual.groupAttribute Json.text?
  let extractAttribute ← record.optional "business_category_extract_attribute" Json.text?
  let administrator ← record.optional "administrator_id" Json.text?
  let label ← record.withDefault "list_domain_prefix" usual.label Json.text?
  let categoryAttribute ←
    record.withDefault "category_attribute" usual.categoryAttribute Json.text?
  let depth ← record.withDefault "max_depth" usual.limits.depth (Json.natBelow? (Nat.pow 2 64))
  let members ← record.withDefault "max_members" usual.limits.members
    (Json.natBelow? (Nat.pow 2 64))
  let fallback ← record.optional "unrecognized_category" Category.ofJson?
  return { base, rejectedState, predicate, groupAttribute, extractAttribute, administrator,
           label, categoryAttribute, limits := ⟨depth, members⟩, fallback }

end ListSettings

namespace GroupSource

def fileShape : Json.RecordShape := .ofNames ["path"] true

/-- The source as an object, of which the field `type` tells the kind. -/
def toJson : GroupSource → Json
  | ldap parameters => .object (("type", .text "ldap") :: parameters.fields)
  | file path => .object [("type", .text "static"), ("path", .text path)]

def ofKind? (kind others : Json) : Option GroupSource :=
  match kind.text? with
  | some "ldap" => (Ldap.Parameters.ofJson? others).map .ldap
  | some "static" => do
      let record ← Json.Record.ofJson? fileShape others
      return .file (← record.required "path" Json.text?)
  | _ => none

/-- The source that a value writes: an object, or a list that begins with the kind. -/
def ofJson? : Json → Option GroupSource
  | .object fields =>
      match fields.partition (·.1 == "type") with
      | ([(_, kind)], others) => ofKind? kind (.object others)
      | _ => none
  | .array (kind :: others) => ofKind? kind (.array others)
  | _ => none

/-- The trial of a source, whose kind is found first, wherever it stands. -/
def trial : Json.Trial := fun value =>
  let ofKind (kind others : Json) : Except Refusal Unit :=
    if kind.text? = some "ldap" then Ldap.Parameters.trial others else .ok ()
  match value with
  | .object fields =>
      match fields.partition (·.1 == "type") with
      | ([(_, kind)], others) => ofKind kind (.object others)
      | _ => .ok ()
  | .array (kind :: others) => ofKind kind (.array others)
  | _ => .ok ()

/-- The source that a value writes, or why there is none. -/
def read (value : Json) : Except Refusal GroupSource := trial.explain ofJson? value

end GroupSource

namespace LogSettings

def shape : Json.RecordShape := .ofNames ["level", "filepath"] true

def toJson (settings : LogSettings) : Json :=
  .object
    [("level", .array (settings.directives.map Log.Directive.toJson)),
      ("filepath", .ofOption .text settings.path)]

def ofJson? (value : Json) : Option LogSettings := do
  let record ← Json.Record.ofJson? shape value
  let usual : LogSettings := {}
  let directives ←
    record.withDefault "level" usual.directives (Json.list? Log.Directive.ofJson?)
  let path ← record.optional "filepath" Json.text?
  return { directives, path }

def trial : Json.Trial :=
  .ofRecord shape fun
    | "level" => .ofTexts Log.Directive.parse
    | _ => .ofReader (Json.nullable? Json.text?)

/-- The settings that a value writes, or why there are none. -/
def read (value : Json) : Except Refusal LogSettings := trial.explain ofJson? value

end LogSettings

namespace Config

def shape : Json.RecordShape :=
  .ofNames ["version_requirement", "server", "mailing_list", "directory", "logs"] true

def serverShape : Json.RecordShape := .ofNames ["domains"] true

def toJson (config : Config) : Json :=
  .object
    [("version_requirement", config.requirement.toJson),
      ("server", .object [("domains", .array (config.domains.toList.map .text))]),
      ("mailing_list", config.lists.toJson), ("directory", config.groups.toJson),
      ("logs", config.logs.toJson)]

def domainsOfJson? (value : Json) : Option (SortedSet String) := do
  let record ← Json.Record.ofJson? serverShape value
  record.withDefault "domains" ∅ fun value => (value.list? Json.text?).map .ofList

def ofJson? (value : Json) : Option Config := do
  let record ← Json.Record.ofJson? shape value
  let requirement ← record.required "version_requirement" VersionRequirement.ofJson?
  let domains ← record.withDefault "server" ∅ domainsOfJson?
  let lists ← record.required "mailing_list" ListSettings.ofJson?
  let groups ← record.required "directory" GroupSource.ofJson?
  let logs ← record.withDefault "logs" {} LogSettings.ofJson?
  return { requirement, domains, lists, groups, logs }

def trial : Json.Trial :=
  .ofRecord shape fun
    | "version_requirement" => .ofReader VersionRequirement.ofJson?
    | "server" => .ofReader domainsOfJson?
    | "mailing_list" => .ofReader ListSettings.ofJson?
    | "directory" => .of GroupSource.read
    | _ => .of LogSettings.read

/-- The configuration that a value writes, or why there is none. -/
def read (value : Json) : Except Refusal Config := trial.explain ofJson? value

end Config

end Listmaster
