import Listmaster.Ldap.Parameters
import Listmaster.Log.Directive
import Listmaster.Service
import Listmaster.Version

/-!
The configuration of the service.

`Config.check` refuses a configuration that contradicts itself, and writes the
domains that are served here in the form by which they are compared.  It changes
nothing else, and nothing at all when it is repeated.
-/

namespace Listmaster

/-- How lists are recognized, looked up and authorized. -/
structure ListSettings where
  base : String
  rejectedState : MailState := ⟨"rejectedSender"⟩
  predicate : Classifier.Predicate := .listsPrefix
  groupAttribute : String := "mail"
  /-- The attribute that holds the category, in place of `categoryAttribute`. -/
  extractAttribute : Option String := none
  administrator : Option String := none
  /-- The label in front of the domain that a list serves. -/
  label : String := "lists"
  categoryAttribute : String := "businessCategory"
  limits : Limits := ⟨10, 10000⟩
  /-- What a list counts as if its category is not recognized. -/
  fallback : Option Category := none
  deriving DecidableEq

def ListSettings.effectiveAttribute (settings : ListSettings) : String :=
  settings.extractAttribute.getD settings.categoryAttribute

inductive GroupSource where
  | ldap (parameters : Ldap.Parameters)
  | file (path : String)
  deriving DecidableEq

/-- What is logged, and where. -/
structure LogSettings where
  directives : List Log.Directive := [.ofLevel .warn]
  /-- The path of the file; without one nothing is written. -/
  path : Option String := none
  deriving DecidableEq

structure Config where
  /-- The versions of the program that the configuration is written for. -/
  requirement : VersionRequirement
  domains : SortedSet String
  lists : ListSettings
  groups : GroupSource
  logs : LogSettings
  deriving DecidableEq

namespace Config

/-- How a configuration contradicts itself. -/
inductive Flaw where
  | zeroLimit
  | badLabel (label : String)
  | rejectedToRoot
  | rejectedToNothing
  | anyLocalWithoutDomain
  | fallbackUnrecognized
  deriving DecidableEq

def Flaw.message : Flaw → String
  | zeroLimit => "`max_depth` and `max_members` cannot be set to 0"
  | badLabel label => s!"`list_domain_prefix` must be a single domain label, got '{label}'"
  | rejectedToRoot => "`rejected_sender_processor` cannot be the root state"
  | rejectedToNothing => "`rejected_sender_processor` cannot be empty"
  | anyLocalWithoutDomain =>
      "the `any-local` predicate requires at least one domain in `server.domains`"
  | fallbackUnrecognized => "`unrecognized_category` cannot be `unrecognized`"

def flaw? (config : Config) : Option Flaw :=
  let lists := config.lists
  if lists.limits.depth = 0 ∨ lists.limits.members = 0 then some .zeroLimit
  else if lists.label = "" ∨ '.' ∈ lists.label.toList then some (.badLabel lists.label)
  else if lists.rejectedState = .root then some .rejectedToRoot
  else if lists.rejectedState.name = "" then some .rejectedToNothing
  else if lists.predicate = .anyLocal ∧ config.domains.isEmpty = true then
    some .anyLocalWithoutDomain
  else if lists.fallback = some .unrecognized then some .fallbackUnrecognized
  else none

/-- The configuration with its domains in the form by which they are compared. -/
def normalize (config : Config) : Config :=
  { config with domains := .ofList (config.domains.toList.map Domain.normalize) }

/-- The configuration in its normal form, unless it contradicts itself. -/
def check (config : Config) : Except Flaw Config :=
  match config.flaw? with
  | some flaw => .error flaw
  | none => .ok config.normalize

/-- What is told in the log about a configuration that was checked. -/
def notices (config : Config) : List Notice :=
  if config.domains.isEmpty then [.noLocalDomain] else []

def classifier (config : Config) : Classifier :=
  .make config.lists.predicate config.lists.label config.domains.toList

def service (config : Config) (directory : Directory) : Service where
  resolver :=
    { directory
      classifier := config.classifier
      base := config.lists.base
      attributeName := config.lists.groupAttribute }
  limits := config.lists.limits
  authorization := ⟨config.lists.fallback⟩
  rejectedState := config.lists.rejectedState

end Config

end Listmaster
