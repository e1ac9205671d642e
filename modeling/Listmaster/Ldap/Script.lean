import Listmaster.Ldap.Client

/-!
Scripts, which stand in for a server: a list of rules, of which the first one
that fits a search tells the reply.
-/

namespace Listmaster.Ldap

/-- A reply to some searches. -/
structure Rule where
  base : String
  scope : Scope
  /-- The value that the filter asks for; any value if there is none. -/
  value : Option String
  reply : Reply

namespace Filter

def askedValues : Filter → List Octets
  | conjunction parts => askedOf parts
  | equality _ value => [value]
  | _ => []
where
  /-- The texts that the tests of these filters ask for. -/
  askedOf : List Filter → List Octets
    | [] => []
    | part :: rest => askedValues part ++ askedOf rest

end Filter

/-- Whether the rule tells the reply to a search.  The value of a search for a group is the
last one that its filter asks for. -/
def Rule.fits (rule : Rule) (search : Search) : Bool :=
  rule.base = search.base && rule.scope = search.scope &&
    rule.value.all fun value =>
      search.filter.askedValues.getLast? = some (Filter.octets value)

/-- A stand-in for a server. -/
structure Script where
  /-- The path of the socket on which the server listens. -/
  path : String
  /-- The only credentials that are accepted, if any are asked for. -/
  credentials : Option Credentials
  rules : List Rule

namespace Script

/-- The replies to searches; where no rule fits, the base does not exist. -/
def toServer (script : Script) : Server := fun search =>
  match script.rules.find? (·.fits search) with
  | some rule => rule.reply
  | none => .done [] noSuchObject ""

def url (script : Script) : String := "ldapi://" ++ script.path

def connect (script : Script) (credentials : Option Credentials) : Except String Server :=
  if script.credentials.all fun accepted => credentials.all (· = accepted) then .ok script.toServer
  else .error "LDAP operation result: rc=49 (invalidCredentials), dn: \"\", text: \"\""

end Script

end Listmaster.Ldap
