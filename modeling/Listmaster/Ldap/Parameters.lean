import Listmaster.Duration

/-!
How a server is reached, and how groups are kept on it.
-/

namespace Listmaster.Ldap

/-- Names that a tree uses for groups. -/
structure Schema where
  groupClass : String := "groupOfNames"
  memberAttribute : String := "member"
  ownerAttribute : String := "owner"
  /-- The attribute that holds the address of a member or an owner. -/
  mailAttribute : String := "mail"
  deriving DecidableEq

/-- How a connection is secured. -/
structure TlsParameters where
  startTls : Bool
  caFile : Option String
  deriving DecidableEq

/-- The identity under which a connection is made. -/
structure Credentials where
  dn : String
  password : String
  deriving DecidableEq

/-- How a server is reached. -/
structure Parameters where
  url : String
  timeout : Duration
  connections : Nat
  tls : Option TlsParameters
  credentials : Option Credentials
  schema : Schema
  deriving DecidableEq

namespace Parameters

/-- The time allowed where nothing else is asked for. -/
def defaultTimeout : Duration := ⟨30 * Duration.second⟩

/-- The number of connections where nothing else is asked for. -/
def defaultConnections : Nat := 4

/-- Why no connections can be made with parameters. -/
inductive Flaw where
  | noConnection
  | noTime
  deriving DecidableEq

def Flaw.message : Flaw → String
  | noConnection => "max_size must be positive"
  | noTime => "connection_timeout must be positive"

def flaw? (parameters : Parameters) : Option Flaw :=
  if parameters.connections = 0 then some .noConnection
  else if parameters.timeout.nanoseconds = 0 then some .noTime
  else none

/-- Whether waiting for a connection would lead beyond the end of the clock, which counts
`2 ^ 63` seconds, of which the first hour has passed. -/
def isEndless (parameters : Parameters) : Bool :=
  Nat.pow 2 63 ≤ parameters.timeout.nanoseconds / Duration.second + 3600

end Parameters

end Listmaster.Ldap
