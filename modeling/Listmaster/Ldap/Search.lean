import Listmaster.Ldap.Filter

/-!
What an LDAP client asks a server, and what the server replies.
-/

namespace Listmaster.Ldap

/-- Which entries a search looks at. -/
inductive Scope where
  | base
  | subtree
  deriving DecidableEq

/-- A control of a search. -/
structure Control where
  oid : String
  isCritical : Bool
  value : String
  deriving DecidableEq

/-- The control of RFC 4370, under which a search is made on behalf of another identity. -/
def Control.proxyAuthorization (identity : String) : Control :=
  ⟨"2.16.840.1.113730.3.4.18", true, identity⟩

structure Search where
  base : String
  scope : Scope
  filter : Filter
  attributes : List String
  controls : List Control

/-- An entry, with the values of its attributes. -/
structure Entry where
  dn : String
  attributes : List (String × List ByteArray)

inductive Found where
  | entry (entry : Entry)
  | reference (url : String)

inductive Silence where
  | closed
  | timedOut
  deriving DecidableEq

inductive Reply where
  | done (found : List Found) (code : Nat) (text : String)
  | none (silence : Silence)

/-- The result code of a search whose base does not exist. -/
def noSuchObject : Nat := 32

end Listmaster.Ldap
