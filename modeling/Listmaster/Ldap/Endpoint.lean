import Listmaster.Url

/-!
Where LDAP servers listen.

The scheme `ldapi` leads to a socket, whose path stands in place of the host;
`ldap` and `ldaps` lead to a host on the network.
-/

namespace Listmaster.Ldap

inductive Endpoint where
  | socket (path : String)
  | network (host : String) (portNumber : Nat)
  deriving DecidableEq

/-- Why a url leads to no server. -/
inductive EndpointFlaw where
  | url (flaw : Url.Flaw)
  | unknownScheme (scheme : String)
  | noSocket
  /-- The host has a colon, as an address between brackets does. -/
  | portOfSocket
  | noHost
  deriving DecidableEq

/-- The text of a flaw.  Nothing is told about a host that is not there. -/
def EndpointFlaw.message? : EndpointFlaw → Option String
  | url flaw =>
      let reason := flaw.message
      some s!"url parse error: {reason}"
  | unknownScheme scheme => some s!"unknown LDAP URL scheme: {scheme}"
  | noSocket => some "empty Unix domain socket path"
  | portOfSocket => some "the port must be empty in the ldapi scheme"
  | noHost => none

def Endpoint.ofUrl (text : String) : Except EndpointFlaw Endpoint := do
  let url ← (Url.parse text).mapError .url
  if url.scheme = "ldapi" then
    match url.host with
    | none => throw .noSocket
    | some host =>
        if host.contains ':' then throw .portOfSocket
        return .socket (Url.percentDecode host.toList)
  else if url.scheme = "ldap" ∨ url.scheme = "ldaps" then
    match url.host with
    | none => throw .noHost
    | some host =>
        return .network host (url.portNumber.getD (if url.scheme = "ldap" then 389 else 636))
  else throw (.unknownScheme url.scheme)

end Listmaster.Ldap
