import CidrLookup.SocketAddress
import CidrLookup.Text.Blank
import CidrLookup.TransportError

/-!
# Endpoints

Host and port of a lookup service. The host is kept as it was given and is looked at only when a
connection is made; it must not be blank.
-/

namespace CidrLookup

/-- Where a service is reached. -/
structure Endpoint where
  host : String
  port : UInt16
deriving DecidableEq, Repr, Inhabited

namespace Endpoint

/-- Whether a host consists of white space only. -/
def isBlankHost (host : String) : Bool :=
  host.toList.all Text.isBlank

/-- An endpoint with a host that is not blank. -/
def make (host : String) (port : UInt16) : Except TransportError Endpoint :=
  if isBlankHost host then .error .emptyHost else .ok ⟨host, port⟩

/-- Host, colon, port; a host with a colon in it stands in brackets. -/
def format (endpoint : Endpoint) : String :=
  let port := endpoint.port
  let host := endpoint.host
  if ':' ∈ host.toList then s!"[{host}]:{port}" else s!"{host}:{port}"

instance : ToString Endpoint := ⟨format⟩

/-- The addresses of the host. Literal addresses stand for themselves; there is no directory of
names. -/
def resolve (endpoint : Endpoint) : Except TransportError (List SocketAddress) :=
  match HostAddress.parse? endpoint.host.toList with
  | some host => .ok [⟨host, endpoint.port⟩]
  | none => .error (.resolve endpoint.format (if '\x00' ∈ endpoint.host.toList then .nulInHost
      else ⟨.other, "failed to lookup address information: Name or service not known"⟩))

end Endpoint

end CidrLookup
