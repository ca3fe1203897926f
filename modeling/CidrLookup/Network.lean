import CidrLookup.Endpoint

/-!
# Networks

A network as far as connecting is concerned: the ports of this machine at which a service listens.
Connecting to the machine itself succeeds or is refused at once, and there is no way to any other
machine.
-/

namespace CidrLookup

/-- The ports at which a service listens. -/
structure Network where
  listening : List UInt16
deriving DecidableEq, Repr

namespace Network

/-- Whether an address is one of this machine's own. -/
def isLocal : HostAddress → Bool
  | .v4 address => address.bits >>> 24 = 127
  | .v6 _ => false

/-- The error of a connection attempt to an address, unless it succeeds. -/
def refusal? (network : Network) (address : SocketAddress) : Option IoError :=
  if ! isLocal address.host then some .networkUnreachable
  else if address.port ∈ network.listening then none
  else some .connectionRefused

/-- Tries addresses in turn until one can be connected to; if none can, the last error counts. -/
def tryAll (network : Network) (last : IoError) : List SocketAddress → Except IoError Unit
  | [] => .error last
  | address :: more =>
    match network.refusal? address with
    | none => .ok ()
    | some e => tryAll network e more

/-- Connects to an endpoint. -/
def dial (network : Network) (endpoint : Endpoint) : Except TransportError Unit := do
  let addresses ← endpoint.resolve
  (tryAll network ⟨.notFound, "no address attempted"⟩ addresses).mapError
    (.connect endpoint.format)

end Network

end CidrLookup
