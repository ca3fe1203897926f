import CidrLookup.IoError

/-!
# Transport errors

What can go wrong on the way to a service: its name, the connection, the stream.
-/

namespace CidrLookup

/-- Why a service was not reached, or its stream failed. Endpoints are given as their text. -/
inductive TransportError where
  /-- No host is configured. -/
  | emptyHost
  /-- The host has no address. -/
  | resolve (endpoint : String) (error : IoError)
  /-- No address of the host could be connected to. -/
  | connect (endpoint : String) (error : IoError)
  /-- The stream failed. -/
  | io (error : IoError)
deriving DecidableEq, Repr

/-- The wording of an error. -/
def TransportError.message : TransportError → String
  | emptyHost => "lookup host is not configured"
  | resolve endpoint error => s!"failed to resolve {endpoint}: " ++ error.text
  | connect endpoint error => s!"failed to connect to {endpoint}: " ++ error.text
  | io error => "transport I/O error: " ++ error.text

end CidrLookup
