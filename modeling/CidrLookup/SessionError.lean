import CidrLookup.FrameError
import CidrLookup.ProtocolError
import CidrLookup.TransportError

/-!
# Session errors

What a session tells its caller. Faults of an established connection are dealt with inside the
session; what reaches a caller is a request that cannot be taken, now or ever.
-/

namespace CidrLookup

/-- Why a call on a session was refused. -/
inductive SessionError where
  /-- The configured host is blank. -/
  | emptyHost
  /-- The submitted text is no address. -/
  | invalidAddress (error : ProtocolError)
  /-- As many lookups are outstanding as the session allows. -/
  | queueFull (limit : Nat)
  /-- The session has given up on the service. -/
  | halted (reason : String)
  /-- There is no open connection. -/
  | notConnected
  | transport (error : TransportError)
  | frame (error : FrameError)
  | protocol (error : ProtocolError)
deriving DecidableEq, Repr

namespace SessionError

/-- Whether the same call can succeed later. -/
def isRetryable : SessionError → Bool
  | queueFull _ | notConnected | transport _ | frame _ => true
  | emptyHost | invalidAddress _ | halted _ | protocol _ => false

/-- The wording of an error. -/
def message : SessionError → String
  | emptyHost => "lookup host is empty"
  | invalidAddress error => "invalid address: " ++ error.message
  | queueFull limit => s!"request queue full ({limit} outstanding)"
  | halted reason => "session halted: " ++ reason
  | notConnected => "not connected"
  | transport error => "transport error: " ++ error.message
  | frame error => "frame error: " ++ error.message
  | protocol error => "protocol error: " ++ error.message

end SessionError

end CidrLookup
