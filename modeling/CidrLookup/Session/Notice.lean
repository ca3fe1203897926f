import CidrLookup.Duration
import CidrLookup.Endpoint
import CidrLookup.Log
import CidrLookup.Message
import CidrLookup.SessionError
import CidrLookup.Session.Event

/-!
# Notices

What a session, its link and the command it works for write to the log, each notice with its level,
its text and its values. The token that names the client appears in none of them.
-/

namespace CidrLookup

/-- Where a connection stands. -/
inductive SocketState where
  | disconnected
  /-- An attempt is under way; no other is started. -/
  | connecting
  | connected
deriving DecidableEq, Repr

/-- The name of a state. -/
def SocketState.name : SocketState → String
  | disconnected => "disconnected"
  | connecting => "connecting"
  | connected => "connected"

/-- Something worth a line in the log. -/
inductive Notice where
  | connectSkipped (state : SocketState)
  | connecting (endpoint : Endpoint)
  | connected (endpoint : Endpoint)
  | disconnecting (endpoint : Endpoint) (state : SocketState)
  | lookupQueued (text : String)
  | sendFailed (error : SessionError)
  | flushFailed (error : SessionError)
  | identified
  | identifyFailed (error : SessionError)
  | requesterGone (text : String)
  | unencodable (text : String) (error : SessionError)
  | closedByService (endpoint : Endpoint)
  | connectionFailed (endpoint : Endpoint) (failure : Failure)
  | idle (duration : Duration)
  | foreignVersion (error : ProtocolError)
  | malformedFrame (error : ProtocolError) (size : Nat)
  | established (info : ServiceInfo)
  | serviceFailure (code : UInt8) (text : String)
  | unexpectedMessage (kind : Message.Kind)
  | resolved (resolution : Resolution)
  | unmatched (address : Address)
  | demoted (count : Nat)
  | resendLater (count : Nat)
  | staleSignal (generation current : Nat)
  | linkEvent (event : Event)
  | submitted (text : String) (outcome : SubmitOutcome)
  | unresolved (outstanding : Nat)
deriving DecidableEq, Repr

namespace Notice

open Log (Level Value)

/-- The level of a notice. -/
def level : Notice → Level
  | demoted _ | staleSignal .. | linkEvent _ => .trace
  | connectSkipped _ | disconnecting .. | lookupQueued _ | identified | requesterGone _
  | unexpectedMessage _ | resolved _ | resendLater _ | submitted .. => .debug
  | connecting _ | connected _ | closedByService _ | idle _ | established _ => .info
  | sendFailed _ | flushFailed _ | identifyFailed _ | unencodable .. | connectionFailed ..
  | malformedFrame .. | serviceFailure .. | unmatched _ | unresolved _ => .warn
  | foreignVersion _ => .error

/-- The text of a notice. A failure reported by the service is shown in the service's words. -/
def text : Notice → String
  | connectSkipped _ => "connect skipped"
  | connecting _ => "connecting to lookup service"
  | connected _ => "connected to lookup service"
  | disconnecting .. => "disconnecting"
  | lookupQueued _ => "lookup queued until connected"
  | sendFailed _ => "send failed; reconnecting"
  | flushFailed _ => "send failed while flushing queue"
  | identified => "identify sent"
  | identifyFailed _ => "identify failed"
  | requesterGone _ => "requester gone; dropping lookup"
  | unencodable .. => "dropping unencodable lookup"
  | closedByService _ => "lookup service closed the connection"
  | connectionFailed .. => "lookup connection failed"
  | idle _ => "closing idle lookup connection"
  | foreignVersion _ => "lookup service speaks another protocol; halting"
  | malformedFrame .. => "discarding malformed frame"
  | established _ => "lookup service established"
  | serviceFailure _ text => text
  | unexpectedMessage _ => "ignoring client-bound message"
  | resolved _ => "lookup resolved"
  | unmatched _ => "response matches no in-flight lookup"
  | demoted _ => "in-flight lookups returned to pending"
  | resendLater _ => "in-flight lookups will be resent on reconnect"
  | staleSignal .. => "dropping stale link signal"
  | linkEvent _ => "link event"
  | submitted .. => "lookup submitted"
  | unresolved _ => "lookups still unresolved at deadline"

/-- The values that go with a notice. -/
def fields : Notice → List (String × Value)
  | connectSkipped state => [("state", .text state.name)]
  | connecting endpoint | connected endpoint | closedByService endpoint =>
    [("endpoint", .text endpoint.format)]
  | disconnecting endpoint state =>
    [("endpoint", .text endpoint.format), ("state", .text state.name)]
  | lookupQueued text | requesterGone text => [("ip", .text text)]
  | sendFailed error | flushFailed error | identifyFailed error => [("error", .text error.message)]
  | unencodable text error => [("ip", .text text), ("error", .text error.message)]
  | connectionFailed endpoint failure =>
    [("endpoint", .text endpoint.format), ("kind", .text failure.kind.name),
      ("detail", .text failure.detail)]
  | idle duration => [("idle_for", .text duration.format)]
  | foreignVersion error => [("error", .text error.message)]
  | malformedFrame error size => [("error", .text error.message), ("len", .number size)]
  | established info =>
    [("rate_limit", .number info.rateLimit.toNat), ("tree_size", .number info.treeSize.toNat),
      ("cache_ttl", .number info.cacheTtl.toNat), ("peer_ttl", .number info.peerTtl.toNat),
      ("banner", .text info.banner)]
  | serviceFailure code _ =>
    [("code", .number code.toNat), ("reason", .text (FailureReason.ofCode code).describe)]
  | unexpectedMessage kind => [("variant", .text kind.name)]
  | resolved resolution => [("resolution", .text resolution.format)]
  | unmatched address => [("ip", .text address.format)]
  | demoted count | resendLater count => [("demoted", .number count)]
  | staleSignal generation current =>
    [("signal", .number generation), ("current", .number current)]
  | linkEvent event => [("event", .text event.format)]
  | submitted text outcome => [("ip", .text text), ("outcome", .text outcome.label)]
  | unresolved outstanding => [("outstanding", .number outstanding)]
  | identified => []

/-- A notice as an event of the log. -/
def toEvent (notice : Notice) : Log.Event :=
  ⟨notice.level, notice.text, notice.fields⟩

end Notice

end CidrLookup
