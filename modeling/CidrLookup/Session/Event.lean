import CidrLookup.Cidr
import CidrLookup.Bytes
import CidrLookup.Text.Quoted

/-!
# Session events

What a socket does to a session, and what a session tells about a lookup.
-/

namespace CidrLookup

/-- When a connection failed. -/
inductive FailureKind where
  /-- While it was made. -/
  | connect
  /-- After it was made. -/
  | transport
deriving DecidableEq, Repr

namespace FailureKind

/-- The name of a kind in messages. -/
def name : FailureKind → String
  | connect => "connect"
  | transport => "transport"

/-- The name of a kind in inspection output. -/
def label : FailureKind → String
  | connect => "Connect"
  | transport => "Transport"

end FailureKind

/-- A failed connection. -/
structure Failure where
  kind : FailureKind
  detail : String
deriving DecidableEq, Repr

/-- Something that happened on the socket. -/
inductive Event where
  /-- The connection is made. -/
  | connected
  /-- A record arrived. -/
  | received (frame : Bytes)
  /-- The service ended the connection. -/
  | disconnected
  /-- The connection failed, or could not be made. -/
  | failed (failure : Failure)
deriving DecidableEq, Repr

/-- An event in one line. -/
def Event.format : Event → String
  | connected => "Connected"
  | received frame => "Received(" ++ Text.quotedBytes frame ++ ")"
  | disconnected => "Disconnected"
  | failed failure =>
    "Error(Failure \x7b kind: " ++ failure.kind.label ++ ", detail: " ++
      Text.quoted failure.detail ++ " \x7d)"

/-- The answer to a lookup. -/
inductive Resolution where
  /-- The address lies in a range, the longest of those that hold it. -/
  | found (address : Address) (range : Cidr)
  /-- The address lies in no range. -/
  | notFound (address : Address)
deriving DecidableEq, Repr

namespace Resolution

/-- The address that was looked up. -/
def address : Resolution → Address
  | found address _ => address
  | notFound address => address

/-- The range that was found. -/
def range? : Resolution → Option Cidr
  | found _ range => some range
  | notFound _ => none

/-- An answer in one line. -/
def format : Resolution → String
  | found address range => s!"{address} found in {range}"
  | notFound address => s!"{address} not found"

end Resolution

/-- What became of a submitted lookup. -/
inductive SubmitOutcome where
  /-- Handed to the open connection. -/
  | sent
  /-- Waiting for a connection. -/
  | queued
deriving DecidableEq, Repr

/-- The name of an outcome in inspection output. -/
def SubmitOutcome.label : SubmitOutcome → String
  | sent => "Sent"
  | queued => "Queued"

end CidrLookup
