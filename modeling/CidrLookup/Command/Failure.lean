import CidrLookup.SessionError

/-!
# Failing commands

The exit code and the message with which a command ends that could not do its work.
-/

namespace CidrLookup.Command

/-- Exit codes of the program. -/
inductive ExitCode where
  | success
  | failure
  /-- The command line could not be understood. -/
  | misuse
  /-- The service was not reached, or dropped the connection. -/
  | transport
  /-- An argument is no address, or no request can carry it. -/
  | invalidData
  /-- An option has a value that makes no sense. -/
  | usage
  | timeout
  | internal
deriving DecidableEq, Repr

/-- The number of an exit code. -/
def ExitCode.number : ExitCode → Nat
  | success => 0
  | failure => 1
  | misuse => 2
  | transport => 3
  | invalidData => 60
  | usage => 64
  | timeout => 124
  | internal => 125

/-- How a command fails. -/
structure Failure where
  code : ExitCode
  message : String
deriving DecidableEq, Repr

namespace Failure

/-- A message after what was being done. -/
def within (context : String) (code : ExitCode) (message : String) : Failure :=
  ⟨code, context ++ ": " ++ message⟩

/-- The exit code of an input or output error. -/
def codeOfIo (e : IoError) : ExitCode :=
  match e.kind with
  | .timedOut | .wouldBlock => .timeout
  | .connectionRefused | .connectionReset | .connectionAborted | .notConnected | .brokenPipe
  | .notFound | .addressUnavailable => .transport
  | .interrupted | .invalidInput | .other => .internal

/-- Fails with an input or output error, in its own words. -/
def ofIo (context : String) (e : IoError) : Failure :=
  within context (codeOfIo e) e.text

/-- Fails with an error of the transport. -/
def ofTransport (context : String) (e : TransportError) : Failure :=
  match e with
  | .emptyHost => within context .usage e.message
  | .io error => ofIo context error
  | .resolve .. | .connect .. => within context .transport e.message

/-- Fails with an error of the record layer. -/
def ofFrame (context : String) (e : FrameError) : Failure :=
  match e with
  | .io error => ofIo context error
  | .connectionClosed => within context .transport e.message
  | .invalidMagic | .payloadTooLarge .. => within context .internal e.message

/-- Fails with an error of the session. -/
def ofSession (context : String) (e : SessionError) : Failure :=
  match e with
  | .emptyHost => within context .usage e.message
  | .invalidAddress _ | .protocol _ => within context .invalidData e.message
  | .notConnected => within context .transport e.message
  | .transport error => ofTransport context error
  | .frame error => ofFrame context error
  | .queueFull _ | .halted _ => within context .failure e.message

end Failure

end CidrLookup.Command
