/-!
# Input and output errors

What a stream reports when it cannot read, write, connect or be set up: a kind, which decides how
the program reacts, and the system's own text.
-/

namespace CidrLookup

/-- The kinds of input and output error that make a difference. -/
inductive IoError.Kind where
  | interrupted
  | timedOut
  | wouldBlock
  | connectionRefused
  | connectionReset
  | connectionAborted
  | notConnected
  | brokenPipe
  | notFound
  | addressUnavailable
  | invalidInput
  | other
deriving DecidableEq, Repr

/-- A failed call on a stream. -/
structure IoError where
  kind : IoError.Kind
  text : String
deriving DecidableEq, Repr

namespace IoError

/-- Whether the call was only cut short by a signal and is simply made again. -/
def isInterrupted (e : IoError) : Bool :=
  e.kind = .interrupted

/-- An error of the operating system, with its number. -/
def ofSystem (kind : Kind) (text : String) (number : Nat) : IoError :=
  ⟨kind, s!"{text} (os error {number})"⟩

/-- A read that found nothing before its timeout. -/
def wouldBlock : IoError := ofSystem .wouldBlock "Resource temporarily unavailable" 11

/-- Nothing listens at the port. -/
def connectionRefused : IoError := ofSystem .connectionRefused "Connection refused" 111

/-- No route to the address. -/
def networkUnreachable : IoError := ofSystem .other "Network is unreachable" 101

/-- The stream has no peer. -/
def notConnected : IoError := ofSystem .notConnected "Transport endpoint is not connected" 107

/-- The peer has ended the stream it would have to read from. -/
def brokenPipe : IoError := ofSystem .brokenPipe "Broken pipe" 32

/-- The peer has no address. -/
def unnamedPeer : IoError := ⟨.invalidInput, "invalid argument"⟩

/-- A timeout of nothing. -/
def zeroTimeout : IoError := ⟨.invalidInput, "cannot set a 0 duration timeout"⟩

/-- A host name that no resolver takes. -/
def nulInHost : IoError := ⟨.invalidInput, "file name contained an unexpected NUL byte"⟩

end IoError

end CidrLookup
