import CidrLookup.Channel
import CidrLookup.Duration
import CidrLookup.Record.Reader
import CidrLookup.Session.Config
import CidrLookup.SocketAddress
import CidrLookup.TransportError

/-!
# Byte streams

One end of a connected byte stream, with what is under way in both directions. Reading brings what
has arrived, however little, and nothing once the stream has ended: because the peer has ended its
side, or because this end was shut down. What arrived before that can still be read. An end that
was never connected has no peer to read from or to write to.
-/

namespace CidrLookup

/-- This end of a stream. -/
structure Stream where
  connected : Bool
  /-- From the peer to this end. -/
  inbound : Channel UInt8
  /-- From this end to the peer. -/
  outbound : Channel UInt8
  /-- The peer writes no more. -/
  peerEnded : Bool
  /-- This end neither reads nor writes any more. -/
  shutDown : Bool
deriving DecidableEq, Repr

namespace Stream

/-- A stream without a peer. -/
def unconnected : Stream :=
  ⟨false, .empty, .empty, false, false⟩

/-- A stream that has just been connected. -/
def established : Stream :=
  ⟨true, .empty, .empty, false, false⟩

/-! ## This end -/

/-- Whether nothing more can arrive. -/
def hasEnded (s : Stream) : Bool :=
  s.peerEnded || s.shutDown

/-- Whether a read would not have to wait. -/
def isReadable (s : Stream) : Bool :=
  ! s.inbound.waiting.isEmpty || s.hasEnded

/-- Reads at most `size` bytes. A read that would have to wait fails, as it does when its timeout
runs out. -/
def read (size : Nat) (s : Stream) : Except IoError Bytes × Stream :=
  if s.inbound.waiting.isEmpty then
    if s.hasEnded then (.ok [], s)
    else (.error (if s.connected then .wouldBlock else .notConnected), s)
  else
    let (chunk, inbound) := s.inbound.receiveUpTo size
    (.ok chunk, { s with inbound })

/-- Whether a write is refused. -/
def isClosedForWriting (s : Stream) : Bool :=
  ! s.connected || s.shutDown

/-- Writes bytes, all of them, and says how many. -/
def write (bytes : Bytes) (s : Stream) : Except IoError Nat × Stream :=
  if s.isClosedForWriting then (.error .brokenPipe, s)
  else (.ok bytes.length, { s with outbound := s.outbound.sendAll bytes })

/-- Ends both directions. -/
def shutdown (s : Stream) : Stream :=
  { s with shutDown := true }

/-- The address of the peer. The ends of a pair have none. -/
def peerAddress (s : Stream) : Except IoError SocketAddress :=
  .error (if s.connected then .unnamedPeer else .notConnected)

/-- A stream in one line. -/
def format (s : Stream) : String :=
  let peer := match s.peerAddress with
    | .ok address => address.format
    | .error _ => Text.quoted "<disconnected>"
  "LookupStream \x7b peer: " ++ peer ++ " \x7d"

/-! ## Timeouts -/

/-- A timeout that a stream takes: none, or one that is not zero. -/
def checkTimeout (timeout : Option Duration) : Except IoError Unit :=
  match timeout with
  | some ⟨0⟩ => .error .zeroTimeout
  | _ => .ok ()

/-- Settings that a stream takes. -/
def checkSettings (settings : StreamSettings) : Except FrameError Unit := do
  (checkTimeout settings.readTimeout).mapError .io
  (checkTimeout settings.writeTimeout).mapError .io

/-! ## Records -/

/-- What a reader meets: the bytes that have arrived, and then the end or a read that would have
to wait. -/
def source (s : Stream) : Record.Source :=
  ⟨s.inbound.waiting, if s.hasEnded then [] else
    [.failure (if s.connected then .wouldBlock else .notConnected)]⟩

/-- Reads the next record. -/
def nextRecord (reader : Record.Reader) (s : Stream) :
    Except FrameError Bytes × Record.Reader × Stream :=
  let (outcome, reader, left) := reader.next s.source
  let taken := s.inbound.waiting.length - left.pending.length
  (outcome, reader, { s with inbound := (s.inbound.receiveUpTo taken).2 })

/-- Writes the record of a payload within the limit. -/
def sendRecord (maxPayload : Nat) (payload : Bytes) (s : Stream) :
    Except FrameError Unit × Stream :=
  match Record.encodeWithin maxPayload payload with
  | .error e => (.error e, s)
  | .ok bytes =>
    match s.write bytes with
    | (.ok _, s) => (.ok (), s)
    | (.error e, s) => (.error (.io e), s)

/-! ## The peer's end -/

/-- The peer writes bytes. -/
def peerWrite (bytes : Bytes) (s : Stream) : Except IoError Nat × Stream :=
  if s.hasEnded then (.error .brokenPipe, s)
  else (.ok bytes.length, { s with inbound := s.inbound.sendAll bytes })

/-- The peer reads at most `size` bytes. -/
def peerRead (size : Nat) (s : Stream) : Except IoError Bytes × Stream :=
  if s.outbound.waiting.isEmpty then
    (if s.shutDown then .ok [] else .error .wouldBlock, s)
  else
    let (chunk, outbound) := s.outbound.receiveUpTo size
    (.ok chunk, { s with outbound })

/-- The peer reads the next record. -/
def peerNextRecord (reader : Record.Reader) (s : Stream) :
    Except FrameError Bytes × Record.Reader × Stream :=
  let (outcome, reader, left) := reader.next
    ⟨s.outbound.waiting, if s.shutDown then [] else [.failure .wouldBlock]⟩
  let taken := s.outbound.waiting.length - left.pending.length
  (outcome, reader, { s with outbound := (s.outbound.receiveUpTo taken).2 })

/-- The peer ends its side. -/
def peerEnd (s : Stream) : Stream :=
  { s with peerEnded := true }

end Stream

end CidrLookup
