import CidrLookup.Client
import CidrLookup.Link.Schedule

/-!
# Simulated worlds

A world in which a session over a socket link can be driven without a socket: a network, a clock
that moves only while somebody waits, and a service that follows a script on the first connection
made to it. Whoever waits sees everything happen that can happen, before any time passes.
-/

namespace CidrLookup

/-- What a scripted service does. -/
inductive ServiceAct where
  /-- It writes the record of a payload. -/
  | send (payload : Bytes)
  /-- It writes bytes. -/
  | write (bytes : Bytes)
  /-- It waits for a record. -/
  | read
  /-- It ends its side of the connection. -/
  | finish
deriving DecidableEq, Repr

/-- A simulated world. -/
structure Simulation where
  network : Network
  clock : Instant
  /-- What the service has yet to do. -/
  script : List ServiceAct
  /-- How the service reads. -/
  reader : Record.Reader
  /-- The records that the service has read, in order. -/
  collected : List Bytes
deriving Repr

namespace Simulation

/-- A world at the start of its clock. -/
def new (network : Network) (script : List ServiceAct) : Simulation :=
  ⟨network, ⟨0⟩, script, .new Record.defaultMaxPayload, []⟩

/-- What becomes of one act on a stream, or `none` where the service has to wait. A write on a
closed stream is lost, and so is a read that finds no record. -/
def act (world : Simulation) (stream : Stream) : ServiceAct → Option (Simulation × Stream)
  | .send payload =>
    match Record.encode payload with
    | .ok record => some (world, (stream.peerWrite record).2)
    | .error _ => some (world, stream)
  | .write bytes => some (world, (stream.peerWrite bytes).2)
  | .finish => some (world, stream.peerEnd)
  | .read =>
    match stream.peerNextRecord world.reader with
    | (.ok payload, reader, stream) =>
      some ({ world with reader, collected := world.collected ++ [payload] }, stream)
    | (.error (.io _), _) => none
    | (.error _, reader, stream) => some ({ world with reader }, stream)

/-- The service does what it can on its connection. -/
def serve (world : Simulation) (link : SocketLink) : Simulation × SocketLink :=
  match link.attempts.find? (·.stream.connected) with
  | none => (world, link)
  | some a =>
    let rec go : List ServiceAct → Simulation → Stream → Simulation × Stream
      | [], world, stream => ({ world with script := [] }, stream)
      | next :: more, world, stream =>
        match world.act stream next with
        | some (world, stream) => go more world stream
        | none => ({ world with script := next :: more }, stream)
    let (world, stream) := go world.script world a.stream
    (world, link.modify a.generation ({ · with stream }))

/-- The helpers and the service do what they can, in at most `turns` turns. -/
def settleIn : (turns : Nat) → Simulation → SocketLink → Simulation × SocketLink
  | 0, world, link => (world, link.run world.network)
  | turns + 1, world, link =>
    let (next, link) := world.serve (link.run world.network)
    if next.script.length < world.script.length then settleIn turns next link
    else (next, link.run world.network)

/-- Everything happens that can. -/
def settle (world : Simulation) (link : SocketLink) : Simulation × SocketLink :=
  settleIn world.script.length world link

/-- The next signal, after everything has happened that can; where there is none, reads that wait
too long fail, and else the time passes. -/
def wait (timeout : Duration) (link : SocketLink) (world : Simulation) :
    (Arrival × SocketLink) × Simulation :=
  let (world, link) := world.settle link
  if link.signals.waiting ≠ [] then (link.poll, world)
  else
    let later := { world with clock := ⟨world.clock.nanos + timeout.nanos⟩ }
    let (later, link) := later.settle link.readTimeouts
    (link.poll, later)

/-- A simulated world as a world to drive sessions in. Its time of day is left blank. -/
def world : World (StateM Simulation) SocketLink where
  now world := (world.clock, world)
  timestamp := pure ""
  wait timeout link := wait timeout link

end Simulation

end CidrLookup
