import CidrLookup.Client
import CidrLookup.Link.Schedule
import Std.Async.DNS
import Std.Async.TCP
import Std.Time.DateTime.Timestamp

/-!
# The world outside

The world in which a session over a socket link is driven with real sockets. Every wait of a helper
— for a connection, for bytes, for a write — is a task of its own; whoever looks at the link takes
what the finished tasks have brought and lets the helpers make their next steps with it.
-/

namespace CidrLookup.Live

open Std.Async (DNS.getAddrInfo)
open Std.Async.TCP (Socket.Client)

/-! ## Errors -/

/-- The number and the text of an error as it is reported. -/
def report : IO.Error → UInt32 × String
  | .alreadyExists _ n text | .otherError n text | .resourceBusy n text
  | .resourceVanished n text | .unsupportedOperation n text | .hardwareFault n text
  | .unsatisfiedConstraints n text | .illegalOperation n text | .protocolError n text
  | .timeExpired n text | .interrupted _ n text | .noFileOrDirectory _ n text
  | .invalidArgument _ n text | .permissionDenied _ n text | .resourceExhausted _ n text
  | .inappropriateType _ n text | .noSuchThing _ n text => (n, text)
  | .unexpectedEof => (0, "unexpected end of file")
  | .userError text => (0, text)

/-- The number of an error of the operating system, which sockets report with its sign turned. -/
def systemNumber (reported : UInt32) : Nat :=
  (min reported (0 - reported)).toNat

/-- An error of the operating system as the library knows it. -/
def ioError (e : IO.Error) : IoError :=
  let (reported, text) := report e
  match systemNumber reported with
  | 4 => .ofSystem .interrupted text 4
  | 11 => .wouldBlock
  | 32 => .brokenPipe
  | 101 => .networkUnreachable
  | 103 => .ofSystem .connectionAborted text 103
  | 104 => .ofSystem .connectionReset text 104
  | 107 => .notConnected
  | 110 => .ofSystem .timedOut text 110
  | 111 => .connectionRefused
  | 0 => ⟨.other, text⟩
  | n => .ofSystem .other text n

/-! ## Connecting -/

/-- The address of a host for the operating system. -/
def netAddress : HostAddress → Std.Net.IPAddr
  | .v4 address =>
    match address.octets with
    | [a, b, c, d] => .v4 (.ofParts a b c d)
    | _ => .v4 (.ofParts 0 0 0 0)
  | .v6 groups =>
    match groups with
    | [a, b, c, d, e, f, g, h] => .v6 (.ofParts a b c d e f g h)
    | _ => .v6 (.ofParts 0 0 0 0 0 0 0 0)

/-- The addresses of a host: itself if it is a literal one, else what the directory knows. -/
def resolve (endpoint : Endpoint) : IO (List Std.Net.IPAddr) := do
  match HostAddress.parse? endpoint.host.toList with
  | some host => return [netAddress host]
  | none => return (← (DNS.getAddrInfo endpoint.host "").block).toList

/-- An address with a port. -/
def withPort (port : UInt16) : Std.Net.IPAddr → Std.Net.SocketAddress
  | .v4 addr => .v4 ⟨addr, port⟩
  | .v6 addr => .v6 ⟨addr, port⟩

/-- Connects to the first address that answers; if none does, the last error counts. -/
def connectFirst (port : UInt16) (last : IoError) : List Std.Net.IPAddr →
    IO (Except IoError Socket.Client)
  | [] => return .error last
  | address :: more => do
    let client ← Socket.Client.mk
    try
      (client.connect (withPort port address)).block
      client.noDelay
      return .ok client
    catch e => connectFirst port (ioError e) more

/-- Connects to an endpoint. -/
def dial (endpoint : Endpoint) : IO (Except TransportError Socket.Client) := do
  if endpoint.host.toList.contains '\x00' then
    return .error (.resolve endpoint.format .nulInHost)
  match ← (resolve endpoint).toBaseIO with
  | .error e => return .error (.resolve endpoint.format (ioError e))
  | .ok addresses =>
    return (← connectFirst endpoint.port ⟨.notFound, "no address attempted"⟩ addresses).mapError
      (.connect endpoint.format)

/-! ## Helpers at work -/

/-- A task of the operating system and when it was started. -/
structure Pending (α : Type) where
  since : Nat
  task : Task (Except IO.Error α)

/-- Starts a task. -/
def Pending.start (act : IO α) : IO (Pending α) :=
  return ⟨← IO.monoNanosNow, ← IO.asTask act .dedicated⟩

/-- What a task has brought, once it has finished or has taken longer than it may. -/
def Pending.outcome? (p : Pending α) (timeout : Option Duration) :
    IO (Option (Except IoError α)) := do
  if ← IO.hasFinished p.task then return some (p.task.get.mapError ioError)
  let passed := (← IO.monoNanosNow) - p.since
  match timeout with
  | some limit => return if limit.nanos ≤ passed then some (.error .wouldBlock) else none
  | none => return none

/-- What an attempt has of the operating system. -/
structure Carrier where
  generation : Nat
  dialling : Option (Pending (Except TransportError Socket.Client))
  client : Option Socket.Client
  arriving : Option (Pending (Option ByteArray))
  departing : Option (Pending Unit)
  isShut : Bool

/-- Nothing was asked of the operating system. -/
def Carrier.new (generation : Nat) : Carrier :=
  ⟨generation, none, none, none, none, false⟩

/-- What a helper meets: a link that has gone on, and what is pending. -/
abbrev Turn := Option SocketLink × Carrier

/-- Goes on connecting. -/
def advanceDial (link : SocketLink) (a : Attempt) (c : Carrier) : IO Turn := do
  match c.dialling with
  | none => return (none, { c with dialling := some (← Pending.start (dial a.endpoint)) })
  | some pending =>
    match ← pending.outcome? (some link.connectTimeout) with
    | none => return (none, c)
    | some (.ok (.ok client)) =>
      return (some (link.step a.generation (.connect (.ok ()))), { c with client := some client })
    | some (.ok (.error e)) => return (some (link.step a.generation (.connect (.error e))), c)
    | some (.error _) =>
      let e : TransportError := .connect a.endpoint.format ⟨.timedOut, "connection timed out"⟩
      return (some (link.step a.generation (.connect (.error e))), c)

/-- Goes on reading: bytes that have arrived are laid into the stream of the attempt. -/
def advanceRead (link : SocketLink) (a : Attempt) (c : Carrier) : IO Turn := do
  let onStream (f : Stream → Stream) :=
    link.modify a.generation fun a => { a with stream := f a.stream }
  match c.client, c.arriving with
  | none, _ => return (none, c)
  | some client, none =>
    let arriving ← Pending.start (client.recv? (.ofNat Record.readSize)).block
    return (none, { c with arriving := some arriving })
  | some _, some pending =>
    match ← pending.outcome? link.settings.readTimeout with
    | none => return (none, c)
    | some (.ok (some data)) =>
      let bytes := data.data.toList
      return (some (onStream fun s => (s.peerWrite bytes).2), { c with arriving := none })
    | some (.ok none) => return (some (onStream Stream.peerEnd), { c with arriving := none })
    | some (.error e) =>
      return (some (link.step a.generation (.readFails e)), { c with arriving := none })

/-- Goes on writing what is left of a record. -/
def advanceWrite (link : SocketLink) (a : Attempt) (rest : Bytes) (c : Carrier) : IO Turn := do
  match c.client, c.departing with
  | none, _ => return (none, c)
  | some client, none =>
    let departing ← Pending.start (client.send ⟨rest.toArray⟩).block
    return (none, { c with departing := some departing })
  | some _, some pending =>
    let written (acceptance : Record.Acceptance) :=
      (some (link.step a.generation (.write acceptance)), { c with departing := none })
    match ← pending.outcome? link.settings.writeTimeout with
    | none => return (none, c)
    | some (.ok ()) => return written (.takes rest.length)
    | some (.error e) => return written (.failure e)

/-- One step of the helpers of an attempt, if one can be made. -/
def advance (link : SocketLink) (a : Attempt) (c : Carrier) : IO Turn := do
  let c ← match c.client with
    | some client =>
      if a.stream.shutDown && ! c.isShut then
        discard <| IO.asTask client.shutdown.block
        pure { c with isShut := true }
      else pure c
    | none => pure c
  let reading ← match a.reader, a.dueRead? ⟨[]⟩ link with
    | .connecting, _ => advanceDial link a c
    | _, some step => pure (some (link.step a.generation step), c)
    | .reading, none => advanceRead link a c
    | _, none => pure (none, c)
  match reading, a.writer with
  | (some link, c), _ => return (some link, c)
  | (none, c), .writing rest => advanceWrite link a rest c
  | (none, c), _ => return ((a.dueWrite? link).map (link.step a.generation), c)

/-- One round over all attempts; says whether a helper made a step. -/
def round (link : SocketLink) (carriers : List Carrier) :
    IO (Bool × SocketLink × List Carrier) := do
  let mut moved := false
  let mut link := link
  let mut next := []
  for a in link.attempts do
    let c := (carriers.find? (·.generation = a.generation)).getD (.new a.generation)
    let (stepped, c) ← advance link a c
    if let some further := stepped then
      link := further
      moved := true
    next := c :: next
  return (moved, link, next)

/-- Waits for a signal until a time. -/
partial def await (carriers : IO.Ref (List Carrier)) (until_ : Nat) (link : SocketLink) :
    IO (Arrival × SocketLink) := do
  let (moved, link, next) ← round link (← carriers.get)
  carriers.set next
  if ! link.signals.waiting.isEmpty then return link.poll
  if ! moved then
    if until_ ≤ (← IO.monoNanosNow) then return (.quiet, link)
    IO.sleep 1
  await carriers until_ link

/-- The world outside. -/
def world : IO (World IO SocketLink) := do
  let carriers ← IO.mkRef []
  return {
    now := return ⟨← IO.monoNanosNow⟩
    timestamp := return toString (← Std.Time.Timestamp.now).toSecondsSinceUnixEpoch.val
    wait := fun timeout link => do
      await carriers ((← IO.monoNanosNow) + timeout.nanos) link }

/-- Lets the helpers of a link that was closed finish what they can at once. -/
def windUp (world : World IO SocketLink) (link : SocketLink) : IO Unit := do
  discard <| world.wait (.ofMillis 20) link

end CidrLookup.Live
