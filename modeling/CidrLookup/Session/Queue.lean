import CidrLookup.Message.Encode
import CidrLookup.SessionError

/-!
# The request queue

The lookups of a session in the order they were submitted. The protocol has no request numbers: an
answer belongs to the oldest lookup in flight whose address has the same text, so two lookups of
one address are answered in the order they were submitted.
-/

namespace CidrLookup

/-- Where a lookup stands. -/
inductive EntryState where
  /-- Waiting for a connection. -/
  | pending
  /-- Sent and waiting for the answer. -/
  | sent
  /-- Answered or dropped. -/
  | complete
deriving DecidableEq, Repr

/-- The name of a state. -/
def EntryState.name : EntryState → String
  | pending => "pending"
  | sent => "sent"
  | complete => "complete"

/-- One lookup. -/
structure Entry (ρ : Type) where
  requester : ρ
  /-- The address as text; answers are matched by it. -/
  text : String
  address : Address
  metadata : Metadata
  state : EntryState
deriving Repr

namespace Entry

variable {ρ : Type}

/-- A lookup that waits for a connection. -/
def make (requester : ρ) (address : Address) (metadata : Metadata) : Entry ρ :=
  ⟨requester, address.format, address, metadata, .pending⟩

/-- Whether the lookup still waits for something. -/
def isOutstanding (entry : Entry ρ) : Bool :=
  entry.state ≠ .complete

/-- The message that asks for the address. -/
def request (entry : Entry ρ) : Message :=
  .request entry.address entry.metadata

/-- The written form of that message. -/
def frame (entry : Entry ρ) : Except ProtocolError Bytes :=
  entry.request.encode

/-- The same lookup in another state. -/
def withState (entry : Entry ρ) (state : EntryState) : Entry ρ :=
  { entry with state }

/-- A lookup in flight waits for a connection again; others stay as they are. -/
def demote (entry : Entry ρ) : Entry ρ :=
  if entry.state = .sent then entry.withState .pending else entry

end Entry

/-- The lookups of a session and how many of them may be outstanding. -/
structure Queue (ρ : Type) where
  entries : List (Entry ρ)
  maxPending : Nat
deriving Repr

namespace Queue

variable {ρ : Type}

/-- A queue without lookups. -/
def empty (maxPending : Nat) : Queue ρ :=
  ⟨[], maxPending⟩

/-- The number of lookups that still wait for something. -/
def outstanding (queue : Queue ρ) : Nat :=
  queue.entries.countP Entry.isOutstanding

/-- The number of lookups in a state. -/
def count (queue : Queue ρ) (state : EntryState) : Nat :=
  queue.entries.countP (·.state = state)

/-- Whether a lookup is in flight. -/
def hasSent (queue : Queue ρ) : Bool :=
  queue.entries.any (·.state = .sent)

/-- Adds a lookup at the end, unless the limit is reached. -/
def push (queue : Queue ρ) (entry : Entry ρ) : Except SessionError (Queue ρ) :=
  if queue.outstanding ≥ queue.maxPending then .error (.queueFull queue.maxPending)
  else .ok { queue with entries := queue.entries ++ [entry] }

/-- Completes the first lookup in flight with the given text: the lookup, and all with it
changed. -/
def completeFirst (text : String) : List (Entry ρ) → Option (Entry ρ × List (Entry ρ))
  | [] => none
  | entry :: more =>
    if entry.state = .sent ∧ entry.text = text then
      some (entry.withState .complete, entry.withState .complete :: more)
    else (completeFirst text more).map fun (found, more) => (found, entry :: more)

/-- Completes the oldest lookup in flight with the given text. -/
def completeFirstSent (queue : Queue ρ) (text : String) : Option (Entry ρ × Queue ρ) :=
  (completeFirst text queue.entries).map fun (found, entries) => (found, { queue with entries })

/-- Every lookup in flight waits for a connection again. -/
def demoteSent (queue : Queue ρ) : Queue ρ :=
  { queue with entries := queue.entries.map Entry.demote }

/-- The places of the lookups that wait for a connection, for whoever looks at a queue from outside:
a flush goes through the lookups themselves. -/
def pendingIndices (queue : Queue ρ) : List Nat :=
  (queue.entries.zipIdx.filter (·.1.state = .pending)).map Prod.snd

/-- Drops the lookups that wait for nothing. -/
def purge (queue : Queue ρ) : Queue ρ :=
  { queue with entries := queue.entries.filter Entry.isOutstanding }

/-- Marks the newest lookup as being in flight. -/
def markLastSent (queue : Queue ρ) : Queue ρ :=
  { queue with entries := queue.entries.modify (queue.entries.length - 1) (·.withState .sent) }

end Queue

end CidrLookup
