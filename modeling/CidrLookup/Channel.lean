/-!
# Channels

First-in first-out channels: what is sent into a channel is received in the same order, each thing
once. A channel keeps what was received from it beside what waits in it, so that `sent` is all that
ever went in; the main statements say that sending adds to it at the end and receiving leaves it
alone.
-/

namespace CidrLookup

/-- A channel for values of `α`. -/
structure Channel (α : Type) where
  /-- What was received, the newest first. -/
  received : List α
  /-- What waits, the oldest first. -/
  waiting : List α
deriving DecidableEq, Repr

namespace Channel

variable {α : Type}

/-- A channel that was never used. -/
def empty : Channel α :=
  ⟨[], []⟩

/-- All that was ever sent, in order. -/
def sent (c : Channel α) : List α :=
  c.received.reverse ++ c.waiting

/-- Sends several values, in order. -/
def sendAll (values : List α) (c : Channel α) : Channel α :=
  { c with waiting := c.waiting ++ values }

/-- Sends a value. -/
def send (value : α) (c : Channel α) : Channel α :=
  c.sendAll [value]

/-- Receives the value that has waited longest. -/
def receive? (c : Channel α) : Option (α × Channel α) :=
  match c.waiting with
  | [] => none
  | value :: waiting => some (value, ⟨value :: c.received, waiting⟩)

/-- Receives at most `count` values. -/
def receiveUpTo (count : Nat) (c : Channel α) : List α × Channel α :=
  let taken := c.waiting.take count
  (taken, ⟨taken.reverse ++ c.received, c.waiting.drop count⟩)

/-! ## What was sent -/

@[simp] theorem sent_empty : (empty : Channel α).sent = [] := rfl

@[simp] theorem sendAll_nil (c : Channel α) : c.sendAll [] = c := by
  simp [sendAll]

@[simp] theorem sent_sendAll (values : List α) (c : Channel α) :
    (c.sendAll values).sent = c.sent ++ values := by
  simp [sent, sendAll]

@[simp] theorem sent_send (value : α) (c : Channel α) :
    (c.send value).sent = c.sent ++ [value] := by
  simp [send]

theorem sent_of_receive? {c next : Channel α} {value : α} (h : c.receive? = some (value, next)) :
    next.sent = c.sent := by
  unfold receive? at h
  split at h <;> simp_all [sent]
  obtain ⟨rfl, rfl⟩ := h
  simp

theorem received_of_receive? {c next : Channel α} {value : α}
    (h : c.receive? = some (value, next)) : next.received = value :: c.received := by
  unfold receive? at h
  split at h <;> cases h
  rfl

@[simp] theorem sent_receiveUpTo (count : Nat) (c : Channel α) :
    (c.receiveUpTo count).2.sent = c.sent := by
  simp [receiveUpTo, sent]

/-- A channel has a value to receive exactly when something waits. -/
theorem receive?_eq_none_iff {c : Channel α} : c.receive? = none ↔ c.waiting = [] := by
  unfold receive?; split <;> simp_all

end Channel

end CidrLookup
