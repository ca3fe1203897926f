import CidrLookup.Proofs.Record.Form
import CidrLookup.Record.Writer

/-!
# Writing records to a stream that takes them in pieces

A sink takes what it is offered in pieces of any size, with interruptions in between, until it has
all of it or ends the attempt. `writeAll_append` is what several answers come to that do not end it:
the sink has taken as many bytes from the front as they ask for, and the rest is offered next.
`Writes` lists what an attempt comes to as a whole. A steady sink ends no attempt, so it takes every
record that is sent, whole.

All this is about what is left to write, as a list. A writer has it in a buffer, behind a place that
it moves on, and `Writer.send_eq` says that it does the same to its stream.
-/

namespace CidrLookup.Record

/-! ## Answers -/

namespace Acceptance

/-- Whether an answer ends an attempt to write, since nothing is taken or the write fails. An
interrupted write is made again. -/
def endsSend : Acceptance → Bool
  | takes count => count = 0
  | failure e => ! e.isInterrupted

/-- How many bytes an answer takes, if so many are offered. -/
def count : Acceptance → Nat
  | takes count => count
  | failure _ => 0

/-- What a writer makes of an answer that ends its attempt. -/
def fault : Acceptance → FrameError
  | takes _ => .connectionClosed
  | failure e => .io e

end Acceptance

/-- How many bytes answers take together, if so many are offered. -/
def accepted : List Acceptance → Nat
  | [] => 0
  | answer :: answers => answer.count + accepted answers

theorem accepted_append (front back : List Acceptance) :
    accepted (front ++ back) = accepted front + accepted back := by
  induction front with
  | nil => exact (Nat.zero_add _).symm
  | cons answer front ih => rw [List.cons_append, accepted, accepted, ih, Nat.add_assoc]

/-- Answers that neither end an attempt to write some bytes nor take all of them. -/
structure Leaves (answers : List Acceptance) (bytes : Bytes) : Prop where
  hcalm : ∀ answer ∈ answers, ¬ answer.endsSend
  haccepted : accepted answers < bytes.length

/-- Bytes are left if some were left after the first answer, which did not end the send. -/
theorem leaves_cons_iff {answer : Acceptance} {answers : List Acceptance} {bytes : Bytes} :
    Leaves (answer :: answers) bytes
      ↔ bytes ≠ [] ∧ ¬ answer.endsSend ∧ Leaves answers (bytes.drop answer.count) := by
  have hsum : accepted (answer :: answers) = answer.count + accepted answers := rfl
  constructor
  · rintro ⟨hcalm, haccepted⟩
    obtain ⟨hanswer, hanswers⟩ := List.forall_mem_cons.1 hcalm
    refine ⟨?_, hanswer, hanswers, ?_⟩
    · rintro rfl
      exact absurd haccepted (Nat.not_lt_zero _)
    · rw [List.length_drop]
      omega
  · rintro ⟨-, hanswer, hanswers, haccepted⟩
    refine ⟨List.forall_mem_cons.2 ⟨hanswer, hanswers⟩, ?_⟩
    rw [List.length_drop] at haccepted
    omega

namespace Sink

/-! ## Offering bytes -/

section Writing

variable {answer : Acceptance} {answers left : List Acceptance} {bytes : Bytes}

/-- **The step.** An answer that does not end the attempt takes what it takes from the front, and
the rest is offered next. -/
theorem writeAll_cons (taken : Bytes) (answers : List Acceptance) (hbytes : bytes ≠ [])
    (hanswer : ¬ answer.endsSend) :
    writeAll taken (answer :: answers) bytes
      = writeAll (taken ++ bytes.take answer.count) answers (bytes.drop answer.count) := by
  obtain ⟨b, bytes, rfl⟩ := List.exists_cons_of_ne_nil hbytes
  cases answer with
  | takes count =>
    cases count with
    | zero => exact absurd rfl hanswer
    | succ n => rfl
  | failure e =>
    have he : e.isInterrupted := by simpa [Acceptance.endsSend] using hanswer
    simp [writeAll, he, Acceptance.count]

/-- An answer that ends a send leaves what was taken before. -/
theorem writeAll_of_endsSend (taken : Bytes) (answers : List Acceptance) (hbytes : bytes ≠ [])
    (hanswer : answer.endsSend) :
    writeAll taken (answer :: answers) bytes = (.error answer.fault, answers, taken) := by
  obtain ⟨b, bytes, rfl⟩ := List.exists_cons_of_ne_nil hbytes
  cases answer with
  | takes count =>
    obtain rfl : count = 0 := by simpa [Acceptance.endsSend] using hanswer
    rfl
  | failure e =>
    have he : e.isInterrupted = false := by simpa [Acceptance.endsSend] using hanswer
    simp [writeAll, he, Acceptance.fault]

/-- **The run.** Answers that leave something have taken as many bytes from the front as they take
together, each byte once. -/
theorem writeAll_append {used : List Acceptance} (h : Leaves used bytes) (taken : Bytes)
    (left : List Acceptance) :
    writeAll taken (used ++ left) bytes
      = writeAll (taken ++ bytes.take (accepted used)) left (bytes.drop (accepted used)) := by
  induction used generalizing taken bytes with
  | nil => simp [accepted]
  | cons answer used ih =>
    obtain ⟨hbytes, hanswer, hused⟩ := leaves_cons_iff.1 h
    have hsum : accepted (answer :: used) = answer.count + accepted used := rfl
    rw [List.cons_append, writeAll_cons taken _ hbytes hanswer, ih hused, List.append_assoc,
      hsum, List.take_add, List.drop_drop]

/-- An attempt that comes to an answer that ends it. -/
theorem writeAll_of_leaves {used : List Acceptance} (h : Leaves used bytes)
    (hanswer : answer.endsSend) (taken : Bytes) (left : List Acceptance) :
    writeAll taken (used ++ answer :: left) bytes
      = (.error answer.fault, left, taken ++ bytes.take (accepted used)) := by
  rw [writeAll_append h, writeAll_of_endsSend _ _ _ hanswer]
  have hlt := h.haccepted
  intro hnil
  rw [List.drop_eq_nil_iff] at hnil
  omega

/-- What an attempt to write comes to, with the answers that are left and the bytes that were
taken. -/
inductive Writes (answers : List Acceptance) (bytes : Bytes) :
    Except FrameError Unit → List Acceptance → Bytes → Prop where
  /-- The sink takes everything. -/
  | whole {used left : List Acceptance} (hanswers : answers = used ++ left)
      (hcalm : ∀ answer ∈ used, ¬ answer.endsSend) : Writes answers bytes (.ok ()) left bytes
  /-- An answer ends the attempt before that. -/
  | ended {used left : List Acceptance} {answer : Acceptance}
      (hanswers : answers = used ++ answer :: left) (hleaves : Leaves used bytes)
      (hanswer : answer.endsSend) :
      Writes answers bytes (.error answer.fault) left (bytes.take (accepted used))

/-- **The list is complete.** Whatever a sink answers, the attempt comes to one of its ends. -/
theorem writeAll_writes (taken : Bytes) (answers : List Acceptance) (bytes : Bytes) :
    ∃ outcome left part, writeAll taken answers bytes = (outcome, left, taken ++ part)
      ∧ Writes answers bytes outcome left part := by
  induction answers generalizing taken bytes with
  | nil =>
    refine ⟨.ok (), [], bytes, ?_, .whole (List.nil_append []).symm nofun⟩
    cases bytes with
    | nil => simp [writeAll]
    | cons => rfl
  | cons answer answers ih =>
    by_cases hbytes : bytes = []
    · subst hbytes
      exact ⟨.ok (), answer :: answers, [], by simp [writeAll],
        .whole (List.nil_append _).symm nofun⟩
    -- the answer ends the send, or takes some bytes and leaves the rest to the others
    by_cases hanswer : answer.endsSend
    · refine ⟨.error answer.fault, answers, [], ?_, ?_⟩
      · rw [writeAll_of_endsSend taken answers hbytes hanswer, List.append_nil]
      · have hnone : Leaves [] bytes := ⟨nofun, List.length_pos_iff.2 hbytes⟩
        exact .ended (List.nil_append _).symm hnone hanswer
    · obtain ⟨outcome, left, part, hwrite, hwrites⟩ :=
        ih (taken ++ bytes.take answer.count) (bytes.drop answer.count)
      rw [← writeAll_cons taken answers hbytes hanswer, List.append_assoc] at hwrite
      refine ⟨outcome, left, bytes.take answer.count ++ part, hwrite, ?_⟩
      cases hwrites with
      | whole hanswers hcalm =>
        rw [List.take_append_drop, hanswers]
        exact .whole (List.cons_append ..).symm (List.forall_mem_cons.2 ⟨hanswer, hcalm⟩)
      | ended hanswers hleaves hends =>
        rw [← List.take_add, hanswers]
        exact .ended (List.cons_append ..).symm (leaves_cons_iff.2 ⟨hbytes, hanswer, hleaves⟩)
          hends

end Writing

/-! ## Steady sinks -/

/-- A sink that only cuts writes short or interrupts writes and flushes. -/
structure Steady (sink : Sink) : Prop where
  hwrites : ∀ answer ∈ sink.writes, ¬ answer.endsSend
  hflushes : ∀ e, some e ∈ sink.flushes → e.isInterrupted

/-- A flush that is interrupted is made again, so one that meets nothing else comes through, and has
used up some of the answers. -/
theorem flushAll_of_interrupted (count : Nat) {flushes : List (Option IoError)}
    (h : ∀ e, some e ∈ flushes → e.isInterrupted) :
    (flushAll count flushes).1 = .ok () ∧ (flushAll count flushes).2.1 ⊆ flushes := by
  induction flushes generalizing count with
  | nil => exact ⟨rfl, List.nil_subset _⟩
  | cons answer flushes ih =>
    cases answer with
    | none => exact ⟨rfl, List.subset_cons_self ..⟩
    | some e =>
      have he : e.isInterrupted := h e List.mem_cons_self
      obtain ⟨hok, hsub⟩ := ih (count + 1) fun e' he' => h e' (List.mem_cons_of_mem _ he')
      rw [flushAll, if_pos he]
      exact ⟨hok, List.Subset.trans hsub (List.subset_cons_self ..)⟩

section Send

variable {maxPayload : Nat} {payload : Bytes} {sink : Sink}

/-- A payload over the limit is refused, and the sink is not touched. -/
theorem send_of_oversize (h : maxPayload < payload.length) (sink : Sink) :
    sink.send maxPayload payload
      = (.error (.payloadTooLarge payload.length maxPayload), sink) := by
  rw [send, encodeWithin, if_pos h]

/-- A record that is taken whole is flushed. -/
theorem send_of_written {writes : List Acceptance} {taken : Bytes} (h : Fits maxPayload payload)
    (hwrite : writeAll sink.taken sink.writes (form payload) = (.ok (), writes, taken)) :
    sink.send maxPayload payload = { sink with writes, taken }.flush := by
  simp only [send, encodeWithin_eq_ok_iff.2 ⟨h, rfl⟩, hwrite]

/-- A send that is cut short in writing is not flushed. -/
theorem send_of_cut {e : FrameError} {writes : List Acceptance} {taken : Bytes}
    (h : Fits maxPayload payload)
    (hwrite : writeAll sink.taken sink.writes (form payload) = (.error e, writes, taken)) :
    sink.send maxPayload payload = (.error e, { sink with writes, taken }) := by
  simp only [send, encodeWithin_eq_ok_iff.2 ⟨h, rfl⟩, hwrite]

/-- A steady sink takes a record whole and stays steady. -/
theorem Steady.send (hsink : sink.Steady) (hfits : Fits maxPayload payload) :
    ∃ sink', sink.send maxPayload payload = (.ok (), sink') ∧ sink'.Steady
      ∧ sink'.taken = sink.taken ++ form payload := by
  obtain ⟨outcome, left, part, hwrite, hwrites⟩ :=
    writeAll_writes sink.taken sink.writes (form payload)
  cases hwrites with
  | whole hanswers _ =>
    rw [send_of_written hfits hwrite]
    obtain ⟨hok, hsub⟩ := flushAll_of_interrupted sink.flushCount hsink.hflushes
    refine ⟨_, Prod.ext hok rfl, ⟨fun answer hanswer => ?_, fun e he => ?_⟩, rfl⟩
    · refine hsink.hwrites answer ?_
      rw [hanswers]
      exact List.mem_append_right _ hanswer
    · exact hsink.hflushes e (hsub he)
  | ended hanswers _ hanswer =>
    exact absurd hanswer (hsink.hwrites _ (hanswers ▸ List.mem_append_cons_self))

end Send

/-! ## Several records -/

/-- Sends payloads, one after another, whatever becomes of each: the outcomes, and the sink. -/
def sendMany (maxPayload : Nat) : List Bytes → Sink → List (Except FrameError Unit) × Sink
  | [], sink => ([], sink)
  | payload :: payloads, sink =>
    let (outcome, sink) := sink.send maxPayload payload
    let (outcomes, sink) := sendMany maxPayload payloads sink
    (outcome :: outcomes, sink)

/-- A steady sink holds the records of the payloads sent, one after another. -/
theorem Steady.sendMany {maxPayload : Nat} {payloads : List Bytes} {sink : Sink}
    (hsink : sink.Steady) (hfits : ∀ payload ∈ payloads, Fits maxPayload payload) :
    ∃ sink', sink.sendMany maxPayload payloads = (payloads.map fun _ => .ok (), sink')
      ∧ sink'.Steady ∧ sink'.taken = sink.taken ++ payloads.flatMap form := by
  induction payloads generalizing sink with
  | nil => exact ⟨sink, rfl, hsink, (List.append_nil _).symm⟩
  | cons payload payloads ih =>
    obtain ⟨hpayload, hpayloads⟩ := List.forall_mem_cons.1 hfits
    obtain ⟨next, hsend, hnext, htaken⟩ := hsink.send hpayload
    obtain ⟨last, hmany, hlast, htaken'⟩ := ih hnext hpayloads
    refine ⟨last, ?_, hlast, ?_⟩
    · simp only [Sink.sendMany, hsend, hmany, List.map_cons]
    · rw [htaken', htaken, List.flatMap_cons, List.append_assoc]

end Sink

/-! ## Writers -/

namespace Writer

/-- Of the buffer, what stands behind the place that was reached is offered, and nothing else. -/
theorem offer_eq_writeAll (buffer taken : Bytes) (offset : Nat) (writes : List Acceptance) :
    offer buffer taken offset writes = Sink.writeAll taken writes (buffer.drop offset) := by
  have hrest {offset : Nat} (hmore : ¬ buffer.length ≤ offset) : buffer.drop offset ≠ [] :=
    mt List.drop_eq_nil_iff.1 hmore
  -- the place that was reached moves on with every answer
  induction writes generalizing taken offset with
  | nil => cases hdrop : buffer.drop offset <;> simp [offer, Sink.writeAll, hdrop]
  | cons answer writes ih =>
    by_cases hdone : buffer.length ≤ offset
    · unfold offer
      rw [if_pos hdone, List.drop_eq_nil_of_le hdone]
      simp [Sink.writeAll]
    · unfold offer
      rw [if_neg hdone]
      cases answer with
      | takes count =>
        cases count with
        | zero =>
          have hends : (Acceptance.takes 0).endsSend := rfl
          exact (Sink.writeAll_of_endsSend taken writes (hrest hdone) hends).symm
        | succ n =>
          have hcalm : ¬ (Acceptance.takes (n + 1)).endsSend := by simp [Acceptance.endsSend]
          -- offered less than it would take, the stream takes what it is offered
          let count := min (n + 1) (buffer.length - offset)
          have htake : (buffer.drop offset).take count = (buffer.drop offset).take (n + 1) := by
            rw [List.take_eq_take_iff, List.length_drop]
            omega
          have hdrop : buffer.drop (offset + count) = (buffer.drop offset).drop (n + 1) := by
            rw [List.drop_drop, List.drop_eq_drop_iff]
            omega
          show offer buffer (taken ++ (buffer.drop offset).take count) (offset + count) writes = _
          rw [ih, htake, hdrop, Sink.writeAll_cons taken writes (hrest hdone) hcalm]
          rfl
      | failure e =>
        by_cases he : e.isInterrupted
        · have hcalm : ¬ (Acceptance.failure e).endsSend := by simp [Acceptance.endsSend, he]
          simp only [he, if_true]
          rw [ih, Sink.writeAll_cons taken writes (hrest hdone) hcalm]
          simp [Acceptance.count]
        · have hends : (Acceptance.failure e).endsSend := by simp [Acceptance.endsSend, he]
          simp only [he]
          exact (Sink.writeAll_of_endsSend taken writes (hrest hdone) hends).symm

/-- **What a writer does to its stream.** Whatever its buffer has from an earlier record, a writer
does to the stream what `Sink.send` does. -/
theorem send_eq (maxPayload : Nat) (payload : Bytes) (writer : Writer) :
    (writer.send maxPayload payload).1 = (writer.sink.send maxPayload payload).1
      ∧ (writer.send maxPayload payload).2.sink = (writer.sink.send maxPayload payload).2 := by
  by_cases hlimit : payload.length > maxPayload
  · rw [Sink.send_of_oversize hlimit, send, if_pos hlimit]
    exact ⟨rfl, rfl⟩
  · unfold send Sink.send
    rw [if_neg hlimit, encodeWithin, if_neg hlimit]
    rcases hrecord : encode payload with e | record
    · simp [Buffer.put, Buffer.append, hrecord]
    · simp only [Buffer.put, Buffer.append, hrecord, List.nil_append, offer_eq_writeAll,
        List.drop_zero]
      rcases Sink.writeAll writer.sink.taken writer.sink.writes record
        with ⟨e | ⟨⟨⟩⟩, writes, taken⟩ <;> exact ⟨rfl, rfl⟩

end Writer

end CidrLookup.Record
