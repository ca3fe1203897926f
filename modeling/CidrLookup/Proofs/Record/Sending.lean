import CidrLookup.Proofs.Record.Writer
import Mathlib.Data.Set.Finite.Lattice

/-!
# What becomes of a record that is sent

A sink takes a record whole, or it takes a part from the front and the send fails. Which it is, and
how the send fails, is told by the first answer that ends the attempt to write: `Meets` says that
the attempt comes to this answer with something left to write, and `writeAll_eq_error_iff` that the
attempt fails just then. A record taken whole is flushed, and `flushFault` is what the flush fails
with.

Interruptions are answers that say nothing. Without them the same bytes are taken and the send ends
in the same way, and where there are finitely many the answers decide the send after finitely many.
-/

namespace CidrLookup.Record

/-- Whether a write was interrupted. -/
def Acceptance.isInterrupted : Acceptance → Bool
  | takes _ => false
  | failure e => e.isInterrupted

/-- An answer that neither ends a send nor interrupts it takes something. -/
theorem Acceptance.count_pos {answer : Acceptance} (hends : ¬ answer.endsSend)
    (hanswer : ¬ answer.isInterrupted) : 0 < answer.count := by
  cases answer with
  | takes count => exact Nat.pos_of_ne_zero fun hzero => hends (decide_eq_true hzero)
  | failure e => exact absurd (by simpa [endsSend, isInterrupted] using hends) hanswer

/-- An interruption takes nothing and ends nothing. -/
theorem Acceptance.count_of_isInterrupted {answer : Acceptance} (h : answer.isInterrupted) :
    answer.count = 0 ∧ ¬ answer.endsSend := by
  cases answer with
  | takes => contradiction
  | failure e => simpa [isInterrupted, count, endsSend] using h

/-- A write that takes nothing is all that is told as the end of the connection. -/
theorem Acceptance.closes_iff {answer : Acceptance} :
    answer.endsSend ∧ answer.fault = .connectionClosed ↔ answer = .takes 0 := by
  cases answer <;> simp [endsSend, fault]

/-- A send that is ended meets a closed stream or an error of it. -/
theorem Acceptance.fault_eq (answer : Acceptance) :
    answer.fault = .connectionClosed ∨ ∃ e, answer.fault = .io e := by
  cases answer <;> simp [fault]

/-- An answer ends a send with an error if it is that error and no interruption. -/
theorem Acceptance.fails_iff {answer : Acceptance} {e : IoError} :
    answer.endsSend ∧ answer.fault = .io e ↔ ¬ e.isInterrupted ∧ answer = .failure e := by
  cases answer with
  | takes => simp [fault]
  | failure e' =>
    simp only [endsSend, fault, FrameError.io.injEq, failure.injEq, Bool.not_eq_true']
    constructor
    · rintro ⟨he, rfl⟩
      exact ⟨by simp [he], rfl⟩
    · rintro ⟨he, rfl⟩
      exact ⟨by simpa using he, rfl⟩

/-- An attempt to write some bytes comes to an answer: what was answered before leaves something to
write. -/
def Meets (answers : List Acceptance) (bytes : Bytes) (answer : Acceptance) : Prop :=
  ∃ used left, answers = used ++ answer :: left ∧ Leaves used bytes

namespace Sink

/-! ## How an attempt to write fails -/

section Writing

variable {answers : List Acceptance} {bytes : Bytes}

/-- An attempt fails where it comes to an answer that ends it, and as this answer says. -/
theorem writeAll_eq_error_iff {taken : Bytes} {e : FrameError} :
    (writeAll taken answers bytes).1 = .error e
      ↔ ∃ answer, Meets answers bytes answer ∧ answer.endsSend ∧ answer.fault = e := by
  constructor
  · intro h
    obtain ⟨outcome, left, part, hwrite, hwrites⟩ := writeAll_writes taken answers bytes
    rw [hwrite] at h
    cases hwrites with
    | whole => contradiction
    | ended hanswers hleaves hanswer =>
      exact ⟨_, ⟨_, _, hanswers, hleaves⟩, hanswer, Except.error.inj h⟩
  · rintro ⟨answer, ⟨used, left, rfl, hleaves⟩, hanswer, rfl⟩
    rw [writeAll_of_leaves hleaves hanswer]

/-- What was taken is a part from the front, the whole just where the attempt does not fail. -/
theorem writeAll_taken (taken : Bytes) (answers : List Acceptance) (bytes : Bytes) :
    ∃ part, (writeAll taken answers bytes).2.2 = taken ++ part ∧ part <+: bytes
      ∧ ((writeAll taken answers bytes).1 = .ok () ↔ part = bytes) := by
  obtain ⟨outcome, left, part, hwrite, hwrites⟩ := writeAll_writes taken answers bytes
  rw [hwrite]
  refine ⟨part, rfl, ?_⟩
  cases hwrites with
  | whole => exact ⟨List.prefix_rfl, by simp⟩
  | ended _ hleaves =>
    refine ⟨List.take_prefix .., ?_⟩
    have hlt := hleaves.haccepted
    simp only [reduceCtorEq, false_iff, List.take_eq_self_iff]
    omega

end Writing

/-! ## Flushes -/

/-- What a flush fails with, if it fails: its first answer that is no interruption tells. -/
def flushFault (flushes : List (Option IoError)) : Option IoError :=
  (flushes.find? fun answer => ! answer.any IoError.isInterrupted).join

/-- How a flush ends that fails in this way, or does not fail. -/
def flushOutcome : Option IoError → Except FrameError Unit
  | none => .ok ()
  | some e => .error (.io e)

/-- How flushing ends is told by the first answer that is no interruption. -/
theorem flushAll_outcome (count : Nat) (flushes : List (Option IoError)) :
    (flushAll count flushes).1 = flushOutcome (flushFault flushes) := by
  induction flushes generalizing count with
  | nil => rfl
  | cons answer flushes ih =>
    cases answer with
    | none => rfl
    | some e =>
      by_cases he : e.isInterrupted
      · simpa [flushAll, flushFault, he] using ih (count + 1)
      · simp [flushAll, flushFault, he, flushOutcome]

/-! ## How a send ends -/

section Send

variable {maxPayload : Nat} {payload : Bytes}

/-- A payload that no record within the limit can carry is refused, and the sink is not touched. -/
theorem send_of_not_fits (h : ¬ Fits maxPayload payload) :
    ∃ e, ∀ sink : Sink, sink.send maxPayload payload = (.error e, sink) := by
  rcases hrecord : encodeWithin maxPayload payload with e | record
  · exact ⟨e, fun sink => by simp only [send, hrecord]⟩
  · exact absurd (encodeWithin_eq_ok_iff.1 hrecord).1 h

/-- What a sink has taken in a send is what it has taken of the record. -/
theorem taken_send (h : Fits maxPayload payload) (sink : Sink) :
    (sink.send maxPayload payload).2.taken
      = (writeAll sink.taken sink.writes (form payload)).2.2 := by
  rcases hwrite : writeAll sink.taken sink.writes (form payload) with ⟨e | ⟨⟨⟩⟩, writes, taken⟩
  · rw [send_of_cut h hwrite]
  · rw [send_of_written h hwrite]
    rfl

/-- A send ends as the writing does, or else as the flushing does. -/
theorem outcome_send (h : Fits maxPayload payload) (sink : Sink) :
    (sink.send maxPayload payload).1
      = (writeAll sink.taken sink.writes (form payload)).1.bind fun _ =>
          flushOutcome (flushFault sink.flushes) := by
  rcases hwrite : writeAll sink.taken sink.writes (form payload) with ⟨e | ⟨⟨⟩⟩, writes, taken⟩
  · rw [send_of_cut h hwrite]
    rfl
  · rw [send_of_written h hwrite]
    exact flushAll_outcome ..

/-- A send succeeds if the whole record is taken and flushed. -/
theorem send_eq_ok_iff (h : Fits maxPayload payload) {sink : Sink} :
    (sink.send maxPayload payload).1 = .ok ()
      ↔ (writeAll sink.taken sink.writes (form payload)).1 = .ok ()
        ∧ flushFault sink.flushes = none := by
  rw [outcome_send h]
  rcases (writeAll sink.taken sink.writes (form payload)).1 with e | ⟨⟨⟩⟩
  · simp [Except.bind]
  · cases flushFault sink.flushes <;> simp [Except.bind, flushOutcome]

/-- A send fails in writing, or in flushing what was written. -/
theorem send_eq_error_iff (h : Fits maxPayload payload) {sink : Sink} {e : FrameError} :
    (sink.send maxPayload payload).1 = .error e
      ↔ (writeAll sink.taken sink.writes (form payload)).1 = .error e
        ∨ (writeAll sink.taken sink.writes (form payload)).1 = .ok ()
          ∧ ∃ fault, flushFault sink.flushes = some fault ∧ .io fault = e := by
  rw [outcome_send h]
  rcases (writeAll sink.taken sink.writes (form payload)).1 with e | ⟨⟨⟩⟩
  · simp [Except.bind]
  · cases flushFault sink.flushes <;> simp [Except.bind, flushOutcome]

/-- A send of a record that fits succeeds, finds the stream closed or meets an error of it. -/
theorem send_cases (h : Fits maxPayload payload) (sink : Sink) :
    (sink.send maxPayload payload).1 = .ok ()
      ∨ (sink.send maxPayload payload).1 = .error .connectionClosed
      ∨ ∃ e, (sink.send maxPayload payload).1 = .error (.io e) := by
  rcases hsend : (sink.send maxPayload payload).1 with e | ⟨⟨⟩⟩
  · obtain hwrite | ⟨-, fault, -, rfl⟩ := (send_eq_error_iff h).1 hsend
    · obtain ⟨answer, -, -, rfl⟩ := writeAll_eq_error_iff.1 hwrite
      obtain hfault | ⟨e, hfault⟩ := answer.fault_eq
      · exact .inr (.inl (hfault ▸ rfl))
      · exact .inr (.inr ⟨e, hfault ▸ rfl⟩)
    · exact .inr (.inr ⟨fault, rfl⟩)
  · exact .inl rfl

/-- A record that is not taken whole is not flushed. -/
theorem flushes_send (h : Fits maxPayload payload) {sink : Sink}
    (hcut : (writeAll sink.taken sink.writes (form payload)).1 ≠ .ok ()) :
    (sink.send maxPayload payload).2.flushes = sink.flushes
      ∧ (sink.send maxPayload payload).2.flushCount = sink.flushCount := by
  rcases hwrite : writeAll sink.taken sink.writes (form payload) with ⟨e | ⟨⟨⟩⟩, writes, taken⟩
  · rw [send_of_cut h hwrite]
    exact ⟨rfl, rfl⟩
  · rw [hwrite] at hcut
    exact absurd rfl hcut

end Send

end Sink

/-! ## What a send comes to -/

/-- What sending a record comes to: the part of it that is taken, how the send ends, and the sink
after it. -/
structure Sends (sink : Sink) (record part : Bytes) (outcome : Except FrameError Unit)
    (after : Sink) : Prop where
  htaken : after.taken = sink.taken ++ part
  hprefix : part <+: record
  hends : outcome = .ok () ∨ outcome = .error .connectionClosed ∨ ∃ e, outcome = .error (.io e)
  /-- It succeeds just where the record is taken whole and then flushed. -/
  hok : outcome = .ok () ↔ part = record ∧ Sink.flushFault sink.flushes = none
  /-- A write that takes nothing ends it. -/
  hclosed : outcome = .error .connectionClosed ↔ Meets sink.writes record (.takes 0)
  /-- So does a write that fails, unless it was interrupted, and a flush that fails. -/
  hfailed : ∀ e, outcome = .error (.io e)
    ↔ ¬ e.isInterrupted ∧ Meets sink.writes record (.failure e)
      ∨ part = record ∧ Sink.flushFault sink.flushes = some e
  /-- What is not taken whole is not flushed. -/
  hcut : part ≠ record → after.flushes = sink.flushes ∧ after.flushCount = sink.flushCount

section Send

variable {maxPayload : Nat} {payload : Bytes}

/-- A send comes to one of the four ends. -/
theorem sends_send (h : Fits maxPayload payload) (sink : Sink) :
    ∃ part, Sends sink (form payload) part (sink.send maxPayload payload).1
      (sink.send maxPayload payload).2 := by
  obtain ⟨part, htaken, hprefix, hwhole⟩ :=
    Sink.writeAll_taken sink.taken sink.writes (form payload)
  -- the writes are told by `hwhole` and `hfails`, the flush by `flushFault`
  have hfails := @Sink.writeAll_eq_error_iff sink.writes (form payload) sink.taken
  refine ⟨part, (Sink.taken_send h sink).trans htaken, hprefix,
    Sink.send_cases h sink, ?_, ?_, ?_, ?_⟩
  · rw [Sink.send_eq_ok_iff h, hwhole]
  · simp only [Sink.send_eq_error_iff h, hfails, Acceptance.closes_iff, exists_eq_right,
      reduceCtorEq, and_false, exists_false, or_false]
  · intro e
    simp only [Sink.send_eq_error_iff h, hfails, hwhole, Acceptance.fails_iff,
      FrameError.io.injEq, exists_eq_right]
    simp only [and_left_comm (b := ¬ e.isInterrupted), exists_eq_right_right]
  · intro hpart
    exact Sink.flushes_send h fun hok => hpart (hwhole.1 hok)

/-- Encodings within the limit are the records that can be sent. -/
theorem sends_of_encode {record : Bytes} (hencode : encode payload = .ok record)
    (hlimit : payload.length ≤ maxPayload) (sink : Sink) :
    ∃ part, Sends sink record part (sink.send maxPayload payload).1
      (sink.send maxPayload payload).2 := by
  obtain ⟨hfits, rfl⟩ := encode_within_iff.1 ⟨hencode, hlimit⟩
  exact sends_send hfits sink

end Send

namespace Sink

/-! ## Sends that all succeed -/

/-- A send that succeeds was of a payload that fits, and the record was taken. -/
theorem of_send_eq_ok {maxPayload : Nat} {payload : Bytes} {sink after : Sink}
    (h : sink.send maxPayload payload = (.ok (), after)) :
    Fits maxPayload payload ∧ after.taken = sink.taken ++ form payload := by
  have hfits : Fits maxPayload payload := by
    by_contra hfits
    obtain ⟨e, hrefused⟩ := send_of_not_fits hfits
    simp [hrefused] at h
  obtain ⟨part, hsends⟩ := sends_send hfits sink
  rw [h] at hsends
  refine ⟨hfits, ?_⟩
  rw [hsends.htaken, (hsends.hok.1 rfl).1]

/-- After sends that all succeed the sink holds their records, one after another. -/
theorem of_sendMany_eq_ok {maxPayload : Nat} {payloads : List Bytes} {sink after : Sink}
    {outcomes : List (Except FrameError Unit)}
    (h : sink.sendMany maxPayload payloads = (outcomes, after))
    (hok : ∀ outcome ∈ outcomes, outcome = .ok ()) :
    (∀ payload ∈ payloads, Fits maxPayload payload)
      ∧ after.taken = sink.taken ++ (payloads.map form).flatten := by
  -- record by record: what the first send has left is the sink of the others
  induction payloads generalizing sink outcomes with
  | nil =>
    obtain ⟨-, rfl⟩ : _ ∧ sink = after := by simpa [sendMany] using h
    simp
  | cons payload payloads ih =>
    rcases hsend : sink.send maxPayload payload with ⟨outcome, mid⟩
    rcases hmany : mid.sendMany maxPayload payloads with ⟨rest, last⟩
    obtain ⟨rfl, rfl⟩ : outcome :: rest = outcomes ∧ last = after := by
      simpa [sendMany, hsend, hmany] using h
    obtain ⟨rfl, hrest⟩ := List.forall_mem_cons.1 hok
    obtain ⟨hpayload, hmid⟩ := of_send_eq_ok hsend
    obtain ⟨hpayloads, hlast⟩ := ih hmany hrest
    refine ⟨List.forall_mem_cons.2 ⟨hpayload, hpayloads⟩, ?_⟩
    rw [hlast, hmid, List.map_cons, List.flatten_cons, List.append_assoc]

/-! ## Interruptions -/

/-- A sink that answers the same, less the interruptions. -/
def undisturbed (sink : Sink) : Sink :=
  { sink with
    writes := sink.writes.filter fun answer => ! answer.isInterrupted
    flushes := sink.flushes.filter fun answer => ! answer.any IoError.isInterrupted }

/-- Without the interruptions the same bytes are taken, none twice and none left out. -/
theorem writeAll_filter (taken : Bytes) (answers : List Acceptance) (bytes : Bytes) :
    writeAll taken (answers.filter fun answer => ! answer.isInterrupted) bytes
      = ((writeAll taken answers bytes).1,
        (writeAll taken answers bytes).2.1.filter fun answer => ! answer.isInterrupted,
        (writeAll taken answers bytes).2.2) := by
  induction answers generalizing taken bytes with
  | nil => cases bytes <;> simp [writeAll]
  | cons answer answers ih =>
    by_cases hbytes : bytes = []
    · simp [hbytes, writeAll]
    by_cases hanswer : answer.isInterrupted
    · -- an interruption takes nothing, so the rest of the answers find the same bytes
      obtain ⟨hcount, hcalm⟩ := Acceptance.count_of_isInterrupted hanswer
      rw [List.filter_cons_of_neg (by simp [hanswer]), ih, writeAll_cons _ _ hbytes hcalm, hcount,
        List.take_zero, List.append_nil, List.drop_zero]
    · rw [List.filter_cons_of_pos (by simp [hanswer])]
      by_cases hends : answer.endsSend
      · rw [writeAll_of_endsSend _ _ hbytes hends, writeAll_of_endsSend _ _ hbytes hends]
      · rw [writeAll_cons _ _ hbytes hends, writeAll_cons _ _ hbytes hends, ih]

/-- Interruptions of a flush do not count. -/
theorem flushFault_filter (flushes : List (Option IoError)) :
    flushFault (flushes.filter fun answer => ! answer.any IoError.isInterrupted)
      = flushFault flushes := by
  unfold flushFault
  rw [List.find?_filter]
  simp only [and_self, Bool.decide_eq_true]

/-- A send comes to the same without the interruptions. -/
theorem send_undisturbed (maxPayload : Nat) (payload : Bytes) (sink : Sink) :
    (sink.undisturbed.send maxPayload payload).1 = (sink.send maxPayload payload).1
      ∧ (sink.undisturbed.send maxPayload payload).2.taken
        = (sink.send maxPayload payload).2.taken := by
  by_cases hfits : Fits maxPayload payload
  · rw [outcome_send hfits, outcome_send hfits, taken_send hfits, taken_send hfits]
    simp only [undisturbed, writeAll_filter, flushFault_filter, and_self]
  · obtain ⟨e, hrefused⟩ := send_of_not_fits hfits
    rw [hrefused, hrefused]
    exact ⟨rfl, rfl⟩

/-! ## Schedules without an end -/

/-- A sink that gives some more answers, after its own. -/
def followedBy (writes : List Acceptance) (flushes : List (Option IoError)) (sink : Sink) : Sink :=
  { sink with writes := sink.writes ++ writes, flushes := sink.flushes ++ flushes }

/-- Answers that leave nothing to write, or end the attempt, decide it: what follows is not read. -/
theorem writeAll_append_of_not_leaves {answers : List Acceptance} {bytes : Bytes}
    (h : ¬ Leaves answers bytes) (taken : Bytes) (more : List Acceptance) :
    writeAll taken (answers ++ more) bytes
      = ((writeAll taken answers bytes).1, (writeAll taken answers bytes).2.1 ++ more,
        (writeAll taken answers bytes).2.2) := by
  induction answers generalizing taken bytes with
  | nil =>
    -- without an answer there is nothing that could have been left
    obtain rfl : bytes = [] := by
      by_contra hbytes
      exact h ⟨nofun, List.length_pos_iff.2 hbytes⟩
    simp [writeAll]
  | cons answer answers ih =>
    rw [List.cons_append]
    by_cases hbytes : bytes = []
    · simp [hbytes, writeAll]
    by_cases hends : answer.endsSend
    · rw [writeAll_of_endsSend _ _ hbytes hends, writeAll_of_endsSend _ _ hbytes hends]
    · rw [writeAll_cons _ _ hbytes hends, writeAll_cons _ _ hbytes hends]
      exact ih (fun hleaves => h (leaves_cons_iff.2 ⟨hbytes, hends, hleaves⟩)) _

/-- Where flushing is decided, further answers are left. -/
theorem flushAll_append {flushes : List (Option IoError)}
    (h : ∃ answer ∈ flushes, ¬ answer.any IoError.isInterrupted) (count : Nat)
    (more : List (Option IoError)) :
    flushAll count (flushes ++ more)
      = ((flushAll count flushes).1, (flushAll count flushes).2.1 ++ more,
        (flushAll count flushes).2.2) := by
  induction flushes generalizing count with
  | nil => simp at h
  | cons answer flushes ih =>
    cases answer with
    | none => rfl
    | some e =>
      by_cases he : e.isInterrupted
      · -- the answer that decides stands behind this one
        obtain ⟨answer, hanswer, hcalm⟩ := h
        obtain rfl | hanswer := List.mem_cons.1 hanswer
        · exact absurd he hcalm
        · simp [flushAll, he, ih ⟨answer, hanswer, hcalm⟩]
      · simp [flushAll, he]

/-- Answers that decide the writes and the flush decide the send. -/
theorem send_followedBy {payload : Bytes} {sink : Sink}
    (hwrites : ¬ Leaves sink.writes (form payload))
    (hflushes : ∃ answer ∈ sink.flushes, ¬ answer.any IoError.isInterrupted) (maxPayload : Nat)
    (writes : List Acceptance) (flushes : List (Option IoError)) :
    (sink.followedBy writes flushes).send maxPayload payload
      = ((sink.send maxPayload payload).1,
        (sink.send maxPayload payload).2.followedBy writes flushes) := by
  by_cases hfits : Fits maxPayload payload
  · have hmore := writeAll_append_of_not_leaves hwrites sink.taken writes
    rcases hwrite : writeAll sink.taken sink.writes (form payload) with ⟨e | ⟨⟨⟩⟩, left, taken⟩
    · rw [hwrite] at hmore
      rw [send_of_cut hfits hwrite, send_of_cut hfits hmore]
      rfl
    · rw [hwrite] at hmore
      rw [send_of_written hfits hwrite, send_of_written hfits hmore]
      simp only [flush, followedBy, flushAll_append hflushes]
  · obtain ⟨e, hrefused⟩ := send_of_not_fits hfits
    rw [hrefused, hrefused]

/-- Answers that are no interruptions and do not end an attempt take a byte or more each. -/
theorem length_le_accepted {answers : List Acceptance}
    (hcalm : ∀ answer ∈ answers, ¬ answer.endsSend)
    (h : ∀ answer ∈ answers, ¬ answer.isInterrupted) : answers.length ≤ accepted answers := by
  induction answers with
  | nil => exact Nat.zero_le _
  | cons answer answers ih =>
    obtain ⟨hends, hcalm⟩ := List.forall_mem_cons.1 hcalm
    obtain ⟨hanswer, h⟩ := List.forall_mem_cons.1 h
    have hpos := answer.count_pos hends hanswer
    have hmore := ih hcalm h
    rw [List.length_cons, accepted]
    omega

/-- While something is left to write, the answers after the last interruption are fewer than the
bytes. -/
theorem length_lt_of_leaves {answers more : List Acceptance} {bytes : Bytes}
    (h : Leaves (answers ++ more) bytes) (hmore : ∀ answer ∈ more, ¬ answer.isInterrupted) :
    more.length < bytes.length := by
  have htaken := length_le_accepted (fun answer hanswer =>
    h.hcalm answer (List.mem_append_right _ hanswer)) hmore
  have hlt := h.haccepted
  rw [accepted_append] at hlt
  omega

section Endless

variable {writes : Nat → Acceptance} {flushes : Nat → Option IoError}

/-- A sink that gives the first answers of endless schedules. -/
def beginning (writes : Nat → Acceptance) (flushes : Nat → Option IoError) (count : Nat)
    (sink : Sink) : Sink :=
  { sink with
    writes := (List.range count).map writes
    flushes := (List.range count).map flushes }

/-- Past the last interruption there is an answer for each byte, so the writes are decided. -/
theorem exists_not_leaves (h : {k | (writes k).isInterrupted}.Finite) (bytes : Bytes) :
    ∃ bound, ∀ count ≥ bound, ¬ Leaves ((List.range count).map writes) bytes := by
  obtain ⟨last, hlast⟩ := h.bddAbove
  refine ⟨last + 1 + bytes.length, fun count hcount hleaves => ?_⟩
  obtain ⟨more, rfl⟩ := Nat.exists_eq_add_of_le hcount
  -- the answers up to the last interruption, and those after it
  rw [Nat.add_assoc, List.range_add, List.map_append] at hleaves
  have hlt := length_lt_of_leaves hleaves fun answer hanswer hinterrupted => by
    obtain ⟨_, hk, rfl⟩ := List.mem_map.1 hanswer
    obtain ⟨k, -, rfl⟩ := List.mem_map.1 hk
    have hle := hlast hinterrupted
    omega
  simp only [List.length_map, List.length_range] at hlt
  omega

/-- With finitely many interruptions, some answer is none. -/
theorem exists_uninterrupted (h : {k | (flushes k).any IoError.isInterrupted}.Finite) :
    ∃ bound, ∀ count ≥ bound,
      ∃ answer ∈ (List.range count).map flushes, ¬ answer.any IoError.isInterrupted := by
  obtain ⟨last, hlast⟩ := h.bddAbove
  refine ⟨last + 2, fun count hcount => ⟨flushes (last + 1), ?_, fun hinterrupted => ?_⟩⟩
  · exact List.mem_map_of_mem (List.mem_range.2 (by omega))
  · have hle := hlast hinterrupted
    omega

/-- A send ends after finitely many answers where finitely many of all are interruptions: with these
answers it ends in some way, and whatever would be answered after them is not asked for. -/
theorem exists_decided (hwrites : {k | (writes k).isInterrupted}.Finite)
    (hflushes : {k | (flushes k).any IoError.isInterrupted}.Finite) (maxPayload : Nat)
    (payload : Bytes) (sink : Sink) :
    ∃ count outcome, ∃ after : Sink, ∀ moreWrites moreFlushes,
      ((sink.beginning writes flushes count).followedBy moreWrites moreFlushes).send
          maxPayload payload
        = (outcome, after.followedBy moreWrites moreFlushes) := by
  obtain ⟨bound, hbound⟩ := exists_not_leaves hwrites (form payload)
  obtain ⟨bound', hbound'⟩ := exists_uninterrupted hflushes
  exact ⟨bound + bound', _, _, send_followedBy (hbound _ (Nat.le_add_right ..))
    (hbound' _ (Nat.le_add_left ..)) maxPayload⟩

end Endless

/-! ## Records on a stream -/

/-- **A record is written once and whole, or a part of it from the front.** Nothing that an earlier
record left in the buffer of a writer counts. A payload over the limit is refused before the sink is
asked for anything, and so is one whose length fits no word. Otherwise the answers of the sink tell
what a send comes to; interruptions make no difference; sends that all succeed leave their records
one after another; and a send ends where finitely many answers are interruptions. -/
theorem records_are_written_whole_or_cut (maxPayload : Nat) :
    (∀ payload (writer : Writer),
      (writer.send maxPayload payload).1 = (writer.sink.send maxPayload payload).1
        ∧ (writer.send maxPayload payload).2.sink = (writer.sink.send maxPayload payload).2)
    ∧ (∀ payload (sink : Sink), maxPayload < payload.length →
      sink.send maxPayload payload = (.error (.payloadTooLarge payload.length maxPayload), sink))
    ∧ (∀ payload e (sink : Sink), payload.length ≤ maxPayload → encode payload = .error e →
      sink.send maxPayload payload = (.error e, sink))
    ∧ (∀ payload record (sink : Sink), payload.length ≤ maxPayload → encode payload = .ok record →
      ∃ part, Sends sink record part (sink.send maxPayload payload).1
        (sink.send maxPayload payload).2)
    ∧ (∀ payload (sink : Sink),
      (sink.undisturbed.send maxPayload payload).1 = (sink.send maxPayload payload).1
        ∧ (sink.undisturbed.send maxPayload payload).2.taken
          = (sink.send maxPayload payload).2.taken)
    ∧ (∀ payloads outcomes (sink after : Sink),
      sink.sendMany maxPayload payloads = (outcomes, after) →
      (∀ outcome ∈ outcomes, outcome = .ok ()) →
      ∃ records,
        List.Forall₂ (fun payload record =>
          encode payload = .ok record ∧ payload.length ≤ maxPayload) payloads records
          ∧ after.taken = sink.taken ++ records.flatten)
    ∧ ∀ (writes : Nat → Acceptance) (flushes : Nat → Option IoError),
      {k | (writes k).isInterrupted}.Finite →
      {k | (flushes k).any IoError.isInterrupted}.Finite →
      ∀ payload (sink : Sink), ∃ count outcome, ∃ after : Sink, ∀ moreWrites moreFlushes,
        ((sink.beginning writes flushes count).followedBy moreWrites moreFlushes).send
            maxPayload payload
          = (outcome, after.followedBy moreWrites moreFlushes) := by
  refine ⟨Writer.send_eq maxPayload, fun payload sink hlarge => send_of_oversize hlarge sink,
    ?_, ?_, fun payload sink => send_undisturbed maxPayload payload sink, ?_, ?_⟩
  · intro payload e sink hlimit hencode
    unfold send
    rw [encodeWithin, if_neg (Nat.not_lt.2 hlimit), hencode]
  · intro payload record sink hlimit hencode
    exact sends_of_encode hencode hlimit sink
  · intro payloads outcomes sink after hmany hok
    obtain ⟨hfits, htaken⟩ := of_sendMany_eq_ok hmany hok
    exact ⟨_, encoded_within_iff.2 ⟨hfits, rfl⟩, htaken⟩
  · intro writes flushes hwrites hflushes payload sink
    exact exists_decided hwrites hflushes maxPayload payload sink

/-- A sink that takes four bytes, is interrupted, takes two more and breaks ends the send; one that
does not break holds every record; and a payload can be within the limit and too long for a word. -/
theorem interrupted_writes_go_on :
    let record := [0x4C, 0x51, 0, 0, 0, 1, 7]
    let signal : IoError := ⟨.interrupted, "Interrupted system call"⟩
    let broken : Sink :=
      ⟨[.takes 4, .failure signal, .takes 2, .failure .brokenPipe], [], [], 0⟩
    let whole : Sink := ⟨[.takes 4, .failure signal, .takes 9], [some signal], [], 0⟩
    broken.send 4 [1, 2, 3, 4, 5] = (.error (.payloadTooLarge 5 4), broken)
      ∧ broken.send (Numeral.maxWord + 1) (List.replicate (Numeral.maxWord + 1) 0)
        = (.error (.payloadTooLarge (Numeral.maxWord + 1) Numeral.maxWord), broken)
      ∧ (Writer.send 4 [7] ⟨broken, record ++ record⟩).1 = .error (.io .brokenPipe)
      ∧ (whole.sendMany 4 [[7], [7]]).2.taken = record ++ record
      ∧ ∃ count outcome, ∃ after : Sink, ∀ moreWrites moreFlushes,
        ((whole.beginning (fun k => if k = 0 then .failure signal else .takes 1) (fun _ => none)
            count).followedBy moreWrites moreFlushes).send 4 [7]
          = (outcome, after.followedBy moreWrites moreFlushes) := by
  intro record signal broken whole
  have hencode : encode [7] = .ok record := by decide
  obtain ⟨hwriter, hlarge, -, hsends, -, hmany, hends⟩ := records_are_written_whole_or_cut 4
  refine ⟨hlarge _ broken (by decide), ?_, ?_, ?_, ?_⟩
  · have hlength : (List.replicate (Numeral.maxWord + 1) (0 : UInt8)).length
        = Numeral.maxWord + 1 := List.length_replicate
    refine (records_are_written_whole_or_cut _).2.2.1 _ _ broken (Nat.le_of_eq hlength) ?_
    rw [encode, hlength, if_pos (Nat.lt_succ_self _)]
  · obtain ⟨part, hpart⟩ := hsends [7] record broken (by decide) hencode
    have hleaves : Leaves [.takes 4, .failure signal, .takes 2] record := ⟨by decide, by decide⟩
    rw [(hwriter [7] _).1]
    exact (hpart.hfailed _).2 (.inl ⟨by decide, _, [], rfl, hleaves⟩)
  · obtain ⟨records, hrecords, htaken⟩ := hmany [[7], [7]] _ whole _ rfl (by decide)
    obtain ⟨-, rfl⟩ := encoded_within_iff.1 hrecords
    exact htaken
  · refine hends _ _ ((Set.finite_singleton 0).subset fun k hk => ?_) (by simp) [7] whole
    by_contra hne
    simp [Acceptance.isInterrupted, show k ≠ 0 from hne] at hk

end Sink

end CidrLookup.Record
