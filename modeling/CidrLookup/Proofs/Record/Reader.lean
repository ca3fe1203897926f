import CidrLookup.Proofs.Record.Form
import CidrLookup.Record.Reader
import Mathlib.Data.List.Basic

/-!
# Reading records from a stream in pieces

A stream hands over its bytes in pieces of any size, with errors and ends in between. What a call
of the reader comes to is settled by the bytes it has seen: `Settled` does not mention the stream.
Bytes and errors are conserved by every call, so the records returned are those of the bytes
delivered, whatever the pieces were.
-/

namespace CidrLookup.Record

/-! ## Streams -/

namespace Delivery

/-- The bytes that a delivery brings. -/
def chunk : Delivery → Bytes
  | bytes chunk => chunk
  | failure _ => []

/-- The error that a delivery makes a call report. An interruption is none. -/
def fault? : Delivery → Option IoError
  | bytes _ => none
  | failure e => if e.isInterrupted then none else some e

/-- Whether a call ends with the delivery, for lack of bytes or with an error. -/
def endsCall : Delivery → Bool
  | bytes chunk => chunk.isEmpty
  | failure e => ! e.isInterrupted

end Delivery

namespace Source

/-- The bytes to come. -/
def unread (source : Source) : Bytes :=
  source.pending ++ source.deliveries.flatMap Delivery.chunk

/-- The errors to come. -/
def faults (source : Source) : List IoError :=
  source.deliveries.filterMap Delivery.fault?

/-- How many deliveries to come end a call. -/
def stops (source : Source) : Nat :=
  source.deliveries.countP Delivery.endsCall

/-- What a read can come to. -/
inductive Reads (source : Source) : Except IoError Bytes → Source → Prop where
  | brought {chunk : Bytes} {next : Source} (hchunk : chunk ≠ [])
      (hunread : source.unread = chunk ++ next.unread) (hfaults : source.faults = next.faults)
      (hstops : source.stops = next.stops) : Reads source (.ok chunk) next
  /-- No bytes, though more may come. -/
  | paused {next : Source} (hunread : source.unread = next.unread)
      (hfaults : source.faults = next.faults) (hstops : source.stops = next.stops + 1) :
      Reads source (.ok []) next
  | ended (hunread : source.unread = []) : Reads source (.ok []) source
  | interrupted {e : IoError} {next : Source} (he : e.isInterrupted)
      (hunread : source.unread = next.unread) (hfaults : source.faults = next.faults)
      (hstops : source.stops = next.stops) : Reads source (.error e) next
  | failed {e : IoError} {next : Source} (he : ¬ e.isInterrupted)
      (hunread : source.unread = next.unread) (hfaults : source.faults = e :: next.faults)
      (hstops : source.stops = next.stops + 1) : Reads source (.error e) next

/-- A read brings bytes, stops the call, or finds the end. -/
theorem read_reads {size : Nat} {source next : Source} {result : Except IoError Bytes}
    (h : source.read size = (result, next)) (hsize : size ≠ 0) : source.Reads result next := by
  obtain ⟨rfl, rfl⟩ : (source.read size).1 = result ∧ (source.read size).2 = next := by simp [h]
  -- what is pending goes first; without it, the next delivery decides
  obtain ⟨_ | ⟨b, pending⟩, deliveries⟩ := source
  · match deliveries with
    | [] => exact .ended rfl
    | .bytes [] :: deliveries =>
      simp only [read, List.take_nil, List.drop_nil]
      exact .paused rfl rfl (List.countP_cons_of_pos rfl)
    | .bytes (b :: chunk) :: deliveries =>
      refine .brought (by simpa using hsize) ?_ rfl ?_
      · simp [unread, Delivery.chunk, read, ← List.append_assoc]
      · simp [stops, read, Delivery.endsCall]
    | .failure e :: deliveries =>
      by_cases he : e.isInterrupted
      · refine .interrupted he rfl ?_ ?_
        · simp [faults, read, Delivery.fault?, he]
        · simp [stops, read, Delivery.endsCall, he]
      · refine .failed he rfl ?_ ?_
        · simp [faults, read, Delivery.fault?, he]
        · simp [stops, read, Delivery.endsCall, he]
  · refine .brought (by simpa using hsize) ?_ rfl rfl
    simp [unread, read, ← List.append_assoc]

end Source

/-! ## One call -/

/-- How the bytes that a call has seen settle its outcome, with the bytes it leaves in the buffer.
An error or an end of the stream counts only where the bytes are too few to tell. -/
inductive Settled (maxPayload : Nat) (seen : Bytes) : Except FrameError Bytes → Bytes → Prop where
  | record {payload left : Bytes} (hseen : seen = form payload ++ left)
      (hfits : Fits maxPayload payload) : Settled maxPayload seen (.ok payload) left
  | malformed {e : FrameError} (h : Malformed maxPayload e seen) :
      Settled maxPayload seen (.error e) seen
  | failed {e : IoError} (hnone : decode maxPayload seen = .ok none) (he : ¬ e.isInterrupted) :
      Settled maxPayload seen (.error (.io e)) seen
  | ended (hnone : decode maxPayload seen = .ok none) :
      Settled maxPayload seen (.error .connectionClosed) seen

/-- The error of the stream that an outcome reports. -/
def fault? : Except FrameError Bytes → Option IoError
  | .error (.io e) => some e
  | _ => none

/-- What is wrong with the bytes is no fault of the stream. -/
theorem Malformed.fault?_eq_none {maxPayload : Nat} {e : FrameError} {bytes : Bytes}
    (h : Malformed maxPayload e bytes) : fault? (.error e) = none := by
  cases h <;> rfl

/-- The payloads among the outcomes of several calls. -/
def received (outcomes : List (Except FrameError Bytes)) : List Bytes :=
  outcomes.filterMap Except.toOption

/-- The errors of the stream among the outcomes of several calls. -/
def reported (outcomes : List (Except FrameError Bytes)) : List IoError :=
  outcomes.filterMap fault?

@[simp] theorem received_cons (outcome : Except FrameError Bytes)
    (outcomes : List (Except FrameError Bytes)) :
    received (outcome :: outcomes) = outcome.toOption.toList ++ received outcomes := by
  cases outcome <;> rfl

@[simp] theorem reported_cons (outcome : Except FrameError Bytes)
    (outcomes : List (Except FrameError Bytes)) :
    reported (outcome :: outcomes) = (fault? outcome).toList ++ reported outcomes := by
  unfold reported
  cases h : fault? outcome <;> simp [h]

section Settled

variable {maxPayload : Nat} {seen left : Bytes} {outcome : Except FrameError Bytes}

/-- What a call has seen is the record it returns and what it leaves. -/
theorem Settled.seen_eq (h : Settled maxPayload seen outcome left) :
    seen = outcome.toOption.toList.flatMap form ++ left := by
  cases h with
  | record hseen => simpa [Except.toOption] using hseen
  | malformed => rfl
  | failed => rfl
  | ended => rfl

/-- A record that is returned is within the limit. -/
theorem Settled.fits (h : Settled maxPayload seen outcome left) :
    ∀ payload ∈ outcome.toOption, Fits maxPayload payload := by
  cases h with
  | record _ hfits => simpa [Except.toOption] using hfits
  | malformed => nofun
  | failed => nofun
  | ended => nofun

/-- A call without a record leaves none in the buffer. -/
theorem Settled.payloads_left (h : Settled maxPayload seen outcome left)
    (hnone : outcome.toOption = none) : payloads maxPayload left = [] := by
  cases h with
  | record => contradiction
  | malformed h => exact payloads_of_malformed h
  | failed h => exact payloads_of_decode_none h
  | ended h => exact payloads_of_decode_none h

/-- No call ends with an interruption. -/
theorem Settled.not_interrupted (h : Settled maxPayload seen outcome left) :
    ∀ e ∈ fault? outcome, ¬ e.isInterrupted := by
  cases h with
  | record => nofun
  | malformed h => simp [h.fault?_eq_none]
  | failed _ he => simpa [fault?] using he
  | ended => nofun

end Settled

namespace Reader

/-- What a call of the reader comes to. It has read some bytes more; a call without a record has
used up a delivery that ends a call, or there is no record to come. -/
structure Call (reader : Reader) (source : Source) (read : Bytes)
    (outcome : Except FrameError Bytes) (reader' : Reader) (source' : Source) : Prop where
  hread : source.unread = read ++ source'.unread
  hsettled : Settled reader.maxPayload (reader.buffer ++ read) outcome reader'.buffer
  hlimit : reader'.maxPayload = reader.maxPayload
  hfaults : source.faults = (fault? outcome).toList ++ source'.faults
  hstops : source'.stops ≤ source.stops
  hprogress : outcome.toOption = none → source'.stops < source.stops
    ∨ payloads reader.maxPayload (reader'.buffer ++ source'.unread) = []

variable {reader reader' : Reader} {source source' : Source} {read : Bytes}
  {outcome : Except FrameError Bytes}

/-- A call that reads a piece first goes on like one with the piece in its buffer. -/
theorem Call.after_read {chunk : Bytes} {next : Source}
    (h : Call { reader with buffer := reader.buffer ++ chunk } next read outcome reader' source')
    (hunread : source.unread = chunk ++ next.unread) (hfaults : source.faults = next.faults)
    (hstops : source.stops = next.stops) :
    Call reader source (chunk ++ read) outcome reader' source' where
  hread := by rw [hunread, h.hread, List.append_assoc]
  hsettled := by
    rw [← List.append_assoc]
    exact h.hsettled
  hlimit := h.hlimit
  hfaults := hfaults.trans h.hfaults
  hstops := hstops ▸ h.hstops
  hprogress := hstops ▸ h.hprogress

/-- A call that ends where the buffer settles the outcome has read nothing. -/
theorem Call.at_once {left : Bytes} (h : Settled reader.maxPayload reader.buffer outcome left)
    (hfault : fault? outcome = none)
    (hnone : outcome.toOption = none → payloads reader.maxPayload (left ++ source.unread) = []) :
    Call reader source [] outcome { reader with buffer := left } source where
  hread := rfl
  hsettled := by rwa [List.append_nil]
  hlimit := rfl
  hfaults := by simp [hfault]
  hstops := Nat.le_refl _
  hprogress hout := .inr (hnone hout)

/-- A call that ends with a delivery leaves the buffer as it is. -/
theorem Call.stopped (h : Settled reader.maxPayload reader.buffer outcome reader.buffer)
    (hunread : source.unread = source'.unread)
    (hfaults : source.faults = (fault? outcome).toList ++ source'.faults)
    (hstops : source.stops = source'.stops + 1) :
    Call reader source [] outcome reader source' where
  hread := hunread
  hsettled := by rwa [List.append_nil]
  hlimit := rfl
  hfaults := hfaults
  hstops := by omega
  hprogress _ := .inl (by omega)

/-- How a call of the reader goes, read by read. -/
inductive Goes : Reader → Source → Except FrameError Bytes → Reader → Source → Prop where
  /-- What is in the buffer begins no record. -/
  | malformed {reader : Reader} {source : Source} {e : FrameError}
      (h : decode reader.maxPayload reader.buffer = .error e) :
      Goes reader source (.error e) reader source
  /-- A record is there. -/
  | record {reader : Reader} {source : Source} {payload rest : Bytes}
      (h : decode reader.maxPayload reader.buffer = .ok (some (payload, rest))) :
      Goes reader source (.ok payload) { reader with buffer := rest } source
  /-- A read is interrupted, and made again. -/
  | interrupted {reader reader' : Reader} {source next source' : Source} {e : IoError}
      {outcome : Except FrameError Bytes}
      (hnone : decode reader.maxPayload reader.buffer = .ok none)
      (hread : source.read readSize = (.error e, next)) (he : e.isInterrupted)
      (hmore : Goes reader next outcome reader' source') :
      Goes reader source outcome reader' source'
  /-- A read fails. -/
  | failed {reader : Reader} {source next : Source} {e : IoError}
      (hnone : decode reader.maxPayload reader.buffer = .ok none)
      (hread : source.read readSize = (.error e, next)) (he : ¬ e.isInterrupted) :
      Goes reader source (.error (.io e)) reader next
  /-- A read brings nothing. -/
  | ended {reader : Reader} {source next : Source}
      (hnone : decode reader.maxPayload reader.buffer = .ok none)
      (hread : source.read readSize = (.ok [], next)) :
      Goes reader source (.error .connectionClosed) reader next
  /-- A read brings bytes, and the reader looks again. -/
  | brought {reader reader' : Reader} {source next source' : Source} {b : UInt8} {chunk : Bytes}
      {outcome : Except FrameError Bytes}
      (hnone : decode reader.maxPayload reader.buffer = .ok none)
      (hread : source.read readSize = (.ok (b :: chunk), next))
      (hmore : Goes { reader with buffer := reader.buffer ++ b :: chunk } next outcome reader'
        source') :
      Goes reader source outcome reader' source'

/-- Every call goes read by read. -/
theorem next_goes (reader : Reader) (source : Source) :
    Goes reader source (reader.next source).1 (reader.next source).2.1
      (reader.next source).2.2 := by
  fun_induction next reader source
  · exact .malformed ‹_›
  · exact .record ‹_›
  · exact .interrupted ‹_› ‹_› ‹_› ‹_›
  · exact .failed ‹_› ‹_› ‹_›
  · exact .ended ‹_› ‹_›
  · exact .brought ‹_› ‹_› ‹_›

/-- **A call.** Whatever the stream brings, a call ends as `Call` says. -/
theorem next_call (reader : Reader) (source : Source) :
    ∃ read, Call reader source read (reader.next source).1 (reader.next source).2.1
      (reader.next source).2.2 := by
  have hgoes := next_goes reader source
  generalize (reader.next source).1 = outcome at hgoes ⊢
  generalize (reader.next source).2.1 = reader' at hgoes ⊢
  generalize (reader.next source).2.2 = source' at hgoes ⊢
  -- by what the call does: at each read, what the source had to bring becomes what the reader has
  -- seen
  induction hgoes with
  | malformed h =>
    have hmalformed := decode_eq_error_iff.1 h
    refine ⟨[], .at_once (.malformed hmalformed) hmalformed.fault?_eq_none fun _ => ?_⟩
    exact payloads_of_malformed (hmalformed.append _)
  | record h =>
    obtain ⟨hbuffer, hfits⟩ := decode_eq_record_iff.1 h
    exact ⟨[], .at_once (.record hbuffer hfits) rfl nofun⟩
  | interrupted hnone hread he _ ih =>
    obtain ⟨read, hcall⟩ := ih
    cases Source.read_reads hread (by decide) with
    | interrupted _ hunread hfaults hstops =>
      refine ⟨[] ++ read, .after_read ?_ hunread hfaults hstops⟩
      simpa using hcall
    | failed hnot => exact absurd he hnot
  | failed hnone hread he =>
    cases Source.read_reads hread (by decide) with
    | interrupted hinterrupted => exact absurd hinterrupted he
    | failed _ hunread hfaults hstops =>
      exact ⟨[], .stopped (.failed hnone he) hunread hfaults hstops⟩
  | ended hnone hread =>
    cases Source.read_reads hread (by decide) with
    | brought hchunk => contradiction
    | paused hunread hfaults hstops => exact ⟨[], .stopped (.ended hnone) hunread hfaults hstops⟩
    | ended hunread =>
      refine ⟨[], .at_once (.ended hnone) rfl fun _ => ?_⟩
      rw [hunread, List.append_nil]
      exact payloads_of_decode_none hnone
  | brought hnone hread _ ih =>
    obtain ⟨read, hcall⟩ := ih
    cases Source.read_reads hread (by decide) with
    | brought _ hunread hfaults hstops => exact ⟨_, hcall.after_read hunread hfaults hstops⟩

/-! ## Several calls -/

/-- The records that a reader has to return, from its buffer and from the stream. -/
def toCome (reader : Reader) (source : Source) : List Bytes :=
  payloads reader.maxPayload (reader.buffer ++ source.unread)

/-- A call takes what it returns from what is to come. -/
theorem Call.toCome_eq (h : Call reader source read outcome reader' source') :
    reader.toCome source = outcome.toOption.toList ++ reader'.toCome source' := by
  have hfits : ∀ payload ∈ outcome.toOption.toList, Fits reader.maxPayload payload := by
    simpa using h.hsettled.fits
  rw [toCome, toCome, h.hread, ← List.append_assoc, h.hsettled.seen_eq, List.append_assoc,
    payloads_flatMap_form_append hfits, h.hlimit]

/-- What several calls come to, `read` being what they have read. -/
structure Calls (reader : Reader) (source : Source) (read : Bytes)
    (outcomes : List (Except FrameError Bytes)) (reader' : Reader) (source' : Source) : Prop where
  hread : source.unread = read ++ source'.unread
  hseen : reader.buffer ++ read = (received outcomes).flatMap form ++ reader'.buffer
  hfits : ∀ payload ∈ received outcomes, Fits reader.maxPayload payload
  hlimit : reader'.maxPayload = reader.maxPayload
  hfaults : source.faults = reported outcomes ++ source'.faults
  hinterrupted : ∀ e ∈ reported outcomes, ¬ e.isInterrupted
  hlast : ∀ e, outcomes.getLast? = some (.error e) → payloads reader.maxPayload reader'.buffer = []

/-- Several calls are one call after the other. -/
theorem nextMany_calls (reader : Reader) (source : Source) (count : Nat) :
    ∃ read, Calls reader source read (reader.nextMany source count).1
      (reader.nextMany source count).2.1 (reader.nextMany source count).2.2 := by
  induction count generalizing reader source with
  | zero => exact ⟨[], rfl, by simp [nextMany, received], nofun, rfl, rfl, nofun, nofun⟩
  | succ count ih =>
    obtain ⟨first, hcall⟩ := next_call reader source
    obtain ⟨rest, hrest⟩ := ih (reader.next source).2.1 (reader.next source).2.2
    refine ⟨first ++ rest, ?_, ?_, ?_, ?_, ?_, ?_, ?_⟩
    · rw [hcall.hread, hrest.hread, List.append_assoc]
      rfl
    · rw [← List.append_assoc, hcall.hsettled.seen_eq, List.append_assoc, hrest.hseen]
      simp [nextMany]
    · intro payload hpayload
      simp only [nextMany, received_cons, List.mem_append, Option.mem_toList] at hpayload
      rcases hpayload with hfirst | hmore
      · exact hcall.hsettled.fits payload hfirst
      · exact hcall.hlimit ▸ hrest.hfits payload hmore
    · exact hrest.hlimit.trans hcall.hlimit
    · rw [hcall.hfaults, hrest.hfaults]
      simp [nextMany]
    · intro e he
      simp only [nextMany, reported_cons, List.mem_append, Option.mem_toList] at he
      rcases he with hfirst | hmore
      · exact hcall.hsettled.not_interrupted e hfirst
      · exact hrest.hinterrupted e hmore
    · intro e he
      -- the last of several calls is the first where there are no others
      cases count with
      | zero =>
        simp only [nextMany, List.getLast?_singleton, Option.some.injEq] at he
        exact hcall.hsettled.payloads_left (by rw [he]; rfl)
      | succ count =>
        rw [← hcall.hlimit]
        exact hrest.hlast e (by simpa [nextMany] using he)

/-- Several calls take what they return from what is to come. -/
theorem Calls.toCome_eq {outcomes : List (Except FrameError Bytes)}
    (h : Calls reader source read outcomes reader' source') :
    reader.toCome source = received outcomes ++ reader'.toCome source' := by
  rw [toCome, toCome, h.hread, ← List.append_assoc, h.hseen, List.append_assoc,
    payloads_flatMap_form_append h.hfits, h.hlimit]

/-- With more calls than records and deliveries that end a call, every record is returned. -/
theorem toCome_nextMany_eq_nil {count : Nat}
    (h : source.stops + (reader.toCome source).length < count) :
    (reader.nextMany source count).2.1.toCome (reader.nextMany source count).2.2 = [] := by
  -- each call that returns no record uses up a stop or finds that nothing is to come
  induction count generalizing reader source with
  | zero => omega
  | succ count ih =>
    obtain ⟨read, hcall⟩ := next_call reader source
    have htoCome := hcall.toCome_eq
    have hstops := hcall.hstops
    show ((reader.next source).2.1.nextMany (reader.next source).2.2 count).2.1.toCome _ = []
    cases hout : (reader.next source).1.toOption with
    | some payload =>
      apply ih
      rw [hout] at htoCome
      simp only [htoCome, Option.toList_some, List.length_append, List.length_singleton] at h
      omega
    | none =>
      rw [hout] at htoCome
      simp only [Option.toList_none, List.nil_append] at htoCome
      rcases hcall.hprogress hout with hless | hnil
      · apply ih
        rw [htoCome] at h
        omega
      · -- there was nothing to come already, so later calls return nothing
        obtain ⟨rest, hrest⟩ :=
          nextMany_calls (reader.next source).2.1 (reader.next source).2.2 count
        have hnil' : (reader.next source).2.1.toCome (reader.next source).2.2 = [] := by
          rw [toCome, hcall.hlimit, hnil]
        exact (List.append_eq_nil_iff.1 (hrest.toCome_eq.symm.trans hnil')).2

/-- A malformed header at the front is reported by every call, and nothing is read. -/
theorem nextMany_of_malformed {e : FrameError} (h : Malformed reader.maxPayload e reader.buffer)
    (source : Source) (count : Nat) :
    reader.nextMany source count = (List.replicate count (.error e), reader, source) := by
  have hnext : reader.next source = (.error e, reader, source) := by
    rw [next, decode_eq_error_iff.2 h]
  induction count with
  | zero => rfl
  | succ count ih =>
    rw [nextMany, hnext]
    simp only [ih, List.replicate_succ]

end Reader

/-- **Records do not depend on how the stream is cut.** After any number of calls the bytes
delivered are the records returned and what the reader keeps, and with the bytes to come they are
those of the stream. The records returned are the first of those that the stream says, all of them
that were delivered where the last call returned none, and all that there are after enough calls.
The errors reported are those of the stream in order, without the interruptions. Once the kept bytes
start with a malformed header, every call reports it and reads nothing. -/
theorem records_follow_bytes (maxPayload : Nat) (script : List Delivery) (count : Nat) :
    let bytes := script.flatMap Delivery.chunk
    let after := (Reader.new maxPayload).nextMany (.ofDeliveries script) count
    let outcomes := after.1
    let reader := after.2.1
    let source := after.2.2
    (∃ delivered, bytes = delivered ++ source.unread
        ∧ delivered = (received outcomes).flatMap form ++ reader.buffer
        ∧ payloads maxPayload delivered
          = received outcomes ++ payloads maxPayload reader.buffer
        ∧ ∀ e, outcomes.getLast? = some (.error e) →
            received outcomes = payloads maxPayload delivered)
      ∧ payloads maxPayload bytes
        = received outcomes ++ payloads maxPayload (reader.buffer ++ source.unread)
      ∧ (script.countP Delivery.endsCall + (payloads maxPayload bytes).length < count →
          received outcomes = payloads maxPayload bytes)
      ∧ script.filterMap Delivery.fault? = reported outcomes ++ source.faults
      ∧ (∀ e, .error (.io e) ∈ outcomes → ¬ e.isInterrupted)
      ∧ ∀ e, Malformed maxPayload e reader.buffer → ∀ more,
          reader.nextMany source more = (List.replicate more (.error e), reader, source) := by
  intro bytes after outcomes reader source
  obtain ⟨delivered, hcalls⟩ :=
    Reader.nextMany_calls (Reader.new maxPayload) (.ofDeliveries script) count
  have hall : payloads maxPayload bytes
      = received outcomes ++ payloads maxPayload (reader.buffer ++ source.unread) := by
    have htoCome := hcalls.toCome_eq
    rwa [Reader.toCome, Reader.toCome, hcalls.hlimit] at htoCome
  have hfits : ∀ payload ∈ received outcomes, Fits maxPayload payload := hcalls.hfits
  have hseen : delivered = (received outcomes).flatMap form ++ reader.buffer := hcalls.hseen
  have hdelivered : payloads maxPayload delivered
      = received outcomes ++ payloads maxPayload reader.buffer := by
    rw [hseen, payloads_flatMap_form_append hfits]
  refine ⟨⟨delivered, hcalls.hread, hseen, hdelivered, ?_⟩, hall, ?_, hcalls.hfaults, ?_, ?_⟩
  · intro e he
    have hnone : payloads maxPayload reader.buffer = [] := hcalls.hlast e he
    rw [hdelivered, hnone, List.append_nil]
  · intro hcount
    have hnone : reader.toCome source = [] := Reader.toCome_nextMany_eq_nil hcount
    rw [Reader.toCome, hcalls.hlimit] at hnone
    have hnone' : payloads maxPayload (reader.buffer ++ source.unread) = [] := hnone
    rw [hall, hnone', List.append_nil]
  · intro e he
    apply hcalls.hinterrupted
    exact List.mem_filterMap.2 ⟨_, he, rfl⟩
  · intro e he
    apply Reader.nextMany_of_malformed
    have hlimit : reader.maxPayload = maxPayload := hcalls.hlimit
    rwa [hlimit]

/-- Two records arrive in pieces that end inside a header and inside a payload, with an
interruption, a timeout and an end of the stream in between; six calls return both. -/
theorem cut_records_are_returned :
    let script := [.bytes [0x4C], .failure ⟨.interrupted, ""⟩, .bytes [0x51, 0, 0],
      .failure .wouldBlock, .bytes [0, 2, 7], .bytes [], .bytes [8, 0x4C, 0x51, 0, 0, 0, 1, 9]]
    payloads 16 (script.flatMap Delivery.chunk) = [[7, 8], [9]]
      ∧ script.countP Delivery.endsCall + 2 < 6
      ∧ received ((Reader.new 16).nextMany (.ofDeliveries script) 6).1 = [[7, 8], [9]] := by
  intro script
  have hfits : ∀ payload ∈ [[7, 8], [9]], Fits 16 payload := by
    intro payload hpayload
    rcases List.mem_pair.1 hpayload with rfl | rfl <;> exact ⟨by decide, by decide⟩
  have hpayloads : payloads 16 (script.flatMap Delivery.chunk) = [[7, 8], [9]] := by
    have hforms := payloads_flatMap_form_append hfits []
    have hnone : decode 16 [] = .ok none := rfl
    rwa [payloads_of_decode_none hnone] at hforms
  have hstops : script.countP Delivery.endsCall + 2 < 6 := by decide
  refine ⟨hpayloads, hstops, ?_⟩
  have hall := (records_follow_bytes 16 script 6).2.2.1
  rw [hpayloads] at hall
  exact hall hstops

end CidrLookup.Record
