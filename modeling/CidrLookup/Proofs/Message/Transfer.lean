import CidrLookup.Proofs.Message.Decode
import CidrLookup.Proofs.Record.Reader
import CidrLookup.Proofs.Record.Writer
import Mathlib.Data.List.Forall2

/-!
# From one end of a stream to the other

Messages are encoded, written as records to a sink that takes them in pieces, cut in other pieces on
the way, read as records and decoded, all under one limit. `Reader.Holds` is what a reader and its
stream hold between them while nothing but whole records is on the way; a call takes the first of
them off. The limits of the writer, of the reader and on the texts in a message are met together: a
message passes whole, or it is refused where it would be written.
-/

namespace CidrLookup

namespace Record

/-- A source that never stops a call has no faults. -/
theorem Source.faults_eq_nil {source : Source} (h : source.stops = 0) : source.faults = [] := by
  refine List.filterMap_eq_nil_iff.2 fun delivery hmem => ?_
  have hgoes := List.countP_eq_zero.1 h delivery hmem
  cases delivery with
  | bytes chunk => rfl
  | failure e =>
    have he : e.isInterrupted := by simpa [Delivery.endsCall] using hgoes
    exact if_pos he

theorem received_append (front back : List (Except FrameError Bytes)) :
    received (front ++ back) = received front ++ received back :=
  List.filterMap_append

theorem received_map_ok (records : List Bytes) : received (records.map .ok) = records := by
  rw [received, List.filterMap_map]
  exact List.filterMap_some

/-- Errors bring no records. -/
theorem received_replicate_error (count : Nat) (e : FrameError) :
    received (List.replicate count (.error e)) = [] := by
  simp [received, Except.toOption]

/-- With nothing at hand, a call that meets no fault finds the stream closed. -/
theorem Settled.closed {maxPayload : Nat} {outcome : Except FrameError Bytes} {left : Bytes}
    (h : Settled maxPayload [] outcome left) (hfault : fault? outcome = none) :
    outcome = .error .connectionClosed := by
  cases h with
  | record hseen => simp [form, magic] at hseen
  | malformed h => cases h
  | failed => contradiction
  | ended => rfl

namespace Reader

/-! ## Whole records on the way -/

/-- A reader and its stream hold some records and nothing else, and no delivery ends a call before
the end of the stream. -/
structure Holds (reader : Reader) (source : Source) (records : List Bytes) : Prop where
  hbytes : reader.buffer ++ source.unread = records.flatMap form
  hfits : ∀ payload ∈ records, Fits reader.maxPayload payload
  hstops : source.stops = 0

variable {reader reader' : Reader} {source source' : Source} {read payload : Bytes}
  {records : List Bytes} {outcome : Except FrameError Bytes}

/-- What is still to come is what the source holds. -/
theorem Holds.toCome_eq (h : Holds reader source records) : reader.toCome source = records := by
  have hforms := payloads_flatMap_form_append h.hfits []
  have hnone : decode reader.maxPayload [] = .ok none := rfl
  rw [toCome, h.hbytes]
  rwa [payloads_of_decode_none hnone, List.append_nil, List.append_nil] at hforms

/-- What a call returns and leaves are the bytes that there were. -/
theorem Call.bytes_eq (h : Call reader source read outcome reader' source') :
    reader.buffer ++ source.unread
      = outcome.toOption.toList.flatMap form ++ (reader'.buffer ++ source'.unread) := by
  rw [h.hread, ← List.append_assoc, h.hsettled.seen_eq, List.append_assoc]

/-- While a record is on the way, a call returns it. -/
theorem Holds.next_cons (h : Holds reader source (payload :: records)) :
    ∃ reader' source', reader.next source = (.ok payload, reader', source')
      ∧ Holds reader' source' records := by
  obtain ⟨read, hcall⟩ := next_call reader source
  rcases hnext : reader.next source with ⟨outcome, reader', source'⟩
  rw [hnext] at hcall
  have hstops : source'.stops = 0 := Nat.le_zero.1 (h.hstops ▸ hcall.hstops)
  have htoCome := hcall.toCome_eq
  rw [h.toCome_eq] at htoCome
  cases outcome with
  | error e =>
    -- a call without a record uses up a delivery that ends it, or leaves none to come
    rcases hcall.hprogress rfl with hless | hnil
    · rw [h.hstops] at hless
      contradiction
    · rw [toCome, hcall.hlimit, hnil] at htoCome
      contradiction
  | ok found =>
    obtain ⟨rfl, -⟩ := List.cons.inj htoCome
    have hbytes := hcall.bytes_eq
    rw [h.hbytes] at hbytes
    have hleft : reader'.buffer ++ source'.unread = records.flatMap form :=
      (List.append_cancel_left (hbytes.trans (by simp [Except.toOption]))).symm
    refine ⟨reader', source', rfl, hleft, ?_, hstops⟩
    rw [hcall.hlimit]
    exact fun p hp => h.hfits p (List.mem_cons_of_mem _ hp)

/-- Once no record is on the way, a call finds the stream at its end. -/
theorem Holds.next_nil (h : Holds reader source []) :
    ∃ reader' source', reader.next source = (.error .connectionClosed, reader', source')
      ∧ Holds reader' source' [] := by
  obtain ⟨read, hcall⟩ := next_call reader source
  rcases hnext : reader.next source with ⟨outcome, reader', source'⟩
  rw [hnext] at hcall
  -- nothing is held, so nothing is read, and with no fault either the stream is at its end
  obtain ⟨hbuffer, hunread⟩ := List.append_eq_nil_iff.1 h.hbytes
  have hread : read = [] := (List.append_eq_nil_iff.1 (hcall.hread.symm.trans hunread)).1
  have hfault : fault? outcome = none := by
    have hfaults := hcall.hfaults
    rw [Source.faults_eq_nil h.hstops] at hfaults
    exact Option.toList_eq_nil_iff.1 (List.append_eq_nil_iff.1 hfaults.symm).1
  have hsettled := hcall.hsettled
  rw [hbuffer, hread, List.append_nil] at hsettled
  obtain rfl : outcome = .error .connectionClosed := hsettled.closed hfault
  refine ⟨reader', source', rfl, ?_, nofun, Nat.le_zero.1 (h.hstops ▸ hcall.hstops)⟩
  exact hcall.bytes_eq.symm.trans h.hbytes

/-- Calls return the records on the way, and then each of them finds the end. -/
theorem Holds.nextMany (h : Holds reader source records) (count : Nat) :
    (reader.nextMany source (records.length + count)).1
      = records.map .ok ++ List.replicate count (.error .connectionClosed) := by
  -- one call for each record, and then the end of the stream, as often as it is asked for
  induction records generalizing reader source with
  | nil =>
    rw [List.length_nil, Nat.zero_add]
    induction count generalizing reader source with
    | zero => rfl
    | succ count ih =>
      obtain ⟨reader', source', hnext, hheld⟩ := h.next_nil
      rw [Reader.nextMany, hnext]
      simpa [List.replicate_succ] using ih hheld
  | cons payload records ih =>
    obtain ⟨reader', source', hnext, hheld⟩ := h.next_cons
    rw [List.length_cons, Nat.add_right_comm, Reader.nextMany, hnext]
    simpa using ih hheld

end Reader

end Record

namespace Message

open Record (Reader Source Sink Delivery)

/-! ## Messages -/

/-- What a message is encoded to within a limit is decoded to it under the limit. -/
theorem decode_of_encode {limit : Nat} {message : Message} {frame : Bytes}
    (hencode : message.encode = .ok frame) (hframe : frame.length ≤ limit)
    (hlimit : limit ≤ Numeral.maxWord)
    (hmask : ∀ address range, message = .found address range → range.maskLen ≤ 32) :
    Message.decode limit frame = .ok message := by
  obtain ⟨⟨hnul, hpairs⟩, rfl⟩ := encode_eq_ok_iff.1 hencode
  refine decode_eq_ok_iff.2 ⟨⟨fun text htext => ⟨hnul text htext, ?_⟩, hpairs, hmask⟩, rfl⟩
  have hlt : text.utf8ByteSize < message.form.length := size_lt_of_mem_texts htext
  have hword : Numeral.maxWord ≤ Numeral.maxLong := by decide
  exact (Wire.lt_scanWindow_iff (by omega)).2 (by omega)

/-- A message with its encoding, which is within the limit. -/
def Sendable (limit : Nat) (message : Message) (frame : Bytes) : Prop :=
  message.encode = .ok frame ∧ frame.length ≤ limit

/-- Frames of messages are decoded to the messages, in order. -/
theorem map_decode_of_sendable {limit : Nat} {messages : List Message} {frames : List Bytes}
    (h : List.Forall₂ (Sendable limit) messages frames) (hlimit : limit ≤ Numeral.maxWord)
    (hmask : ∀ address range, .found address range ∈ messages → range.maskLen ≤ 32) :
    frames.map (Message.decode limit) = messages.map .ok := by
  induction h with
  | nil => rfl
  | @cons message frame messages frames hfirst _ ih =>
    have hdecode : Message.decode limit frame = .ok message :=
      decode_of_encode hfirst.1 hfirst.2 hlimit fun address range heq =>
        hmask address range (heq ▸ List.mem_cons_self)
    have hrest := ih fun address range hmem => hmask address range (List.mem_cons_of_mem _ hmem)
    rw [List.map_cons, List.map_cons, hdecode, hrest]

/-- Frames of messages fit the limit. -/
theorem fits_of_sendable {limit : Nat} {messages : List Message} {frames : List Bytes}
    (h : List.Forall₂ (Sendable limit) messages frames) (hlimit : limit ≤ Numeral.maxWord) :
    ∀ frame ∈ frames, Record.Fits limit frame := by
  induction h with
  | nil => nofun
  | cons hfirst _ ih =>
    exact List.forall_mem_cons.2 ⟨⟨hfirst.2, Nat.le_trans hfirst.2 hlimit⟩, ih⟩

/-- **The limits agree from end to end.** Under one limit that a length field can hold, messages are
encoded to at most so many bytes each and sent to a sink that takes what it likes of each write,
with interruptions: every send succeeds. However the bytes that the sink holds are cut, again with
interruptions, the calls of a reader return the encodings in order, which are decoded to the
messages, and every later call finds the end of the stream. A message that is encoded to more bytes
than the limit is refused, and the sink is left as it was. -/
theorem messages_pass_whole {limit : Nat} (hlimit : limit ≤ Numeral.maxWord)
    {messages : List Message} {frames : List Bytes}
    (hmessages : List.Forall₂ (Sendable limit) messages frames)
    (hmask : ∀ address range, .found address range ∈ messages → range.maskLen ≤ 32)
    {sink : Sink} (hsink : sink.Steady) (hempty : sink.taken = []) :
    let sent := sink.sendMany limit frames
    sent.1 = messages.map (fun _ => .ok ())
      ∧ (∀ script : List Delivery, (∀ delivery ∈ script, ¬ delivery.endsCall) →
          script.flatMap Delivery.chunk = sent.2.taken → ∀ count,
          let outcomes := ((Reader.new limit).nextMany (.ofDeliveries script)
            (messages.length + count)).1
          outcomes = frames.map .ok ++ List.replicate count (.error .connectionClosed)
            ∧ (Record.received outcomes).map (Message.decode limit) = messages.map .ok)
      ∧ ∀ (sink : Sink) (message : Message) (frame : Bytes), message.encode = .ok frame →
          limit < frame.length →
          sink.send limit frame = (.error (.payloadTooLarge frame.length limit), sink) := by
  intro sent
  have hfits : ∀ frame ∈ frames, Record.Fits limit frame := fits_of_sendable hmessages hlimit
  have hlength : messages.length = frames.length := hmessages.length_eq
  -- the sink holds the records of the frames, which is all that a reader is told of the sender
  obtain ⟨sink', hmany, -, htaken⟩ := hsink.sendMany hfits
  have hsent : sent = (frames.map fun _ => .ok (), sink') := hmany
  refine ⟨?_, ?_, fun sink _ _ _ hlong => Sink.send_of_oversize hlong sink⟩
  · rw [hsent, List.map_const', List.map_const', hlength]
  · intro script hscript hbytes count outcomes
    rw [hsent, htaken, hempty, List.nil_append] at hbytes
    have hheld : Reader.Holds (Reader.new limit) (.ofDeliveries script) frames :=
      ⟨hbytes, hfits, List.countP_eq_zero.2 hscript⟩
    have hall : outcomes = frames.map .ok ++ List.replicate count (.error .connectionClosed) := by
      show ((Reader.new limit).nextMany (.ofDeliveries script) (messages.length + count)).1 = _
      rw [hlength, hheld.nextMany count]
    refine ⟨hall, ?_⟩
    have hreceived : Record.received outcomes = frames := by
      rw [hall, Record.received_append, Record.received_map_ok, Record.received_replicate_error,
        List.append_nil]
    rw [hreceived]
    exact map_decode_of_sendable hmessages hlimit hmask

/-- Two messages under the least limit for them: writes cut short and interrupted, then pieces that
end inside a header and between the records. -/
theorem two_messages_pass_whole :
    let messages : List Message := [.notFound ⟨0x0A000001⟩, .request ⟨0x0A000001⟩ []]
    let frames : List Bytes := [[1, 4, 10, 0, 0, 1], [1, 2, 10, 0, 0, 1, 0]]
    let sink : Sink := ⟨[.takes 3, .failure ⟨.interrupted, ""⟩, .takes 9, .takes 1],
      [some ⟨.interrupted, ""⟩], [], 0⟩
    let script : List Delivery := [.bytes [0x4C, 0x51, 0], .failure ⟨.interrupted, ""⟩,
      .bytes [0, 0, 6, 1, 4, 10, 0, 0, 1], .bytes [0x4C, 0x51, 0, 0, 0, 7, 1, 2, 10, 0, 0, 1, 0]]
    List.Forall₂ (Sendable 7) messages frames
      ∧ (sink.sendMany 7 frames).1 = [.ok (), .ok ()]
      ∧ ((Reader.new 7).nextMany (.ofDeliveries script) 3).1
        = [.ok [1, 4, 10, 0, 0, 1], .ok [1, 2, 10, 0, 0, 1, 0], .error .connectionClosed]
      ∧ sink.send 7 [1, 1, 104, 105, 106, 107, 108, 0]
        = (.error (.payloadTooLarge 8 7), sink) := by
  intro messages frames sink script
  have hsendable : List.Forall₂ (Sendable 7) messages frames :=
    .cons ⟨by rfl, by decide⟩ (.cons ⟨by rfl, by decide⟩ .nil)
  have hmask : ∀ address range, .found address range ∈ messages → range.maskLen ≤ 32 := by
    simp [messages]
  have hsteady : sink.Steady := ⟨by decide, by simp [sink, IoError.isInterrupted]⟩
  obtain ⟨hsent, hread, hrefused⟩ :=
    messages_pass_whole (by decide) hsendable hmask hsteady rfl
  refine ⟨hsendable, hsent, (hread script (by decide) (by rfl) 1).1, ?_⟩
  exact hrefused sink (.identify "hijkl") _ (by rfl) (by decide)

end Message

end CidrLookup
