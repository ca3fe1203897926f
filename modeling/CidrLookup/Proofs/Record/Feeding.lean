import CidrLookup.Proofs.Record.Buffer
import CidrLookup.Proofs.Record.Reader
import CidrLookup.Proofs.Record.Sending

/-!
# Feeding and reading

There are two ways to get the records of a stream. A caller that is fed its bytes keeps a buffer,
adds each piece to it and takes off records until a call waits; a caller with a reader asks for one
record after another, and the reader fetches what it needs. `codec_and_reader_agree` says that both
find the same. What they find is settled by the bytes alone: `Means` is what some bytes say, and
each side comes to it by an induction of its own, over the pieces (`feed_means`) and over the
records (`nextMany_of_means`).
-/

namespace CidrLookup.Record

/-! ## What bytes say -/

/-- Bytes at which the records end: the start of one that is not there yet, or a header that starts
none. -/
inductive BreaksOff (maxPayload : Nat) : Option FrameError → Bytes → Prop where
  | wait {rest : Bytes} (h : Unfinished maxPayload rest) : BreaksOff maxPayload none rest
  | fault {e : FrameError} {rest : Bytes} (h : Malformed maxPayload e rest) :
      BreaksOff maxPayload (some e) rest

/-- What some bytes say: records that fit, and then bytes that are none. -/
structure Means (maxPayload : Nat) (bytes : Bytes) (records : List Bytes)
    (fault : Option FrameError) (rest : Bytes) : Prop where
  hbytes : bytes = records.flatMap form ++ rest
  hfits : ∀ payload ∈ records, Fits maxPayload payload
  hrest : BreaksOff maxPayload fault rest

section Means

variable {maxPayload : Nat} {bytes rest : Bytes} {records : List Bytes}
  {fault : Option FrameError}

/-- Where bytes break off, the decoder says the same of them. -/
theorem BreaksOff.decode_eq (h : BreaksOff maxPayload fault rest) :
    decode maxPayload rest = fault.elim (.ok none) .error := by
  cases h with
  | wait h => exact decode_eq_none_iff.2 h
  | fault h => exact decode_eq_error_iff.2 h

/-- Bytes that follow a header without a record leave it as it is. -/
theorem BreaksOff.append {e : FrameError} (h : BreaksOff maxPayload (some e) rest) (more : Bytes) :
    BreaksOff maxPayload (some e) (rest ++ more) := by
  cases h with
  | fault h => exact .fault (h.append more)

/-- Bytes that break off with a fault are malformed. -/
theorem BreaksOff.malformed {e : FrameError} (h : BreaksOff maxPayload (some e) rest) :
    Malformed maxPayload e rest := by
  cases h with
  | fault h => exact h

/-- Bytes that break off without a fault are unfinished. -/
theorem BreaksOff.unfinished (h : BreaksOff maxPayload none rest) : Unfinished maxPayload rest := by
  cases h with
  | wait h => exact h

/-- Bytes that break off at once have no records. -/
theorem BreaksOff.means (h : BreaksOff maxPayload fault rest) :
    Means maxPayload rest [] fault rest :=
  ⟨rfl, nofun, h⟩

/-- Records in front of bytes are said before what these say. -/
theorem Means.append {front : List Bytes} (hfront : ∀ payload ∈ front, Fits maxPayload payload)
    (h : Means maxPayload bytes records fault rest) :
    Means maxPayload (front.flatMap form ++ bytes) (front ++ records) fault rest := by
  refine ⟨?_, List.forall_mem_append.2 ⟨hfront, h.hfits⟩, h.hrest⟩
  rw [List.flatMap_append, List.append_assoc, ← h.hbytes]

/-- The decoder takes the first record of what bytes mean. -/
theorem Means.decode_cons {payload : Bytes}
    (h : Means maxPayload bytes (payload :: records) fault rest) :
    decode maxPayload bytes = .ok (some (payload, records.flatMap form ++ rest))
      ∧ Means maxPayload (records.flatMap form ++ rest) records fault rest := by
  obtain ⟨hpayload, hrecords⟩ := List.forall_mem_cons.1 h.hfits
  refine ⟨decode_eq_record_iff.2 ⟨?_, hpayload⟩, rfl, hrecords, h.hrest⟩
  rw [h.hbytes, List.flatMap_cons, List.append_assoc]

/-- Bytes without a record break off at once. -/
theorem Means.decode_nil (h : Means maxPayload bytes [] fault rest) :
    rest = bytes ∧ decode maxPayload bytes = fault.elim (.ok none) .error := by
  obtain ⟨rfl, -, hrest⟩ := h
  exact ⟨rfl, hrest.decode_eq⟩

end Means

/-! ## Feeding a buffer -/

namespace Buffer

/-- What taking records has come to: the records, the failure, the buffer, and what was not fed to
it. -/
structure Fed where
  records : List Bytes
  fault : Option FrameError
  buffer : Bytes
  unfed : List Bytes
deriving DecidableEq, Repr

/-- To take a record leaves fewer bytes. -/
theorem Takes.length_lt {maxPayload : Nat} {buffer payload rest : Bytes}
    (h : Takes maxPayload buffer (.ok (some payload)) rest) : rest.length < buffer.length := by
  cases h with
  | record =>
    rw [List.length_append, length_form, wireSize, headerSize]
    omega

/-- Takes records until a call waits or fails. -/
def drain (maxPayload : Nat) (buffer : Bytes) : List Bytes × Option FrameError × Bytes :=
  match h : take maxPayload buffer with
  | (.ok (some payload), rest) =>
    have := (take_eq_iff.1 h).length_lt
    let (records, fault, left) := drain maxPayload rest
    (payload :: records, fault, left)
  | (.ok none, left) => ([], none, left)
  | (.error e, left) => ([], some e, left)
termination_by buffer.length

/-- Adds one piece after another, and drains the buffer after each. A failure ends it. -/
def feed (maxPayload : Nat) (buffer : Bytes) : List Bytes → Fed
  | [] => ⟨[], none, buffer, []⟩
  | chunk :: chunks =>
    match drain maxPayload (buffer ++ chunk) with
    | (records, some e, left) => ⟨records, some e, left, chunks⟩
    | (records, none, left) =>
      let fed := feed maxPayload left chunks
      { fed with records := records ++ fed.records }

section Feed

variable {maxPayload : Nat}

/-- A record in front is taken, and the rest is drained. -/
theorem drain_of_record {buffer payload rest : Bytes}
    (h : take maxPayload buffer = (.ok (some payload), rest)) :
    drain maxPayload buffer
      = (payload :: (drain maxPayload rest).1, (drain maxPayload rest).2) := by
  rw [drain]
  split <;> simp_all

/-- Where no record is in front nothing is taken. -/
theorem drain_of_breaksOff {buffer left : Bytes} {fault : Option FrameError}
    (h : take maxPayload buffer = (fault.elim (.ok none) .error, left)) :
    drain maxPayload buffer = ([], fault, left) := by
  rw [drain]
  cases fault <;> split <;> simp_all

/-- What is drained is what the bytes mean. -/
theorem drain_means (maxPayload : Nat) (buffer : Bytes) :
    ∃ records fault left, drain maxPayload buffer = (records, fault, left)
      ∧ Means maxPayload buffer records fault left := by
  -- a record takes up bytes, so what is left behind it is shorter
  induction hlength : buffer.length using Nat.strong_induction_on generalizing buffer with
  | _ length ih =>
    rcases htake : take maxPayload buffer with ⟨outcome, rest⟩
    have htakes := take_eq_iff.1 htake
    cases htakes with
    | @record payload hfits _ =>
      have hless := (Takes.record hfits rest).length_lt
      obtain ⟨records, fault, left, hdrain, hmeans⟩ := ih _ (hlength ▸ hless) rest rfl
      have hmore := hmeans.append (List.forall_mem_singleton.2 hfits)
      rw [List.flatMap_singleton] at hmore
      refine ⟨payload :: records, fault, left, ?_, hmore⟩
      rw [drain_of_record htake, hdrain]
    | wait h =>
      exact ⟨[], none, buffer, drain_of_breaksOff htake, BreaksOff.means (.wait h)⟩
    | @fault _ e h =>
      exact ⟨[], some e, buffer, drain_of_breaksOff htake, BreaksOff.means (.fault h)⟩

/-- **What is fed.** The bytes that were fed and those that were not say what was taken, and the
buffer alone says why no more was taken. -/
theorem feed_means {buffer : Bytes} (h : Unfinished maxPayload buffer) (chunks : List Bytes) :
    let fed := feed maxPayload buffer chunks
    Means maxPayload (buffer ++ chunks.flatten) fed.records fed.fault
        (fed.buffer ++ fed.unfed.flatten)
      ∧ BreaksOff maxPayload fed.fault fed.buffer ∧ (fed.fault = none → fed.unfed = []) := by
  -- chunk by chunk: what is drained so far, and what is left waits for the next chunk
  induction chunks generalizing buffer with
  | nil =>
    rw [List.flatten_nil, List.append_nil, feed]
    simp only [List.flatten_nil, List.append_nil]
    exact ⟨BreaksOff.means (.wait h), .wait h, fun _ => trivial⟩
  | cons chunk chunks ih =>
    obtain ⟨records, fault, left, hdrain, hbytes, hfits, hrest⟩ :=
      drain_means maxPayload (buffer ++ chunk)
    rw [List.flatten_cons, ← List.append_assoc, hbytes, List.append_assoc, feed, hdrain]
    cases fault with
    | none =>
      obtain ⟨hmeans, hstops, hunfed⟩ := ih hrest.unfinished
      exact ⟨hmeans.append hfits, hstops, hunfed⟩
    | some e =>
      have hmeans := (hrest.append chunks.flatten).means.append hfits
      rw [List.append_nil] at hmeans
      exact ⟨hmeans, hrest, nofun⟩

end Feed

end Buffer

/-! ## Reading -/

namespace Source

/-- Where no delivery ends a call, no error is reported. -/
theorem faults_of_stops {source : Source} (h : source.stops = 0) : source.faults = [] := by
  rw [stops, List.countP_eq_zero] at h
  rw [faults, List.filterMap_eq_nil_iff]
  intro delivery hdelivery
  have hcalm := h delivery hdelivery
  cases delivery with
  | bytes => rfl
  | failure e => simpa [Delivery.endsCall, Delivery.fault?] using hcalm

end Source

namespace Reader

variable {source : Source} {records : List Bytes} {fault : Option FrameError}
  {rest : Bytes}

/-- Where no delivery ends a call, a reader finds the end of the stream only at its end. -/
theorem unread_of_closed (reader : Reader) (hstops : source.stops = 0)
    (hclosed : (reader.next source).1 = .error .connectionClosed) :
    (reader.next source).2.2.unread = [] := by
  have hgoes := next_goes reader source
  generalize (reader.next source).1 = outcome at hgoes hclosed
  generalize (reader.next source).2.1 = reader' at hgoes
  generalize (reader.next source).2.2 = source' at hgoes ⊢
  induction hgoes with
  | malformed h =>
    cases hclosed
    cases decode_eq_error_iff.1 h
  | record => contradiction
  | interrupted hnone hread he _ ih =>
    cases Source.read_reads hread (by decide) with
    | interrupted _ _ _ hsame => exact ih (hsame ▸ hstops) hclosed
    | failed hnot => exact absurd he hnot
  | failed => cases hclosed
  | ended hnone hread =>
    cases Source.read_reads hread (by decide) with
    | brought hchunk => contradiction
    | paused _ _ hless => omega
    | ended hunread => exact hunread
  | brought hnone hread _ ih =>
    cases Source.read_reads hread (by decide) with
    | brought _ _ _ hsame => exact ih (hsame ▸ hstops) hclosed

/-- What a call finds in the bytes that there are, with those it leaves in the buffer and in the
stream. -/
inductive Finds (maxPayload : Nat) (bytes : Bytes) : Except FrameError Bytes → Bytes → Bytes → Prop
    where
  | record {payload left unread : Bytes} (hbytes : bytes = form payload ++ (left ++ unread))
      (hfits : Fits maxPayload payload) : Finds maxPayload bytes (.ok payload) left unread
  | malformed {e : FrameError} {left unread : Bytes} (hbytes : bytes = left ++ unread)
      (h : Malformed maxPayload e left) : Finds maxPayload bytes (.error e) left unread
  | ended (h : Unfinished maxPayload bytes) :
      Finds maxPayload bytes (.error .connectionClosed) bytes []

/-- Where no delivery ends a call, the bytes settle what it comes to. -/
theorem next_finds (reader : Reader) (hstops : source.stops = 0) :
    ∃ outcome left source', reader.next source = (outcome, { reader with buffer := left }, source')
      ∧ source'.stops = 0
      ∧ Finds reader.maxPayload (reader.buffer ++ source.unread) outcome left source'.unread := by
  have hclosed := unread_of_closed reader hstops
  obtain ⟨read, hread, hsettled, hlimit, hfaults, hless, -⟩ := next_call reader source
  rcases hnext : reader.next source with ⟨outcome, ⟨limit, left⟩, source'⟩
  rw [hnext] at hread hsettled hlimit hfaults hless hclosed
  obtain rfl : limit = reader.maxPayload := hlimit
  refine ⟨outcome, left, source', rfl, Nat.le_zero.1 (hstops ▸ hless), ?_⟩
  rw [hread, ← List.append_assoc]
  -- the stream has no faults, so the call returns a record, finds an error or comes to the end
  cases hsettled with
  | record hseen hfits => exact .record (by rw [hseen, List.append_assoc]) hfits
  | malformed h => exact .malformed rfl h
  | failed _ he =>
    rw [Source.faults_of_stops hstops] at hfaults
    simp [fault?] at hfaults
  | ended hnone =>
    have hnil : source'.unread = [] := hclosed rfl
    rw [hnil, List.append_nil]
    exact .ended (decode_eq_none_iff.1 hnone)

/-- Where a record is said, it is found. -/
theorem Finds.of_means_cons {maxPayload : Nat} {bytes payload left unread : Bytes}
    {outcome : Except FrameError Bytes} (h : Finds maxPayload bytes outcome left unread)
    (hmeans : Means maxPayload bytes (payload :: records) fault rest) :
    outcome = .ok payload ∧ Means maxPayload (left ++ unread) records fault rest := by
  obtain ⟨hdecode, hmore⟩ := hmeans.decode_cons
  -- the call has found what the decoder finds, since both look at the same bytes
  cases h with
  | record hbytes hfits =>
    rw [decode_eq_record_iff.2 ⟨hbytes, hfits⟩, Except.ok.injEq, Option.some.injEq,
      Prod.mk.injEq] at hdecode
    obtain ⟨rfl, hleft⟩ := hdecode
    exact ⟨rfl, hleft ▸ hmore⟩
  | malformed hbytes h =>
    rw [hbytes, decode_eq_error_iff.2 (h.append unread)] at hdecode
    contradiction
  | ended h =>
    rw [decode_eq_none_iff.2 h] at hdecode
    simp at hdecode

/-- Where no record is said, it is found why. -/
theorem Finds.of_means_nil {maxPayload : Nat} {bytes left unread : Bytes}
    {outcome : Except FrameError Bytes} (h : Finds maxPayload bytes outcome left unread)
    (hmeans : Means maxPayload bytes [] fault rest) :
    outcome = .error (fault.getD .connectionClosed) ∧ left ++ unread = rest
      ∧ BreaksOff maxPayload fault left ∧ (fault = none → unread = []) := by
  obtain ⟨rfl, hdecode⟩ := hmeans.decode_nil
  cases h with
  | record hbytes hfits =>
    rw [decode_eq_record_iff.2 ⟨hbytes, hfits⟩] at hdecode
    cases fault <;> simp at hdecode
  | malformed hbytes h =>
    rw [hbytes, decode_eq_error_iff.2 (h.append unread)] at hdecode
    cases fault with
    | none => contradiction
    | some e =>
      cases hdecode
      exact ⟨rfl, hbytes.symm, .fault h, nofun⟩
  | ended h =>
    rw [decode_eq_none_iff.2 h] at hdecode
    cases fault with
    | none => exact ⟨rfl, List.append_nil _, .wait h, fun _ => rfl⟩
    | some e => contradiction

/-- **The run.** Where no delivery ends a call, a reader returns what the bytes say, and then why
there is no more. -/
theorem nextMany_of_means (reader : Reader) (hstops : source.stops = 0)
    (h : Means reader.maxPayload (reader.buffer ++ source.unread) records fault rest) :
    ∃ left source', reader.nextMany source (records.length + 1)
        = (records.map .ok ++ [.error (fault.getD .connectionClosed)],
          { reader with buffer := left }, source')
      ∧ left ++ source'.unread = rest ∧ BreaksOff reader.maxPayload fault left
      ∧ (fault = none → source'.unread = []) := by
  -- one call for each record, and one more for why there is no other
  induction records generalizing reader source with
  | nil =>
    obtain ⟨outcome, left, source', hnext, -, hfinds⟩ := next_finds reader hstops
    obtain ⟨rfl, hleft⟩ := hfinds.of_means_nil h
    exact ⟨left, source', by simp [nextMany, hnext], hleft⟩
  | cons payload records ih =>
    obtain ⟨outcome, left, source', hnext, hstops', hfinds⟩ := next_finds reader hstops
    obtain ⟨rfl, hmore⟩ := hfinds.of_means_cons h
    obtain ⟨left', source'', hmany, hleft⟩ := ih { reader with buffer := left } hstops' hmore
    refine ⟨left', source'', ?_, hleft⟩
    rw [List.length_cons, nextMany, hnext]
    simp only [hmany, List.map_cons, List.cons_append]

end Reader

/-! ## Both ways -/

/-- What a buffer says of which nothing can be taken and to which nothing is added. -/
theorem Buffer.takeLast_of_unfinished {maxPayload : Nat} {buffer : Bytes}
    (h : Unfinished maxPayload buffer) :
    takeLast maxPayload buffer = (if buffer = [] then .ok none
      else .error (.io ⟨.other, "bytes remaining on stream"⟩), buffer) := by
  rw [takeLast, decodeLast, decode_eq_none_iff.2 h]
  by_cases hempty : buffer = []
  · simp [hempty, advance]
  · simp [hempty, advance]

/-- A payload has a record or is too large. -/
theorem encodeWithin_cases (maxPayload : Nat) (payload : Bytes) :
    (∃ record, encodeWithin maxPayload payload = .ok record)
      ∨ ∃ max, encodeWithin maxPayload payload = .error (.payloadTooLarge payload.length max) := by
  unfold encodeWithin encode
  split_ifs
  · exact .inr ⟨_, rfl⟩
  · exact .inr ⟨_, rfl⟩
  · exact .inl ⟨_, rfl⟩

/-- A buffer gets the same bytes as a sink that takes everything, or the same refusal. -/
theorem putWithin_send (maxPayload : Nat) (payload buffer : Bytes) {sink : Sink}
    (hsink : sink.Steady) :
    ∃ outcome bytes, Buffer.putWithin maxPayload payload buffer = (outcome, buffer ++ bytes)
      ∧ (sink.send maxPayload payload).1 = outcome
      ∧ (sink.send maxPayload payload).2.taken = sink.taken ++ bytes
      ∧ (outcome = .ok () ∧ encode payload = .ok bytes
        ∨ bytes = [] ∧ ∃ max, outcome = .error (.payloadTooLarge payload.length max)) := by
  -- both encode the payload first, and write nothing if that fails
  obtain ⟨record, hrecord⟩ | ⟨max, hrefused⟩ := encodeWithin_cases maxPayload payload
  · obtain ⟨hfits, rfl⟩ := encodeWithin_eq_ok_iff.1 hrecord
    obtain ⟨sink', hsend, -, htaken⟩ := hsink.send hfits
    refine ⟨.ok (), form payload, ?_, by rw [hsend], by rw [hsend, htaken],
      .inl ⟨rfl, encode_eq_ok hfits.hword⟩⟩
    rw [Buffer.putWithin, hrecord]
    rfl
  · refine ⟨.error (.payloadTooLarge payload.length max), [], ?_, ?_, ?_, .inr ⟨rfl, max, rfl⟩⟩
    · rw [Buffer.putWithin, hrefused, List.append_nil]
      rfl
    · rw [Sink.send, hrefused]
    · rw [Sink.send, hrefused, List.append_nil]

/-- **Buffers and streams are interchangeable.** Let the bytes of a stream be cut in two ways, and
let a buffer be fed the pieces of the one cut while a reader is given those of the other, none of
which ends a call. As many calls of the reader as the buffer gave records return these records, and
the next one fails with what the buffer failed with, if it did; the bytes that neither has used are
the same. If it did not, the reader finds the end of the stream, both have kept the same bytes, and
a last look at the buffer finds an error exactly if there are any. A payload is written to a sink
that takes everything with the bytes that are added to a buffer, or both refuse it for one reason
and write nothing. -/
theorem codec_and_reader_agree (maxPayload : Nat) :
    (∀ (chunks : List Bytes) (script : List Delivery),
        (∀ delivery ∈ script, ¬ delivery.endsCall) →
        script.flatMap Delivery.chunk = chunks.flatten →
        let fed := Buffer.feed maxPayload [] chunks
        ∃ reader source,
          (Reader.new maxPayload).nextMany (.ofDeliveries script) (fed.records.length + 1)
              = (fed.records.map .ok ++ [.error (fed.fault.getD .connectionClosed)], reader, source)
            ∧ reader.buffer ++ source.unread = fed.buffer ++ fed.unfed.flatten
            ∧ (∀ e, fed.fault = some e →
                Malformed maxPayload e fed.buffer ∧ Malformed maxPayload e reader.buffer)
            ∧ (fed.fault = none → fed.unfed = [] ∧ source.unread = [] ∧ reader.buffer = fed.buffer
                ∧ Buffer.takeLast maxPayload fed.buffer
                  = (if fed.buffer = [] then .ok none
                    else .error (.io ⟨.other, "bytes remaining on stream"⟩), fed.buffer)))
      ∧ ∀ payload buffer (writer : Writer), writer.sink.Steady →
        ∃ outcome bytes, Buffer.putWithin maxPayload payload buffer = (outcome, buffer ++ bytes)
          ∧ (writer.send maxPayload payload).1 = outcome
          ∧ (writer.send maxPayload payload).2.sink.taken = writer.sink.taken ++ bytes
          ∧ (outcome = .ok () ∧ encode payload = .ok bytes
            ∨ bytes = [] ∧ ∃ max, outcome = .error (.payloadTooLarge payload.length max)) := by
  constructor
  · intro chunks script hcalm hcut fed
    have hempty : Unfinished maxPayload [] := .header (by decide)
    obtain ⟨hmeans, hstops, hunfed⟩ := Buffer.feed_means hempty chunks
    have hnone : (Source.ofDeliveries script).stops = 0 := List.countP_eq_zero.2 hcalm
    have hunread : (Source.ofDeliveries script).unread = chunks.flatten := hcut
    rw [List.nil_append, ← hunread] at hmeans
    obtain ⟨left, source, hmany, hrest, hstops', hend⟩ :=
      Reader.nextMany_of_means (.new maxPayload) hnone hmeans
    refine ⟨_, source, hmany, hrest, fun e he => ?_, fun hwait => ?_⟩
    · exact ⟨BreaksOff.malformed (he ▸ hstops), BreaksOff.malformed (he ▸ hstops')⟩
    · have hbuffer : Unfinished maxPayload fed.buffer := BreaksOff.unfinished (hwait ▸ hstops)
      rw [hend hwait, hunfed hwait, List.flatten_nil, List.append_nil, List.append_nil] at hrest
      exact ⟨hunfed hwait, hend hwait, hrest, Buffer.takeLast_of_unfinished hbuffer⟩
  · intro payload buffer writer hsink
    obtain ⟨houtcome, hsame⟩ := Writer.send_eq maxPayload payload writer
    rw [houtcome, hsame]
    exact putWithin_send maxPayload payload buffer hsink

/-- Two records and the start of a third, cut inside headers and payloads; a record with six bytes
behind it that start none, of which one side has seen more than the other; and a payload that is
written in pieces. -/
theorem differently_cut_streams_agree :
    let chunks : List Bytes :=
      [[0x4C, 0x51, 0, 0], [0, 1, 7, 0x4C, 0x51], [], [0, 0, 0, 0, 0x4C, 0x51, 0]]
    let script : List Delivery := [.bytes [0x4C], .failure ⟨.interrupted, ""⟩,
      .bytes [0x51, 0, 0, 0, 1, 7, 0x4C, 0x51, 0, 0, 0, 0, 0x4C, 0x51, 0]]
    let spoiled : List Bytes := [[0x4C, 0x51, 0, 0, 0, 1, 7, 1, 2, 3, 4, 5, 6], [8], [9]]
    let sink : Sink := ⟨[.takes 2, .takes 1], [], [5], 0⟩
    Buffer.feed 4 [] chunks = ⟨[[7], []], none, [0x4C, 0x51, 0], []⟩
      ∧ (∃ reader source, (Reader.new 4).nextMany (.ofDeliveries script) 3
          = ([.ok [7], .ok [], .error .connectionClosed], reader, source)
        ∧ reader.buffer = [0x4C, 0x51, 0]
        ∧ Buffer.takeLast 4 [0x4C, 0x51, 0]
          = (.error (.io ⟨.other, "bytes remaining on stream"⟩), [0x4C, 0x51, 0]))
      ∧ Buffer.feed 4 [] spoiled
          = ⟨[[7]], some .invalidMagic, [1, 2, 3, 4, 5, 6], [[8], [9]]⟩
      ∧ (∃ reader source, (Reader.new 4).nextMany (.ofDeliveries [.bytes spoiled.flatten]) 2
          = ([.ok [7], .error .invalidMagic], reader, source)
        ∧ reader.buffer ++ source.unread = [1, 2, 3, 4, 5, 6] ++ [8] ++ [9])
      ∧ Buffer.putWithin 1 [9] [3] = (.ok (), [3] ++ [0x4C, 0x51, 0, 0, 0, 1, 9])
      ∧ ((Writer.new sink).send 1 [9]).2.sink.taken = [5] ++ [0x4C, 0x51, 0, 0, 0, 1, 9] := by
  intro chunks script spoiled sink
  obtain ⟨hstreams, -⟩ := codec_and_reader_agree 4
  obtain ⟨-, hwrites⟩ := codec_and_reader_agree 1
  have hfed : Buffer.feed 4 [] chunks = ⟨[[7], []], none, [0x4C, 0x51, 0], []⟩ := by cbv
  have hspoiled : Buffer.feed 4 [] spoiled
      = ⟨[[7]], some .invalidMagic, [1, 2, 3, 4, 5, 6], [[8], [9]]⟩ := by cbv
  refine ⟨hfed, ?_, hspoiled, ?_, ?_⟩
  · obtain ⟨reader, source, hmany, -, -, hend⟩ := hstreams chunks script (by decide) (by decide)
    rw [hfed] at hmany hend
    obtain ⟨-, -, hbuffer, hlast⟩ := hend rfl
    exact ⟨reader, source, hmany, hbuffer, hlast⟩
  · obtain ⟨reader, source, hmany, hrest, -⟩ :=
      hstreams spoiled [.bytes spoiled.flatten] (by decide) (by decide)
    rw [hspoiled] at hmany hrest
    exact ⟨reader, source, hmany, hrest⟩
  · have hsteady : (Writer.new sink).sink.Steady := ⟨by decide, fun e he => by cases he⟩
    have hrecord : Buffer.putWithin 1 [9] [3] = (.ok (), [3] ++ [0x4C, 0x51, 0, 0, 0, 1, 9]) := by
      decide
    obtain ⟨_, bytes, hput, -, htaken, -⟩ := hwrites [9] [3] (Writer.new sink) hsteady
    obtain ⟨-, hbytes⟩ := Prod.mk.inj (hrecord.symm.trans hput)
    rw [← List.append_cancel_left hbytes] at htaken
    exact ⟨hrecord, htaken⟩

end CidrLookup.Record
