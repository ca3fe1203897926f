import CidrLookup.Proofs.Client.Stale
import CidrLookup.Proofs.Message.Encode
import CidrLookup.Proofs.Record.Form
import CidrLookup.Proofs.Session.Moves
import CidrLookup.Proofs.Session.Retry

/-!
# Requests over the limit

The limit of a configuration bounds the records that a link writes, and nothing else asks for it
before a request is written: a submission is checked for an address, a written form and room in the
queue. `length_form_request` is the size of a request, which its metadata decides;
`oversize_lookups_are_taken` says that a lookup in a queue is written if and only if that size is
within the limit, and that no limit keeps the others out.
-/

namespace CidrLookup

/-! ## The size of a request -/

namespace Message

/-- The bytes of metadata pairs as they are written; each text ends in a NUL. -/
def pairsSize : Metadata → Nat
  | [] => 0
  | (key, value) :: more => (key.utf8ByteSize + 1) + (value.utf8ByteSize + 1) + pairsSize more

/-- Metadata is written in as many bytes as are counted for it. -/
theorem length_pairsForm (pairs : Metadata) : (pairsForm pairs).length = pairsSize pairs := by
  induction pairs with
  | nil => rfl
  | cons pair more ih =>
    obtain ⟨key, value⟩ := pair
    rw [pairsForm_cons]
    simp [pairsSize, Wire.textForm, ih]
    omega

/-- Version, kind, address and the number of pairs come before the pairs. -/
theorem length_form_request (address : Address) (metadata : Metadata) :
    (form (.request address metadata)).length = 7 + pairsSize metadata := by
  simp [form, header, fieldsForm, length_pairsForm]
  omega

end Message

/-- The size of a request depends on its metadata alone. -/
theorem Entry.length_of_frame {ρ : Type} {e : Entry ρ} {frame : Bytes} (h : e.frame = .ok frame) :
    frame.length = 7 + Message.pairsSize e.metadata := by
  obtain ⟨-, rfl⟩ := Message.encode_eq_ok_iff.1 h
  exact Message.length_form_request e.address e.metadata

/-! ## A request of any size -/

/-- A text of so many bytes, none of them a NUL. -/
def filler (size : Nat) : String :=
  .ofList (.replicate size 'a')

/-- There is no zero in the filler. -/
theorem zero_notMem_filler (size : Nat) : 0 ∉ Bytes.ofText (filler size) := by
  rw [Bytes.zero_mem_ofText_iff, filler, String.toList_ofList, List.mem_replicate]
  rintro ⟨-, h⟩
  exact absurd h (by decide)

/-- The filler takes a byte for each character. -/
theorem utf8ByteSize_filler (size : Nat) : (filler size).utf8ByteSize = size := by
  show (List.replicate size 'a').utf8Encode.size = size
  have hsize : ['a'].utf8Encode.size = 1 := by decide
  induction size with
  | zero => rfl
  | succ size ih =>
    rw [List.replicate_succ, List.utf8Encode_cons, ByteArray.size_append, ih, hsize]
    omega

/-- Metadata has one pair at least this long. -/
theorem exists_frame_longer {ρ : Type} (requester : ρ) (address : Address) (limit : Nat) :
    ∃ metadata frame, (Entry.make requester address metadata).frame = .ok frame
      ∧ limit < frame.length := by
  let entry := Entry.make requester address [("", filler limit)]
  -- one pair, whose value is as long as the limit and has no NUL in it
  have hencodable : entry.request.Encodable := by
    refine ⟨?_, show 1 ≤ maxMetadata by decide⟩
    intro text htext
    rcases List.mem_pair.1 htext with rfl | rfl
    · exact List.not_mem_nil
    · exact zero_notMem_filler limit
  have hframe : entry.frame = .ok entry.request.form :=
    Message.encode_eq_ok_iff.2 ⟨hencodable, rfl⟩
  refine ⟨_, _, hframe, ?_⟩
  have hlength := Entry.length_of_frame hframe
  have hpairs : Message.pairsSize entry.metadata = 2 + limit := by
    simp [entry, Entry.make, Message.pairsSize, utf8ByteSize_filler]
    omega
  omega

/-! ## Writing it -/

/-- The writing helper takes a frame over the limit from the outbox and gives up. -/
theorem Attempt.takeFrame_of_oversize {maxPayload : Nat} {a : Attempt} {frame : Bytes}
    {more : List Bytes} (hwaiting : a.outbox.waiting = frame :: more)
    (hsize : maxPayload < frame.length) :
    (a.takeFrame maxPayload).writer
      = .reporting (FrameError.payloadTooLarge frame.length maxPayload).message := by
  have hreceive : a.outbox.receive? = some (frame, ⟨frame :: a.outbox.received, more⟩) := by
    rw [Channel.receive?, hwaiting]
  have hencode : Record.encodeWithin maxPayload frame
      = .error (.payloadTooLarge frame.length maxPayload) := if_pos hsize
  rw [takeFrame, hreceive]
  simp only [hencode]

namespace Session

variable {ρ σ : Type} [Link σ]

/-- **The limit keeps nothing out.** Every lookup in the queue of a session has a request of a size
that its metadata decides. The session's own link writes the record of a request if and only if that
size is within the limit; the helper that takes a greater one from the outbox reports that and gives
up the connection. A session that takes a lookup for an address takes one for it that is over the
limit. -/
theorem oversize_lookups_are_taken {config : Config} {link : σ} {start : Session ρ σ}
    (hnew : Session.new config link = .ok start) (turns : List (Turn ρ σ)) :
    let s := start.run turns
    let limit := (SocketLink.ofConfig config).settings.maxPayload
    (∀ e ∈ s.queue.entries, ∃ frame, e.frame = .ok frame
        ∧ frame.length = 7 + Message.pairsSize e.metadata
        ∧ (∀ record, Record.encodeWithin limit frame = .ok record
            ↔ Record.Fits config.maxFrame frame ∧ record = Record.form frame)
        ∧ ∀ (a : Attempt) more, config.maxFrame < frame.length →
            a.outbox.waiting = frame :: more →
            (a.takeFrame limit).writer
              = .reporting (FrameError.payloadTooLarge frame.length config.maxFrame).message)
      ∧ ∀ around requester text address, s.halted = none → ¬ s.IsFull →
          Address.parse text = .ok address →
          ∃ metadata frame, (Entry.make requester address metadata).frame = .ok frame
            ∧ config.maxFrame < frame.length
            ∧ (s.perform ⟨around, .submit requester text metadata⟩).1.accepted := by
  intro s limit
  refine ⟨?_, ?_⟩
  · intro e he
    obtain ⟨frame, hframe⟩ := (wellFormed_run hnew turns e he).hencodable
    refine ⟨frame, hframe, Entry.length_of_frame hframe, ?_, ?_⟩
    · exact fun record => Record.encodeWithin_eq_ok_iff
    · exact fun a more hsize hwaiting => Attempt.takeFrame_of_oversize hwaiting hsize
  -- nothing that a submission checks depends on the size of its frame
  · intro around requester text address hhalted hroom hparse
    obtain ⟨metadata, frame, hframe, hsize⟩ :=
      exists_frame_longer requester address config.maxFrame
    refine ⟨metadata, frame, hframe, hsize, ?_⟩
    obtain ⟨hfull, -⟩ | ⟨-, haccepted⟩ := perform_submit around hhalted hparse hframe
    · exact absurd hfull hroom
    · exact haccepted

/-! ## A link that writes sixteen bytes -/

/-- The default configuration, with records of at most sixteen bytes. -/
def terse : Config :=
  { Config.default with maxFrame := 16 }

/-- A session of that configuration over its own link, before its first call. -/
def tersely : Session Nat SocketLink :=
  { socketed with config := terse, connection := .new (.ofConfig terse) ⟨"127.0.0.1", 9595⟩ }

/-- The terse session is a new one, with room for sixteen bytes in a record. -/
theorem new_tersely : Session.new terse (.ofConfig terse) = .ok tersely := by
  have hhost : Endpoint.make "127.0.0.1" 9595 = .ok ⟨"127.0.0.1", 9595⟩ := by rfl
  simp only [Session.new, terse, Config.default, Config.defaultPort, hhost]
  rfl

/-- A lookup is submitted whose request takes twenty-four bytes. -/
def longSubmission : Turn Nat SocketLink :=
  ⟨⟨⟨0⟩, fun _ => true⟩, .submit 1 "10.0.0.1" [("key", "a long value")]⟩

/-- It waits in the queue, and no record carries it. -/
theorem long_lookup_is_taken :
    ∃ e ∈ (tersely.run [longSubmission]).queue.entries, ∃ frame, e.frame = .ok frame
      ∧ frame.length = 24 ∧ ∀ record, Record.encodeWithin 16 frame ≠ .ok record := by
  have hmetadata : (tersely.run [longSubmission]).queue.entries.map Entry.metadata
      = [[("key", "a long value")]] := by decide +kernel
  obtain ⟨hall, -⟩ := oversize_lookups_are_taken new_tersely [longSubmission]
  generalize tersely.run [longSubmission] = s at hmetadata hall ⊢
  obtain ⟨e, hentries, he⟩ := List.map_eq_singleton_iff.1 hmetadata
  have hmem : e ∈ s.queue.entries := by
    rw [hentries]
    exact List.mem_singleton_self e
  obtain ⟨frame, hframe, hsize, hwritten, -⟩ := hall e hmem
  have hlength : frame.length = 24 := by
    rw [hsize, he]
    decide +kernel
  refine ⟨e, hmem, frame, hframe, hlength, fun record hrecord => ?_⟩
  have hlimit : frame.length ≤ 16 := ((hwritten record).1 hrecord).1.hlimit
  omega

/-- A connection comes up, and the writing helper gets to work on what is sent over it. -/
def writes (generation : Nat) (calls : List (Move Nat)) : List (Move Nat) :=
  let look := .poll ⟨⟨0⟩, fun _ => true⟩
  [.connect, .helper generation (.connect (.ok ())), .helper generation .reportRead, look] ++ calls
    ++ [.helper generation .takeFrame, .helper generation .reportWrite, look]

/-- A lookup that was taken ends the connection it is sent on, and waits again; sent on the next
connection it does the same. -/
theorem long_lookup_ends_each_connection :
    let metadata := [("key", "a long value")]
    let s := tersely.follow (writes 1 [.submit ⟨0⟩ 1 "10.0.0.1" metadata])
    let again := s.follow (writes 3 [])
    let up := tersely.follow ((writes 1 []).take 4)
    (up.submit ⟨0⟩ 1 "10.0.0.1" metadata).1.toOption = some .sent
      ∧ ((Entry.make 1 ⟨0x0A000001⟩ metadata).frame.toOption.map List.length) = some 24
      ∧ s.lastError = some "transport failed: payload too large (24 bytes, max 16)"
      ∧ s.connection.state = .disconnected ∧ s.queue.entries.map Entry.state = [.pending]
      ∧ again.lastError = s.lastError
      ∧ again.connection.state = .disconnected
      ∧ again.queue.entries.map Entry.state = [.pending] := by
  decide +kernel

end Session

end CidrLookup
