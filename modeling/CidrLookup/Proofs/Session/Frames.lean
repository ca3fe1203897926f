import CidrLookup.Proofs.Address
import CidrLookup.Proofs.Message.Decode
import CidrLookup.Proofs.Message.Version
import CidrLookup.Proofs.Session.Moves

/-!
# What a session makes of the bytes it receives

A frame comes from outside and may hold any bytes. `Heeds` lists the frames that change anything,
each by what the bytes are and not by how they are read: another version, the parameters of the
service, the answer to a lookup in flight, an error of the service. Every other frame leaves a line
in the log and nothing else.
-/

namespace CidrLookup

variable {ρ σ : Type}

/-- An answer is decoded from its encoding, if its mask fits an address. -/
theorem Resolution.decode_message_iff (limit : Nat) {resolution : Resolution} {frame : Bytes}
    (hsize : frame.length ≤ Numeral.maxLong) :
    Message.decode limit frame = .ok resolution.message ↔ resolution.message.encode = .ok frame
      ∧ ∀ range, resolution.range? = some range → range.maskLen ≤ 32 := by
  rw [Message.decode_eq_ok_iff_encode hsize]
  cases resolution <;> simp [message, range?, Message.texts]

/-- Answers are matched by text, which is to say by address. -/
theorem Entry.WellFormed.text_eq_iff {e : Entry ρ} (h : e.WellFormed) {address : Address} :
    e.text = address.format ↔ e.address = address := by
  rw [h.htext]
  exact ⟨Address.format_injective, congrArg Address.format⟩

/-- A well-formed lookup awaits the answer for a text if it awaits it for the address, since an
address has one text. -/
theorem Entry.WellFormed.awaits_iff {e : Entry ρ} (h : e.WellFormed) (address : Address) :
    Queue.Awaits address.format e ↔ e.state = .sent ∧ e.address = address :=
  and_congr_right fun _ => h.text_eq_iff

/-- An answer for an address completes the first lookup in flight for it. -/
theorem Queue.completeFirstSent_eq_some_iff {queue next : Queue ρ} {found : Entry ρ}
    (hwell : ∀ e ∈ queue.entries, e.WellFormed) (address : Address) :
    queue.completeFirstSent address.format = some (found, next)
      ↔ ∃ front e back, queue.entries = front ++ e :: back ∧ e.state = .sent
          ∧ e.address = address ∧ (∀ e' ∈ front, e'.state = .sent → e'.address ≠ address)
          ∧ found = e.withState .complete
          ∧ next = { queue with entries := front ++ e.withState .complete :: back } := by
  constructor
  -- the queue looks for the text, the statement for the address; each lookup in front is told by
  -- the same fact
  · intro h
    obtain ⟨⟨_, entries⟩, hfirst, heq⟩ := Option.map_eq_some_iff.1 h
    cases heq
    obtain ⟨front, e, back, hentries, rfl, hfound, hawaits, hfront⟩ := completeFirst_spec hfirst
    rw [hentries] at hwell
    obtain ⟨hwellFront, hwellRest⟩ := List.forall_mem_append.1 hwell
    obtain ⟨hsent, haddress⟩ := ((hwellRest e List.mem_cons_self).awaits_iff _).1 hawaits
    have holdest : ∀ e' ∈ front, e'.state = .sent → e'.address ≠ address :=
      fun e' he' hsent' haddress' =>
        hfront e' he' (((hwellFront e' he').awaits_iff _).2 ⟨hsent', haddress'⟩)
    exact ⟨front, e, back, hentries, hsent, haddress, holdest, hfound, rfl⟩
  · rintro ⟨front, e, back, hentries, hsent, haddress, holdest, rfl, rfl⟩
    rw [hentries] at hwell
    obtain ⟨hwellFront, hwellRest⟩ := List.forall_mem_append.1 hwell
    have hawaits : Awaits address.format e :=
      ((hwellRest e List.mem_cons_self).awaits_iff _).2 ⟨hsent, haddress⟩
    have hfront : ∀ e' ∈ front, ¬ Awaits address.format e' := by
      intro e' he' hawaits'
      obtain ⟨hsent', haddress'⟩ := ((hwellFront e' he').awaits_iff _).1 hawaits'
      exact holdest e' he' hsent' haddress'
    rw [completeFirstSent, hentries, completeFirst_append hfront hawaits]
    rfl

namespace Session

/-- A session whose connection has ended for a reason. -/
def torn [Link σ] (reason : String) (s : Session ρ σ) : Session ρ σ :=
  { s with
    connection := s.connection.disconnect
    queue := s.queue.demoteSent
    info := none
    lastError := some reason }

/-- What a session does on a frame that it heeds, and the session after it. -/
inductive Heeds [Link σ] (frame : Bytes) (s : Session ρ σ) :
    List (Effect ρ) → Session ρ σ → Prop where
  /-- The frame is of another version, and the session gives up. -/
  | foreign {version : UInt8} {rest : Bytes} {reason : String} (hframe : frame = version :: rest)
      (hversion : version ≠ protocolVersion)
      (hreason : reason = (ProtocolError.versionMismatch version).message) :
      Heeds frame s [.close] { s.torn reason with halted := some reason }
  /-- The service tells its parameters. -/
  | announcement {info : ServiceInfo} (hframe : (Message.established info).encode = .ok frame)
      (hbanner : info.banner.utf8ByteSize ≤ s.config.maxFrame) :
      Heeds frame s [] { s with info := some info }
  /-- The service answers a lookup in flight, the oldest one of its address. -/
  | answer {resolution : Resolution} {front back : List (Entry ρ)} {e : Entry ρ}
      (hframe : resolution.message.encode = .ok frame)
      (hmask : ∀ range, resolution.range? = some range → range.maskLen ≤ 32)
      (hentries : s.queue.entries = front ++ e :: back) (hsent : e.state = .sent)
      (haddress : e.address = resolution.address)
      (holdest : ∀ e' ∈ front, e'.state = .sent → e'.address ≠ resolution.address) :
      Heeds frame s [.resolved e.requester resolution]
        { s with queue := { s.queue with entries := front ++ e.withState .complete :: back } }
  /-- The service gives up on the connection. -/
  | failure {code : UInt8} {text kind : String}
      (hframe : (Message.failure code text).encode = .ok frame)
      (htext : text.utf8ByteSize ≤ s.config.maxFrame)
      (hkind : kind = (FailureReason.ofCode code).describe) :
      Heeds frame s [.close] (s.torn s!"lookup service error {code} ({kind}): {text}")

/-- The session afterwards is the given one, but for a history that has what was done and lines for
the log. -/
def ComesTo (s s' next : Session ρ σ) (done : List (Effect ρ)) : Prop :=
  ∃ effects, s' = { next with history := effects ++ s.history } ∧ deeds effects = done

/-- A line for the log is no effect outside. -/
theorem ComesTo.note (s : Session ρ σ) (notice : Notice) : ComesTo s (s.note notice) s [] :=
  ⟨[.notice notice], rfl, rfl⟩

section Frames

variable [Link σ] {s : Session ρ σ} {frame : Bytes} {done : List (Effect ρ)} {next : Session ρ σ}

/-- The end of a connection for a reason, after a line for the log. -/
theorem comesTo_fail (notice : Notice) (reason : String) (halted : Option String)
    (s : Session ρ σ) :
    ComesTo s (fail reason { s.note notice with halted }) { s.torn reason with halted }
      [.close] := by
  obtain ⟨effects, hfail, hdeeds, -⟩ := fail_note_spec notice reason { s with halted }
  exact ⟨effects, hfail, hdeeds⟩

/-- A record with an answer is resolved. -/
theorem onFrame_of_answer {resolution : Resolution}
    (hdecode : Message.decode s.config.maxFrame frame = .ok resolution.message) :
    s.onFrame frame = s.resolve resolution := by
  cases resolution with
  | found | notFound =>
    rw [Resolution.message] at hdecode
    simp only [onFrame, hdecode]

/-- A record that is heeded comes to what it is heeded for. -/
theorem Heeds.comesTo (h : Heeds frame s done next) (hsize : frame.length ≤ Numeral.maxLong)
    (hwell : ∀ e ∈ s.queue.entries, e.WellFormed) : ComesTo s (s.onFrame frame) next done := by
  have hdecode {message : Message} (hframe : message.encode = .ok frame)
      (htexts : ∀ text ∈ message.texts, text.utf8ByteSize ≤ s.config.maxFrame)
      (hmask : ∀ address range, message = .found address range → range.maskLen ≤ 32) :
      Message.decode s.config.maxFrame frame = .ok message :=
    (Message.decode_eq_ok_iff_encode hsize).2 ⟨hframe, htexts, hmask⟩
  -- one case for each record that is heeded; all but the foreign one are decoded by what their
  -- bytes are
  cases h with
  | @foreign version rest _ hframe hversion hreason =>
    have hforeign := Message.decode_of_version_ne s.config.maxFrame hversion rest
    rw [← hframe] at hforeign
    have heq : s.onFrame frame = fail (ProtocolError.versionMismatch version).message
        { s.note (.foreignVersion (.versionMismatch version)) with
          halted := some (ProtocolError.versionMismatch version).message } := by
      simp only [onFrame, hforeign]
      rfl
    rw [heq, hreason]
    exact comesTo_fail _ _ _ s
  | @announcement info hframe hbanner =>
    have hannounced := hdecode hframe (by simpa [Message.texts] using hbanner) (by simp)
    simp only [onFrame, hannounced]
    exact ⟨[.notice (.established info)], rfl, rfl⟩
  | @answer resolution front back e hframe hmask hentries hsent haddress holdest =>
    have hanswer := (Resolution.decode_message_iff s.config.maxFrame hsize).2 ⟨hframe, hmask⟩
    have hfound := (Queue.completeFirstSent_eq_some_iff hwell resolution.address).2
      ⟨front, e, back, hentries, hsent, haddress, holdest, rfl, rfl⟩
    rw [onFrame_of_answer hanswer, resolve, hfound]
    exact ⟨[.resolved e.requester resolution, .notice (.resolved resolution)], rfl, rfl⟩
  | @failure code text kind hframe htext hkind =>
    have hfailed := hdecode hframe (by simpa [Message.texts] using htext) (by simp)
    simp only [onFrame, hfailed]
    rw [hkind]
    exact comesTo_fail _ _ s.halted s

/-- Any other record comes to nothing but a line in the log. -/
theorem comesTo_of_not_heeds (h : ∀ done next, ¬ Heeds frame s done next)
    (hsize : frame.length ≤ Numeral.maxLong) (hwell : ∀ e ∈ s.queue.entries, e.WellFormed) :
    ComesTo s (s.onFrame frame) s [] := by
  -- an answer that is for no lookup in flight changes nothing
  have hanswer {resolution : Resolution}
      (hdecode : Message.decode s.config.maxFrame frame = .ok resolution.message) :
      ComesTo s (s.onFrame frame) s [] := by
    rw [onFrame_of_answer hdecode, resolve]
    cases hfound : s.queue.completeFirstSent resolution.address.format with
    | none => exact .note s _
    | some found =>
      obtain ⟨front, e, back, hentries, hsent, haddress, holdest, -⟩ :=
        (Queue.completeFirstSent_eq_some_iff hwell _).1 hfound
      obtain ⟨hframe, hmask⟩ := (Resolution.decode_message_iff _ hsize).1 hdecode
      exact absurd (.answer hframe hmask hentries hsent haddress holdest) (h _ _)
  cases hdecode : Message.decode s.config.maxFrame frame with
  | error e =>
    by_cases hfatal : e.isFatal
    · obtain ⟨version, rest, hframe, hversion⟩ :=
        (Message.decode_fatal_iff _).1 ⟨e, hdecode, hfatal⟩
      exact absurd (.foreign hframe hversion rfl) (h _ _)
    · simp only [onFrame, hdecode, if_neg hfatal]
      exact .note s _
  | ok message =>
    cases message with
    | established info =>
      obtain ⟨hframe, htexts, -⟩ := (Message.decode_eq_ok_iff_encode hsize).1 hdecode
      exact absurd (.announcement hframe (htexts _ List.mem_cons_self)) (h _ _)
    | failure code text =>
      obtain ⟨hframe, htexts, -⟩ := (Message.decode_eq_ok_iff_encode hsize).1 hdecode
      exact absurd (.failure hframe (htexts _ List.mem_cons_self) rfl) (h _ _)
    | found address range => exact @hanswer (.found address range) hdecode
    | notFound address => exact @hanswer (.notFound address) hdecode
    | identify | request =>
      simp only [onFrame, hdecode]
      exact .note s _

end Frames

/-- **Received bytes have four effects.** Whatever happened to a session, a frame of bytes that it
receives changes it, its link and its requesters in four ways only. A frame whose first byte is
another version ends the connection for good. A frame that is the encoding of the parameters of the
service replaces those the session has. A frame that is the encoding of an answer, with a mask that
fits an address, is given to the oldest lookup in flight for its address, which is then complete. A
frame that is the encoding of an error of the service ends the connection. The texts in the
frame must be within the limit of the session. Every other frame changes nothing but the log. No
frame is longer than 64 bits can count. -/
theorem received_frames_have_four_effects [Link σ] {config : Config} {link : σ}
    {start : Session ρ σ} (hnew : Session.new config link = .ok start) (turns : List (Turn ρ σ))
    {frame : Bytes} (hsize : frame.length ≤ Numeral.maxLong) (around : Surroundings ρ) :
    let s := start.run turns
    let s' := s.handleEvent around (.received frame)
    (∀ done next, Heeds frame s done next → ComesTo s s' next done)
      ∧ ((∀ done next, ¬ Heeds frame s done next) → ComesTo s s' s []) := by
  intro s s'
  have hwell : ∀ e ∈ s.queue.entries, e.WellFormed := wellFormed_run hnew turns
  exact ⟨fun done next h => h.comesTo hsize hwell, fun h => comesTo_of_not_heeds h hsize hwell⟩

/-- Two lookups of one address are in flight, and another in between. The answer for the address
goes to the first. -/
theorem answer_completes_oldest_lookup :
    let turns := [.submit 0 "10.0.0.1" [], .submit 1 "10.0.0.2" [], .submit 2 "10.0.0.1" [],
      .event .connected].map Turn.plain
    let s := recorded.run turns
    let frame : Bytes := [1, 3, 10, 0, 0, 1, 10, 0, 0, 0, 0, 0, 0, 8]
    let s' := s.handleEvent ⟨⟨0⟩, fun _ => true⟩ (.received frame)
    frame.length ≤ Numeral.maxLong
      ∧ ∃ next, ComesTo s s' next [.resolved 0 (.found ⟨0x0A000001⟩ ⟨⟨0x0A000000⟩, 8⟩)]
        ∧ next.queue.entries.map Entry.state = [.complete, .sent, .sent] := by
  intro turns s frame s'
  have hsize : frame.length ≤ Numeral.maxLong := by decide
  have hframe : (Message.found ⟨0x0A000001⟩ ⟨⟨0x0A000000⟩, 8⟩).encode = .ok frame := by rfl
  have hstates : s.queue.entries.map Entry.state = [.sent, .sent, .sent] := by decide +kernel
  have haddresses : s.queue.entries.map Entry.address
      = [⟨0x0A000001⟩, ⟨0x0A000002⟩, ⟨0x0A000001⟩] := by decide +kernel
  have hrequesters : s.queue.entries.map Entry.requester = [0, 1, 2] := by decide +kernel
  clear_value turns
  refine ⟨hsize, ?_⟩
  obtain ⟨hheeds, -⟩ :=
    received_frames_have_four_effects new_recorded turns hsize ⟨⟨0⟩, fun _ => true⟩
  cases hentries : s.queue.entries with
  | nil =>
    rw [hentries] at hstates
    contradiction
  | cons e back =>
    rw [hentries, List.map_cons] at hstates haddresses hrequesters
    obtain ⟨hsent, hback⟩ := List.cons.inj hstates
    obtain ⟨haddress, -⟩ := List.cons.inj haddresses
    obtain ⟨hrequester, -⟩ := List.cons.inj hrequesters
    have hsplit : s.queue.entries = [] ++ e :: back := hentries
    rw [← hrequester]
    refine ⟨_, hheeds _ _ (.answer hframe ?_ hsplit hsent haddress ?_), ?_⟩
    · intro range hrange
      cases hrange
      decide
    · exact List.forall_mem_nil _
    · rw [List.nil_append, List.map_cons, hback]
      rfl

end Session

end CidrLookup
