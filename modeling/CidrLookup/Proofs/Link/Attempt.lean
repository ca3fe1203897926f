import CidrLookup.Link.Attempt

/-!
# What an attempt reports

The reading helper of an attempt reports first how connecting ended, and after a connection that was
made only records and the end of the connection. The writing helper has nothing to report before it
is given a frame, which nobody can do before the connection is reported. `HasPosted` ties what an
attempt has reported to what its helpers are about; `HasPosted.advance` is the step, and
`HasPosted.cases` is what is left of it for those who only see the reports.
-/

namespace CidrLookup

/-- Whether a report says something about a connection that was made. -/
def Report.isLater : Report → Bool
  | received _ | closed _ => true
  | connected | connectFailed _ => false

namespace Attempt

/-! ## Steps

One statement for each step: the attempt after it as an update of the attempt before it. -/

/-- Connecting ends with something to report, and the writing helper begins if it went well. -/
theorem dialled_spec (settings : StreamSettings) (outcome : Except TransportError Unit)
    (a : Attempt) :
    ∃ reader writer stream, a.dialled settings outcome = { a with reader, writer, stream }
      ∧ ((∃ detail, reader = .reporting (.connectFailed detail)) ∧ writer = a.writer
        ∨ reader = .reporting .connected ∧ writer = .idle) := by
  unfold dialled
  split
  · exact ⟨_, a.writer, a.stream, rfl, .inl ⟨⟨_, rfl⟩, rfl⟩⟩
  · split
    · exact ⟨_, a.writer, _, rfl, .inl ⟨⟨_, rfl⟩, rfl⟩⟩
    · exact ⟨_, _, _, rfl, .inr ⟨rfl, rfl⟩⟩

/-- A reading helper that fails has its end to report. -/
theorem readerFails_spec (e : FrameError) (a : Attempt) :
    ∃ detail, a.readerFails e = { a with reader := .reporting (.closed detail) } := by
  cases e with
  | connectionClosed => exact ⟨none, rfl⟩
  | invalidMagic => exact ⟨_, rfl⟩
  | payloadTooLarge size max => exact ⟨_, rfl⟩
  | io e => exact ⟨_, rfl⟩

/-- A reading helper goes on reading, or has a record or the end to report. -/
theorem read_spec (maxPayload extra : Nat) (a : Attempt) :
    ∃ reader buffer stream, a.read maxPayload extra = { a with reader, buffer, stream }
      ∧ (reader = a.reader ∨ ∃ report, report.isLater ∧ reader = .reporting report) := by
  -- a reader that fails does the same wherever it was
  have fails (e : FrameError) (a' : Attempt) (stream : Stream) (ha : a' = { a with stream }) :
      ∃ reader buffer stream, a'.readerFails e = { a with reader, buffer, stream }
        ∧ (reader = a.reader ∨ ∃ report, report.isLater ∧ reader = .reporting report) := by
    obtain ⟨detail, heq⟩ := readerFails_spec e a'
    exact ⟨_, a.buffer, stream, by rw [heq, ha], .inr ⟨.closed detail, rfl, rfl⟩⟩
  unfold read
  split
  · exact fails _ a a.stream rfl
  · exact ⟨_, _, a.stream, rfl, .inr ⟨.received _, rfl, rfl⟩⟩
  · split
    · split
      · exact fails _ _ _ rfl
      · exact ⟨a.reader, _, _, rfl, .inl rfl⟩
      · exact fails _ _ _ rfl
    · exact ⟨a.reader, a.buffer, a.stream, rfl, .inl rfl⟩

/-- A read that fails changes what the reading helper is about, and nothing else. -/
theorem readFails_spec (maxPayload : Nat) (e : IoError) (a : Attempt) :
    ∃ reader, a.readFails maxPayload e = { a with reader }
      ∧ (reader = a.reader ∨ ∃ report, report.isLater ∧ reader = .reporting report) := by
  unfold readFails
  split
  · split
    · exact ⟨a.reader, rfl, .inl rfl⟩
    · obtain ⟨detail, heq⟩ := readerFails_spec (.io e) a
      exact ⟨_, heq, .inr ⟨.closed detail, rfl, rfl⟩⟩
  · exact ⟨a.reader, rfl, .inl rfl⟩

/-- To let a stream go changes nothing but the stream. -/
theorem release_spec (a : Attempt) : ∃ stream, a.release = { a with stream } := by
  unfold release
  split
  · exact ⟨_, rfl⟩
  · exact ⟨a.stream, rfl⟩

/-- A helper that has reported goes on or ends, and at its end lets its stream go. -/
theorem reported_spec (report : Report) (a : Attempt) :
    ∃ stream, a.reported report
      = { a with reader := if report.goesOn then .reading else .finished, stream } := by
  unfold reported
  split
  · exact ⟨a.stream, rfl⟩
  · exact release_spec { a with reader := .finished }

/-- From an empty outbox a writing helper takes nothing; it may finish. -/
theorem takeFrame_spec (maxPayload : Nat) (a : Attempt) :
    ∃ writer outbox stream, a.takeFrame maxPayload = { a with writer, outbox, stream }
      ∧ (a.outbox.waiting = [] → outbox = a.outbox ∧ (writer = a.writer ∨ writer = .finished)) := by
  unfold takeFrame
  split
  · rename_i frame outbox hreceive
    -- a frame was received, so one was waiting
    have hwaiting : a.outbox.waiting ≠ [] := fun hnone => by
      rw [Channel.receive?_eq_none_iff.2 hnone] at hreceive
      contradiction
    split
    · exact ⟨_, outbox, a.stream, rfl, fun h => absurd h hwaiting⟩
    · exact ⟨_, outbox, a.stream, rfl, fun h => absurd h hwaiting⟩
  · split
    · exact ⟨a.writer, a.outbox, a.stream, rfl, fun _ => ⟨rfl, .inl rfl⟩⟩
    · obtain ⟨stream, heq⟩ := release_spec { a with writer := .finished }
      exact ⟨.finished, a.outbox, stream, heq, fun _ => ⟨rfl, .inr rfl⟩⟩

/-- To write changes the stream and what the writing helper is about. -/
theorem writeRest_spec (rest : Bytes) (acceptance : Record.Acceptance) (a : Attempt) :
    ∃ writer stream, a.writeRest rest acceptance = { a with writer, stream } := by
  unfold writeRest
  split
  · split
    · exact ⟨a.writer, a.stream, rfl⟩
    · exact ⟨_, a.stream, rfl⟩
  · split
    · exact ⟨_, a.stream, rfl⟩
    · exact ⟨_, a.stream, rfl⟩
    · exact ⟨_, _, rfl⟩

/-- A flush changes nothing but what the writing helper is about. -/
theorem flushed_spec (outcome : Option IoError) (a : Attempt) :
    ∃ writer, a.flushed outcome = { a with writer } := by
  unfold flushed
  split
  · exact ⟨_, rfl⟩
  · split
    · exact ⟨a.writer, rfl⟩
    · exact ⟨_, rfl⟩

/-- One step of a helper of an attempt, with what it reports. -/
inductive Advances : Attempt → List Report → Attempt → Prop where
  | dial {a : Attempt} (hreader : a.reader = .connecting) (settings : StreamSettings)
      (outcome : Except TransportError Unit) : Advances a [] (a.dialled settings outcome)
  | split {a : Attempt} (hreader : a.reader = .connecting) (e : SessionError) :
      Advances a [] (a.splitFails e)
  | read {a : Attempt} (hreader : a.reader = .reading) (maxPayload extra : Nat) :
      Advances a [] (a.read maxPayload extra)
  | readFails {a : Attempt} (hreader : a.reader = .reading) (maxPayload : Nat) (e : IoError) :
      Advances a [] (a.readFails maxPayload e)
  | reportRead {a : Attempt} {report : Report} (hreader : a.reader = .reporting report) :
      Advances a [report] (a.reported report)
  | takeFrame {a : Attempt} (hwriter : a.writer = .idle) (maxPayload : Nat) :
      Advances a [] (a.takeFrame maxPayload)
  | write {a : Attempt} {rest : Bytes} (hwriter : a.writer = .writing rest)
      (acceptance : Record.Acceptance) : Advances a [] (a.writeRest rest acceptance)
  | flush {a : Attempt} (hwriter : a.writer = .flushing) (outcome : Option IoError) :
      Advances a [] (a.flushed outcome)
  | reportWrite {a : Attempt} {detail : String} (hwriter : a.writer = .reporting detail) :
      Advances a [.closed (some detail)] { a with writer := .hangingUp }
  | hangUp {a : Attempt} (hwriter : a.writer = .hangingUp) : Advances a [] a.hangUp

/-! ## Reports -/

/-- What an attempt has reported, with what its helpers are about. -/
inductive HasPosted : List Report → Attempt → Prop where
  /-- It is connecting. -/
  | dialling {a : Attempt} (hreader : a.reader = .connecting) (hwriter : a.writer = .absent)
      (houtbox : a.outbox.waiting = []) : HasPosted [] a
  /-- The connection is not made, which is still to be reported. -/
  | failing {a : Attempt} {detail : String}
      (hreader : a.reader = .reporting (.connectFailed detail)) (hwriter : a.writer = .absent) :
      HasPosted [] a
  /-- The connection is not made. -/
  | failed {a : Attempt} {detail : String} (hreader : a.reader = .finished)
      (hwriter : a.writer = .absent) : HasPosted [.connectFailed detail] a
  /-- The connection is made, which is still to be reported; no frame can have been sent. -/
  | made {a : Attempt} (hreader : a.reader = .reporting .connected)
      (hwriter : a.writer = .idle ∨ a.writer = .finished) (houtbox : a.outbox.waiting = []) :
      HasPosted [] a
  /-- The connection is made. A reading helper that has finished has reported its end. -/
  | up {a : Attempt} {later : List Report} (hlater : ∀ report ∈ later, report.isLater)
      (hreader : a.reader = .reading ∨ (∃ report, report.isLater ∧ a.reader = .reporting report)
        ∨ a.reader = .finished ∧ ∃ detail, .closed detail ∈ later) :
      HasPosted (.connected :: later) a

/-- An attempt that was just started has posted nothing. -/
theorem hasPosted_new (generation : Nat) (endpoint : Endpoint) :
    HasPosted [] (.new generation endpoint) :=
  .dialling rfl rfl rfl

section

variable {posted reports : List Report} {a a' : Attempt}

/-- Nothing but the phases of the helpers and what waits in the outbox matters. -/
theorem HasPosted.congr (h : HasPosted posted a) (hreader : a'.reader = a.reader)
    (hwriter : a'.writer = a.writer) (houtbox : a'.outbox.waiting = a.outbox.waiting) :
    HasPosted posted a' := by
  cases h with
  | dialling h₁ h₂ h₃ => exact .dialling (hreader.trans h₁) (hwriter.trans h₂) (houtbox.trans h₃)
  | failing h₁ h₂ => exact .failing (hreader.trans h₁) (hwriter.trans h₂)
  | failed h₁ h₂ => exact .failed (hreader.trans h₁) (hwriter.trans h₂)
  | made h₁ h₂ h₃ => exact .made (hreader.trans h₁) (hwriter ▸ h₂) (houtbox.trans h₃)
  | up hlater h₁ => exact .up hlater (hreader ▸ h₁)

/-- Once the connection is reported, only the reading helper matters. -/
theorem HasPosted.congr_of_connected (h : HasPosted posted a) (hconnected : .connected ∈ posted)
    (hreader : a'.reader = a.reader) : HasPosted posted a' := by
  cases h with
  | up hlater h₁ => exact .up hlater (hreader ▸ h₁)
  | dialling | failing | made => contradiction
  | failed => simp at hconnected

/-- A helper that reads has reported the connection, and every report after it is a later one. -/
theorem HasPosted.of_reading (h : HasPosted posted a)
    (hreader : a.reader = .reading ∨ ∃ report, report.isLater ∧ a.reader = .reporting report) :
    ∃ later, posted = .connected :: later ∧ ∀ report ∈ later, report.isLater := by
  cases h with
  | up hlater => exact ⟨_, rfl, hlater⟩
  | dialling h₁ => simp [h₁] at hreader
  | failed h₁ => simp [h₁] at hreader
  | failing h₁ => simp [h₁, Report.isLater] at hreader
  | made h₁ => simp [h₁, Report.isLater] at hreader

/-- A helper that writes, or has written, has a connection that was reported. -/
theorem HasPosted.of_writer (h : HasPosted posted a) (habsent : a.writer ≠ .absent)
    (hidle : a.writer ≠ .idle) (hfinished : a.writer ≠ .finished) : .connected ∈ posted := by
  cases h with
  | up => exact List.mem_cons_self
  | dialling _ h₂ => contradiction
  | failing _ h₂ => contradiction
  | failed _ h₂ => contradiction
  | made _ h₂ => exact (h₂.elim hidle hfinished).elim

/-- A report after the connection was reported is a later one. -/
theorem HasPosted.concat (h : HasPosted posted a) (hconnected : .connected ∈ posted)
    {report : Report} (hlater : report.isLater) (hreader : a'.reader = a.reader) :
    HasPosted (posted ++ [report]) a' := by
  cases h with
  | up hall h₁ =>
    refine .up (List.forall_mem_append.2 ⟨hall, List.forall_mem_singleton.2 hlater⟩) ?_
    rw [hreader]
    refine h₁.imp_right (Or.imp_right fun ⟨hfinished, detail, hclosed⟩ => ?_)
    exact ⟨hfinished, detail, List.mem_append_left _ hclosed⟩
  | dialling | failing | made => contradiction
  | failed => simp at hconnected

/-- **The step.** What a helper does fits what it has reported before. -/
theorem HasPosted.advance (h : HasPosted posted a) (hstep : Advances a reports a') :
    HasPosted (posted ++ reports) a' := by
  cases hstep with
  | dial hreader settings outcome =>
    obtain ⟨reader, writer, stream, heq, hcases⟩ := dialled_spec settings outcome a
    rw [heq, List.append_nil]
    cases h with
    | dialling _ hwriter houtbox =>
      obtain ⟨⟨detail, hfails⟩, hsame⟩ | ⟨hmade, hidle⟩ := hcases
      · exact .failing hfails (hsame.trans hwriter)
      · exact .made hmade (.inl hidle) houtbox
    | failing h₁ | made h₁ | failed h₁ => simp [h₁] at hreader
    | up _ h₁ => simp [hreader] at h₁
  | split hreader e =>
    rw [List.append_nil]
    cases h with
    | dialling _ hwriter => exact .failing rfl hwriter
    | failing h₁ | made h₁ | failed h₁ => simp [h₁] at hreader
    | up _ h₁ => simp [hreader] at h₁
  | read hreader maxPayload extra =>
    obtain ⟨later, rfl, hlater⟩ := h.of_reading (.inl hreader)
    obtain ⟨reader, buffer, stream, heq, hcases⟩ := read_spec maxPayload extra a
    rw [heq, List.append_nil]
    exact .up hlater (hcases.imp (·.trans hreader) .inl)
  | readFails hreader maxPayload e =>
    obtain ⟨later, rfl, hlater⟩ := h.of_reading (.inl hreader)
    obtain ⟨reader, heq, hcases⟩ := readFails_spec maxPayload e a
    rw [heq, List.append_nil]
    exact .up hlater (hcases.imp (·.trans hreader) .inl)
  | @reportRead report hreader =>
    obtain ⟨stream, heq⟩ := reported_spec report a
    rw [heq]
    -- the first report says how connecting ended; each later one is about the connection
    cases h with
    | dialling h₁ | failed h₁ => simp [h₁] at hreader
    | failing h₁ hwriter =>
      cases h₁.symm.trans hreader
      exact .failed rfl hwriter
    | made h₁ =>
      cases h₁.symm.trans hreader
      exact .up (by simp) (.inl rfl)
    | @up _ later hlater h₁ =>
      have hreport : report.isLater := by simpa [hreader] using h₁
      have hall : ∀ r ∈ later ++ [report], r.isLater :=
        List.forall_mem_append.2 ⟨hlater, List.forall_mem_singleton.2 hreport⟩
      refine .up hall ?_
      cases report with
      | received => exact .inl rfl
      | closed detail => exact .inr (.inr ⟨rfl, detail, List.mem_concat_self⟩)
      | connected | connectFailed => contradiction
  | takeFrame hwriter maxPayload =>
    obtain ⟨writer, outbox, stream, heq, hempty⟩ := takeFrame_spec maxPayload a
    rw [heq, List.append_nil]
    cases h with
    | dialling _ h₂ | failing _ h₂ | failed _ h₂ => simp [h₂] at hwriter
    | made h₁ h₂ houtbox =>
      obtain ⟨hsame, hcases⟩ := hempty houtbox
      exact .made h₁ (hcases.imp (·.trans hwriter) id) (hsame ▸ houtbox)
    | up hlater h₁ => exact .up hlater h₁
  | write hwriter acceptance =>
    have hconnected := h.of_writer (by simp [hwriter]) (by simp [hwriter]) (by simp [hwriter])
    obtain ⟨writer, stream, heq⟩ := writeRest_spec _ acceptance a
    rw [heq, List.append_nil]
    exact h.congr_of_connected hconnected rfl
  | flush hwriter outcome =>
    have hconnected := h.of_writer (by simp [hwriter]) (by simp [hwriter]) (by simp [hwriter])
    obtain ⟨writer, heq⟩ := flushed_spec outcome a
    rw [heq, List.append_nil]
    exact h.congr_of_connected hconnected rfl
  | reportWrite hwriter =>
    have hconnected := h.of_writer (by simp [hwriter]) (by simp [hwriter]) (by simp [hwriter])
    exact h.concat hconnected rfl rfl
  | hangUp hwriter =>
    have hconnected := h.of_writer (by simp [hwriter]) (by simp [hwriter]) (by simp [hwriter])
    rw [List.append_nil]
    exact h.congr_of_connected hconnected rfl

/-- What an attempt reports: nothing yet, that the connection is not made, or the connection and
later reports. -/
theorem HasPosted.cases (h : HasPosted posted a) :
    posted = [] ∨ (∃ detail, posted = [.connectFailed detail])
      ∨ ∃ later, posted = .connected :: later ∧ ∀ report ∈ later, report.isLater := by
  cases h with
  | dialling | failing | made => exact .inl rfl
  | failed => exact .inr (.inl ⟨_, rfl⟩)
  | up hlater => exact .inr (.inr ⟨_, rfl, hlater⟩)

end

/-- A step of a helper leaves the number and the endpoint of the attempt alone. -/
theorem Advances.same {a a' : Attempt} {reports : List Report} (h : Advances a reports a') :
    a'.generation = a.generation ∧ a'.endpoint = a.endpoint := by
  -- no step names the number or the endpoint, as each specification says
  cases h with
  | dial _ settings outcome =>
    obtain ⟨_, _, _, heq, -⟩ := dialled_spec settings outcome a
    rw [heq]; exact ⟨rfl, rfl⟩
  | split => exact ⟨rfl, rfl⟩
  | read _ maxPayload extra =>
    obtain ⟨_, _, _, heq, -⟩ := read_spec maxPayload extra a
    rw [heq]; exact ⟨rfl, rfl⟩
  | readFails _ maxPayload e =>
    obtain ⟨_, heq, -⟩ := readFails_spec maxPayload e a
    rw [heq]; exact ⟨rfl, rfl⟩
  | @reportRead report _ =>
    obtain ⟨_, heq⟩ := reported_spec report a
    rw [heq]; exact ⟨rfl, rfl⟩
  | takeFrame _ maxPayload =>
    obtain ⟨_, _, _, heq, -⟩ := takeFrame_spec maxPayload a
    rw [heq]; exact ⟨rfl, rfl⟩
  | write _ acceptance =>
    obtain ⟨_, _, heq⟩ := writeRest_spec _ acceptance a
    rw [heq]; exact ⟨rfl, rfl⟩
  | flush _ outcome =>
    obtain ⟨_, heq⟩ := flushed_spec outcome a
    rw [heq]; exact ⟨rfl, rfl⟩
  | reportWrite => exact ⟨rfl, rfl⟩
  | hangUp => exact ⟨rfl, rfl⟩

end Attempt

end CidrLookup
