import CidrLookup.Proofs.Link.Socket
import CidrLookup.Proofs.Link.Written

/-!
# What a writing helper still owes

A writing helper goes on with the frames that wait in an outbox, also in one to which no more can
come. `owed` is what it can still come to write: the rest of a record, and the records of the frames
that wait, up to one that is over the limit; nothing on a stream that is closed for writing.
`Spends` says of an attempt that what it has written since is what it owed, and holds of each step
of its helpers and of whatever else can happen to it while nothing is added to its outbox.

`Orderly` says what is left to do to a helper that writes, and which of the helpers have ended when
an end was reported.
-/

namespace CidrLookup

/-! ## Streams -/

/-- A stream that was another one before: nothing was written from this end in between, and it is
not opened again for writing. -/
structure Stream.Keeps (s s' : Stream) : Prop where
  sent_eq : s'.outbound.sent = s.outbound.sent
  closed : s.isClosedForWriting → s'.isClosedForWriting

instance (s s' : Stream) : Decidable (s.Keeps s') :=
  decidable_of_iff
    (s'.outbound.sent = s.outbound.sent ∧ (s.isClosedForWriting → s'.isClosedForWriting))
    ⟨fun h => ⟨h.1, h.2⟩, fun h => ⟨h.sent_eq, h.closed⟩⟩

/-- To read from a stream writes nothing and opens nothing. -/
theorem Stream.keeps_read (size : Nat) (s : Stream) : s.Keeps (s.read size).2 := by
  refine ⟨congrArg Channel.sent (outbound_read size s), ?_⟩
  unfold read
  split
  · split <;> exact id
  · exact id

/-- A write that is not refused leaves the bytes on an open stream. -/
theorem Stream.write_eq_ok {bytes : Bytes} {count : Nat} {s s' : Stream}
    (h : s.write bytes = (.ok count, s')) :
    s.isClosedForWriting = false ∧ s' = { s with outbound := s.outbound.sendAll bytes } := by
  unfold write at h
  split at h
  · cases h
  · rename_i hopen
    cases h
    exact ⟨by simpa using hopen, rfl⟩

/-- The peer keeps what this end has of a stream. -/
theorem Stream.Met.keeps {s s' : Stream} (h : s.Met s') : s.Keeps s' := by
  refine ⟨h.sent_eq, ?_⟩
  cases h with
  | wrote bytes =>
    unfold peerWrite
    split <;> exact id
  | read size =>
    unfold peerRead
    split <;> exact id
  | ended => exact id

/-! ## Attempts -/

namespace Attempt

/-- The records of frames in their order, up to one that is over the limit. -/
def records (maxPayload : Nat) : List Bytes → Bytes
  | [] => []
  | frame :: more =>
    match Record.encodeWithin maxPayload frame with
    | .ok record => record ++ records maxPayload more
    | .error _ => []

/-- The bytes that the writing helper can still come to write without another frame. -/
def owed (maxPayload : Nat) (a : Attempt) : Bytes :=
  if a.stream.isClosedForWriting then []
  else match a.writer with
    | .idle | .flushing => records maxPayload a.outbox.waiting
    | .writing rest => rest ++ records maxPayload a.outbox.waiting
    | .absent | .reporting _ | .hangingUp | .finished => []

/-- Nothing is owed to a stream that is closed for writing. -/
theorem owed_of_isClosedForWriting {maxPayload : Nat} {a : Attempt}
    (h : a.stream.isClosedForWriting) : a.owed maxPayload = [] := by
  rw [owed, if_pos h]

/-- Nothing is owed to a stream that is shut down. -/
theorem owed_of_shutDown {maxPayload : Nat} {a : Attempt} (h : a.stream.shutDown) :
    a.owed maxPayload = [] :=
  owed_of_isClosedForWriting (by simp [Stream.isClosedForWriting, h])

/-- A helper that writes owes what is left of a record and what waits behind it. -/
theorem owed_of_left {maxPayload : Nat} {a : Attempt} (left : Bytes)
    (hopen : a.stream.isClosedForWriting = false)
    (hwriter : a.writer = if left.isEmpty then .flushing else .writing left) :
    a.owed maxPayload = left ++ records maxPayload a.outbox.waiting := by
  by_cases hleft : left = [] <;> simp [owed, hopen, hwriter, hleft]

/-- A helper that has given up owes nothing. -/
theorem owed_of_isOver {maxPayload : Nat} {a : Attempt} (h : a.writer.isOver) :
    a.owed maxPayload = [] := by
  unfold owed
  split
  · rfl
  · cases hwriter : a.writer <;> simp_all [WriterPhase.isOver]

/-- An attempt that was another one before, and whose connection had been made: what it has written
in between is what it owed, and neither its stream nor its outbox is opened again. -/
structure Spends (maxPayload : Nat) (a a' : Attempt) : Prop where
  generation_eq : a'.generation = a.generation
  made : a'.reader ≠ .connecting
  grows : a.written <+: a'.written
  spends : a'.written ++ a'.owed maxPayload <+: a.written ++ a.owed maxPayload
  closed : a.stream.isClosedForWriting → a'.stream.isClosedForWriting
  dropped : a.outboxOpen = false → a'.outboxOpen = false

section

variable {maxPayload : Nat} {a a' a'' : Attempt}

theorem Spends.refl (hmade : a.reader ≠ .connecting) : Spends maxPayload a a :=
  ⟨rfl, hmade, List.prefix_rfl, List.prefix_rfl, id, id⟩

theorem Spends.trans (h : Spends maxPayload a a') (h' : Spends maxPayload a' a'') :
    Spends maxPayload a a'' :=
  ⟨h'.generation_eq.trans h.generation_eq, h'.made, h.grows.trans h'.grows,
    h'.spends.trans h.spends, h'.closed ∘ h.closed, h'.dropped ∘ h.dropped⟩

/-- What is written in between lies within what was owed. -/
theorem Spends.written_prefix (h : Spends maxPayload a a') :
    a'.written <+: a.written ++ a.owed maxPayload :=
  (List.prefix_append ..).trans h.spends

/-- What was written and what is owed are the same together. -/
theorem Spends.of_same (hgeneration : a'.generation = a.generation)
    (hmade : a'.reader ≠ .connecting) (hgrows : a.written <+: a'.written)
    (hsame : a'.written ++ a'.owed maxPayload = a.written ++ a.owed maxPayload)
    (hclosed : a.stream.isClosedForWriting → a'.stream.isClosedForWriting)
    (hdropped : a.outboxOpen = false → a'.outboxOpen = false) : Spends maxPayload a a' :=
  ⟨hgeneration, hmade, hgrows, hsame ▸ List.prefix_rfl, hclosed, hdropped⟩

/-- The writing helper and what it has are the same, and the stream is kept. -/
theorem Spends.of_kept (hgeneration : a'.generation = a.generation)
    (hmade : a'.reader ≠ .connecting) (hwriter : a'.writer = a.writer)
    (houtbox : a'.outbox = a.outbox) (hkeeps : a.stream.Keeps a'.stream)
    (hdropped : a.outboxOpen = false → a'.outboxOpen = false) : Spends maxPayload a a' := by
  have hwritten : a'.written = a.written := hkeeps.sent_eq
  refine ⟨hgeneration, hmade, hwritten ▸ List.prefix_rfl, ?_, hkeeps.closed, hdropped⟩
  rw [hwritten, List.prefix_append_right_inj]
  -- the stream may have been closed in between, but not opened
  by_cases hclosed : a'.stream.isClosedForWriting
  · rw [owed_of_isClosedForWriting hclosed]
    exact List.nil_prefix
  · have hbefore : ¬ a.stream.isClosedForWriting := fun h => hclosed (hkeeps.closed h)
    have hsame : a'.owed maxPayload = a.owed maxPayload := by
      rw [owed, owed, if_neg hclosed, if_neg hbefore, hwriter, houtbox]
    exact hsame ▸ List.prefix_rfl

/-- Nothing is written, and nothing is owed any more. -/
theorem Spends.of_owed_eq_nil (hgeneration : a'.generation = a.generation)
    (hmade : a'.reader ≠ .connecting) (hwritten : a'.written = a.written)
    (howed : a'.owed maxPayload = [])
    (hclosed : a.stream.isClosedForWriting → a'.stream.isClosedForWriting)
    (hdropped : a.outboxOpen = false → a'.outboxOpen = false) : Spends maxPayload a a' := by
  refine ⟨hgeneration, hmade, hwritten ▸ List.prefix_rfl, ?_, hclosed, hdropped⟩
  rw [howed, hwritten, List.append_nil]
  exact List.prefix_append ..

/-! ### Steps -/

/-- A stream that is shut down is closed for writing. -/
theorem isClosedForWriting_shutdown (s : Stream) : s.shutdown.isClosedForWriting := by
  simp [Stream.isClosedForWriting, Stream.shutdown]

/-- To shut the stream down spends nothing, and nothing is owed any more. -/
theorem spends_shutdown (hmade : a.reader ≠ .connecting) : Spends maxPayload a a.shutdown :=
  .of_owed_eq_nil rfl hmade rfl (owed_of_shutDown rfl)
    (fun _ => isClosedForWriting_shutdown a.stream) fun _ => rfl

/-- To let the stream go spends nothing. -/
theorem spends_release (hmade : a.reader ≠ .connecting) : Spends maxPayload a a.release := by
  unfold release
  split
  · exact .of_owed_eq_nil rfl hmade rfl (owed_of_shutDown rfl)
      (fun _ => isClosedForWriting_shutdown a.stream) id
  · exact .refl hmade

/-- What a helper comes to read leaves the stream open or closed as it is. -/
theorem keeps_read (limit extra : Nat) (a : Attempt) :
    a.stream.Keeps (a.read limit extra).stream := by
  -- the stream is read, or nothing happens to it
  have hfails (e : FrameError) (a : Attempt) : (a.readerFails e).stream = a.stream := by
    obtain ⟨detail, heq⟩ := readerFails_spec e a
    rw [heq]
  have hread := Stream.keeps_read (extra + 1) a.stream
  unfold read
  split
  · rw [hfails]
    exact ⟨rfl, id⟩
  · exact ⟨rfl, id⟩
  · split
    · split
      all_goals
        rename_i heq
        rw [heq] at hread
      · rwa [hfails]
      · exact hread
      · rwa [hfails]
    · exact ⟨rfl, id⟩

/-- To read spends nothing. -/
theorem spends_read (hreading : a.reader = .reading) (limit extra : Nat) :
    Spends maxPayload a (a.read limit extra) := by
  have hkeeps := keeps_read limit extra a
  obtain ⟨reader, buffer, stream, heq, hcases⟩ := read_spec limit extra a
  rw [heq] at hkeeps ⊢
  refine .of_kept rfl ?_ rfl rfl hkeeps id
  obtain rfl | ⟨report, -, rfl⟩ := hcases <;> simp [hreading]

/-- A read that fails spends nothing. -/
theorem spends_readFails (hreading : a.reader = .reading) (limit : Nat) (e : IoError) :
    Spends maxPayload a (a.readFails limit e) := by
  obtain ⟨reader, heq, hcases⟩ := readFails_spec limit e a
  rw [heq]
  refine .of_kept rfl ?_ rfl rfl ⟨rfl, id⟩ id
  obtain rfl | ⟨report, -, rfl⟩ := hcases <;> simp [hreading]

/-- To report spends nothing. -/
theorem spends_reported (report : Report) : Spends maxPayload a (a.reported report) := by
  have hfinished : Spends maxPayload a { a with reader := .finished } :=
    .of_kept rfl (by simp) rfl rfl ⟨rfl, id⟩ id
  unfold reported
  split
  · exact .of_kept rfl (by simp) rfl rfl ⟨rfl, id⟩ id
  · exact hfinished.trans (spends_release (by simp))

/-- A writing helper gives up, with what it has written. -/
theorem Spends.of_over (hgeneration : a'.generation = a.generation)
    (hmade : a'.reader ≠ .connecting) (hwritten : a'.written = a.written)
    (hover : a'.writer.isOver)
    (hclosed : a.stream.isClosedForWriting → a'.stream.isClosedForWriting)
    (hdropped : a.outboxOpen = false → a'.outboxOpen = false) : Spends maxPayload a a' :=
  .of_owed_eq_nil hgeneration hmade hwritten (owed_of_isOver hover) hclosed hdropped

/-- The record of a frame that is taken was owed. -/
theorem spends_takeFrame (hmade : a.reader ≠ .connecting) (hidle : a.writer = .idle) :
    Spends maxPayload a (a.takeFrame maxPayload) := by
  unfold takeFrame
  split
  · rename_i frame outbox hreceive
    -- the frame moves from what waits to what is being written, and is owed in both places
    have hwaiting : a.outbox.waiting = frame :: outbox.waiting := by
      unfold Channel.receive? at hreceive
      split at hreceive <;> cases hreceive
      assumption
    split
    · rename_i record hencode
      refine .of_same rfl hmade List.prefix_rfl (congrArg (a.written ++ ·) ?_) id id
      simp [owed, hidle, hwaiting, records, hencode]
    · exact .of_over rfl hmade rfl rfl id id
  · split
    · exact .refl hmade
    · have hfinished : Spends maxPayload a { a with writer := .finished } :=
        .of_over rfl hmade rfl rfl id id
      exact hfinished.trans (spends_release hmade)

/-- What a write takes was owed, and the rest of the record still is. -/
theorem spends_writeRest {rest : Bytes} (hmade : a.reader ≠ .connecting)
    (hwriting : a.writer = .writing rest) (acceptance : Record.Acceptance) :
    Spends maxPayload a (a.writeRest rest acceptance) := by
  unfold writeRest
  split
  · split
    · exact .refl hmade
    · exact .of_over rfl hmade rfl rfl id id
  · rename_i count
    split
    · exact .of_over rfl hmade rfl rfl id id
    · exact .of_over rfl hmade rfl rfl id id
    · rename_i stream _ hwrite
      obtain ⟨hopen, rfl⟩ := Stream.write_eq_ok hwrite
      -- the front of the rest goes over from what is owed to what is written
      let a' : Attempt := { a with
        writer := if (rest.drop count).isEmpty then .flushing else .writing (rest.drop count)
        stream := { a.stream with outbound := a.stream.outbound.sendAll (rest.take count) } }
      have hgrown : a'.written = a.written ++ rest.take count := Channel.sent_sendAll ..
      have howed : a'.owed maxPayload
          = rest.drop count ++ records maxPayload a.outbox.waiting := owed_of_left _ hopen rfl
      refine .of_same rfl hmade ⟨_, hgrown.symm⟩ ?_ id id
      calc a'.written ++ a'.owed maxPayload
          = a.written ++ rest.take count
              ++ (rest.drop count ++ records maxPayload a.outbox.waiting) := by rw [hgrown, howed]
        _ = a.written ++ (rest ++ records maxPayload a.outbox.waiting) := by
            rw [List.append_assoc, ← List.append_assoc (rest.take count), List.take_append_drop]
        _ = a.written ++ a.owed maxPayload := by simp [owed, hopen, hwriting]

/-- To flush spends nothing. -/
theorem spends_flushed (hmade : a.reader ≠ .connecting) (hflushing : a.writer = .flushing)
    (outcome : Option IoError) : Spends maxPayload a (a.flushed outcome) := by
  unfold flushed
  split
  · refine .of_same rfl hmade List.prefix_rfl (congrArg (a.written ++ ·) ?_) id id
    simp [owed, hflushing]
  · split
    · exact .refl hmade
    · exact .of_over rfl hmade rfl rfl id id

end

/-! ## Helpers that have ended -/

/-- A writing helper has something to write, and an end that was reported is that of one of the
helpers. -/
structure Orderly (posted : List Report) (a : Attempt) : Prop where
  rest_ne : a.writer ≠ .writing []
  ended : ∀ detail, .closed detail ∈ posted → a.reader = .finished ∨ a.writer.isOver

section

variable {posted reports : List Report} {a a' : Attempt}

/-- A helper with something to write, or none to write, is orderly before anything is posted. -/
theorem orderly_of_nil (h : a.writer ≠ .writing []) : Orderly [] a :=
  ⟨h, fun _ hmem => by contradiction⟩

/-- Nothing but the phases of the helpers matters. -/
theorem Orderly.congr (h : Orderly posted a) (hreader : a'.reader = a.reader)
    (hwriter : a'.writer = a.writer) : Orderly posted a' :=
  ⟨hwriter ▸ h.rest_ne, fun detail hclosed => hreader ▸ hwriter ▸ h.ended detail hclosed⟩

/-- While the reading helper is at work only the writing one can have reported an end. -/
theorem Orderly.of_reader (h : Orderly posted a) (hreader : a.reader ≠ .finished)
    (hwriter : a'.writer = a.writer) : Orderly posted a' := by
  refine ⟨hwriter ▸ h.rest_ne, fun detail hclosed => .inr ?_⟩
  rw [hwriter]
  exact (h.ended detail hclosed).resolve_left hreader

/-- While the writing helper is at work only the reading one can have reported an end. -/
theorem Orderly.of_writer (h : Orderly posted a) (hwriter : ¬ a.writer.isOver)
    (hreader : a'.reader = a.reader) (hrest : a'.writer ≠ .writing []) : Orderly posted a' := by
  refine ⟨hrest, fun detail hclosed => .inl ?_⟩
  rw [hreader]
  exact (h.ended detail hclosed).resolve_right hwriter

/-- A writing helper that has ended is orderly whatever is posted. -/
theorem Orderly.of_isOver (hover : a.writer.isOver) : Orderly posted a := by
  refine ⟨fun h => ?_, fun _ _ => .inr hover⟩
  simp [h, WriterPhase.isOver] at hover

/-- A writing helper that takes a frame stays orderly: a record is never empty. -/
theorem Orderly.takeFrame (h : Orderly posted a) (hidle : a.writer = .idle) (maxPayload : Nat) :
    Orderly posted (a.takeFrame maxPayload) := by
  have hover : ¬ a.writer.isOver := by simp [hidle, WriterPhase.isOver]
  unfold Attempt.takeFrame
  split
  · split
    · rename_i record hencode
      have hrecord : record ≠ [] := by
        rw [(Record.encodeWithin_eq_ok_iff.1 hencode).2]
        simp [Record.form, Record.magic]
      exact h.of_writer hover rfl (by simpa using hrecord)
    · exact .of_isOver rfl
  · split
    · exact h
    · obtain ⟨stream, heq⟩ := release_spec { a with writer := .finished }
      rw [heq]
      exact .of_isOver rfl

/-- A writing helper that writes stays orderly: it goes on only while bytes are left. -/
theorem Orderly.writeRest (h : Orderly posted a) {rest : Bytes}
    (hwriting : a.writer = .writing rest) (acceptance : Record.Acceptance) :
    Orderly posted (a.writeRest rest acceptance) := by
  unfold Attempt.writeRest
  split
  · split
    · exact h
    · exact .of_isOver rfl
  · split
    · exact .of_isOver rfl
    · exact .of_isOver rfl
    · refine h.of_writer (by simp [hwriting, WriterPhase.isOver]) rfl ?_
      simp only
      split <;> simp_all

/-- A writing helper that flushes stays orderly. -/
theorem Orderly.flushed (h : Orderly posted a) (hflushing : a.writer = .flushing)
    (outcome : Option IoError) : Orderly posted (a.flushed outcome) := by
  unfold Attempt.flushed
  split
  · exact h.of_writer (by simp [hflushing, WriterPhase.isOver]) rfl (by simp)
  · split
    · exact h
    · exact .of_isOver rfl

/-- A helper that is connecting has reported nothing. -/
theorem HasPosted.eq_nil_of_connecting (h : HasPosted posted a) (hreader : a.reader = .connecting) :
    posted = [] := by
  cases h with
  | dialling => rfl
  | failing h₁ | made h₁ | failed h₁ => simp [h₁] at hreader
  | up _ h₁ => simp [hreader] at h₁

/-- **The step.** -/
theorem Orderly.advance (h : Orderly posted a) (hposted : HasPosted posted a)
    (hstep : Advances a reports a') : Orderly (posted ++ reports) a' := by
  cases hstep with
  | dial hreader settings outcome =>
    obtain ⟨reader, writer, stream, heq, hcases⟩ := dialled_spec settings outcome a
    rw [heq, List.append_nil, hposted.eq_nil_of_connecting hreader]
    refine orderly_of_nil ?_
    obtain ⟨-, hsame⟩ | ⟨-, hidle⟩ := hcases
    · exact hsame ▸ h.rest_ne
    · simp [hidle]
  | split hreader e =>
    rw [List.append_nil]
    exact h.of_reader (by simp [hreader]) rfl
  | read hreader maxPayload extra =>
    obtain ⟨reader, buffer, stream, heq, -⟩ := read_spec maxPayload extra a
    rw [heq, List.append_nil]
    exact h.of_reader (by simp [hreader]) rfl
  | readFails hreader maxPayload e =>
    obtain ⟨reader, heq, -⟩ := readFails_spec maxPayload e a
    rw [heq, List.append_nil]
    exact h.of_reader (by simp [hreader]) rfl
  | @reportRead report hreader =>
    obtain ⟨stream, heq⟩ := reported_spec report a
    rw [heq]
    have hbefore : Orderly posted { a with
        reader := if report.goesOn then .reading else .finished, stream } :=
      h.of_reader (by simp [hreader]) rfl
    refine ⟨h.rest_ne, fun detail hclosed => ?_⟩
    -- the end was reported before, or it is reported now and the reading helper finishes
    rcases List.mem_append.1 hclosed with hold | hnew
    · exact hbefore.ended detail hold
    · rw [List.mem_singleton] at hnew
      subst hnew
      exact .inl rfl
  | takeFrame hidle maxPayload =>
    rw [List.append_nil]
    exact h.takeFrame hidle maxPayload
  | write hwriting acceptance =>
    rw [List.append_nil]
    exact h.writeRest hwriting acceptance
  | flush hflushing outcome =>
    rw [List.append_nil]
    exact h.flushed hflushing outcome
  | reportWrite => exact .of_isOver rfl
  | hangUp => exact .of_isOver rfl

end

end Attempt

end CidrLookup
