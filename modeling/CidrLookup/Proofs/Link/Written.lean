import CidrLookup.Proofs.Link.Attempt
import CidrLookup.Proofs.Record.Form

/-!
# What an attempt writes

The writing helper of an attempt takes frames from the outbox and writes their records, piece by
piece. `Inscribed` ties the bytes on the stream to what the helper is about: whole records while it
waits or flushes, whole records but for the rest that it still holds while it writes, and after it
has given up the front of some records, however the last of them was cut. A helper that has given up
writes no more. `Advances.passes` is the step.
-/

namespace CidrLookup

/-- Whether the writing helper has given up, or has no more to do. -/
def WriterPhase.isOver : WriterPhase → Bool
  | reporting _ | hangingUp | finished => true
  | absent | idle | writing _ | flushing => false

/-! ## Streams -/

namespace Stream

/-- Reading leaves alone what was written. -/
theorem outbound_read (size : Nat) (s : Stream) : (s.read size).2.outbound = s.outbound := by
  unfold read
  split
  · split <;> rfl
  · rfl

/-- A write that is not refused adds the bytes to what was written. -/
theorem write_spec (bytes : Bytes) (s : Stream) :
    s.write bytes = (.error .brokenPipe, s)
      ∨ ∃ stream, s.write bytes = (.ok bytes.length, stream)
        ∧ stream.outbound.sent = s.outbound.sent ++ bytes := by
  unfold write
  split
  · exact .inl rfl
  · exact .inr ⟨_, rfl, Channel.sent_sendAll ..⟩

/-- What the peer can do with a stream. -/
inductive Met (s : Stream) : Stream → Prop where
  | wrote (bytes : Bytes) : Met s (s.peerWrite bytes).2
  | read (size : Nat) : Met s (s.peerRead size).2
  | ended : Met s s.peerEnd

/-- Nothing that the peer does adds to what this end has written. -/
theorem Met.sent_eq {s s' : Stream} (h : Met s s') : s'.outbound.sent = s.outbound.sent := by
  cases h with
  | wrote bytes =>
    unfold peerWrite
    split <;> rfl
  | read size =>
    unfold peerRead
    split
    · rfl
    · exact Channel.sent_receiveUpTo ..
  | ended => rfl

end Stream

namespace Attempt

open Record (form)

/-- The bytes that were written to the stream of an attempt. -/
def written (a : Attempt) : Bytes :=
  a.stream.outbound.sent

/-- The frames that the writing helper has taken, in order. -/
def taken (a : Attempt) : List Bytes :=
  a.outbox.received.reverse

/-- Frames that have a record. -/
def Encodable (frames : List Bytes) : Prop :=
  ∀ frame ∈ frames, frame.length ≤ Numeral.maxWord

/-- What was written, with what the writing helper is about. -/
inductive Inscribed (a : Attempt) : Prop where
  /-- There is no connection yet. -/
  | blank (hwriter : a.writer = .absent) (htaken : a.taken = []) (hwritten : a.written = [])
  /-- The records of all frames taken are written. -/
  | whole (hwriter : a.writer = .idle ∨ a.writer = .flushing) (hencodable : Encodable a.taken)
      (hwritten : a.written = a.taken.flatMap form)
  /-- The rest of the last record is still to be written. -/
  | partly {rest : Bytes} (hwriter : a.writer = .writing rest) (hencodable : Encodable a.taken)
      (hwritten : a.written ++ rest = a.taken.flatMap form)
  /-- No more is written; a frame may be cut short, or not begun. -/
  | stopped {begun : List Bytes} (hwriter : a.writer.isOver) (hbegun : begun <+: a.taken)
      (hencodable : Encodable begun) (hwritten : a.written <+: begun.flatMap form)

/-- An attempt that was another one before: more may be written, but not by a helper that has given
up. -/
structure Carried (a a' : Attempt) : Prop where
  generation_eq : a'.generation = a.generation
  grows : a.written <+: a'.written
  stays : a.writer.isOver → a'.writer.isOver ∧ a'.written = a.written

/-- A change that fits what was written before. -/
def Passes (a a' : Attempt) : Prop :=
  a.Inscribed → a'.Inscribed ∧ a.Carried a'

theorem Carried.refl (a : Attempt) : a.Carried a :=
  ⟨rfl, List.prefix_rfl, fun h => ⟨h, rfl⟩⟩

theorem Carried.trans {a a' a'' : Attempt} (h : a.Carried a') (h' : a'.Carried a'') :
    a.Carried a'' := by
  refine ⟨h'.generation_eq.trans h.generation_eq, h.grows.trans h'.grows, fun hover => ?_⟩
  obtain ⟨hover', hsame⟩ := h.stays hover
  obtain ⟨hover'', hsame'⟩ := h'.stays hover'
  exact ⟨hover'', hsame'.trans hsame⟩

/-- Nothing is written for an attempt that was just started. -/
theorem inscribed_new (generation : Nat) (endpoint : Endpoint) :
    (new generation endpoint).Inscribed :=
  .blank rfl rfl rfl

section

variable {a a' : Attempt}

/-- Whatever else changes, it is nothing to the writing helper. -/
theorem Passes.of_same (hgeneration : a'.generation = a.generation) (hwriter : a'.writer = a.writer)
    (htaken : a'.taken = a.taken) (hwritten : a'.written = a.written) : a.Passes a' := by
  intro h
  refine ⟨?_, hgeneration, hwritten ▸ List.prefix_rfl, fun hover => ⟨hwriter ▸ hover, hwritten⟩⟩
  cases h with
  | blank h₁ h₂ h₃ => exact .blank (hwriter.trans h₁) (htaken.trans h₂) (hwritten.trans h₃)
  | whole h₁ h₂ h₃ => exact .whole (hwriter ▸ h₁) (htaken ▸ h₂) (by rw [hwritten, htaken, h₃])
  | partly h₁ h₂ h₃ => exact .partly (hwriter.trans h₁) (htaken ▸ h₂) (by rw [hwritten, htaken, h₃])
  | stopped h₁ h₂ h₃ h₄ => exact .stopped (hwriter ▸ h₁) (htaken ▸ h₂) h₃ (hwritten ▸ h₄)

/-- Without a writing helper, no frame is taken and nothing is written. -/
theorem Inscribed.of_absent (h : a.Inscribed) (hwriter : a.writer = .absent) :
    a.taken = [] ∧ a.written = [] := by
  cases h with
  | blank _ h₂ h₃ => exact ⟨h₂, h₃⟩
  | whole h₁ => simp [hwriter] at h₁
  | partly h₁ => simp [hwriter] at h₁
  | stopped h₁ => simp [hwriter, WriterPhase.isOver] at h₁

/-- Between two records, the records of all frames that were taken are written. -/
theorem Inscribed.of_whole (h : a.Inscribed) (hwriter : a.writer = .idle ∨ a.writer = .flushing) :
    Encodable a.taken ∧ a.written = a.taken.flatMap form := by
  cases h with
  | whole _ h₂ h₃ => exact ⟨h₂, h₃⟩
  | blank h₁ => simp [h₁] at hwriter
  | partly h₁ => simp [h₁] at hwriter
  | stopped h₁ => rcases hwriter with hwriter | hwriter <;> simp [hwriter, WriterPhase.isOver] at h₁

/-- Within a record, the rest of it is missing. -/
theorem Inscribed.of_writing (h : a.Inscribed) {rest : Bytes} (hwriter : a.writer = .writing rest) :
    Encodable a.taken ∧ a.written ++ rest = a.taken.flatMap form := by
  cases h with
  | partly h₁ h₂ h₃ =>
    cases h₁.symm.trans hwriter
    exact ⟨h₂, h₃⟩
  | blank h₁ => simp [h₁] at hwriter
  | whole h₁ => simp [hwriter] at h₁
  | stopped h₁ => simp [hwriter, WriterPhase.isOver] at h₁

/-- What was written comes first in the records of frames that were taken. -/
theorem Inscribed.begun (h : a.Inscribed) :
    ∃ begun, begun <+: a.taken ∧ Encodable begun ∧ a.written <+: begun.flatMap form := by
  cases h with
  | blank _ _ h₃ => exact ⟨[], List.nil_prefix, List.forall_mem_nil _, h₃ ▸ List.nil_prefix⟩
  | whole _ h₂ h₃ => exact ⟨_, List.prefix_rfl, h₂, h₃ ▸ List.prefix_rfl⟩
  | partly _ h₂ h₃ => exact ⟨_, List.prefix_rfl, h₂, h₃ ▸ List.prefix_append ..⟩
  | stopped _ h₂ h₃ h₄ => exact ⟨_, h₂, h₃, h₄⟩

/-- Bytes that are no whole records, with no rest to come, are what a helper has left that has given
up. -/
theorem Inscribed.isOver_of_cut (h : a.Inscribed) (hrest : ∀ rest, a.writer ≠ .writing rest)
    (hcut : ∀ frames, frames <+: a.taken → a.written ≠ frames.flatMap form) : a.writer.isOver := by
  cases h with
  | blank _ _ h₃ => exact absurd h₃ (hcut [] List.nil_prefix)
  | whole _ _ h₃ => exact absurd h₃ (hcut _ List.prefix_rfl)
  | partly h₁ => exact absurd h₁ (hrest _)
  | stopped h₁ => exact h₁

/-! ## Steps -/

/-- The writing helper gives up, with what it has written. -/
theorem Passes.of_over (hgeneration : a'.generation = a.generation) (hover : a'.writer.isOver)
    (htaken : a.taken <+: a'.taken) (hwritten : a'.written = a.written) : a.Passes a' := by
  intro h
  refine ⟨?_, hgeneration, hwritten ▸ List.prefix_rfl, fun _ => ⟨hover, hwritten⟩⟩
  obtain ⟨begun, hbegun, hencodable, hgrown⟩ := h.begun
  exact .stopped hover (hbegun.trans htaken) hencodable (hwritten ▸ hgrown)

/-- A helper that was at work may have written more. -/
theorem Passes.of_working (hworking : ¬ a.writer.isOver)
    (hgeneration : a'.generation = a.generation)
    (hinscribed : a.Inscribed → a'.Inscribed ∧ a.written <+: a'.written) : a.Passes a' := by
  intro h
  obtain ⟨hinscribed', hgrows⟩ := hinscribed h
  exact ⟨hinscribed', hgeneration, hgrows, fun hover => absurd hover hworking⟩

/-- A stream on which nothing was written takes the place of none. -/
theorem Passes.of_absent (habsent : a.writer = .absent) (hgeneration : a'.generation = a.generation)
    (hwriter : a'.writer = .absent ∨ a'.writer = .idle) (htaken : a'.taken = a.taken)
    (hwritten : a'.written = []) : a.Passes a' := by
  refine .of_working (by simp [habsent, WriterPhase.isOver]) hgeneration fun h => ?_
  obtain ⟨hnone, hblank⟩ := h.of_absent habsent
  refine ⟨?_, hblank ▸ List.nil_prefix⟩
  rw [hnone] at htaken
  rcases hwriter with hwriter | hwriter
  · exact .blank hwriter htaken hwritten
  · exact .whole (.inl hwriter) (by simp [htaken, Encodable]) (by simp [htaken, hwritten])

/-- To make the connection writes nothing. -/
theorem passes_dialled (habsent : a.writer = .absent) (settings : StreamSettings)
    (outcome : Except TransportError Unit) : a.Passes (a.dialled settings outcome) := by
  unfold dialled
  split
  · exact .of_same rfl rfl rfl rfl
  · split
    · exact .of_absent habsent rfl (.inl habsent) rfl rfl
    · exact .of_absent habsent rfl (.inr rfl) rfl rfl

theorem written_readerFails (e : FrameError) (a : Attempt) :
    (a.readerFails e).written = a.written := by
  obtain ⟨detail, heq⟩ := readerFails_spec e a
  rw [heq]
  rfl

/-- A reading helper that reads has written nothing. -/
theorem written_read (maxPayload extra : Nat) (a : Attempt) :
    (a.read maxPayload extra).written = a.written := by
  -- reading takes from the inbound side, and what is written is the outbound side
  have hread : (a.stream.read (extra + 1)).2.outbound.sent = a.written := by
    rw [Stream.outbound_read]
    rfl
  unfold read
  split
  · exact written_readerFails _ a
  · rfl
  · split
    · split
      all_goals
        rename_i heq
        rw [heq] at hread
      · rw [written_readerFails]
        exact hread
      · exact hread
      · rw [written_readerFails]
        exact hread
    · rfl

theorem written_release (a : Attempt) : a.release.written = a.written := by
  unfold release
  split <;> rfl

theorem written_reported (report : Report) (a : Attempt) :
    (a.reported report).written = a.written := by
  unfold reported
  split
  · rfl
  · exact written_release _

/-- A writing helper that takes a frame has its record to write. -/
theorem passes_takeFrame (hidle : a.writer = .idle) (maxPayload : Nat) :
    a.Passes (a.takeFrame maxPayload) := by
  unfold takeFrame
  split
  · rename_i frame outbox hreceive
    -- the frame is the next of those that were taken, whether its record can be written or not
    have htaken : outbox.received.reverse = a.taken ++ [frame] := by
      rw [Channel.received_of_receive? hreceive, List.reverse_cons]
      rfl
    split
    · -- nothing of the record is written yet
      rename_i record hencode
      obtain ⟨hfits, rfl⟩ := Record.encodeWithin_eq_ok_iff.1 hencode
      refine .of_working (by simp [hidle, WriterPhase.isOver]) rfl fun h => ?_
      obtain ⟨hencodable, hwhole⟩ := h.of_whole (.inl hidle)
      refine ⟨.partly rfl ?_ ?_, List.prefix_rfl⟩
      · show Encodable outbox.received.reverse
        rw [htaken]
        exact List.forall_mem_append.2 ⟨hencodable, List.forall_mem_singleton.2 hfits.hword⟩
      · show a.written ++ form frame = outbox.received.reverse.flatMap form
        rw [htaken, List.flatMap_append, hwhole, List.flatMap_singleton]
    · refine .of_over rfl rfl ?_ rfl
      show a.taken <+: outbox.received.reverse
      rw [htaken]
      exact List.prefix_append ..
  · split
    · exact .of_same rfl rfl rfl rfl
    · obtain ⟨stream, heq⟩ := release_spec { a with writer := .finished }
      have hwritten := written_release { a with writer := .finished }
      rw [heq] at hwritten ⊢
      exact .of_over rfl rfl List.prefix_rfl hwritten

/-- A frame that is taken was put into the outbox before. -/
theorem sent_takeFrame (maxPayload : Nat) (a : Attempt) :
    (a.takeFrame maxPayload).outbox.sent = a.outbox.sent := by
  unfold takeFrame
  split
  · rename_i hreceive
    split <;> exact Channel.sent_of_receive? hreceive
  · split
    · rfl
    · obtain ⟨stream, heq⟩ := release_spec { a with writer := .finished }
      rw [heq]

/-- A writing helper writes the next bytes of its record. -/
theorem passes_writeRest {rest : Bytes} (hwriting : a.writer = .writing rest)
    (acceptance : Record.Acceptance) : a.Passes (a.writeRest rest acceptance) := by
  unfold writeRest
  split
  · split
    · exact .of_same rfl rfl rfl rfl
    · exact .of_over rfl rfl List.prefix_rfl rfl
  · rename_i count
    split
    · exact .of_over rfl rfl List.prefix_rfl rfl
    · exact .of_over rfl rfl List.prefix_rfl rfl
    · rename_i stream _ hwrite
      -- what the stream takes is the front of what is left, so the record goes on where it stopped
      have hgrown : stream.outbound.sent = a.written ++ rest.take count := by
        obtain hrefused | ⟨stream', hwrote, hsent⟩ := Stream.write_spec (rest.take count) a.stream
        · rw [hrefused] at hwrite
          cases hwrite
        · rw [hwrote] at hwrite
          cases hwrite
          exact hsent
      refine .of_working (by simp [hwriting, WriterPhase.isOver]) rfl fun h => ?_
      obtain ⟨hencodable, hpartly⟩ := h.of_writing hwriting
      have hall : stream.outbound.sent ++ rest.drop count = a.taken.flatMap form := by
        rw [hgrown, List.append_assoc, List.take_append_drop, hpartly]
      refine ⟨?_, _, hgrown.symm⟩
      by_cases hleft : rest.drop count = []
      · rw [hleft, List.append_nil] at hall
        exact .whole (.inr (by simp [hleft])) hencodable hall
      · exact .partly (by simp [hleft]) hencodable hall

/-- To flush writes nothing. -/
theorem passes_flushed (hflushing : a.writer = .flushing) (outcome : Option IoError) :
    a.Passes (a.flushed outcome) := by
  unfold flushed
  split
  · refine .of_working (by simp [hflushing, WriterPhase.isOver]) rfl fun h => ?_
    obtain ⟨hencodable, hwhole⟩ := h.of_whole (.inr hflushing)
    exact ⟨.whole (.inl rfl) hencodable hwhole, List.prefix_rfl⟩
  · split
    · exact .of_same rfl rfl rfl rfl
    · exact .of_over rfl rfl List.prefix_rfl rfl

/-- A helper that has not begun to read finds no connection to write to. -/
theorem HasPosted.absent {posted : List Report} (h : HasPosted posted a)
    (hreader : a.reader = .connecting) : a.writer = .absent := by
  cases h with
  | dialling _ hwriter => exact hwriter
  | failing h₁ | made h₁ | failed h₁ => simp [h₁] at hreader
  | up _ h₁ => simp [hreader] at h₁

/-- **The step.** What a helper does fits what was written before, and the frames that were given
stay. -/
theorem Advances.passes {posted reports : List Report} (h : Advances a reports a')
    (hposted : HasPosted posted a) : a.Passes a' ∧ a'.outbox.sent = a.outbox.sent := by
  -- the steps of the reading helper leave the writing one alone; before the connection is made
  -- there is none
  cases h with
  | dial hreader settings outcome =>
    obtain ⟨_, _, _, heq, -⟩ := dialled_spec settings outcome a
    exact ⟨passes_dialled (hposted.absent hreader) settings outcome, by rw [heq]⟩
  | split hreader e =>
    have habsent := hposted.absent hreader
    exact ⟨.of_absent habsent rfl (.inl habsent) rfl rfl, rfl⟩
  | read _ maxPayload extra =>
    obtain ⟨_, _, _, heq, -⟩ := read_spec maxPayload extra a
    have hwritten := written_read maxPayload extra a
    rw [heq] at hwritten ⊢
    exact ⟨.of_same rfl rfl rfl hwritten, rfl⟩
  | readFails _ maxPayload e =>
    obtain ⟨_, heq, -⟩ := readFails_spec maxPayload e a
    rw [heq]
    exact ⟨.of_same rfl rfl rfl rfl, rfl⟩
  | @reportRead report _ =>
    obtain ⟨_, heq⟩ := reported_spec report a
    have hwritten := written_reported report a
    rw [heq] at hwritten ⊢
    exact ⟨.of_same rfl rfl rfl hwritten, rfl⟩
  | takeFrame hidle maxPayload =>
    exact ⟨passes_takeFrame hidle maxPayload, sent_takeFrame maxPayload a⟩
  | write hwriting acceptance =>
    obtain ⟨_, _, heq⟩ := writeRest_spec _ acceptance a
    exact ⟨passes_writeRest hwriting acceptance, by rw [heq]⟩
  | flush hflushing outcome =>
    obtain ⟨_, heq⟩ := flushed_spec outcome a
    exact ⟨passes_flushed hflushing outcome, by rw [heq]⟩
  | reportWrite => exact ⟨.of_over rfl rfl List.prefix_rfl rfl, rfl⟩
  | hangUp => exact ⟨.of_over rfl rfl List.prefix_rfl rfl, rfl⟩

end

end Attempt

end CidrLookup
