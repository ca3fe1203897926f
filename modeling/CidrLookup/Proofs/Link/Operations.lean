import CidrLookup.Proofs.Link.Owed
import Mathlib.Logic.Relation

/-!
# What happens to a link

A session calls its link and looks at it, and beside it the helpers make their steps and the network
does what it does: `Operates` lists all of it. Once a link has moved on to another number, nothing
that happens adds to what the attempt of the old number has written and owes
(`spends_of_operated`), and its writing helper can write all of it (`canWrite_owed`).

How the connection of the current attempt is left behind depends on who lets go of it. A session
that calls its link leaves the connection open or shut down (`Called.of_open`). A link that accepts
that the connection is over drops the outbox and leaves the stream as it is (`poll_of_closed`).
-/

namespace CidrLookup

open Attempt (Spends)
open Relation (ReflTransGen)

namespace Beside

/-- Whether a step is one of a helper, or the network keeps what this end has of each stream. -/
def IsLoyal (link : SocketLink) : Beside → Prop
  | helper .. => True
  | network generation stream => ∀ a ∈ link.attempts, a.generation = generation →
    a.stream.Keeps stream

instance (link : SocketLink) : (step : Beside) → Decidable (step.IsLoyal link)
  | .helper .. => .isTrue trivial
  | .network generation stream =>
    inferInstanceAs (Decidable (∀ a ∈ link.attempts, a.generation = generation →
      a.stream.Keeps stream))

/-- What the peer does with a stream is loyal. -/
theorem isLoyal_of_met {link : SocketLink} (hsound : link.Sound) {a : Attempt}
    (ha : a ∈ link.attempts) {stream : Stream} (hmet : a.stream.Met stream) :
    (network a.generation stream).IsLoyal link := by
  intro b hb hnumber
  rw [hsound.eq_of_generation_eq hb ha hnumber]
  exact hmet.keeps

end Beside

namespace SocketLink

/-- A call of a session on its link. -/
inductive Called (link : SocketLink) : SocketLink → Prop where
  | startConnect (endpoint : Endpoint) : Called link (link.startConnect endpoint)
  | close : Called link link.close
  | send (frame : Bytes) : Called link (link.send frame).2

/-- Something that happens to a link. -/
inductive Operates (link : SocketLink) : SocketLink → Prop where
  | called {link' : SocketLink} (hcalled : Called link link') : Operates link link'
  | poll : Operates link link.poll.2
  | beside {step : Beside} (hloyal : step.IsLoyal link) : Operates link (step.apply link)

section

variable {link link' : SocketLink} {generation : Nat} {a : Attempt} {f : Attempt → Attempt}

theorem mem_modify_of_ne (ha : a ∈ link.attempts) (h : a.generation ≠ generation) :
    a ∈ (link.modify generation f).attempts :=
  List.mem_map.2 ⟨a, ha, if_neg h⟩

theorem mem_modify_of_eq (ha : a ∈ link.attempts) (h : a.generation = generation) :
    f a ∈ (link.modify generation f).attempts :=
  List.mem_map.2 ⟨a, ha, if_pos h⟩

/-! ## Calls -/

/-- A call moves the link on. -/
theorem Called.next (h : Called link link') : Next link link' := by
  cases h with
  | startConnect endpoint => exact next_startConnect link endpoint
  | close => exact next_close link
  | send frame => exact next_send link frame

theorem Called.settings_eq (h : Called link link') : link'.settings = link.settings := by
  have hclose : link.close.settings = link.settings := by
    unfold SocketLink.close
    simp only
    split <;> rfl
  cases h with
  | startConnect endpoint => exact hclose
  | close => exact hclose
  | send frame =>
    unfold SocketLink.send
    split <;> rfl

/-- A call is nothing to the attempts that the link has given up before. -/
theorem Called.mem_of_lt (h : Called link link') (ha : a ∈ link.attempts)
    (hlt : a.generation < link.generation) : a ∈ link'.attempts := by
  have hne : a.generation ≠ link.generation := Nat.ne_of_lt hlt
  -- a call touches the current attempt alone, and this is an older one
  have hclose : a ∈ link.close.attempts := by
    unfold SocketLink.close
    simp only
    split
    · exact mem_modify_of_ne ha hne
    · exact ha
  cases h with
  | startConnect endpoint => exact List.mem_append_left _ hclose
  | close => exact hclose
  | send frame =>
    unfold SocketLink.send
    split
    · exact mem_modify_of_ne ha hne
    · exact ha

/-- A call does not take a number back. -/
theorem Called.generation_le (h : Called link link') : link.generation ≤ link'.generation := by
  cases h with
  | startConnect endpoint => rw [(startConnect_spec link endpoint).1]; exact Nat.le_succ _
  | close => rw [(close_spec link).1]; exact Nat.le_succ _
  | send frame => exact Nat.le_of_eq (send_spec link frame).1.symm

/-- A call is nothing to the attempts of a link without an open connection. -/
theorem Called.of_not_open (h : Called link link') (hopen : link.isOpen = false) :
    link'.isOpen = false ∧ ∀ a ∈ link.attempts, a ∈ link'.attempts := by
  -- where nothing is open, a close finds no stream to shut down, and a frame is refused
  have hclose : link.close.attempts = link.attempts := by
    unfold SocketLink.close
    simp [hopen]
  cases h with
  | startConnect endpoint =>
    refine ⟨(startConnect_spec link endpoint).2.1, fun a ha => List.mem_append_left _ ?_⟩
    rwa [hclose]
  | close => exact ⟨(close_spec link).2.1, fun a ha => hclose ▸ ha⟩
  | send frame =>
    have hrefused : (link.send frame).2 = link := by
      simp [SocketLink.send, takesFrames, hopen]
    rw [hrefused]
    exact ⟨hopen, fun a ha => ha⟩

/-- The link has moved on from a number: the attempt of the number takes no more frames and is
closed for writing. Where nothing can have happened to its stream since (`untouched`), it is shut
down. -/
def HasShut (untouched : Prop) (generation : Nat) (link : SocketLink) : Prop :=
  generation < link.generation ∧ ∃ a ∈ link.attempts, a.generation = generation
    ∧ a.reader ≠ .connecting ∧ a.outboxOpen = false ∧ a.stream.isClosedForWriting
    ∧ (untouched → a.stream.shutDown)

/-- An attempt that has posted something is no longer connecting. -/
theorem Sound.reader_ne_connecting (hsound : link.Sound) (ha : a ∈ link.attempts) {report : Report}
    (hposted : report ∈ link.posted a.generation) : a.reader ≠ .connecting := by
  intro hconnecting
  rw [(hsound.hasPosted a ha).eq_nil_of_connecting hconnecting] at hposted
  contradiction

/-- Letting go of an open connection shuts its stream down. -/
theorem hasShut_close (hsound : link.Sound) (hopen : link.isOpen) (untouched : Prop) :
    link.close.HasShut untouched link.generation := by
  -- an open link has heard that its attempt is connected, so the attempt is there and past
  -- connecting
  obtain ⟨a, ha, hgeneration⟩ : link.HasAttempt link.generation :=
    hsound.tagged _ (List.mem_append_left _ (List.mem_reverse.2 (hsound.opened hopen)))
  have hposted : .connected ∈ link.posted a.generation :=
    hgeneration ▸ hsound.connected_mem_posted hopen
  have hmade : a.reader ≠ .connecting := hsound.reader_ne_connecting ha hposted
  refine ⟨?_, a.shutdown, ?_, hgeneration, hmade, rfl,
    Attempt.isClosedForWriting_shutdown a.stream, fun _ => rfl⟩
  · rw [(close_spec link).1]
    exact Nat.lt_succ_self _
  · unfold SocketLink.close
    simp only [hopen, if_true]
    exact mem_modify_of_eq ha hgeneration

/-- What was shut down is left alone by the calls that follow. -/
theorem Called.hasShut (h : Called link link') {untouched : Prop}
    (hshut : link.HasShut untouched generation) : link'.HasShut untouched generation := by
  obtain ⟨hlt, a, ha, hgeneration, hshut⟩ := hshut
  exact ⟨Nat.lt_of_lt_of_le hlt h.generation_le, a, h.mem_of_lt ha (hgeneration ▸ hlt), hgeneration,
    hshut⟩

/-- **Calls.** A call on a link with an open connection leaves it open, or shut down. -/
theorem Called.of_open (h : Called link link') (hsound : link.Sound) (hopen : link.isOpen)
    (untouched : Prop) :
    link'.isOpen ∧ link'.generation = link.generation
      ∨ link'.HasShut untouched link.generation := by
  have hshut := hasShut_close hsound hopen untouched
  cases h with
  | startConnect endpoint =>
    obtain ⟨hlt, a, ha, hshut⟩ := hshut
    exact .inr ⟨hlt, a, List.mem_append_left _ ha, hshut⟩
  | close => exact .inr hshut
  | send frame =>
    obtain ⟨hgeneration, hsame, -⟩ := send_spec link frame
    exact .inl ⟨hsame ▸ hopen, hgeneration⟩

/-! ## Looks -/

/-- What a look makes of a link: nothing of its attempts changes, or the outbox of the current one
is dropped, or one that the link has given up before is shut down. -/
inductive Polled (link : SocketLink) : SocketLink → Prop where
  | kept {signals : Channel Signal} {isOpen : Bool} (hsent : signals.sent = link.signals.sent) :
      Polled link { link with signals, isOpen }
  | dropped {signals : Channel Signal} (hsent : signals.sent = link.signals.sent) :
      Polled link ({ link with signals, isOpen := false }.modify link.generation
        ({ · with outboxOpen := false }))
  | shut {signals : Channel Signal} {generation : Nat} (hsent : signals.sent = link.signals.sent) :
      Polled link ({ link with signals }.modify generation Attempt.shutdown)

/-- A look makes of the link one of the three things. -/
theorem poll_polled (link : SocketLink) : Polled link link.poll.2 := by
  -- a signal of the current number drops the outbox if it reports an end; one of an older number
  -- may close a connection that came too late
  unfold poll receive? accept
  cases hreceive : link.signals.receive? with
  | none => exact .kept rfl
  | some taken =>
    obtain ⟨signal, signals⟩ := taken
    have hsent : signals.sent = link.signals.sent := Channel.sent_of_receive? hreceive
    simp only [Option.map_some]
    split
    · split
      · exact .kept hsent
      · exact .kept hsent
      · exact .dropped hsent
      · exact .dropped hsent
      · exact .kept hsent
    · split
      · exact .shut hsent
      · exact .kept hsent

theorem settings_poll (link : SocketLink) : link.poll.2.settings = link.settings := by
  have hpolled := poll_polled link
  generalize link.poll.2 = link' at hpolled ⊢
  cases hpolled <;> rfl

/-- A look at the link spends at most what an attempt that was given up owes. -/
theorem spends_poll {maxPayload : Nat} (ha : a ∈ link.attempts)
    (hlt : a.generation < link.generation) (hmade : a.reader ≠ .connecting) :
    ∃ a' ∈ link.poll.2.attempts, Spends maxPayload a a' := by
  have hpolled := poll_polled link
  generalize link.poll.2 = link' at hpolled ⊢
  cases hpolled with
  | kept => exact ⟨a, ha, .refl hmade⟩
  | dropped => exact ⟨a, mem_modify_of_ne ha (Nat.ne_of_lt hlt), .refl hmade⟩
  | @shut signals generation =>
    by_cases h : a.generation = generation
    · exact ⟨a.shutdown, mem_modify_of_eq ha h, Attempt.spends_shutdown hmade⟩
    · exact ⟨a, mem_modify_of_ne ha h, .refl hmade⟩

/-- A look that brings no end leaves a connection open, and opens one that was made. -/
theorem poll_of_not_closed
    (hup : link.isOpen
      ∨ link.signals.waiting.head? = some ⟨link.generation, .connected⟩)
    (hnone : ∀ detail, link.signals.waiting.head? ≠ some ⟨link.generation, .closed detail⟩) :
    link.poll.2.isOpen ∧ link.poll.2.generation = link.generation := by
  unfold poll receive? accept Channel.receive?
  cases hwaiting : link.signals.waiting with
  | nil => exact ⟨by simpa [hwaiting] using hup, rfl⟩
  | cons signal waiting =>
    obtain ⟨generation, report⟩ := signal
    rw [hwaiting, List.head?_cons, Option.some.injEq] at hup
    rw [hwaiting, List.head?_cons] at hnone
    simp only [Option.map_some]
    -- a signal of another number does not say anything about the current connection
    by_cases hcurrent : generation = link.generation
    · subst hcurrent
      rw [if_pos rfl]
      cases report with
      | connected => exact ⟨rfl, rfl⟩
      | received payload => exact ⟨by simpa using hup, rfl⟩
      | closed detail => exact absurd rfl (hnone detail)
      | connectFailed detail => exact ⟨by simpa using hup, rfl⟩
    · rw [if_neg hcurrent]
      have hopen : link.isOpen := by simpa [hcurrent] using hup
      simp only
      split <;> exact ⟨hopen, rfl⟩

/-- **The end of a connection.** A link that accepts that its connection is over closes the outbox,
and leaves the stream as it is. -/
theorem poll_of_closed {detail : Option String}
    (htaken : link.signals.waiting.head? = some ⟨link.generation, .closed detail⟩)
    (ha : a ∈ link.attempts) (hgeneration : a.generation = link.generation) :
    link.poll.1 = .event (Report.closed detail).event ∧ link.poll.2.isOpen = false
      ∧ link.poll.2.generation = link.generation
      ∧ { a with outboxOpen := false } ∈ link.poll.2.attempts := by
  obtain ⟨waiting, hwaiting⟩ := List.head?_eq_some_iff.1 htaken
  unfold poll receive? accept
  simp only [Channel.receive?, hwaiting, Option.map_some, if_true]
  have hdropped := mem_modify_of_eq (f := fun a => { a with outboxOpen := false }) ha hgeneration
  cases detail with
  | none => exact ⟨rfl, rfl, rfl, hdropped⟩
  | some detail => exact ⟨rfl, rfl, rfl, hdropped⟩

/-! ## Steps of the helpers -/

theorem settings_step (link : SocketLink) (generation : Nat) (step : Step) :
    (link.step generation step).settings = link.settings := by
  have hstepped := step_stepped link generation step
  generalize link.step generation step = link' at hstepped ⊢
  cases hstepped <;> rfl

/-- What a helper writes was owed. -/
theorem spends_step (hsound : link.Sound) (ha : a ∈ link.attempts) (hmade : a.reader ≠ .connecting)
    (generation : Nat) (step : Step) :
    ∃ a' ∈ (link.step generation step).attempts, Spends link.settings.maxPayload a a' := by
  have stays : ∃ a' ∈ link.attempts, Spends link.settings.maxPayload a a' := ⟨a, ha, .refl hmade⟩
  unfold SocketLink.step
  split
  · exact stays
  · rename_i b hfound
    obtain ⟨hb, hnumber⟩ := attempt?_eq_some hfound
    -- the step changes one attempt, which is this one or another
    have changes {f : Attempt → Attempt} (hf : a = b → Spends link.settings.maxPayload a (f a)) :
        ∃ a' ∈ (link.modify generation f).attempts, Spends link.settings.maxPayload a a' := by
      by_cases h : a.generation = generation
      · have hsame : a = b := hsound.eq_of_generation_eq ha hb (h.trans hnumber.symm)
        exact ⟨f a, mem_modify_of_eq ha h, hf hsame⟩
      · exact ⟨a, mem_modify_of_ne ha h, .refl hmade⟩
    simp only
    split
    · exact changes fun h => absurd (h ▸ ‹b.reader = .connecting›) hmade
    · exact changes fun h => absurd (h ▸ ‹b.reader = .connecting›) hmade
    · exact changes fun h => Attempt.spends_read (h ▸ ‹_›) _ _
    · exact changes fun h => Attempt.spends_readFails (h ▸ ‹_›) _ _
    · split
      · exact changes fun _ => Attempt.spends_reported _
      · exact stays
    · exact changes fun h => Attempt.spends_takeFrame hmade (h ▸ ‹_›)
    · exact changes fun h => Attempt.spends_writeRest hmade (h ▸ ‹_›) _
    · exact changes fun h => Attempt.spends_flushed hmade (h ▸ ‹_›) _
    · split
      · exact changes fun _ => .of_over rfl hmade rfl rfl id id
      · exact stays
    · exact changes fun _ => .of_over rfl hmade rfl rfl
        (fun _ => Attempt.isClosedForWriting_shutdown a.stream) id
    · exact stays

/-- **A step beside the session.** What comes to be written for an attempt was owed. -/
theorem spends_beside (hsound : link.Sound) (ha : a ∈ link.attempts)
    (hmade : a.reader ≠ .connecting) {step : Beside} (hloyal : step.IsLoyal link) :
    ∃ a' ∈ (step.apply link).attempts, Spends link.settings.maxPayload a a' := by
  cases step with
  | helper generation step => exact spends_step hsound ha hmade generation step
  | network generation stream =>
    by_cases h : a.generation = generation
    · refine ⟨{ a with stream }, mem_modify_of_eq ha h, ?_⟩
      exact .of_kept rfl hmade rfl rfl (hloyal a ha h) id
    · exact ⟨a, mem_modify_of_ne ha h, .refl hmade⟩

/-- What was shut down stays closed for writing under the steps beside the session. -/
theorem HasShut.beside {untouched untouched' : Prop} (h : link.HasShut untouched generation)
    (hsound : link.Sound) {step : Beside} (hloyal : step.IsLoyal link) (hstep : ¬ untouched') :
    (step.apply link).HasShut untouched' generation := by
  obtain ⟨hlt, a, ha, hgeneration, hmade, hdropped, hclosed, -⟩ := h
  obtain ⟨a', ha', hspends⟩ := spends_beside hsound ha hmade hloyal
  refine ⟨(step.apply_spec link).1 ▸ hlt, a', ha', hspends.generation_eq.trans hgeneration,
    hspends.made, hspends.dropped hdropped, hspends.closed hclosed, fun h => absurd h hstep⟩

/-! ## Runs -/

/-- Whatever happens to a link moves it on. -/
theorem Operates.next (h : Operates link link') : Next link link' := by
  cases h with
  | called hcalled => exact hcalled.next
  | poll => exact (poll_spec link).2
  | @beside step => exact step.next_apply link

theorem Operates.settings_eq (h : Operates link link') : link'.settings = link.settings := by
  cases h with
  | called hcalled => exact hcalled.settings_eq
  | poll => exact settings_poll link
  | @beside step =>
    cases step with
    | helper generation step => exact settings_step link generation step
    | network => rfl

theorem settings_of_operated (h : ReflTransGen Operates link link') :
    link'.settings = link.settings := by
  induction h with
  | refl => rfl
  | tail _ hoperates ih => exact hoperates.settings_eq.trans ih

/-- **The step.** Whatever happens to a link, an attempt that it has given up writes what it
owed. -/
theorem Operates.spends (h : Operates link link') (hsound : link.Sound) (ha : a ∈ link.attempts)
    (hlt : a.generation < link.generation) (hmade : a.reader ≠ .connecting) :
    ∃ a' ∈ link'.attempts, Spends link.settings.maxPayload a a' := by
  cases h with
  | called hcalled => exact ⟨a, hcalled.mem_of_lt ha hlt, .refl hmade⟩
  | poll => exact spends_poll ha hlt hmade
  | beside hloyal => exact spends_beside hsound ha hmade hloyal

/-- **The run.** -/
theorem spends_of_operated (h : ReflTransGen Operates link link') (hsound : link.Sound)
    (ha : a ∈ link.attempts) (hlt : a.generation < link.generation)
    (hmade : a.reader ≠ .connecting) :
    ∃ a' ∈ link'.attempts, Spends link.settings.maxPayload a a' := by
  have hrun : link'.Sound ∧ link.generation ≤ link'.generation
      ∧ ∃ a' ∈ link'.attempts, Spends link.settings.maxPayload a a' := by
    induction h with
    | refl => exact ⟨hsound, Nat.le_refl _, a, ha, .refl hmade⟩
    | tail hbefore hoperates ih =>
      obtain ⟨hsound', hle, a', ha', hspends⟩ := ih
      obtain ⟨hsound'', hlater⟩ := hoperates.next hsound'
      -- the number of a link only grows, so the attempt stays one that it has given up
      have hlt' := Nat.lt_of_lt_of_le (hspends.generation_eq ▸ hlt) hle
      obtain ⟨a'', ha'', hspends'⟩ := hoperates.spends hsound' ha' hlt' hspends.made
      rw [settings_of_operated hbefore] at hspends'
      exact ⟨hsound'', Nat.le_trans hle hlater.generation_le, a'', ha'', hspends.trans hspends'⟩
  exact hrun.2.2

/-! ## Ends that were reported -/

/-- The helpers of every attempt are orderly. -/
def Tidy (link : SocketLink) : Prop :=
  ∀ a ∈ link.attempts, a.Orderly (link.posted a.generation)

/-- An attempt whose helpers are about what those of another one are about. -/
structure SamePhases (a a' : Attempt) : Prop where
  generation_eq : a'.generation = a.generation
  reader_eq : a'.reader = a.reader
  writer_eq : a'.writer = a.writer

/-- Each attempt of a link is about what one of another link was about. -/
def KeepsPhases (link link' : SocketLink) : Prop :=
  ∀ a' ∈ link'.attempts, ∃ a ∈ link.attempts, SamePhases a a'

/-- Attempts that are the same are about the same. -/
theorem KeepsPhases.of_eq (h : link'.attempts = link.attempts) : KeepsPhases link link' :=
  fun a' ha' => ⟨a', h ▸ ha', rfl, rfl, rfl⟩

/-- A change that keeps what the helpers of an attempt are about. -/
theorem KeepsPhases.modify (hf : ∀ a, SamePhases a (f a)) :
    KeepsPhases link (link.modify generation f) := by
  intro a' ha'
  obtain ⟨a, ha, rfl⟩ := List.mem_map.1 ha'
  refine ⟨a, ha, ?_⟩
  split
  · exact hf a
  · exact ⟨rfl, rfl, rfl⟩

/-- A close asks the helpers for nothing: they find out by themselves. -/
theorem KeepsPhases.close (link : SocketLink) : KeepsPhases link link.close := by
  unfold SocketLink.close
  simp only
  split
  · exact modify fun a => ⟨rfl, rfl, rfl⟩
  · exact of_eq rfl

/-- A link stays tidy where nothing is posted and the helpers are about the same. -/
theorem Tidy.of_same (h : link.Tidy) (hsent : link'.signals.sent = link.signals.sent)
    (hsame : KeepsPhases link link') : link'.Tidy := by
  intro a' ha'
  obtain ⟨a, ha, hgeneration, hreader, hwriter⟩ := hsame a' ha'
  rw [posted, hsent, hgeneration]
  exact (h a ha).congr hreader hwriter

/-- A call leaves a tidy link. -/
theorem Called.tidy (h : Called link link') (hsound : link.Sound) (htidy : link.Tidy) :
    link'.Tidy := by
  have hclose : link.close.Tidy :=
    htidy.of_same (congrArg Channel.sent (close_spec link).2.2) (.close link)
  cases h with
  | startConnect endpoint =>
    intro a ha
    rcases List.mem_append.1 ha with hold | hnew
    · exact hclose a hold
    · -- nothing was posted under a number that is only reached now
      obtain ⟨hsound', -⟩ := next_close link hsound
      have hnone : ¬ link.close.HasAttempt link.close.generation := fun h => by
        have hle := hsound.hasAttempt_le (hasAttempt_close link h)
        rw [(close_spec link).1] at hle
        exact Nat.not_succ_le_self _ hle
      have hposted : link.close.posted link.close.generation = [] := hsound'.posted_eq_nil hnone
      rw [List.mem_singleton.1 hnew]
      show Attempt.Orderly (link.close.posted link.close.generation) _
      rw [hposted]
      exact Attempt.orderly_of_nil (by simp [Attempt.new])
  | close => exact hclose
  | send frame =>
    refine htidy.of_same (congrArg Channel.sent (send_spec link frame).2.2) ?_
    unfold SocketLink.send
    split
    · exact .modify fun a => ⟨rfl, rfl, rfl⟩
    · exact .of_eq rfl

/-- A look leaves a tidy link. -/
theorem tidy_poll (htidy : link.Tidy) : link.poll.2.Tidy := by
  have hpolled := poll_polled link
  generalize link.poll.2 = link' at hpolled ⊢
  cases hpolled with
  | kept hsent => exact htidy.of_same hsent (.of_eq rfl)
  | dropped hsent => exact htidy.of_same hsent (.modify fun a => ⟨rfl, rfl, rfl⟩)
  | shut hsent => exact htidy.of_same hsent (.modify fun a => ⟨rfl, rfl, rfl⟩)

/-- A step of a helper leaves a tidy link. -/
theorem tidy_step (hsound : link.Sound) (htidy : link.Tidy) (generation : Nat) (step : Step) :
    (link.step generation step).Tidy := by
  have hstepped := step_stepped link generation step
  generalize link.step generation step = link' at hstepped ⊢
  cases hstepped with
  | idle => exact htidy
  | @advanced a f reports hfound hadvances =>
    obtain ⟨ha, hnumber⟩ := attempt?_eq_some hfound
    intro b' hb'
    obtain ⟨b, hb, rfl⟩ := List.mem_map.1 hb'
    simp only [posted]
    rw [Channel.sent_sendAll, reportsOf_append, reportsOf_tagged]
    by_cases hsame : b.generation = generation
    -- what is posted is posted under the number of the helper, and no other attempt has that
    · obtain rfl : b = a := hsound.eq_of_generation_eq hb ha (hsame.trans hnumber.symm)
      rw [if_pos hsame, hadvances.same.1, if_pos hsame.symm]
      exact (htidy b hb).advance (hsound.hasPosted b hb) hadvances
    · rw [if_neg hsame, if_neg (Ne.symm hsame), List.append_nil]
      exact htidy b hb

/-- Whatever happens to a tidy link, it stays tidy. -/
theorem Operates.tidy (h : Operates link link') (hsound : link.Sound) (htidy : link.Tidy) :
    link'.Tidy := by
  cases h with
  | called hcalled => exact hcalled.tidy hsound htidy
  | poll => exact tidy_poll htidy
  | @beside step =>
    cases step with
    | helper generation step => exact tidy_step hsound htidy generation step
    | network => exact htidy.of_same rfl (.modify fun a => ⟨rfl, rfl, rfl⟩)

/-- A tidy link stays so along a run. -/
theorem tidy_of_operated (h : ReflTransGen Operates link link') (hsound : link.Sound)
    (htidy : link.Tidy) : link'.Tidy := by
  have hboth : link'.Sound ∧ link'.Tidy := by
    induction h with
    | refl => exact ⟨hsound, htidy⟩
    | tail _ hoperates ih => exact ⟨(hoperates.next ih.1).1, hoperates.tidy ih.1 ih.2⟩
  exact hboth.2

/-! ## Writing what is owed -/

/-- The link after several steps of the helpers of an attempt. -/
def stepAll (generation : Nat) (steps : List Step) (link : SocketLink) : SocketLink :=
  steps.foldl (fun link step => link.step generation step) link

theorem stepAll_append (generation : Nat) (front back : List Step) (link : SocketLink) :
    link.stepAll generation (front ++ back)
      = (link.stepAll generation front).stepAll generation back :=
  List.foldl_append

/-- An attempt of a sound link is found by its number. -/
theorem attempt?_of_mem (hsound : link.Sound) (ha : a ∈ link.attempts) :
    link.attempt? a.generation = some a := by
  cases hfound : link.attempt? a.generation with
  | none => simpa using List.find?_eq_none.1 hfound a ha
  | some b =>
    obtain ⟨hb, hnumber⟩ := attempt?_eq_some hfound
    rw [hsound.eq_of_generation_eq hb ha hnumber]

/-- The attempt after its helper has written the rest of a record. -/
theorem mem_write (hsound : link.Sound) (ha : a ∈ link.attempts) {rest : Bytes}
    (hwriting : a.writer = .writing rest) (hrest : rest ≠ [])
    (hopen : a.stream.isClosedForWriting = false) :
    { a with
      writer := .flushing
      stream := { a.stream with outbound := a.stream.outbound.sendAll rest } }
      ∈ (link.stepAll a.generation [.write (.takes rest.length)]).attempts := by
  have hwrote : a.writeRest rest (.takes rest.length) = { a with
      writer := .flushing
      stream := { a.stream with outbound := a.stream.outbound.sendAll rest } } := by
    obtain ⟨b, more, rfl⟩ := List.exists_cons_of_ne_nil hrest
    simp [Attempt.writeRest, Stream.write, hopen]
  simp only [stepAll, List.foldl_cons, List.foldl_nil, SocketLink.step, attempt?_of_mem hsound ha,
    hwriting]
  rw [← hwrote]
  exact mem_modify_of_eq ha rfl

/-- A writing helper that has written a record can flush it. -/
theorem mem_flush (hsound : link.Sound) (ha : a ∈ link.attempts)
    (hflushing : a.writer = .flushing) :
    { a with writer := .idle } ∈ (link.stepAll a.generation [.flush none]).attempts := by
  simp only [stepAll, List.foldl_cons, List.foldl_nil, SocketLink.step, attempt?_of_mem hsound ha,
    hflushing]
  exact mem_modify_of_eq ha rfl

/-- Steps leave a sound link. -/
theorem sound_stepAll (hsound : link.Sound) (generation : Nat) (steps : List Step) :
    (link.stepAll generation steps).Sound := by
  induction steps generalizing link with
  | nil => exact hsound
  | cons step more ih => exact ih (next_step link generation step hsound).1

theorem settings_stepAll (generation : Nat) (steps : List Step) (link : SocketLink) :
    (link.stepAll generation steps).settings = link.settings := by
  induction steps generalizing link with
  | nil => rfl
  | cons step more ih => exact (ih _).trans (settings_step link generation step)

/-- The steps that write the rest of a record. -/
def writeSteps (rest : Bytes) : List Step :=
  [.write (.takes rest.length), .flush none]

/-- A writing helper can write the rest of its record, if the stream is open for writing. -/
theorem mem_writeSteps (hsound : link.Sound) (ha : a ∈ link.attempts) {rest : Bytes}
    (hwriting : a.writer = .writing rest) (hrest : rest ≠ [])
    (hopen : a.stream.isClosedForWriting = false) :
    { a with
      writer := .idle
      stream := { a.stream with outbound := a.stream.outbound.sendAll rest } }
      ∈ (link.stepAll a.generation (writeSteps rest)).attempts :=
  mem_flush (sound_stepAll hsound _ [_]) (mem_write hsound ha hwriting hrest hopen) rfl

/-- The helpers of an attempt can make steps by which bytes are written. -/
def CanWrite (bytes : Bytes) (a : Attempt) (link : SocketLink) : Prop :=
  ∃ steps, ∃ a' ∈ (link.stepAll a.generation steps).attempts,
    a'.generation = a.generation ∧ a'.written = a.written ++ bytes

/-- To write nothing takes no steps. -/
theorem canWrite_nil (ha : a ∈ link.attempts) : link.CanWrite [] a :=
  ⟨[], a, ha, rfl, (List.append_nil _).symm⟩

/-- Some steps write the front, and the others the back. -/
theorem CanWrite.after {steps : List Step} {a' : Attempt} {front back : Bytes}
    (h : (link.stepAll a.generation steps).CanWrite back a')
    (hgeneration : a'.generation = a.generation) (hfront : a'.written = a.written ++ front) :
    link.CanWrite (front ++ back) a := by
  obtain ⟨more, a'', ha'', hgeneration', hback⟩ := h
  rw [hgeneration] at ha''
  refine ⟨steps ++ more, a'', ?_, hgeneration'.trans hgeneration, ?_⟩
  · rw [stepAll_append]
    exact ha''
  · rw [hback, hfront, List.append_assoc]

/-- A helper that waits can write the records of the frames that wait. -/
theorem canWrite_of_idle {frames : List Bytes} (hsound : link.Sound) (ha : a ∈ link.attempts)
    (hidle : a.writer = .idle) (hwaiting : a.outbox.waiting = frames)
    (hopen : a.stream.isClosedForWriting = false) :
    link.CanWrite (Attempt.records link.settings.maxPayload frames) a := by
  induction frames generalizing link a with
  | nil => exact canWrite_nil ha
  | cons frame more ih =>
    rw [Attempt.records]
    cases hencode : Record.encodeWithin link.settings.maxPayload frame with
    | error e => exact canWrite_nil ha
    | ok record =>
      have hrecord : record ≠ [] := by
        rw [(Record.encodeWithin_eq_ok_iff.1 hencode).2]
        simp [Record.form, Record.magic]
      let a₁ : Attempt := { a with
        writer := .writing record
        outbox := ⟨frame :: a.outbox.received, more⟩ }
      have htook : a.takeFrame link.settings.maxPayload = a₁ := by
        simp [Attempt.takeFrame, Channel.receive?, hwaiting, hencode, a₁]
      have ha₁ : a₁ ∈ (link.stepAll a.generation [.takeFrame]).attempts := by
        simp only [stepAll, List.foldl_cons, List.foldl_nil, SocketLink.step,
          attempt?_of_mem hsound ha, hidle]
        rw [← htook]
        exact mem_modify_of_eq ha rfl
      have hsound₁ := sound_stepAll hsound a.generation [.takeFrame]
      have ha₂ := mem_writeSteps hsound₁ ha₁ rfl hrecord hopen
      have hsound₂ := sound_stepAll hsound₁ a.generation (writeSteps record)
      -- the helper waits again, with one frame less
      have hmore := ih hsound₂ ha₂ rfl rfl hopen
      rw [settings_stepAll, settings_stepAll, ← stepAll_append] at hmore
      exact hmore.after rfl (Channel.sent_sendAll ..)

/-- **All that is owed can be written.** -/
theorem canWrite_owed (hsound : link.Sound) (htidy : link.Tidy) (ha : a ∈ link.attempts) :
    link.CanWrite (a.owed link.settings.maxPayload) a := by
  cases hopen : a.stream.isClosedForWriting with
  | true =>
    rw [Attempt.owed_of_isClosedForWriting hopen]
    exact canWrite_nil ha
  | false =>
    rw [Attempt.owed, if_neg (by simp [hopen])]
    -- what the helper is about is finished first, and then it waits for frames
    cases hwriter : a.writer with
    | idle => exact canWrite_of_idle hsound ha hwriter rfl hopen
    | flushing =>
      have hmore := canWrite_of_idle (sound_stepAll hsound a.generation [.flush none])
        (mem_flush hsound ha hwriter) rfl rfl hopen
      rw [settings_stepAll] at hmore
      exact hmore.after rfl (List.append_nil _).symm
    | writing rest =>
      have hrest : rest ≠ [] := fun h => (htidy a ha).rest_ne (h ▸ hwriter)
      have hmore := canWrite_of_idle (sound_stepAll hsound a.generation (writeSteps rest))
        (mem_writeSteps hsound ha hwriter hrest hopen) rfl rfl hopen
      rw [settings_stepAll] at hmore
      exact hmore.after rfl (Channel.sent_sendAll ..)
    | absent | reporting | hangingUp | finished => exact canWrite_nil ha

end

end SocketLink

end CidrLookup
