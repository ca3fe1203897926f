import CidrLookup.Proofs.Client.Moves
import CidrLookup.Proofs.Client.Stale
import CidrLookup.Proofs.Link.Operations

/-!
# Connections that were given up

A session that has given up a connection sends its lookups again on the next one, so nothing should
be written to the socket of the old one any more. `connections_are_given_up` says how far that goes,
whichever way the connection ends and whatever the helpers and the network do in between, also
within the call that ends it. Each way but one ends with the link shutting the socket down
(`hasShut_move`). Where the link takes the report that the connection is over it leaves the socket
as it is (`mem_move_of_closed`); a writing helper that has not given up itself then writes the
frames that wait, in full if nothing keeps it from it (`written_later`).

Both ways are followed effect by effect: `open_or_hasShut` and `spends_of_amid` go by induction on
what a call comes to among the helpers.
-/

namespace CidrLookup

variable {ρ : Type}

open Attempt (Spends)
open Connection (Does Amid)
open Relation (ReflTransGen)
open SocketLink (Called Operates)

/-! ## Calls among helpers -/

namespace Connection

/-- An effect is one call on the link, or none. -/
theorem called_of_does {effect : Effect ρ} {c c' : Connection SocketLink}
    (h : Does effect c c') : c'.link = c.link ∨ Called c.link c'.link := by
  cases h with
  | connect hstate =>
    rw [(connect_spec hstate).1]
    exact .inr (.startConnect c.endpoint)
  | close => exact .inr .close
  | @sent _ _ _ _ frame hsend =>
    obtain ⟨-, htaken⟩ | ⟨⟨_, hrefused⟩, -⟩ := link_cases_of_send hsend
    · have hcalled : Called c.link (c.link.send frame).2 := .send frame
      rw [htaken] at hcalled
      exact .inr hcalled
    · contradiction
  | refused hsend =>
    obtain ⟨htaken, -⟩ | ⟨-, hlink⟩ := link_cases_of_send hsend
    · contradiction
    · exact .inl hlink
  | resolved => exact .inl rfl
  | notice => exact .inl rfl

section

variable {effects : List (Effect ρ)} {found : List (SocketLink × Beside)}
  {c c' : Connection SocketLink}

/-- Through a call with steps of loyal helpers in it, the link is only operated on. -/
theorem operated_of_amid (h : Amid effects found c c')
    (hfound : ∀ met ∈ found, met.2.IsLoyal met.1) : ReflTransGen Operates c.link c'.link := by
  induction h with
  | nil => exact .refl
  | does _ hdoes ih =>
    obtain hsame | hcalled := called_of_does hdoes
    · exact hsame ▸ ih hfound
    · exact (ih hfound).tail (.called hcalled)
  | beside _ step ih =>
    obtain ⟨hloyal, hmore⟩ := List.forall_mem_cons.1 hfound
    exact (ih hmore).tail (.beside hloyal)

/-- A session that has an open connection when it is called has an open one afterwards, or one that
was shut down. -/
theorem open_or_hasShut (h : Amid effects found c c')
    (hfound : ∀ met ∈ found, met.2.IsLoyal met.1) (hsound : c.link.Sound) (hopen : c.link.isOpen) :
    c'.link.isOpen ∧ c'.link.generation = c.link.generation
      ∨ c'.link.HasShut (found = []) c.link.generation := by
  -- effect by effect: the link stays open, or the effect that closes it shuts the stream down, or a
  -- step comes after that
  induction h with
  | nil => exact .inl ⟨hopen, rfl⟩
  | @does effect effects found c c' c'' hbefore hdoes ih =>
    have hsound' := (Session.next_of_amid hbefore hsound).1
    obtain hsame | hcalled := called_of_does hdoes
    · exact hsame ▸ ih hfound hsound hopen
    · obtain ⟨hstill, hgeneration⟩ | hshut := ih hfound hsound hopen
      · exact hgeneration ▸ hcalled.of_open hsound' hstill (found = [])
      · exact .inr (hcalled.hasShut hshut)
  | @beside effects found c c' hbefore step ih =>
    have hsound' := (Session.next_of_amid hbefore hsound).1
    obtain ⟨hloyal, hmore⟩ := List.forall_mem_cons.1 hfound
    obtain ⟨hnumber, hsame, -⟩ := step.apply_spec c'.link
    obtain ⟨hstill, hgeneration⟩ | hshut := ih hmore hsound hopen
    · exact .inl ⟨hsame.trans hstill, hnumber.trans hgeneration⟩
    · exact .inr (hshut.beside hsound' hloyal (List.cons_ne_nil _ _))

/-- The attempts of a link that has no open connection when the session is called are left alone by
the calls; what is written for them in between was owed. -/
theorem spends_of_amid (h : Amid effects found c c')
    (hfound : ∀ met ∈ found, met.2.IsLoyal met.1) (hsound : c.link.Sound)
    (hopen : c.link.isOpen = false) {a : Attempt} (ha : a ∈ c.link.attempts)
    (hmade : a.reader ≠ .connecting) :
    c'.link.isOpen = false ∧ ∃ a' ∈ c'.link.attempts,
      Spends c.link.settings.maxPayload a a' ∧ (found = [] → a' = a) := by
  -- effect by effect: a call finds no open attempt to touch, so only steps beside the call spend
  -- what is owed
  induction h with
  | nil => exact ⟨hopen, a, ha, .refl hmade, fun _ => rfl⟩
  | @does effect effects found c c' c'' hbefore hdoes ih =>
    obtain ⟨hshut, a', ha', hspends⟩ := ih hfound hsound hopen ha
    obtain hsame | hcalled := called_of_does hdoes
    · rw [hsame]
      exact ⟨hshut, a', ha', hspends⟩
    · obtain ⟨hshut', hall⟩ := hcalled.of_not_open hshut
      exact ⟨hshut', a', hall a' ha', hspends⟩
  | @beside effects found c c' hbefore step ih =>
    have hsound' := (Session.next_of_amid hbefore hsound).1
    obtain ⟨hloyal, hmore⟩ := List.forall_mem_cons.1 hfound
    obtain ⟨hshut, a', ha', hspends, -⟩ := ih hmore hsound hopen ha
    obtain ⟨a'', ha'', hspends'⟩ := SocketLink.spends_beside hsound' ha' hspends.made hloyal
    rw [SocketLink.settings_of_operated (operated_of_amid hbefore hmore)] at hspends'
    refine ⟨(step.apply_spec c'.link).2.1.trans hshut, a'', ha'', hspends.trans hspends', ?_⟩
    exact fun h => absurd h (List.cons_ne_nil _ _)

end

end Connection

/-- Whether a move takes a report of the current attempt from the channel. -/
def Move.Takes (link : SocketLink) (report : Report) (move : Move ρ) : Prop :=
  move.around?.isSome ∧ link.signals.waiting.head? = some ⟨link.generation, report⟩

namespace Session

/-! ## Loyal runs -/

/-- A run in which the network is loyal, between the calls of the owner and within them. -/
def Loyal : List (Move ρ) → Session ρ SocketLink → Prop
  | [], _ => True
  | move :: more, s => (∀ met ∈ s.found move, met.2.IsLoyal met.1) ∧ Loyal more (s.move move)

instance decidableLoyal : (moves : List (Move ρ)) → (s : Session ρ SocketLink) →
    Decidable (s.Loyal moves)
  | [], _ => .isTrue trivial
  | move :: more, s =>
    have := decidableLoyal more (s.move move)
    inferInstanceAs (Decidable (_ ∧ _))

/-- An act of the owner that nothing falls into is a loyal run. -/
theorem loyal_act (a : Act ρ) (s : Session ρ SocketLink) : s.Loyal [.act a] :=
  ⟨List.forall_mem_nil _, trivial⟩

/-- Whatever the peer does with the stream of an attempt is a loyal run. -/
theorem loyal_of_met {s : Session ρ SocketLink} (hsound : s.connection.link.Sound) {a : Attempt}
    (ha : a ∈ s.connection.link.attempts) {stream : Stream} (hmet : a.stream.Met stream) :
    s.Loyal [.network a.generation stream] := by
  have hstep : (Beside.network a.generation stream).IsLoyal s.connection.link :=
    Beside.isLoyal_of_met hsound ha hmet
  exact ⟨List.forall_mem_singleton.2 hstep, trivial⟩

section

variable {found : List (SocketLink × Beside)} {s s' : Session ρ SocketLink}

/-- What a session makes of a look is a call among helpers. -/
theorem Arrived.amid {around : Surroundings ρ} {arrival : Arrival}
    (h : Arrived around s found arrival s') :
    ∃ (c : Connection SocketLink) (effects : List (Effect ρ)), c.link = s.connection.link
      ∧ Amid effects found c s'.connection := by
  cases h with
  | event hheard =>
    cases hheard with
    | up hgoes =>
      -- marking the connection as connected leaves the link alone
      obtain ⟨effects, -, hamid⟩ := hgoes
      exact ⟨(s.markUp around.now).connection, effects, rfl, hamid⟩
    | received hgoes =>
      obtain ⟨effects, -, hamid⟩ := hgoes
      exact ⟨s.connection, effects, rfl, hamid⟩
    | ended hgoes =>
      obtain ⟨effects, -, hamid⟩ := hgoes
      exact ⟨s.connection, effects, rfl, hamid⟩
  | stale => exact ⟨s.connection, [], rfl, .nil _⟩
  | quiet => exact ⟨s.connection, [], rfl, .nil _⟩

/-- So is it through a move. -/
theorem operated_move {move : Move ρ} (hmove : ∀ met ∈ s.found move, met.2.IsLoyal met.1) :
    ReflTransGen Operates s.connection.link (s.move move).connection.link := by
  have hmade := move_made s move
  generalize s.found move = found at hmade hmove
  generalize s.move move = s' at hmade ⊢
  cases hmade with
  | called _ hgoes =>
    obtain ⟨effects, -, hamid⟩ := hgoes
    exact Connection.operated_of_amid hamid hmove
  | looked _ harrived hswept =>
    obtain ⟨c, effects, hlink, hamid⟩ := harrived.amid
    obtain ⟨effects', -, hamid'⟩ := hswept
    -- the look is an operation of its own, in front of those of the calls
    have hoperated := Connection.operated_of_amid (hamid.append hamid') hmove
    rw [hlink] at hoperated
    exact .head .poll hoperated
  | beside step => exact .single (.beside (hmove _ List.mem_cons_self))

/-- So is it through a run of loyal moves. -/
theorem operated_follow {moves : List (Move ρ)} {s : Session ρ SocketLink} (h : s.Loyal moves) :
    ReflTransGen Operates s.connection.link (s.follow moves).connection.link := by
  induction moves generalizing s with
  | nil => exact .refl
  | cons move more ih =>
    obtain ⟨hmove, hmore⟩ := h
    exact (operated_move hmove).trans (ih hmore)

/-- Steps of the helpers of one attempt are a loyal run. -/
theorem follow_helper (generation : Nat) (steps : List SocketLink.Step)
    (s : Session ρ SocketLink) :
    s.Loyal (steps.map (.helper generation))
      ∧ (s.follow (steps.map (.helper generation))).connection.link
        = s.connection.link.stepAll generation steps := by
  induction steps generalizing s with
  | nil => exact ⟨trivial, rfl⟩
  | cons step more ih =>
    obtain ⟨hloyal, hlink⟩ := ih (s.move (.helper generation step))
    exact ⟨⟨List.forall_mem_singleton.2 trivial, hloyal⟩, hlink⟩

/-! ## Ends of a connection -/

/-- A report that is taken was posted. -/
theorem mem_posted_of_takes {move : Move ρ} {link : SocketLink} {report : Report}
    (h : move.Takes link report) : report ∈ link.posted link.generation := by
  refine List.mem_map.2 ⟨⟨link.generation, report⟩, List.mem_filter.2 ⟨?_, by simp⟩, rfl⟩
  exact List.mem_append_right _ (List.mem_of_mem_head? h.2)

/-- A move that brings no end and leaves the session without a connection that was up has shut it
down. -/
theorem hasShut_move (hs : s.IsInStep) {move : Move ρ}
    (hmove : ∀ met ∈ s.found move, met.2.IsLoyal met.1)
    (hup : s.connection.state = .connected ∨ move.Takes s.connection.link .connected)
    (hnone : ∀ detail, ¬ move.Takes s.connection.link (.closed detail))
    (hdown : (s.move move).connection.state ≠ .connected) :
    (s.move move).connection.link.HasShut (s.found move = []) s.connection.link.generation := by
  have hs' := isInStep_move hs move
  have hmade := move_made s move
  generalize s.found move = found at hmade hmove ⊢
  generalize s.move move = s' at hmade hdown hs' ⊢
  -- the connection is gone, so of what the calls may have done only the shutting down is left
  have hclosed : ¬ s'.connection.link.isOpen := fun h => hdown (hs'.isOpen_iff.1 h)
  cases hmade with
  | called hnolook hgoes =>
    obtain ⟨effects, -, hamid⟩ := hgoes
    have hstate := hup.resolve_right fun htakes => by simp [Move.Takes, hnolook] at htakes
    have hcases := Connection.open_or_hasShut hamid hmove hs.follows.sound
      (hs.isOpen_iff.2 hstate)
    exact hcases.resolve_left fun h => hclosed h.1
  | @looked _ around found found' mid _ hlook harrived hswept =>
    have hnone (detail : Option String) := fun h => hnone detail ⟨by simp [hlook], h⟩
    obtain ⟨hopen, hgeneration⟩ :=
      SocketLink.poll_of_not_closed (hup.imp hs.isOpen_iff.2 And.right) hnone
    obtain ⟨c, effects, hlink, hamid⟩ := harrived.amid
    obtain ⟨effects', -, hamid'⟩ := hswept
    have hlink : c.link = s.connection.link.poll.2 := hlink
    have hsound : c.link.Sound :=
      hlink ▸ ((SocketLink.poll_spec s.connection.link).2 hs.follows.sound).1
    have hcases := Connection.open_or_hasShut (hamid.append hamid') hmove hsound (hlink ▸ hopen)
    rw [hlink, hgeneration] at hcases
    exact hcases.resolve_left fun h => hclosed h.1
  | beside step =>
    have hstate := hup.resolve_right fun htakes => by simp [Move.Takes, Move.around?] at htakes
    exact absurd hstate hdown

/-- An event that is the end of a connection makes the session close its link. -/
theorem Arrived.generation_of_closed {around : Surroundings ρ} {detail : Option String}
    (h : Arrived around s found (.event (Report.closed detail).event) s') :
    s'.connection.link.generation = s.connection.link.generation + 1 := by
  cases h with
  | event hheard =>
    generalize hevent : (Report.closed detail).event = event at hheard
    cases hheard with
    | up =>
      have hreport : Report.closed detail = .connected := Report.eq_of_event_eq hevent
      contradiction
    | @received frame =>
      have hreport : Report.closed detail = .received frame := Report.eq_of_event_eq hevent
      contradiction
    | @ended _ _ c _ hgeneration hconnection =>
      have hlink : s'.connection.link = c.link.close := congrArg Connection.link hconnection
      rw [hlink, (SocketLink.close_spec c.link).1, hgeneration]
      rfl

/-- A look that brings the end of the connection closes the outbox and moves the link on. The stream
is left as it is: what comes to be written within the move was owed. -/
theorem mem_move_of_closed (hs : s.IsInStep) {move : Move ρ} {detail : Option String}
    (hmove : ∀ met ∈ s.found move, met.2.IsLoyal met.1)
    (htaken : move.Takes s.connection.link (.closed detail)) {a : Attempt}
    (ha : a ∈ s.connection.link.attempts)
    (hgeneration : a.generation = s.connection.link.generation) :
    a.generation < (s.move move).connection.link.generation
      ∧ ∃ a' ∈ (s.move move).connection.link.attempts,
        Spends s.connection.link.settings.maxPayload { a with outboxOpen := false } a'
          ∧ (s.found move = [] → a' = { a with outboxOpen := false }) := by
  have hmade := move_made s move
  generalize s.found move = found at hmade hmove ⊢
  generalize s.move move = s' at hmade ⊢
  -- the look itself drops the outbox; the calls after it find the link no longer open
  obtain ⟨harrival, hopen, hpolled, hdropped⟩ :=
    SocketLink.poll_of_closed htaken.2 ha hgeneration
  cases hmade with
  | called hnolook => simp [Move.Takes, hnolook] at htaken
  | beside => simp [Move.Takes, Move.around?] at htaken
  | @looked _ around found found' mid _ hlook harrived hswept =>
    rw [harrival] at harrived
    have hnumber := harrived.generation_of_closed
    obtain ⟨c, effects, hlink, hamid⟩ := harrived.amid
    have hlink : c.link = s.connection.link.poll.2 := hlink
    have hposted := mem_posted_of_takes htaken
    have hreader : a.reader ≠ .connecting :=
      hs.follows.sound.reader_ne_connecting ha (hgeneration ▸ hposted)
    have hsound : c.link.Sound :=
      hlink ▸ ((SocketLink.poll_spec s.connection.link).2 hs.follows.sound).1
    constructor
    · have hsound' := (harrived.next (hlink ▸ hsound)).1
      have hle := (hswept.next hsound').2.generation_le
      rw [hnumber] at hle
      exact hgeneration ▸ hpolled ▸ hle
    · obtain ⟨effects', -, hamid'⟩ := hswept
      rw [← hlink] at hopen hdropped
      obtain ⟨-, a', ha', hspends, hsame⟩ :=
        Connection.spends_of_amid (hamid.append hamid') hmove hsound hopen hdropped hreader
      rw [hlink, SocketLink.settings_poll] at hspends
      exact ⟨a', ha', hspends, hsame⟩

/-! ## What is written afterwards -/

/-- What comes to be written for an attempt that was given up is what it owes, or some of it. -/
theorem written_later {link : SocketLink} (hlink : s.connection.link = link) (hsound : link.Sound)
    (htidy : link.Tidy) {a : Attempt} (ha : a ∈ link.attempts)
    (hlt : a.generation < link.generation) (hmade : a.reader ≠ .connecting) :
    (∀ more, s.Loyal more → ∃ late ∈ (s.follow more).connection.link.attempts,
        late.generation = a.generation ∧ a.written <+: late.written
          ∧ late.written <+: a.written ++ a.owed link.settings.maxPayload)
      ∧ ∃ more, s.Loyal more ∧ ∃ late ∈ (s.follow more).connection.link.attempts,
        late.generation = a.generation
          ∧ late.written = a.written ++ a.owed link.settings.maxPayload := by
  subst hlink
  constructor
  · intro more hmore
    obtain ⟨late, hlate, hspends⟩ :=
      SocketLink.spends_of_operated (operated_follow hmore) hsound ha hlt hmade
    exact ⟨late, hlate, hspends.generation_eq, hspends.grows, hspends.written_prefix⟩
  · obtain ⟨steps, late, hlate, hgeneration, hwritten⟩ :=
      SocketLink.canWrite_owed hsound htidy ha
    obtain ⟨hloyal, hfollow⟩ := follow_helper a.generation steps s
    exact ⟨_, hloyal, late, hfollow ▸ hlate, hgeneration, hwritten⟩

end

/-! ## Runs -/

/-- What a loyal run leads to. -/
theorem reached_follow {config : Config} {start : Session ρ SocketLink}
    (hnew : Session.new config (.ofConfig config) = .ok start) {moves : List (Move ρ)}
    (hmoves : start.Loyal moves) :
    (start.follow moves).IsInStep ∧ (start.follow moves).connection.link.Tidy
      ∧ (start.follow moves).connection.link.settings.maxPayload = config.maxFrame := by
  have hoperated := operated_follow hmoves
  have hlink : start.connection.link = .ofConfig config := link_of_new hnew
  have htidy : start.connection.link.Tidy := by
    rw [hlink]
    exact fun a ha => by contradiction
  refine ⟨isInStep_follow hnew moves, ?_, ?_⟩
  · exact SocketLink.tidy_of_operated hoperated (isInStep_new hnew).follows.sound htidy
  · rw [SocketLink.settings_of_operated hoperated, hlink]
    rfl

/-- **Connections that were given up.** Let the owner of a session, the helpers of its attempts and
the network do what they do, in any order, and let a move leave the session without the connection
that it had, or that came up in the move. Unless the move has taken the report that the connection
is over, the socket of the attempt is closed for writing, and shut down unless something fell into
the move. Where it has, one of the helpers has ended, and the attempt is left as it was but for its
outbox, which takes no more frames, and for what fell into the move, by which some of what it owed
may have been written. Whatever is written to the socket from then on comes first in what the
attempt owes, and there is a run in which all of it is written. Nothing is owed where the socket is
closed for writing or the writing helper has given up; else it is the rest of a record and the
records of the frames that wait in the outbox. -/
theorem connections_are_given_up {config : Config} {start : Session ρ SocketLink}
    (hnew : Session.new config (.ofConfig config) = .ok start) {moves : List (Move ρ)}
    (hmoves : start.Loyal moves) {move : Move ρ}
    (hmove : (start.follow moves).Loyal [move])
    (hup : (start.follow moves).connection.state = .connected
      ∨ move.Takes (start.follow moves).connection.link .connected)
    (hdown : ((start.follow moves).move move).connection.state ≠ .connected) :
    let link := (start.follow moves).connection.link
    let s := (start.follow moves).move move
    (∀ more, ((s.follow more).connection.link.attempts.map Attempt.generation).Nodup)
      ∧ ∃ a ∈ s.connection.link.attempts, a.generation = link.generation
        ∧ a.outboxOpen = false
        ∧ ((∀ detail, ¬ move.Takes link (.closed detail)) →
          a.stream.isClosedForWriting
            ∧ ((start.follow moves).found move = [] → a.stream.shutDown))
        ∧ (∀ detail, move.Takes link (.closed detail) → (a.reader = .finished ∨ a.writer.isOver)
            ∧ ∃ before ∈ link.attempts,
              Spends config.maxFrame { before with outboxOpen := false } a
                ∧ ((start.follow moves).found move = [] →
                  a = { before with outboxOpen := false }))
        ∧ (a.stream.isClosedForWriting ∨ a.writer.isOver → a.owed config.maxFrame = [])
        ∧ (∀ more, s.Loyal more → ∃ late ∈ (s.follow more).connection.link.attempts,
            late.generation = a.generation ∧ a.written <+: late.written
              ∧ late.written <+: a.written ++ a.owed config.maxFrame)
        ∧ ∃ more, s.Loyal more ∧ ∃ late ∈ (s.follow more).connection.link.attempts,
            late.generation = a.generation
              ∧ late.written = a.written ++ a.owed config.maxFrame := by
  intro link s
  obtain ⟨hs, htidy, hlimit⟩ := reached_follow hnew hmoves
  have hoperated := operated_move hmove.1
  have hs' : s.IsInStep := isInStep_move hs move
  have hsound' := hs'.follows.sound
  have htidy' := SocketLink.tidy_of_operated hoperated hs.follows.sound htidy
  have hlimit' : s.connection.link.settings.maxPayload = config.maxFrame := by
    rw [SocketLink.settings_of_operated hoperated, hlimit]
  have hnodup (more : List (Move ρ)) :
      ((s.follow more).connection.link.attempts.map Attempt.generation).Nodup :=
    (next_follow s more hsound').1.distinct
  have howed (a : Attempt) :
      a.stream.isClosedForWriting ∨ a.writer.isOver → a.owed config.maxFrame = [] :=
    fun h => h.elim Attempt.owed_of_isClosedForWriting Attempt.owed_of_isOver
  -- what is written later is a matter of any attempt that is left behind
  have hwritten {a : Attempt} (ha : a ∈ s.connection.link.attempts)
      (hlt : a.generation < s.connection.link.generation) (hmade : a.reader ≠ .connecting) :=
    written_later rfl hsound' htidy' ha hlt hmade
  rw [hlimit'] at hwritten
  refine ⟨hnodup, ?_⟩
  by_cases hend : ∃ detail, move.Takes link (.closed detail)
  · obtain ⟨detail, htaken⟩ := hend
    have hposted : .closed detail ∈ link.posted link.generation := mem_posted_of_takes htaken
    obtain ⟨before, hbefore, hgeneration⟩ : link.HasAttempt link.generation := by
      by_contra hnone
      rw [hs.follows.sound.posted_eq_nil hnone] at hposted
      contradiction
    obtain ⟨hlt, a, ha, hspends, hsame⟩ := mem_move_of_closed hs hmove.1 htaken hbefore hgeneration
    rw [hlimit] at hspends
    have hnumber : a.generation = link.generation := hspends.generation_eq.trans hgeneration
    -- the report is in the channel for good, so one of the helpers has ended
    have hended : a.reader = .finished ∨ a.writer.isOver := by
      have hlater := (next_move (start.follow moves) move hs.follows.sound).2
      refine (htidy' a ha).ended detail ?_
      rw [hnumber]
      exact (hlater.posted_prefix _).subset hposted
    refine ⟨a, ha, hnumber, hspends.dropped rfl, fun hnone => absurd htaken (hnone detail),
      fun _ _ => ⟨hended, before, hbefore, hspends, hsame⟩, howed a, ?_⟩
    exact hwritten ha (hspends.generation_eq ▸ hlt) hspends.made
  · have hnone : ∀ detail, ¬ move.Takes link (.closed detail) := fun detail h => hend ⟨detail, h⟩
    obtain ⟨hlt, a, ha, hgeneration, hmade, hdropped, hclosed⟩ :=
      hasShut_move hs hmove.1 hup hnone hdown
    refine ⟨a, ha, hgeneration, hdropped, fun _ => hclosed, fun detail h => absurd h (hnone detail),
      howed a, ?_⟩
    exact hwritten ha (hgeneration ▸ hlt) hmade

/-- A lookup is sent on a connection whose service has written a record that is none. The reading
helper has reported it; the lookup still waits in the outbox. -/
def refusedRecord : List (Move Nat) :=
  let stream : Stream :=
    { Stream.established with inbound := Channel.empty.sendAll [0, 0, 0, 0, 0, 0] }
  [.connect, .helper 1 (.connect (.ok ())), .helper 1 .reportRead,
    .poll ⟨⟨0⟩, fun _ => true⟩, .submit ⟨0⟩ 0 "10.0.0.1" [], .network 1 stream,
    .helper 1 (.read 5), .helper 1 (.read 0), .helper 1 .reportRead]

/-- A session that ends this connection itself shuts the socket down, and the lookup is not written
any more, whatever happens afterwards and whatever the peer does with the stream. -/
theorem ended_connection_writes_no_more :
    let s := socketed.follow refusedRecord
    let ended := s.move .disconnect
    socketed.Loyal refusedRecord ∧ s.Loyal [.disconnect]
      ∧ s.connection.state = .connected ∧ ended.connection.state ≠ .connected
      ∧ ∃ a ∈ ended.connection.link.attempts, a.stream.shutDown
        ∧ a.outbox.waiting = [[1, 2, 10, 0, 0, 1, 0]]
        ∧ (∀ more, ended.Loyal more → ∃ late ∈ (ended.follow more).connection.link.attempts,
          late.generation = a.generation ∧ late.written = [])
        ∧ ∀ stream, a.stream.Met stream → ended.Loyal [.network a.generation stream] := by
  have hloyal : socketed.Loyal refusedRecord := by decide +kernel
  have hlast : (socketed.follow refusedRecord).Loyal [.disconnect] := loyal_act .disconnect _
  have hfound : (socketed.follow refusedRecord).found .disconnect = [] := rfl
  have hup : (socketed.follow refusedRecord).connection.state = .connected := by decide +kernel
  have hdown : ((socketed.follow refusedRecord).move .disconnect).connection.state
      ≠ .connected := by decide +kernel
  have hwaiting : ∀ a ∈ ((socketed.follow refusedRecord).move .disconnect).connection.link.attempts,
      a.outbox.waiting = [[1, 2, 10, 0, 0, 1, 0]] ∧ a.written = [] := by decide +kernel
  have hstep : ((socketed.follow refusedRecord).move .disconnect).IsInStep :=
    isInStep_move (isInStep_follow new_socketed refusedRecord) .disconnect
  obtain ⟨-, a, ha, -, -, hshut, -, howed, hlate, -⟩ :=
    connections_are_given_up new_socketed hloyal hlast (.inl hup) hdown
  obtain ⟨hclosed, hshut⟩ := hshut fun _ htakes => Bool.noConfusion htakes.1
  obtain ⟨hframe, hwritten⟩ := hwaiting a ha
  refine ⟨hloyal, hlast, hup, hdown, a, ha, hshut hfound, hframe, fun more hmore => ?_,
    fun stream hmet => loyal_of_met hstep.follows.sound ha hmet⟩
  obtain ⟨late, hmem, hgeneration, -, hprefix⟩ := hlate more hmore
  rw [hwritten, howed (.inl hclosed), List.append_nil, List.prefix_nil] at hprefix
  exact ⟨late, hmem, hgeneration, hprefix⟩

/-- The writing helper goes on with the lookup after all. -/
def lateWrite : List (Move Nat) :=
  [.helper 1 .takeFrame, .helper 1 (.write (.takes 13))]

/-- A session that hears of the record gives the connection up and leaves the socket open, and the
lookup is written afterwards. -/
theorem refused_record_leaves_lookup_to_write :
    let frame : Bytes := [1, 2, 10, 0, 0, 1, 0]
    let s := socketed.follow refusedRecord
    let ended := s.move (.poll ⟨⟨0⟩, fun _ => true⟩)
    socketed.Loyal refusedRecord
      ∧ s.connection.state = .connected ∧ ended.connection.state = .disconnected
      ∧ (∃ a ∈ ended.connection.link.attempts, a.generation = 1 ∧ a.stream.shutDown = false
        ∧ a.outbox.waiting = [frame] ∧ a.written = [])
      ∧ ended.Loyal lateWrite
      ∧ ∃ a ∈ (ended.follow lateWrite).connection.link.attempts, a.generation = 1
        ∧ a.outbox.waiting = [] ∧ a.written = Record.form frame := by
  decide +kernel

end Session

end CidrLookup
