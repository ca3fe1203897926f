import CidrLookup.Proofs.Client.Stale

/-!
# What a session waits for

A session that is connecting waits for the signal that says how it went, and a connected one will
not learn of the end of its connection but by a signal. `waiting_session_is_told` says that there is
always such a signal to come: a helper has still to post it, or it is in the channel. What a session
has been told already is where the two parts differ. Of a connection that came up it has heard of no
end, which is `Live`; of an attempt that it waits for it has heard nothing, which is `Unanswered`.
-/

namespace CidrLookup

variable {ρ : Type}

open SocketLink (reportsOf)
open Connection (Does Amid)

/-! ## Helpers with something left to say -/

namespace Attempt

/-- The reading helper has still to say how connecting ended. -/
def IsDialling (a : Attempt) : Prop :=
  a.reader = .connecting ∨ ∃ report, ¬ report.isLater ∧ a.reader = .reporting report

/-- The reading helper of a connection that was reported is at work. -/
def IsReading (a : Attempt) : Prop :=
  a.reader = .reading ∨ ∃ report, report.isLater ∧ a.reader = .reporting report

variable {posted : List Report} {a : Attempt}

/-- An attempt that has reported nothing has a helper that will. -/
theorem HasPosted.isDialling_or (h : HasPosted posted a) :
    posted = [] ∧ a.IsDialling ∨ ∃ first more, posted = first :: more ∧ ¬ first.isLater := by
  cases h with
  | dialling hreader => exact .inl ⟨rfl, .inl hreader⟩
  | failing hreader => exact .inl ⟨rfl, .inr ⟨_, by simp [Report.isLater], hreader⟩⟩
  | made hreader => exact .inl ⟨rfl, .inr ⟨_, by simp [Report.isLater], hreader⟩⟩
  | failed => exact .inr ⟨_, _, rfl, by simp [Report.isLater]⟩
  | up => exact .inr ⟨_, _, rfl, by simp [Report.isLater]⟩

/-- An attempt that has reported a connection and no end of it has a helper that reads on. -/
theorem HasPosted.isReading_or (h : HasPosted posted a) (hconnected : .connected ∈ posted) :
    a.IsReading ∨ ∃ detail, .closed detail ∈ posted := by
  cases h with
  | up _ hreader =>
    rcases hreader with hreading | hreporting | ⟨-, detail, hclosed⟩
    · exact .inl (.inl hreading)
    · exact .inl (.inr hreporting)
    · exact .inr ⟨detail, List.mem_cons_of_mem _ hclosed⟩
  | dialling | failing | made => contradiction
  | failed => simp at hconnected

end Attempt

namespace SocketLink

variable {link : SocketLink} {generation : Nat} {report : Report}

/-- The reports of a number are those of the signals that have it. -/
theorem mem_reportsOf_iff {signals : List Signal} :
    report ∈ reportsOf generation signals ↔ ⟨generation, report⟩ ∈ signals := by
  unfold reportsOf
  constructor
  · intro h
    obtain ⟨⟨number, report'⟩, hmem, rfl⟩ := List.mem_map.1 h
    obtain ⟨hsignal, hnumber⟩ := List.mem_filter.1 hmem
    obtain rfl : number = generation := of_decide_eq_true hnumber
    exact hsignal
  · exact fun h => List.mem_map.2 ⟨_, List.mem_filter.2 ⟨h, by simp⟩, rfl⟩

/-- What was posted was received, or it waits in the channel. -/
theorem mem_posted (h : report ∈ link.posted generation) :
    report ∈ reportsOf generation link.signals.received
      ∨ ⟨generation, report⟩ ∈ link.signals.waiting := by
  rw [posted, mem_reportsOf_iff, Channel.sent, List.mem_append, List.mem_reverse] at h
  exact h.imp_left mem_reportsOf_iff.2

/-- The first report of an attempt says how connecting ended. -/
theorem Sound.not_isLater (hsound : link.Sound)
    (hfirst : reportsOf generation link.signals.received = [report]) : ¬ report.isLater := by
  have hposted := reportsOf_received_prefix generation link
  rw [hfirst] at hposted
  -- an attempt that has posted something posted first how the connecting went
  have hattempt : link.HasAttempt generation := by
    by_contra hnone
    rw [hsound.posted_eq_nil hnone, List.prefix_nil] at hposted
    contradiction
  obtain ⟨a, ha, rfl⟩ := hattempt
  obtain ⟨hnone, -⟩ | ⟨first, more, heq, hfirst⟩ := (hsound.hasPosted a ha).isDialling_or
  · rw [hnone, List.prefix_nil] at hposted
    contradiction
  · rw [heq] at hposted
    rwa [(List.cons_prefix_cons.1 hposted).1]

end SocketLink

/-! ## Attempts that were not answered -/

/-- While an attempt is made, nothing of it has been received. -/
def Unanswered (c : Connection SocketLink) : Prop :=
  c.state = .connecting → reportsOf c.link.generation c.link.signals.received = []

namespace Unanswered

variable {c c' : Connection SocketLink} {effect : Effect ρ}

/-- An attempt that was just started was not answered yet. -/
theorem connect (hsound : c.link.Sound) (hstate : c.state = .disconnected) :
    Unanswered c.connect.2 := by
  intro _
  obtain ⟨hgeneration, -, hsignals, -⟩ := SocketLink.startConnect_spec c.link c.endpoint
  rw [(connect_spec hstate).1, hgeneration, hsignals]
  exact hsound.received_eq_nil (Nat.lt_succ_self _)

/-- What keeps the number and the signals that were taken leaves the attempt unanswered. -/
theorem relink (h : Unanswered c) (hstate : c'.state = c.state)
    (hgeneration : c'.link.generation = c.link.generation)
    (hreceived : c'.link.signals.received = c.link.signals.received) : Unanswered c' := by
  intro hconnecting
  rw [hgeneration, hreceived]
  exact h (hstate ▸ hconnecting)

/-- An effect that is no event leaves the attempt unanswered. -/
theorem does (h : Unanswered c) (hsound : c.link.Sound) (hdoes : Does effect c c') :
    Unanswered c' := by
  cases hdoes with
  | connect hstate => exact connect hsound hstate
  | sent hsend =>
    obtain ⟨-, hgeneration, -, hreceived⟩ := link_of_send hsend
    exact h.relink (Connection.state_of_send hsend) hgeneration hreceived
  | refused hsend =>
    obtain ⟨-, hgeneration, -, hreceived⟩ := link_of_send hsend
    exact h.relink (Connection.state_of_send hsend) hgeneration hreceived
  | close => exact fun hconnecting => by contradiction
  | resolved => exact h
  | notice => exact h

/-- A step beside the session tells it nothing. -/
theorem beside (h : Unanswered c) (step : Beside) :
    Unanswered (c.relink (step.apply c.link)) := by
  obtain ⟨hgeneration, -, hreceived⟩ := step.apply_spec c.link
  exact h.relink rfl hgeneration hreceived

/-- A call with steps in it leaves the attempt unanswered. -/
theorem amid {effects : List (Effect ρ)} {found : List (SocketLink × Beside)} (h : Unanswered c)
    (hsound : c.link.Sound) (hamid : Amid effects found c c') : Unanswered c' := by
  induction hamid with
  | nil => exact h
  | does hmore hdoes ih => exact (ih h hsound).does (Session.next_of_amid hmore hsound).1 hdoes
  | beside _ step ih => exact (ih h hsound).beside step

end Unanswered

namespace Session

variable {found : List (SocketLink × Beside)} {s s' : Session ρ SocketLink}

/-- Whatever a session goes through without looking leaves the attempt unanswered. -/
theorem Goes.unanswered (h : Goes found s s') (hsound : s.connection.link.Sound)
    (hs : Unanswered s.connection) : Unanswered s'.connection := by
  obtain ⟨effects, -, hamid⟩ := h
  exact hs.amid hsound hamid

/-- **A look.** A session that is told how connecting ended waits for it no longer, and it is told
nothing before. -/
theorem Arrived.unanswered (hs : s.IsInStep) (hun : Unanswered s.connection)
    {around : Surroundings ρ}
    (h : Arrived around (s.withLink s.connection.link.poll.2) found s.connection.link.poll.1 s') :
    Unanswered s'.connection := by
  obtain ⟨hlooked, hnext⟩ := SocketLink.poll_spec s.connection.link
  have hsound := (hnext hs.follows.sound).1
  generalize s.connection.link.poll.1 = arrival at hlooked h
  generalize s.connection.link.poll.2 = link at hlooked hsound h
  cases hlooked with
  | quiet =>
    cases h
    exact hun
  | stale hstale hgeneration hreceived hopen =>
    cases h
    intro hconnecting
    show reportsOf link.generation link.signals.received = []
    rw [hgeneration, hreceived]
    simpa [reportsOf, hstale] using hun hconnecting
  | @event event report _ hgeneration hreceived hopen hevent =>
    subst hevent
    cases h with
    | event hheard =>
      generalize hevent : report.event = event at hheard
      cases hheard with
      | up hgoes => exact hgoes.unanswered hsound fun hconnecting => by contradiction
      | @received frame _ hgoes =>
        obtain rfl : report = .received frame := Report.eq_of_event_eq hevent
        refine hgoes.unanswered hsound fun hconnecting => ?_
        -- the first report that is received brings no record
        have hnone := hun hconnecting
        have hfirst : reportsOf s.connection.link.generation link.signals.received
            = [.received frame] := by
          rw [hreceived]
          simpa [reportsOf] using hnone
        exact absurd rfl (hsound.not_isLater hfirst)
      | ended _ _ hconnection =>
        rw [hconnection]
        exact fun hconnecting => by contradiction

/-- **The step.** -/
theorem unanswered_move (hs : s.IsInStep) (hun : Unanswered s.connection) (move : Move ρ) :
    Unanswered (s.move move).connection := by
  have hmade := move_made s move
  generalize s.found move = found at hmade
  generalize s.move move = s' at hmade ⊢
  cases hmade with
  | called _ hgoes => exact hgoes.unanswered hs.follows.sound hun
  | looked _ harrived hswept =>
    exact hswept.unanswered (harrived.isInStep hs).follows.sound (harrived.unanswered hs hun)
  | beside step => exact hun.beside step

/-- After every run, a session that waits for a connection has had no answer. -/
theorem unanswered_follow {config : Config} {start : Session ρ SocketLink}
    (hnew : Session.new config (.ofConfig config) = .ok start) (moves : List (Move ρ)) :
    Unanswered (start.follow moves).connection := by
  have hstart : Unanswered start.connection := by
    intro hconnecting
    rw [(new_spec hnew).1] at hconnecting
    contradiction
  refine (follow_induction (motive := fun s => s.IsInStep ∧ Unanswered s.connection)
    ⟨isInStep_new hnew, hstart⟩ ?_ moves).2
  exact fun s move ⟨hs, hun⟩ => ⟨isInStep_move hs move, unanswered_move hs hun move⟩

/-! ## Signals to come -/

/-- **A session is told what it waits for.** Let the owner of a session, the helpers of its attempts
and the network do what they do, in any order. Then between two calls, if the session is connecting,
the helper of the attempt that has the number of the link has posted nothing yet and is still to
post how connecting ended, or this signal is in the channel. If the session is connected, the
reading helper of its attempt is at work, or the signal that the connection is over is in the
channel. -/
theorem waiting_session_is_told {config : Config} {start : Session ρ SocketLink}
    (hnew : Session.new config (.ofConfig config) = .ok start) (moves : List (Move ρ)) :
    let s := start.follow moves
    let link := s.connection.link
    (s.connection.state = .connecting →
        (∃ a ∈ link.attempts, a.generation = link.generation ∧ a.IsDialling
            ∧ link.posted link.generation = [])
          ∨ ⟨link.generation, .connected⟩ ∈ link.signals.waiting
          ∨ ∃ detail, ⟨link.generation, .connectFailed detail⟩ ∈ link.signals.waiting)
      ∧ (s.connection.state = .connected →
          (∃ a ∈ link.attempts, a.generation = link.generation ∧ a.IsReading)
            ∨ ∃ detail, ⟨link.generation, .closed detail⟩ ∈ link.signals.waiting) := by
  intro s link
  have hs : s.IsInStep := isInStep_follow hnew moves
  have hsound : link.Sound := hs.follows.sound
  -- a session that is not disconnected has an attempt, of which it has heard what was received
  have hcurrent (hstate : s.connection.state ≠ .disconnected) :
      ∃ during endpoint earlier, Stretch s.history during endpoint earlier
        ∧ ∃ a ∈ link.attempts, a.generation = link.generation := by
    obtain ⟨during, endpoint, earlier, hstretch⟩ := hs.follows.exists_stretch hstate
    obtain ⟨a, ha, hgeneration, -⟩ := (hs.follows.current hstretch).attempt
    exact ⟨during, endpoint, earlier, hstretch, a, ha, hgeneration⟩
  constructor
  · intro hconnecting
    obtain ⟨-, -, -, -, a, ha, hgeneration⟩ := hcurrent (by simp [hconnecting])
    have hposted := hsound.hasPosted a ha
    rw [hgeneration] at hposted
    obtain ⟨hnone, hdialling⟩ | ⟨first, more, heq, hfirst⟩ := hposted.isDialling_or
    · exact .inl ⟨a, ha, hgeneration, hdialling, hnone⟩
    · have hmem : first ∈ link.posted link.generation := heq ▸ List.mem_cons_self
      have hun : reportsOf link.generation link.signals.received = [] :=
        unanswered_follow hnew moves hconnecting
      have hwaits : ⟨link.generation, first⟩ ∈ link.signals.waiting :=
        (SocketLink.mem_posted hmem).resolve_left (by simp [hun])
      cases first with
      | connected => exact .inr (.inl hwaits)
      | connectFailed detail => exact .inr (.inr ⟨detail, hwaits⟩)
      | received | closed => exact absurd rfl hfirst
  · intro hconnected
    obtain ⟨during, _, _, hstretch, a, ha, hgeneration⟩ := hcurrent (by simp [hconnected])
    have hposted := hsound.hasPosted a ha
    rw [hgeneration] at hposted
    have hup := hsound.connected_mem_posted (hs.isOpen_iff.2 hconnected)
    obtain hreading | ⟨detail, hclosed⟩ := hposted.isReading_or hup
    · exact .inl ⟨a, ha, hgeneration, hreading⟩
    · refine .inr ⟨detail, (SocketLink.mem_posted hclosed).resolve_left fun hreceived => ?_⟩
      -- the session would have heard of the end
      have hheard : (Report.closed detail).event ∈ heard during := by
        rw [(hs.follows.current hstretch).heard_eq]
        exact List.mem_map_of_mem hreceived
      refine hs.live _ _ _ hstretch _ hheard ?_
      cases detail <;> rfl

/-- The first attempt succeeds; its session has not looked yet. -/
def dialled : List (Move Nat) :=
  [.connect, .helper 1 (.connect (.ok ())), .helper 1 .reportRead]

/-- The service ends a connection that the session has heard of, and the reading helper finishes. -/
def hungUp : List (Move Nat) :=
  dialled ++ [.poll ⟨⟨0⟩, fun _ => true⟩,
    .network 1 { Stream.established with peerEnded := true }, .helper 1 (.read 0),
    .helper 1 .reportRead]

/-- What each of these sessions waits for was posted before it was due: it is in the channel. -/
theorem finished_helper_has_posted :
    let s := socketed.follow dialled
    let s' := socketed.follow hungUp
    s.connection.state = .connecting ∧ s.connection.link.posted 1 = [.connected]
      ∧ ⟨1, .connected⟩ ∈ s.connection.link.signals.waiting
      ∧ s'.connection.state = .connected
      ∧ (∀ a ∈ s'.connection.link.attempts, a.reader = .finished)
      ∧ ∃ detail, ⟨1, .closed detail⟩ ∈ s'.connection.link.signals.waiting := by
  intro s s'
  have hconnecting : s.connection.state = .connecting := by decide +kernel
  have hposted : s.connection.link.posted 1 = [.connected] := by decide +kernel
  have hconnected : s'.connection.state = .connected := by decide +kernel
  have hfinished : ∀ a ∈ s'.connection.link.attempts, a.reader = .finished := by decide +kernel
  have hnumber : s.connection.link.generation = 1 := by decide +kernel
  have hnumber' : s'.connection.link.generation = 1 := by decide +kernel
  refine ⟨hconnecting, hposted, ?_, hconnected, hfinished, ?_⟩
  · have hup : ∀ signal ∈ s.connection.link.signals.waiting, signal.report = .connected := by
      decide +kernel
    obtain ⟨-, -, -, -, hnone⟩ | hwaits | ⟨_, hwaits⟩ :=
      (waiting_session_is_told new_socketed dialled).1 hconnecting
    · rw [hnumber, hposted] at hnone
      contradiction
    · rwa [hnumber] at hwaits
    · exact absurd (hup _ hwaits) (by simp)
  · obtain ⟨a, ha, -, hreading⟩ | hwaits :=
      (waiting_session_is_told new_socketed hungUp).2 hconnected
    · simp [Attempt.IsReading, hfinished a ha] at hreading
    · rwa [hnumber'] at hwaits

end Session

end CidrLookup
