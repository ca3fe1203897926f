import CidrLookup.Proofs.Client.Moves

/-!
# Stale signals never reach the session

Attempts to connect may overlap their successors: an attempt that was given up still reports, and
its signals come through the same channel. `stale_signals_never_reach_session` says what a session
hears all the same. From the start of an attempt to the close that ends it the session is passed
what that attempt has posted, in order and from the start; whatever else is taken from the channel
is dropped.
-/

namespace CidrLookup

variable {ρ : Type}

/-! ## What a session hears of one attempt -/

/-- Events of one attempt in their order: how connecting ended, and after a connection that was made
records, up to one end of the connection. -/
inductive InOrder : List Event → Prop where
  | silent : InOrder []
  | refused (detail : String) : InOrder [.failed ⟨.connect, detail⟩]
  | up (payloads : List Bytes) : InOrder (.connected :: payloads.map .received)
  | ended (payloads : List Bytes) {last : Event}
      (hlast : last = .disconnected ∨ ∃ detail, last = .failed ⟨.transport, detail⟩) :
      InOrder (.connected :: (payloads.map .received ++ [last]))

/-- A later report brings a record, or an end. -/
theorem Report.event_of_isLater {report : Report} (h : report.isLater) :
    (∃ payload, report.event = .received payload)
      ∨ report.event = .disconnected ∨ ∃ detail, report.event = .failed ⟨.transport, detail⟩ := by
  cases report with
  | received payload => exact .inl ⟨payload, rfl⟩
  | closed detail =>
    cases detail with
    | none => exact .inr (.inl rfl)
    | some detail => exact .inr (.inr ⟨detail, rfl⟩)
  | connected | connectFailed => contradiction

/-- Events that are all records are the events of some payloads. -/
theorem eq_map_received {events : List Event}
    (h : ∀ event ∈ events, ∃ payload, event = .received payload) :
    ∃ payloads : List Bytes, events = payloads.map .received := by
  induction events with
  | nil => exact ⟨[], rfl⟩
  | cons event more ih =>
    obtain ⟨⟨payload, rfl⟩, hmore⟩ := List.forall_mem_cons.1 h
    obtain ⟨payloads, rfl⟩ := ih hmore
    exact ⟨payload :: payloads, rfl⟩

/-- After the connection, events that have no end but at the end are in order. -/
theorem inOrder_connected {later : List Report} {events : List Event}
    (hlater : ∀ report ∈ later, report.isLater) (hposted : events <+: later.map Report.event)
    (hends : ∀ event ∈ events.dropLast, ¬ event.isEnd) : InOrder (.connected :: events) := by
  have hkind : ∀ event ∈ events, (∃ payload, event = .received payload)
      ∨ event = .disconnected ∨ ∃ detail, event = .failed ⟨.transport, detail⟩ := by
    intro event hevent
    obtain ⟨report, hreport, rfl⟩ := List.mem_map.1 (hposted.subset hevent)
    exact Report.event_of_isLater (hlater report hreport)
  -- only the last event may be an end, so those in front are records
  rcases List.eq_nil_or_concat events with rfl | ⟨front, last, rfl⟩
  · exact .up []
  · rw [List.concat_eq_append, List.dropLast_concat] at hends
    rw [List.concat_eq_append] at hkind ⊢
    have hfront : ∀ event ∈ front, ∃ payload, event = .received payload := by
      intro event hevent
      rcases hkind event (List.mem_append_left _ hevent) with hreceived | rfl | ⟨detail, rfl⟩
      · exact hreceived
      · exact absurd rfl (hends _ hevent)
      · exact absurd rfl (hends _ hevent)
    obtain ⟨payloads, rfl⟩ := eq_map_received hfront
    rcases hkind last List.mem_concat_self with ⟨payload, rfl⟩ | hlast
    · have hmap : payloads.map .received ++ [.received payload]
          = (payloads ++ [payload]).map Event.received := by simp
      rw [hmap]
      exact .up _
    · exact .ended payloads hlast

/-- What comes from an attempt is in order. -/
theorem ComesFrom.inOrder {link : SocketLink} {generation : Nat} {endpoint : Endpoint}
    {events : List Event} (h : ComesFrom link generation endpoint events) (hsound : link.Sound) :
    InOrder events.reverse := by
  obtain ⟨a, ha, rfl, -⟩ := h.attempt
  have hposted := h.posted
  have hends : ∀ event ∈ events.reverse.dropLast, ¬ event.isEnd := by
    intro event hevent
    rw [List.dropLast_reverse, List.mem_reverse] at hevent
    exact h.ends event hevent
  generalize events.reverse = events at hposted hends ⊢
  -- what was heard is a beginning of what was posted: nothing, a failure, or a connection and what
  -- came over it
  obtain hnone | ⟨detail, hfailed⟩ | ⟨later, hup, hlater⟩ := (hsound.hasPosted a ha).cases
  · rw [hnone, List.map_nil, List.prefix_nil] at hposted
    rw [hposted]
    exact .silent
  · rw [hfailed, List.map_singleton] at hposted
    cases events with
    | nil => exact .silent
    | cons event more =>
      obtain ⟨rfl, hmore⟩ := List.cons_prefix_cons.1 hposted
      rw [List.prefix_nil.1 hmore]
      exact .refused detail
  · rw [hup, List.map_cons] at hposted
    cases events with
    | nil => exact .silent
    | cons event more =>
      obtain ⟨rfl, hmore⟩ := List.cons_prefix_cons.1 hposted
      refine inOrder_connected hlater hmore fun event hevent => hends event ?_
      cases more with
      | nil => contradiction
      | cons => exact List.mem_cons_of_mem _ hevent

namespace Session

/-- A session without a connection has moved on: no attempt has the number that the link has, and
none will. -/
theorem IsInStep.notMem_sent {s : Session ρ SocketLink} (hs : s.IsInStep)
    (hstate : s.connection.state = .disconnected) (more : List (Move ρ)) :
    ∀ signal ∈ (s.follow more).connection.link.signals.sent,
      signal.generation ≠ s.connection.link.generation := by
  intro signal hsignal heq
  obtain ⟨hsound, hlater⟩ := next_follow s more hs.follows.sound
  obtain ⟨a, ha, hattempt⟩ := hsound.tagged signal hsignal
  have hgeneration := hattempt.trans heq
  have hold := hlater.absent a ha (Nat.le_of_eq hgeneration)
  exact hs.follows.unreached hstate (hgeneration ▸ hold)

/-- **Stale signals never reach the session.** Let the owner of a session, the helpers of its
attempts and the network do what they do, in any order. Then at each moment between the start of an
attempt and the next close of the link, the events that were passed to the session since are those
that this one attempt has posted first, in order. The attempts have different numbers; the number of
the link is how often it was moved to a new one, and an attempt has the number to which its start
moved the link. No event is passed outside of such a time, and a signal that is taken from the
channel is an event if and only if it has the number that the link has then. Between two calls the
socket is open if and only if the session is connected, and while the session is disconnected no
signal has the number of the link, nor will one ever. -/
theorem stale_signals_never_reach_session {config : Config} {start : Session ρ SocketLink}
    (hnew : Session.new config (.ofConfig config) = .ok start) (moves : List (Move ρ)) :
    let s := start.follow moves
    let link := s.connection.link
    (∀ moment during endpoint earlier, moment <:+ s.history →
        moment = during ++ .connect endpoint :: earlier → .close ∉ during →
        (∃ a ∈ link.attempts, a.generation = number earlier + 1 ∧ a.endpoint = endpoint)
          ∧ (heard during).reverse <+: (link.posted (number earlier + 1)).map Report.event
          ∧ InOrder (heard during).reverse)
      ∧ (link.attempts.map Attempt.generation).Nodup
      ∧ link.generation = number s.history
      ∧ (∀ event earlier, .notice (.linkEvent event) :: earlier <:+ s.history →
          ∃ during endpoint before, earlier = during ++ .connect endpoint :: before
            ∧ .close ∉ during ∧ number earlier = number before + 1)
      ∧ List.Forall₂ Decided (looks s.history) link.signals.received
      ∧ (link.isOpen ↔ s.connection.state = .connected)
      ∧ (s.connection.state = .disconnected → ∀ more,
          ∀ signal ∈ (s.follow more).connection.link.signals.sent,
            signal.generation ≠ link.generation) := by
  intro s link
  have hs : s.IsInStep := isInStep_follow hnew moves
  refine ⟨?_, hs.follows.sound.distinct, hs.follows.generation_eq, ?_, hs.follows.decided,
    hs.isOpen_iff, hs.notMem_sent⟩
  · intro moment during endpoint earlier hmoment heq hclosed
    have hcomes := hs.follows.past hmoment ⟨heq, hclosed⟩
    exact ⟨hcomes.attempt, hcomes.posted, hcomes.inOrder hs.follows.sound⟩
  · intro event earlier hmoment
    obtain ⟨during, endpoint, before, ⟨heq, hclosed⟩, hnumber⟩ := hs.follows.stretched hmoment
    exact ⟨during, endpoint, before, heq, hclosed, hnumber⟩

/-! ## A session that connects twice -/

/-- A session of the default configuration over its own link, before its first call. -/
def socketed : Session Nat SocketLink :=
  ⟨.default, .new (.ofConfig .default) ⟨"127.0.0.1", 9595⟩, .empty 1024, none, none, none, []⟩

/-- The session over sockets is a new one. -/
theorem new_socketed : Session.new Config.default (.ofConfig .default) = .ok socketed := by
  have hhost : Endpoint.make "127.0.0.1" 9595 = .ok ⟨"127.0.0.1", 9595⟩ := by rfl
  simp only [Session.new, Config.default, Config.defaultPort, hhost]
  rfl

/-- The first attempt succeeds after its session has given it up for a second one. -/
def overlap : List (Move Nat) :=
  let look := .poll ⟨⟨0⟩, fun _ => true⟩
  [.connect, .helper 1 (.connect (.ok ())), .disconnect, .connect, .helper 1 .reportRead, look,
    .helper 3 (.connect (.ok ())), .helper 3 .reportRead, look]

/-- The success of the first attempt is dropped, and that of the second is heard. Between the two
attempts the link has a number that no signal ever gets. -/
theorem overlapping_attempt_is_dropped :
    let s := socketed.follow overlap
    let between := socketed.follow (overlap.take 3)
    s.connection.link.signals.received = [⟨3, .connected⟩, ⟨1, .connected⟩]
      ∧ looks s.history = [(3, .linkEvent .connected), (3, .staleSignal 1 3)]
      ∧ List.Forall₂ Decided (looks s.history) s.connection.link.signals.received
      ∧ s.connection.link.isOpen ∧ s.connection.state = .connected
      ∧ ∀ signal ∈ (between.follow (overlap.drop 3)).connection.link.signals.sent,
          signal.generation ≠ 2 := by
  intro s between
  obtain ⟨-, -, -, -, hdecided, hopen, -⟩ := stale_signals_never_reach_session new_socketed overlap
  obtain ⟨-, -, -, -, -, -, hnone⟩ :=
    stale_signals_never_reach_session new_socketed (overlap.take 3)
  have hconnected : s.connection.state = .connected := by decide +kernel
  refine ⟨by decide +kernel, by decide +kernel, hdecided, hopen.2 hconnected, hconnected, ?_⟩
  exact hnone (by decide +kernel) (overlap.drop 3)

end Session

end CidrLookup
