import CidrLookup.Proofs.Session.Flush

/-!
# The history as an account of the connection

What a session does to its link stands in its history, effect by effect. `Does` says what one
effect made of the connection, `Accounts` what several made of it, and `Extends` that the history
of a session has grown by effects that account for its connection. Every operation of a session
extends it, with one exception: a connection that comes up is marked as connected by no effect, so
`onConnected` extends the session in which that has been done.

No operation of a session notes what a look at the link has brought. Those notices are written by
whoever looks, so between two looks a history has none.
-/

namespace CidrLookup

variable {ρ σ : Type}

/-- Whether a notice says what a look at the link has brought. -/
def Notice.isLook : Notice → Bool
  | linkEvent _ | staleSignal .. => true
  | _ => false

namespace Connection

variable [Link σ]

/-- What an effect made of the connection. -/
inductive Does : Effect ρ → Connection σ → Connection σ → Prop where
  | connect {c : Connection σ} (hstate : c.state = .disconnected) :
      Does (.connect c.endpoint) c c.connect.2
  | sent {c c' : Connection σ} {now : Instant} {requester : Option ρ} {frame : Bytes}
      (hsend : c.send now frame = (.ok (), c')) : Does (@Effect.sent ρ requester frame) c c'
  | refused {c c' : Connection σ} {now : Instant} {frame : Bytes} {e : SessionError}
      (hsend : c.send now frame = (.error e, c')) : Does (.refused frame e) c c'
  | close (c : Connection σ) : Does .close c c.disconnect
  | resolved (c : Connection σ) (requester : ρ) (resolution : Resolution) :
      Does (.resolved requester resolution) c c
  | notice (c : Connection σ) {notice : Notice} (hlook : notice.isLook = false) :
      Does (.notice notice) c c

/-- What several effects, the newest first, made of the connection. -/
inductive Accounts : List (Effect ρ) → Connection σ → Connection σ → Prop where
  | nil (c : Connection σ) : Accounts [] c c
  | cons {effect : Effect ρ} {more : List (Effect ρ)} {c c' c'' : Connection σ}
      (hmore : Accounts more c c') (hdoes : Does effect c' c'') : Accounts (effect :: more) c c''

/-- Effects that follow on others account for the connection together with these. -/
theorem Accounts.append {front back : List (Effect ρ)} {c c' c'' : Connection σ}
    (hback : Accounts back c c') (hfront : Accounts front c' c'') :
    Accounts (front ++ back) c c'' := by
  induction hfront with
  | nil => exact hback
  | cons _ hdoes ih => exact .cons (ih hback) hdoes

/-- One effect. -/
theorem Accounts.single {effect : Effect ρ} {c c' : Connection σ} (h : Does effect c c') :
    Accounts [effect] c c' :=
  .cons (.nil c) h

end Connection

namespace Session

open Connection (Does Accounts)

variable [Link σ]

/-- The history of a session has grown by effects that account for its connection. -/
def Extends (s s' : Session ρ σ) : Prop :=
  ∃ effects, s'.history = effects ++ s.history ∧ Accounts effects s.connection s'.connection

namespace Extends

variable {s s' s'' : Session ρ σ}

/-- What is neither the connection nor the history may change on the way. -/
theorem of_eq (hhistory : s'.history = s.history) (hconnection : s'.connection = s.connection) :
    Extends s s' :=
  ⟨[], hhistory, hconnection ▸ .nil _⟩

/-- Nothing was done. -/
theorem refl (s : Session ρ σ) : Extends s s :=
  of_eq rfl rfl

/-- One operation after another. -/
theorem trans (h : Extends s s') (h' : Extends s' s'') : Extends s s'' := by
  obtain ⟨back, hback, hfirst⟩ := h
  obtain ⟨front, hfront, hthen⟩ := h'
  refine ⟨front ++ back, ?_, hfirst.append hthen⟩
  rw [hfront, hback, List.append_assoc]

/-- One effect was added, and it accounts for the connection. -/
theorem single {effect : Effect ρ} (hhistory : s'.history = effect :: s.history)
    (hdoes : Does effect s.connection s'.connection) : Extends s s' :=
  ⟨[effect], hhistory, .single hdoes⟩

/-- A line for the log is no matter of the connection. -/
theorem note (s : Session ρ σ) {notice : Notice} (hlook : notice.isLook = false) :
    Extends s (s.note notice) :=
  single rfl (.notice s.connection hlook)

end Extends

/-! ## The operations -/

/-- Opening adds the attempt where there is none, and a line for the log. -/
theorem extends_openConnection (s : Session ρ σ) : Extends s s.openConnection.2 := by
  unfold openConnection
  by_cases hstate : s.connection.state = .disconnected
  · have hconnect : s.connection.connect = (true, s.connection.connect.2) := by
      simp [Connection.connect, hstate]
    rw [hconnect]
    exact (Extends.note s rfl).trans (.single rfl (.connect hstate))
  · have hconnect : s.connection.connect = (false, s.connection) := by
      simp [Connection.connect, hstate]
    rw [hconnect]
    exact .note s rfl

/-- Closing adds the close, whatever the state of the connection. -/
theorem extends_closeConnection (s : Session ρ σ) : Extends s s.closeConnection := by
  unfold closeConnection
  split
  · exact .single rfl (.close s.connection)
  · exact (Extends.note s rfl).trans (.single rfl (.close s.connection))

/-- Losing the connection is closing it, with lines for the log. -/
theorem extends_linkLost (s : Session ρ σ) : Extends s s.linkLost := by
  have hclosed : Extends s { s.closeConnection with info := none, queue := s.queue.demoteSent } :=
    (extends_closeConnection s).trans (.of_eq rfl rfl)
  unfold linkLost
  simp only
  split
  · exact hclosed
  · exact (hclosed.trans (.note _ rfl)).trans (.note _ rfl)

/-- A connection that ends for a reason leaves a line for the log first. -/
theorem extends_fail {notice : Notice} (hlook : notice.isLook = false) (reason : String)
    (s : Session ρ σ) : Extends s ((s.note notice).fail reason) :=
  (Extends.note s hlook).trans ((Extends.of_eq rfl rfl).trans (extends_linkLost _))

/-- A send adds the frame as taken or as refused. -/
theorem extends_sendFrame (now : Instant) (requester : Option ρ) (frame : Bytes)
    (s : Session ρ σ) : Extends s (s.sendFrame now requester frame).2 := by
  obtain ⟨c, hsend, heq⟩ | ⟨e, c, hsend, heq⟩ := sendFrame_cases now requester frame s
  · rw [heq]
    exact .single rfl (.sent hsend)
  · rw [heq]
    exact .single rfl (.refused hsend)

/-- Naming the client is a send, or nothing where there is no token. -/
theorem extends_identify (now : Instant) (s : Session ρ σ) : Extends s (s.identify now).2 := by
  unfold identify
  cases s.config.identify with
  | none => exact .refl s
  | some token =>
    simp only
    cases identifyFrame token with
    | error e => exact .refl s
    | ok frame =>
      simp only
      have hsend := extends_sendFrame now none frame s
      generalize s.sendFrame now none frame = result at hsend ⊢
      obtain ⟨e | ⟨⟨⟩⟩, sent⟩ := result
      · exact hsend
      · exact hsend.trans (.note sent rfl)

/-- A flush is as many sends as it makes; what it drops it only notes. -/
theorem accounts_flush (around : Surroundings ρ) (c : Connection σ) (effects : List (Effect ρ))
    (entries : List (Entry ρ)) :
    ∃ added, (flush around c effects entries).effects = added ++ effects
      ∧ Accounts added c (flush around c effects entries).connection := by
  have hflushes := flush_flushes around c effects entries
  generalize flush around c effects entries = done at hflushes ⊢
  -- along the queue: what the flush adds for a lookup comes before what it adds for the others
  induction hflushes with
  | done c => exact ⟨[], rfl, .nil c⟩
  | skipped _ _ ih => exact ih
  | @gone c _ e _ _ _ _ _ ih =>
    obtain ⟨added, heffects, haccounts⟩ := ih
    refine ⟨added ++ [.notice (.requesterGone e.text)], ?_, ?_⟩
    · simpa using heffects
    · exact (Accounts.single (.notice c rfl)).append haccounts
  | @unencodable c _ e _ _ error _ _ _ _ ih =>
    obtain ⟨added, heffects, haccounts⟩ := ih
    refine ⟨added ++ [.notice (.unencodable e.text (.protocol error))], ?_, ?_⟩
    · simpa using heffects
    · exact (Accounts.single (.notice c rfl)).append haccounts
  | @sent _ _ _ e _ _ frame _ _ _ hsend _ ih =>
    obtain ⟨added, heffects, haccounts⟩ := ih
    refine ⟨added ++ [@Effect.sent ρ (some e.requester) frame], ?_, ?_⟩
    · simpa using heffects
    · exact (Accounts.single (.sent hsend)).append haccounts
  | @cut _ _ _ _ _ frame error _ _ _ hsend =>
    exact ⟨[.refused frame error], rfl, .single (.refused hsend)⟩

/-- Sending what waits is a flush, and the end of the connection where it fails. -/
theorem extends_flushPending (around : Surroundings ρ) (s : Session ρ σ) :
    Extends s (s.flushPending around) := by
  obtain ⟨added, heffects, haccounts⟩ :=
    accounts_flush around s.connection s.history s.queue.entries
  have hflushed : Extends s { s with
      connection := (flush around s.connection s.history s.queue.entries).connection
      queue := { s.queue with
        entries := (flush around s.connection s.history s.queue.entries).entries }
      history := (flush around s.connection s.history s.queue.entries).effects } :=
    ⟨added, heffects, haccounts⟩
  simp only [flushPending]
  split
  · exact hflushed
  · exact hflushed.trans (extends_fail rfl _ _)

/-! ## Events -/

/-- The session in which a connection that has come up is marked as connected. -/
def markUp (now : Instant) (s : Session ρ σ) : Session ρ σ :=
  { s with connection := s.connection.markConnected now }

/-- A connection that has come up is marked first. From there the session names the client and sends
what waits. -/
theorem extends_onConnected {s : Session ρ σ} (hhalted : s.halted = none)
    (around : Surroundings ρ) : Extends (s.markUp around.now) (s.onConnected around) := by
  unfold onConnected
  rw [hhalted]
  simp only
  -- the connection is marked as up, and what follows is added to that
  generalize hup : Session.note _ _ = up
  have hnoted : Extends (s.markUp around.now) up := by
    rw [← hup]
    exact (Extends.of_eq rfl rfl).trans (.note { s.markUp around.now with lastError := none } rfl)
  have hidentify := hnoted.trans (extends_identify around.now up)
  generalize up.identify around.now = result at hidentify ⊢
  obtain ⟨e | ⟨⟨⟩⟩, named⟩ := result
  · exact hidentify.trans (extends_fail rfl e.message named)
  · exact hidentify.trans (extends_flushPending around named)

/-- An answer is no matter of the connection. -/
theorem extends_resolve (resolution : Resolution) (s : Session ρ σ) :
    Extends s (s.resolve resolution) := by
  unfold resolve
  split
  · rename_i entry queue _
    have hnoted : Extends s (({ s with queue }).note (.resolved resolution)) :=
      (Extends.of_eq rfl rfl).trans (.note { s with queue } rfl)
    exact hnoted.trans (.single rfl (.resolved s.connection entry.requester resolution))
  · exact .note s rfl

/-- A record may be an answer, or the end of the connection. -/
theorem extends_onFrame (frame : Bytes) (s : Session ρ σ) : Extends s (s.onFrame frame) := by
  unfold onFrame
  cases Message.decode s.config.maxFrame frame with
  | error e =>
    simp only
    split
    · exact (Extends.of_eq rfl rfl).trans
        (extends_fail rfl e.message { s with halted := some e.message })
    · exact .note s rfl
  | ok message =>
    cases message with
    | established info => exact (Extends.note s rfl).trans (.of_eq rfl rfl)
    | identify _ => exact .note s rfl
    | request _ _ => exact .note s rfl
    | found address range => exact extends_resolve _ s
    | notFound address => exact extends_resolve _ s
    | failure code text => exact extends_fail rfl _ s

/-- What a session makes of an event. -/
inductive Handled (around : Surroundings ρ) (s : Session ρ σ) : Event → Session ρ σ → Prop where
  /-- The connection is marked as connected, and the session goes on from there. -/
  | up {s' : Session ρ σ} (hextends : Extends (s.markUp around.now) s') :
      Handled around s .connected s'
  | received {frame : Bytes} {s' : Session ρ σ} (hextends : Extends s s') :
      Handled around s (.received frame) s'
  /-- The connection is over, or the session does not want it. -/
  | ended {event : Event} {s' : Session ρ σ} (hextends : Extends s s')
      (hconnection : s'.connection = s.connection.disconnect) : Handled around s event s'

/-- An event that ends the connection. -/
theorem handled_fail (around : Surroundings ρ) {notice : Notice} (hlook : notice.isLook = false)
    (reason : String) (event : Event) (s : Session ρ σ) :
    Handled around s event ((s.note notice).fail reason) := by
  refine .ended (extends_fail hlook reason s) ?_
  obtain ⟨effects, heq, -⟩ := fail_note_spec notice reason s
  rw [heq]

/-- Every event is handled in one of these ways. -/
theorem handleEvent_handled (around : Surroundings ρ) (event : Event) (s : Session ρ σ) :
    Handled around s event (s.handleEvent around event) := by
  -- a session that has given up closes a connection that comes up; every other event is heard on
  -- the connection there is
  cases event with
  | connected =>
    cases hhalted : s.halted with
    | none => exact .up (extends_onConnected hhalted around)
    | some reason =>
      have hclose : s.handleEvent around .connected = s.closeConnection := by
        rw [handleEvent, onConnected, hhalted]
      obtain ⟨effects, heq, -⟩ := closeConnection_spec s
      rw [hclose]
      exact .ended (extends_closeConnection s) (by rw [heq])
  | received frame => exact .received (extends_onFrame frame s)
  | disconnected => exact handled_fail around rfl _ _ s
  | failed failure => exact handled_fail around rfl _ _ s

/-! ## Calls -/

/-- A lookup is sent, or the session opens a connection for it; where the send fails it closes the
old one first. -/
theorem extends_dispatch (now : Instant) (requester : ρ) (text : String) (frame : Bytes)
    (s : Session ρ σ) : Extends s (dispatch now requester text frame s).2 := by
  unfold dispatch
  split
  · have hsend := extends_sendFrame now (some requester) frame s
    generalize s.sendFrame now (some requester) frame = result at hsend ⊢
    obtain ⟨e | ⟨⟨⟩⟩, sent⟩ := result
    · exact (hsend.trans (extends_fail rfl e.message sent)).trans (extends_openConnection _)
    · exact hsend.trans (.of_eq rfl rfl)
  · exact (Extends.note s rfl).trans (extends_openConnection _)

/-- A submission that is refused does nothing. -/
theorem extends_submit (now : Instant) (requester : ρ) (text : String) (metadata : Metadata)
    (s : Session ρ σ) : Extends s (s.submit now requester text metadata).2 := by
  unfold submit
  split
  · exact .refl s
  · split
    · exact .refl s
    · simp only
      split
      · exact .refl s
      · split
        · exact .refl s
        · exact (Extends.of_eq rfl rfl).trans (extends_dispatch ..)

/-- A session that has given up opens nothing. -/
theorem extends_connect (s : Session ρ σ) : Extends s s.connect.2 := by
  unfold connect
  split
  · exact .refl s
  · exact extends_openConnection s

/-- A purge is no matter of the connection. -/
theorem extends_purge (s : Session ρ σ) : Extends s s.purge.2 :=
  .of_eq rfl rfl

/-- An idle connection is lost. -/
theorem extends_sweepIdle (now : Instant) (s : Session ρ σ) :
    Extends s (s.sweepIdle now).2 := by
  unfold sweepIdle
  split
  · exact (Extends.note s rfl).trans (extends_linkLost _)
  · exact .refl s

end Session

end CidrLookup
