import CidrLookup.Proofs.Session.Run

/-!
# What the operations of a session do

One statement for each operation: the session after it as an update of the session before it, and
the deeds it adds to the history. The flush, which goes through the queue entry by entry, has one
statement for each thing that is asked of it.
-/

namespace CidrLookup

/-! ## Connections -/

namespace Connection

variable {σ : Type} [Link σ]

/-- An attempt begins only where nothing else is going on. -/
theorem state_connect (c : Connection σ) :
    c.connect.2.state = if c.state = .disconnected then .connecting else c.state := by
  unfold connect
  split <;> simp_all

/-- Where no connection is up, an attempt is on its way afterwards, a new one or the old one. -/
theorem state_connect_of_ne_connected {c : Connection σ} (h : c.state ≠ .connected) :
    c.connect.2.state = .connecting := by
  rw [state_connect]
  split
  · rfl
  · cases hc : c.state <;> simp_all

/-- No connection is left after a close. -/
@[simp] theorem state_disconnect (c : Connection σ) : c.disconnect.state = .disconnected := rfl

/-- Sending a frame, or failing to, says nothing about the state of the connection. -/
theorem state_of_send {now : Instant} {frame : Bytes} {c c' : Connection σ}
    {result : Except SessionError Unit} (h : c.send now frame = (result, c')) :
    c'.state = c.state := by
  unfold send at h
  split at h
  · split at h <;> cases h <;> rfl
  · cases h; rfl

end Connection

namespace Session

variable {ρ σ : Type}

/-- A session that has done nothing yet. -/
structure IsFresh (s : Session ρ σ) : Prop where
  disconnected : s.connection.state = .disconnected
  none_queued : s.queue.entries = []
  not_halted : s.halted = none
  nothing_done : s.history = []

section New

variable {config : Config} {link : σ} {s : Session ρ σ}

/-- A new session has its configuration, an endpoint and an empty queue. -/
theorem eq_of_new (h : Session.new config link = .ok s) : ∃ endpoint,
    s = ⟨config, .new link endpoint, .empty config.maxPending, none, none, none, []⟩ := by
  unfold Session.new at h
  split at h <;> cases h
  exact ⟨_, rfl⟩

/-- A session is made for every host that is not blank. -/
theorem exists_new_of_host (hhost : Endpoint.isBlankHost config.host = false) :
    ∃ s : Session ρ σ, Session.new config link = .ok s := by
  unfold Session.new Endpoint.make
  rw [hhost]
  exact ⟨_, rfl⟩

/-- A new session is fresh. -/
theorem new_spec (h : Session.new config link = .ok s) : s.IsFresh := by
  obtain ⟨endpoint, rfl⟩ := eq_of_new h
  exact ⟨rfl, rfl, rfl, rfl⟩

theorem config_of_new (h : Session.new config link = .ok s) : s.config = config := by
  obtain ⟨endpoint, rfl⟩ := eq_of_new h
  rfl

/-- A new session has the link it is made with. -/
theorem link_of_new (h : Session.new config link = .ok s) : s.connection.link = link := by
  obtain ⟨endpoint, rfl⟩ := eq_of_new h
  rfl

/-- A new session knows nothing of its service. -/
theorem info_of_new (h : Session.new config link = .ok s) : s.info = none := by
  obtain ⟨endpoint, rfl⟩ := eq_of_new h
  rfl

/-- The queue of a new session has the limit of the configuration. -/
theorem maxPending_of_new (h : Session.new config link = .ok s) :
    s.queue.maxPending = config.maxPending := by
  obtain ⟨endpoint, rfl⟩ := eq_of_new h
  rfl

end New

variable [Link σ]

/-! ## The connection of a session -/

/-- Opening adds nothing but the attempt, and that only to a session without one. -/
theorem openConnection_spec (s : Session ρ σ) :
    ∃ effects, s.openConnection.2
        = { s with connection := s.connection.connect.2, history := effects ++ s.history }
      ∧ deeds effects
        = (if s.connection.state = .disconnected then [.connect s.connection.endpoint] else [])
      ∧ dropped effects = [] := by
  by_cases h : s.connection.state = .disconnected
  · refine ⟨[.connect s.connection.endpoint, .notice (.connecting s.connection.endpoint)], ?_, ?_,
      rfl⟩
    · simp [openConnection, Connection.connect, h, note, record]
    · rw [if_pos h]; rfl
  · refine ⟨[.notice (.connectSkipped s.connection.state)], ?_, ?_, rfl⟩
    · simp [openConnection, Connection.connect, h, note, record]
    · rw [if_neg h]; rfl

/-- Closing lets go of the link, whatever the state of the connection. -/
theorem closeConnection_spec (s : Session ρ σ) :
    ∃ effects, s.closeConnection
        = { s with connection := s.connection.disconnect, history := effects ++ s.history }
      ∧ deeds effects = [.close] ∧ dropped effects = [] := by
  by_cases h : s.connection.state = .disconnected
  · exact ⟨[.close], by simp [closeConnection, h, record], rfl, rfl⟩
  · refine ⟨[.close, .notice (.disconnecting s.connection.endpoint s.connection.state)], ?_, rfl,
      rfl⟩
    simp [closeConnection, h, note, record]

/-- Every end of a connection closes the link and puts what was in flight back to waiting. -/
theorem linkLost_spec (s : Session ρ σ) :
    ∃ effects, s.linkLost
        = { s with
            connection := s.connection.disconnect, queue := s.queue.demoteSent, info := none,
            history := effects ++ s.history }
      ∧ deeds effects = [.close] ∧ dropped effects = [] := by
  obtain ⟨effects, hclose, hdeeds, hdropped⟩ := closeConnection_spec s
  by_cases h : s.queue.count .sent = 0
  · refine ⟨effects, ?_, hdeeds, hdropped⟩
    simp [linkLost, hclose, h]
  · refine ⟨[.notice (.resendLater (s.queue.count .sent)),
      .notice (.demoted (s.queue.count .sent))] ++ effects, ?_, ?_, ?_⟩
    · simp [linkLost, hclose, h, note, record]
    · rw [deeds_append, hdeeds]; rfl
    · rw [dropped_append, hdropped]; rfl

/-- A connection that ends for a reason leaves a line for the log first. -/
theorem linkLost_note_spec (notice : Notice) (s : Session ρ σ) :
    ∃ effects, (s.note notice).linkLost
        = { s with
            connection := s.connection.disconnect, queue := s.queue.demoteSent, info := none,
            history := effects ++ s.history }
      ∧ deeds effects = [.close] ∧ dropped effects = dropped [@Effect.notice ρ notice] := by
  obtain ⟨effects, hlost, hdeeds, hdropped⟩ := linkLost_spec (s.note notice)
  refine ⟨effects ++ [.notice notice], ?_, ?_, ?_⟩
  · rw [hlost, List.append_assoc]; rfl
  · rw [deeds_append, hdeeds]; rfl
  · rw [dropped_append, hdropped]; rfl

/-- So does one that ends for a reason that is remembered. -/
theorem fail_note_spec (notice : Notice) (reason : String) (s : Session ρ σ) :
    ∃ effects, (s.note notice).fail reason
        = { s with
            connection := s.connection.disconnect, queue := s.queue.demoteSent, info := none,
            lastError := some reason, history := effects ++ s.history }
      ∧ deeds effects = [.close] ∧ dropped effects = dropped [@Effect.notice ρ notice] :=
  linkLost_note_spec notice { s with lastError := some reason }

/-- A frame is taken by the link or refused; nothing but the link and the history changes. -/
theorem sendFrame_cases (now : Instant) (requester : Option ρ) (frame : Bytes) (s : Session ρ σ) :
    (∃ c, s.connection.send now frame = (.ok (), c)
      ∧ s.sendFrame now requester frame
        = (.ok (), { s with
          connection := c, history := @Effect.sent ρ requester frame :: s.history }))
    ∨ ∃ e c, s.connection.send now frame = (.error e, c)
      ∧ s.sendFrame now requester frame
        = (.error e, { s with connection := c, history := .refused frame e :: s.history }) := by
  unfold sendFrame
  rcases hsend : s.connection.send now frame with ⟨_ | ⟨⟨⟩⟩, c⟩
  · exact .inr ⟨_, c, rfl, rfl⟩
  · exact .inl ⟨c, rfl, rfl⟩

/-! ## A connection that comes up -/

/-- The frame that names the client is the written form of its message. -/
theorem encode_of_identifyFrame {token : String} {frame : Bytes}
    (h : identifyFrame token = .ok frame) : (Message.identify token).encode = .ok frame := by
  unfold identifyFrame at h
  cases hcase : (Message.identify token).encode with
  | error e =>
    rw [hcase] at h
    contradiction
  | ok form =>
    rw [hcase] at h
    cases h
    rfl

/-- What naming the client adds to the history where it succeeds: nothing without a token. -/
inductive Greeting (config : Config) : List (Effect ρ) → Prop where
  | silent (htoken : config.identify = none) : Greeting config []
  | named {token : String} {frame : Bytes} (htoken : config.identify = some token)
      (hframe : identifyFrame token = .ok frame) : Greeting config [@Effect.sent ρ none frame]

/-- What naming the client adds to the history where it fails: the name has no written form, or the
link does not take it. -/
inductive Snub (config : Config) : List (Effect ρ) → Prop where
  | unwritten : Snub config []
  | refused {token : String} {frame : Bytes} {e : SessionError}
      (htoken : config.identify = some token) (hframe : identifyFrame token = .ok frame) :
      Snub config [.refused frame e]

/-- Naming the client changes the link and the history only. -/
theorem identify_cases (now : Instant) (s : Session ρ σ) :
    ∃ c effects, (s.identify now).2 = { s with connection := c, history := effects ++ s.history }
      ∧ c.state = s.connection.state ∧ dropped effects = []
      ∧ ((s.identify now).1 = .ok () ∧ Greeting s.config (deeds effects)
        ∨ (∃ e, (s.identify now).1 = .error e) ∧ Snub s.config (deeds effects)) := by
  unfold identify
  cases htoken : s.config.identify with
  | none => exact ⟨s.connection, [], rfl, rfl, rfl, .inl ⟨rfl, .silent htoken⟩⟩
  | some token =>
    simp only
    cases hframe : identifyFrame token with
    | error e => exact ⟨s.connection, [], rfl, rfl, rfl, .inr ⟨⟨e, rfl⟩, .unwritten⟩⟩
    | ok frame =>
      simp only
      -- the link takes the name or refuses it; nobody is given an answer either way
      obtain ⟨c, hc, hsend⟩ | ⟨e, c, hc, hsend⟩ := sendFrame_cases now none frame s
      · refine ⟨c, [.notice .identified, @Effect.sent ρ none frame], ?_, ?_, rfl, .inl ⟨?_, ?_⟩⟩
        · rw [hsend]; rfl
        · exact Connection.state_of_send hc
        · rw [hsend]
        · exact .named htoken hframe
      · refine ⟨c, [.refused frame e], ?_, ?_, rfl, .inr ⟨⟨e, ?_⟩, .refused htoken hframe⟩⟩
        · rw [hsend]; rfl
        · exact Connection.state_of_send hc
        · rw [hsend]

end Session

end CidrLookup
