import CidrLookup.Proofs.Session.Operations
import CidrLookup.Proofs.Session.Queue

/-!
# What a turn can come to

`Outcome` lists the ways a turn can end, each with the session after it as an update of the session
before it, and `perform_outcome` says that there are no others. Invariants of a session are proved
over this list; the operations are not opened again.

Of what a turn adds to the history its deeds are told. The rest are notices, and none of these says
that a lookup was dropped for want of a written form: only a flush can note that.
-/

namespace CidrLookup

/-- The message that brings an answer. -/
def Resolution.message : Resolution → Message
  | found address range => .found address range
  | notFound address => .notFound address

namespace Session

variable {ρ σ : Type} [Link σ]

/-- A submission that is taken: the session has not given up, the text is an address, the request
has a written form, and there is room. -/
structure Admits (s : Session ρ σ) (turn : Turn ρ σ) (text : String) (entry : Entry ρ)
    (frame : Bytes) : Prop where
  hhalted : s.halted = none
  hcall : turn.call = .submit entry.requester text entry.metadata
  hparse : Address.parse text = .ok entry.address
  hmake : entry = .make entry.requester entry.address entry.metadata
  hframe : entry.frame = .ok frame
  hroom : s.queue.outstanding < s.queue.maxPending

/-- Why a connection is lost, with what is remembered of it: it was asked to end, it was idle, or
something happened on the socket, which is kept as the last error. -/
inductive Cause (turn : Turn ρ σ) (s : Session ρ σ) : Option String → Prop where
  | asked (hcall : turn.call = .disconnect) : Cause turn s s.lastError
  | idle {idle : Duration} (hcall : turn.call = .sweepIdle)
      (hidle : s.idleFor turn.around.now = some idle) : Cause turn s s.lastError
  | event {event : Event} {reason : String} (hcall : turn.call = .event event)
      (hevent : event ≠ .connected) : Cause turn s (some reason)

/-- What a turn can come to. -/
inductive Outcome (turn : Turn ρ σ) (s : Session ρ σ) : Reply → Session ρ σ → Prop where
  /-- Nothing happens but lines for the log. -/
  | noted {reply : Reply} {effects : List (Effect ρ)} (hreply : reply.accepted = false)
      (hdeeds : deeds effects = []) (hcall : turn.call ≠ .event .connected)
      (hdropped : dropped effects = []) :
      Outcome turn s reply { s with history := effects ++ s.history }
  /-- The link is found in another state. -/
  | relinked (link : σ) (hcall : turn.call = .relink link) : Outcome turn s .done (s.withLink link)
  /-- Complete lookups are dropped. -/
  | purged {count : Nat} (hcall : turn.call = .purge) :
      Outcome turn s (.purged count) { s with queue := s.queue.purge }
  /-- An attempt to connect is started. -/
  | opened {effects : List (Effect ρ)} (hhalted : s.halted = none)
      (hstate : s.connection.state = .disconnected)
      (hdeeds : deeds effects = [.connect s.connection.endpoint]) (hcall : turn.call = .connect)
      (hdropped : dropped effects = []) :
      Outcome turn s (.started true)
        { s with connection := s.connection.connect.2, history := effects ++ s.history }
  /-- A session that has given up lets go of a connection that comes up. -/
  | released {effects : List (Effect ρ)} (hcall : turn.call = .event .connected)
      (hhalted : s.halted.isSome) (hdeeds : deeds effects = [.close])
      (hdropped : dropped effects = []) :
      Outcome turn s .done
        { s with connection := s.connection.disconnect, history := effects ++ s.history }
  /-- The connection ends. A message of another version is the only thing that halts. -/
  | lost {reply : Reply} {halted lastError : Option String} {effects : List (Effect ρ)}
      (hreply : reply.accepted = false) (hdeeds : deeds effects = [.close])
      (hhalted : halted = s.halted ∨ ∃ frame e, turn.call = .event (.received frame)
        ∧ Message.decode s.config.maxFrame frame = .error e ∧ e.isFatal ∧ halted = some e.message)
      (hcause : Cause turn s lastError) (hdropped : dropped effects = []) :
      Outcome turn s reply
        { s with
          connection := s.connection.disconnect, queue := s.queue.demoteSent, info := none, halted,
          lastError, history := effects ++ s.history }
  /-- The service tells its parameters. -/
  | informed {info : ServiceInfo} {effects : List (Effect ρ)} (hdeeds : deeds effects = [])
      {frame : Bytes} (hcall : turn.call = .event (.received frame))
      (hdecode : Message.decode s.config.maxFrame frame = .ok (.established info))
      (hdropped : dropped effects = []) :
      Outcome turn s .done { s with info := some info, history := effects ++ s.history }
  /-- A lookup in flight gets its answer. -/
  | answered {frame : Bytes} {entry : Entry ρ} {queue : Queue ρ} {resolution : Resolution}
      {effects : List (Effect ρ)} (hcall : turn.call = .event (.received frame))
      (hdecode : Message.decode s.config.maxFrame frame = .ok resolution.message)
      (hfound : s.queue.completeFirstSent resolution.address.format = some (entry, queue))
      (hdeeds : deeds effects = [.resolved entry.requester resolution])
      (hdropped : dropped effects = []) :
      Outcome turn s .done { s with queue, history := effects ++ s.history }
  /-- A connection comes up and everything that waits is sent. -/
  | up {c : Connection σ} {greeting : List (Effect ρ)} (hcall : turn.call = .event .connected)
      (hhalted : s.halted = none) (hstate : c.state = .connected)
      (hgreeting : Greeting s.config (deeds greeting)) {done : Flush ρ σ}
      (hdone : done = flush turn.around c (greeting ++ s.history) s.queue.entries)
      (hflush : done.failure = none) (hdropped : dropped greeting = []) :
      Outcome turn s .done
        { s with
          connection := done.connection, queue := { s.queue with entries := done.entries },
          lastError := none, history := done.effects }
  /-- A connection comes up and is lost in naming the client. -/
  | unnamed {c : Connection σ} {reason : String} {effects snub : List (Effect ρ)}
      (hcall : turn.call = .event .connected) (hhalted : s.halted = none)
      (hsnub : Snub s.config snub) (hdeeds : deeds effects = .close :: snub)
      (hdropped : dropped effects = []) :
      Outcome turn s .done
        { s with
          connection := c.disconnect, queue := s.queue.demoteSent, info := none,
          lastError := some reason, history := effects ++ s.history }
  /-- A connection comes up and is lost in sending what waits. -/
  | cut {c : Connection σ} {greeting effects : List (Effect ρ)} {e : SessionError}
      (hcall : turn.call = .event .connected) (hhalted : s.halted = none)
      (hstate : c.state = .connected) (hgreeting : Greeting s.config (deeds greeting))
      {done : Flush ρ σ}
      (hdone : done = flush turn.around c (greeting ++ s.history) s.queue.entries)
      (hflush : done.failure = some e) (hdeeds : deeds effects = [.close])
      (hdropped : dropped (effects ++ greeting) = []) :
      Outcome turn s .done
        { s with
          connection := done.connection.disconnect,
          queue := { s.queue with entries := done.entries }.demoteSent, info := none,
          lastError := some e.message, history := effects ++ done.effects }
  /-- A lookup waits for a connection. -/
  | queued {text : String} {entry : Entry ρ} {frame : Bytes} {effects : List (Effect ρ)}
      (hadmits : s.Admits turn text entry frame) (hstate : s.connection.state ≠ .connected)
      (hdeeds : deeds effects
        = if s.connection.state = .disconnected then [.connect s.connection.endpoint] else [])
      (hdropped : dropped effects = []) :
      Outcome turn s (.submitted (.ok .queued))
        { s with
          connection := s.connection.connect.2,
          queue := { s.queue with entries := s.queue.entries ++ [entry] },
          history := effects ++ s.history }
  /-- A lookup is sent at once. -/
  | sent {text : String} {entry : Entry ρ} {frame : Bytes} {c : Connection σ}
      (hadmits : s.Admits turn text entry frame) (hstate : s.connection.state = .connected)
      (hsend : s.connection.send turn.around.now frame = (.ok (), c)) :
      Outcome turn s (.submitted (.ok .sent))
        { s with
          connection := c,
          queue := { s.queue with entries := s.queue.entries ++ [entry.withState .sent] },
          history := @Effect.sent ρ (some entry.requester) frame :: s.history }
  /-- A lookup cannot be sent at once, which ends the connection; another is started. -/
  | requeued {text : String} {entry : Entry ρ} {frame : Bytes} {c : Connection σ} {e : SessionError}
      {effects : List (Effect ρ)} (hadmits : s.Admits turn text entry frame)
      (hstate : s.connection.state = .connected)
      (hsend : s.connection.send turn.around.now frame = (.error e, c))
      (hdeeds : deeds effects = [.connect c.endpoint, .close, .refused frame e])
      (hdropped : dropped effects = []) :
      Outcome turn s (.submitted (.ok .queued))
        { s with
          connection := c.disconnect.connect.2,
          queue := { s.queue with entries := s.queue.entries ++ [entry] }.demoteSent, info := none,
          lastError := some e.message, history := effects ++ s.history }

/-- A turn that leaves the session as it is. -/
theorem Outcome.unchanged {turn : Turn ρ σ} {s : Session ρ σ} {reply : Reply}
    (hreply : reply.accepted = false) (hcall : turn.call ≠ .event .connected) :
    Outcome turn s reply s := by
  exact .noted hreply deeds_nil hcall rfl

/-- A record that is only written to the log. -/
theorem Outcome.note {turn : Turn ρ σ} {s : Session ρ σ} {frame : Bytes}
    (hcall : turn.call = .event (.received frame)) {notice : Notice}
    (hdropped : dropped [@Effect.notice ρ notice] = []) : Outcome turn s .done (s.note notice) := by
  have hdeeds : deeds [@Effect.notice ρ notice] = [] := rfl
  exact .noted rfl hdeeds (by simp [hcall]) hdropped

/-- No turn changes the configuration. -/
theorem Outcome.config_eq {turn : Turn ρ σ} {s s' : Session ρ σ} {reply : Reply}
    (h : Outcome turn s reply s') : s'.config = s.config := by
  cases h <;> rfl

/-! ## Submitting -/

/-- A submission that is taken is sent, waits, or ends the connection. -/
theorem outcome_dispatch {turn : Turn ρ σ} {s : Session ρ σ} {text : String} {entry : Entry ρ}
    {frame : Bytes} (hadmits : s.Admits turn text entry frame) :
    let after := dispatch turn.around.now entry.requester text frame
      { s with queue := { s.queue with entries := s.queue.entries ++ [entry] } }
    Outcome turn s (.submitted (.ok after.1)) after.2 := by
  unfold dispatch
  by_cases hstate : s.connection.state = .connected
  -- the lookup is sent at once, and then the link decides
  · simp only
    rw [if_pos hstate]
    obtain ⟨c, hsend, heq⟩ | ⟨e, c, hsend, heq⟩ :=
      sendFrame_cases turn.around.now (some entry.requester) frame
        { s with queue := { s.queue with entries := s.queue.entries ++ [entry] } }
    · rw [heq]
      simp only [Queue.markLastSent_append]
      exact .sent hadmits hstate hsend
    · -- the refusal ends the connection, and ending it lets the next attempt start
      rw [heq]
      obtain ⟨effects, hfail, hclose, hdropped⟩ := fail_note_spec (.sendFailed e) e.message
        { s with
          connection := c, queue := { s.queue with entries := s.queue.entries ++ [entry] },
          history := .refused frame e :: s.history }
      simp only [hfail]
      obtain ⟨more, hopen, hconnect, hdropped'⟩ := openConnection_spec
        { s with
          connection := c.disconnect
          queue := { s.queue with entries := s.queue.entries ++ [entry] }.demoteSent, info := none
          lastError := some e.message, history := effects ++ .refused frame e :: s.history }
      rw [hopen]
      have hdeeds : deeds (more ++ (effects ++ [.refused frame e]))
          = [.connect c.endpoint, .close, .refused frame e] := by
        rw [deeds_append, deeds_append, hconnect, hclose]; rfl
      have hnone : dropped (more ++ (effects ++ [.refused frame e])) = [] := by
        rw [dropped_append, dropped_append, hdropped', hdropped]; rfl
      have hrequeued := Outcome.requeued hadmits hstate hsend hdeeds hnone
      simpa only [List.append_assoc, List.cons_append, List.nil_append] using hrequeued
  -- the lookup waits for a connection, which is started if there is none on its way
  · simp only
    rw [if_neg hstate]
    obtain ⟨effects, hopen, hdeeds, hdropped⟩ := openConnection_spec
      (({ s with queue := { s.queue with entries := s.queue.entries ++ [entry] } } :
        Session ρ σ).note (.lookupQueued text))
    rw [hopen]
    have hdeeds' : deeds (effects ++ [.notice (.lookupQueued text)])
        = if s.connection.state = .disconnected then [.connect s.connection.endpoint] else [] := by
      rw [deeds_append, deeds_notice, deeds_nil, List.append_nil, hdeeds]; rfl
    have hnone : dropped (effects ++ [.notice (.lookupQueued text)]) = [] := by
      rw [dropped_append, hdropped]; rfl
    have hqueued := Outcome.queued hadmits hstate hdeeds' hnone
    simpa only [note, record, List.append_assoc, List.cons_append, List.nil_append] using hqueued

/-- A submission is refused, or taken and dispatched. -/
theorem outcome_submit {turn : Turn ρ σ} {requester : ρ} {text : String} {metadata : Metadata}
    (hcall : turn.call = .submit requester text metadata) (s : Session ρ σ) :
    let after := s.submit turn.around.now requester text metadata
    Outcome turn s (.submitted after.1) after.2 := by
  -- every check stands before the lookup enters the queue
  have refused (e : SessionError) : Outcome turn s (.submitted (.error e)) s :=
    .unchanged rfl (by simp [hcall])
  unfold submit
  cases hhalted : s.halted with
  | some reason => exact refused _
  | none =>
    cases hparse : Address.parse text with
    | error e => exact refused _
    | ok address =>
      simp only
      cases hframe : (Entry.make requester address metadata).frame with
      | error e => exact refused _
      | ok frame =>
        simp only
        cases hpush : s.queue.push (Entry.make requester address metadata) with
        | error e => exact refused _
        | ok queue =>
          obtain ⟨hroom, rfl⟩ := Queue.push_eq_ok hpush
          have htaken := outcome_dispatch ⟨hhalted, hcall, hparse, rfl, hframe, hroom⟩
          simp only [hhalted] at htaken
          exact htaken

/-! ## Ends of a connection -/

/-- The end of a connection for a reason, after a line for the log. -/
theorem outcome_fail {turn : Turn ρ σ} {s : Session ρ σ} {halted : Option String} {event : Event}
    (reason : String) (notice : Notice) (hcall : turn.call = .event event)
    (hevent : event ≠ .connected)
    (hhalted : halted = s.halted ∨ ∃ frame e, turn.call = .event (.received frame)
      ∧ Message.decode s.config.maxFrame frame = .error e ∧ e.isFatal ∧ halted = some e.message)
    (hnotice : dropped [@Effect.notice ρ notice] = []) :
    Outcome turn s .done (fail reason { s.note notice with halted }) := by
  obtain ⟨effects, hfail, hdeeds, hdropped⟩ := fail_note_spec notice reason { s with halted }
  show Outcome turn s .done ((note notice { s with halted }).fail reason)
  rw [hfail]
  exact .lost rfl hdeeds hhalted (.event hcall hevent) (hdropped.trans hnotice)

/-- To disconnect is to lose the connection. -/
theorem outcome_disconnect {turn : Turn ρ σ} (hcall : turn.call = .disconnect) (s : Session ρ σ) :
    Outcome turn s .done s.disconnect := by
  obtain ⟨effects, heq, hdeeds, hdropped⟩ := linkLost_spec s
  rw [disconnect, heq]
  exact .lost rfl hdeeds (.inl rfl) (.asked hcall) hdropped

/-- A sweep leaves the session as it is, or loses the connection. -/
theorem outcome_sweepIdle {turn : Turn ρ σ} (hcall : turn.call = .sweepIdle) (s : Session ρ σ) :
    let after := s.sweepIdle turn.around.now
    Outcome turn s (.swept after.1) after.2 := by
  unfold sweepIdle
  cases hidle : s.idleFor turn.around.now with
  | none => exact .unchanged rfl (by simp [hcall])
  | some idle =>
    obtain ⟨effects, hlost, hdeeds, hdropped⟩ := linkLost_note_spec (.idle idle) s
    simp only [hlost]
    exact .lost rfl hdeeds (.inl rfl) (.idle hcall hidle) hdropped

/-! ## Events -/

/-- Sending what waits, after naming the client, goes through or is cut short. -/
theorem outcome_flushPending {turn : Turn ρ σ} {s : Session ρ σ} {c : Connection σ}
    {greeting : List (Effect ρ)} (hcall : turn.call = .event .connected)
    (hhalted : s.halted = none) (hstate : c.state = .connected)
    (hgreeting : Greeting s.config (deeds greeting)) (hdropped : dropped greeting = []) :
    Outcome turn s .done (flushPending turn.around
      { s with connection := c, lastError := none, history := greeting ++ s.history }) := by
  simp only [flushPending]
  generalize hdone : flush turn.around c (greeting ++ s.history) s.queue.entries = done
  cases hflush : done.failure with
  -- the history of the flush has the greeting in it, and only the greeting is known not to drop
  -- lookups
  | none => exact .up hcall hhalted hstate hgreeting hdone.symm hflush hdropped
  | some e =>
    simp only
    obtain ⟨more, hfail, hdeeds, hdropped'⟩ := fail_note_spec (.flushFailed e) e.message
      { s with
        connection := done.connection, queue := { s.queue with entries := done.entries }
        lastError := none, history := done.effects }
    have hnone : dropped (more ++ greeting) = [] := by
      rw [dropped_append, hdropped', hdropped]; rfl
    rw [hfail]
    exact .cut hcall hhalted hstate hgreeting hdone.symm hflush hdeeds hnone

/-- Where the name is not sent, the connection ends with nothing sent. -/
theorem outcome_unnamed {turn : Turn ρ σ} {s : Session ρ σ} {c : Connection σ}
    {effects : List (Effect ρ)} (e : SessionError) (hcall : turn.call = .event .connected)
    (hhalted : s.halted = none) (hsnub : Snub s.config (deeds effects))
    (hdropped : dropped effects = []) :
    Outcome turn s .done (fail e.message (note (.identifyFailed e)
      { s with connection := c, lastError := none, history := effects ++ s.history })) := by
  obtain ⟨more, hfail, hdeeds, hdropped'⟩ := fail_note_spec (.identifyFailed e) e.message
    { s with connection := c, lastError := none, history := effects ++ s.history }
  rw [hfail]
  have hdeeds' : deeds (more ++ effects) = .close :: deeds effects := by
    rw [deeds_append, hdeeds]; rfl
  have hnone : dropped (more ++ effects) = [] := by
    rw [dropped_append, hdropped', hdropped]; rfl
  have hunnamed := @Outcome.unnamed _ _ _ turn s c e.message _ _ hcall hhalted hsnub hdeeds' hnone
  simpa only [List.append_assoc] using hunnamed

/-- A connection comes up: the session has given up, or names itself and sends what waits. -/
theorem outcome_onConnected {turn : Turn ρ σ} (hcall : turn.call = .event .connected)
    (s : Session ρ σ) : Outcome turn s .done (s.onConnected turn.around) := by
  unfold onConnected
  cases hhalted : s.halted with
  | some reason =>
    obtain ⟨effects, heq, hdeeds, hdropped⟩ := closeConnection_spec s
    simp only [heq]
    exact .released hcall (by rw [hhalted]; rfl) hdeeds hdropped
  | none =>
    simp only
    -- the session that names the client, with the connection marked as up
    generalize hup : Session.note _ _ = up
    obtain ⟨c, effects, hs, hstate, hdropped, hgreet⟩ := identify_cases turn.around.now up
    rcases hident : up.identify turn.around.now with ⟨result, named⟩
    rw [hident] at hs hgreet
    have hnamed : named = { s with
        connection := c, lastError := none
        history := effects ++ [.notice (.connected s.connection.endpoint)] ++ s.history } := by
      refine hs.trans ?_
      rw [← hup, List.append_assoc, hhalted]; rfl
    have hconnected : c.state = .connected := by
      rw [hstate, ← hup]; rfl
    have hconfig : up.config = s.config := by
      rw [← hup]; rfl
    have hnone : dropped (effects ++ [.notice (.connected s.connection.endpoint)]) = [] := by
      rw [dropped_append, hdropped]; rfl
    obtain ⟨rfl, hgreeting⟩ | ⟨⟨e, rfl⟩, hsnub⟩ := hgreet
    · simp only [hnamed]
      refine outcome_flushPending hcall hhalted hconnected ?_ hnone
      simpa [hconfig] using hgreeting
    · simp only [hnamed]
      refine outcome_unnamed e hcall hhalted ?_ hnone
      simpa [hconfig] using hsnub

/-- An answer finds its lookup or is written to the log. -/
theorem outcome_resolve {turn : Turn ρ σ} {frame : Bytes} {s : Session ρ σ}
    {resolution : Resolution} (hcall : turn.call = .event (.received frame))
    (hdecode : Message.decode s.config.maxFrame frame = .ok resolution.message) :
    Outcome turn s .done (s.resolve resolution) := by
  unfold resolve
  cases hfound : s.queue.completeFirstSent resolution.address.format with
  | none => exact .note hcall rfl
  | some found =>
    have hdeeds : deeds [.resolved found.1.requester resolution, .notice (.resolved resolution)]
        = [.resolved found.1.requester resolution] := rfl
    exact .answered hcall hdecode hfound hdeeds rfl

/-- What a record comes to depends on how it is decoded. -/
theorem outcome_onFrame {turn : Turn ρ σ} {frame : Bytes}
    (hcall : turn.call = .event (.received frame)) (s : Session ρ σ) :
    Outcome turn s .done (s.onFrame frame) := by
  unfold onFrame
  cases hdecode : Message.decode s.config.maxFrame frame with
  | error e =>
    simp only
    -- what is no message is passed over, unless it is of another version
    split
    · exact outcome_fail _ _ hcall (by simp) (.inr ⟨frame, e, hcall, hdecode, ‹_›, rfl⟩) rfl
    · exact .note hcall rfl
  | ok message =>
    cases message with
    | established info =>
      have hdeeds : deeds [@Effect.notice ρ (.established info)] = [] := rfl
      exact .informed hdeeds hcall hdecode rfl
    | identify _ => exact .note hcall rfl
    | request _ _ => exact .note hcall rfl
    | found address range => exact outcome_resolve hcall (.trans hdecode rfl)
    | notFound address => exact outcome_resolve hcall (.trans hdecode rfl)
    | failure code text => exact outcome_fail _ _ hcall (by simp) (.inl rfl) rfl

/-- What an event comes to, each by the part of the session that hears it. -/
theorem outcome_handleEvent {turn : Turn ρ σ} {event : Event} (hcall : turn.call = .event event)
    (s : Session ρ σ) : Outcome turn s .done (s.handleEvent turn.around event) := by
  cases event with
  | connected => exact outcome_onConnected hcall s
  | received frame => exact outcome_onFrame hcall s
  | disconnected => exact outcome_fail _ _ hcall (by simp) (.inl rfl) rfl
  | failed failure => exact outcome_fail _ _ hcall (by simp) (.inl rfl) rfl

/-! ## Turns -/

/-- To connect is to open a connection, unless the session has given up. -/
theorem outcome_connect {turn : Turn ρ σ} (hcall : turn.call = .connect) (s : Session ρ σ) :
    Outcome turn s (.started s.connect.1) s.connect.2 := by
  unfold connect
  cases hhalted : s.halted with
  | some reason => exact .unchanged rfl (by simp [hcall])
  | none =>
    simp only
    obtain ⟨effects, heq, hdeeds, hdropped⟩ := openConnection_spec s
    rw [heq]
    -- a session with an attempt or a connection only notes the call
    by_cases hstate : s.connection.state = .disconnected
    · rw [if_pos hstate] at hdeeds
      rw [show s.openConnection.1 = true by simp [openConnection, Connection.connect, hstate]]
      exact .opened hhalted hstate hdeeds hcall hdropped
    · rw [if_neg hstate] at hdeeds
      rw [show s.connection.connect.2 = s.connection by simp [Connection.connect, hstate]]
      exact .noted rfl hdeeds (by simp [hcall]) hdropped

/-- **The list is complete.** Whatever a turn is made with, it comes to one of its outcomes. -/
theorem perform_outcome (turn : Turn ρ σ) (s : Session ρ σ) :
    Outcome turn s (s.perform turn).1 (s.perform turn).2 := by
  unfold perform
  cases hcall : turn.call with
  | submit requester text metadata => exact outcome_submit hcall s
  | event event => exact outcome_handleEvent hcall s
  | connect => exact outcome_connect hcall s
  | disconnect => exact outcome_disconnect hcall s
  | purge => exact .purged hcall
  | sweepIdle => exact outcome_sweepIdle hcall s
  | relink link => exact .relinked link hcall

/-- No turn touches the configuration. -/
theorem config_run {config : Config} {link : σ} {start : Session ρ σ}
    (hnew : Session.new config link = .ok start) (turns : List (Turn ρ σ)) :
    (start.run turns).config = config := by
  refine run_induction (motive := fun s => s.config = config) (config_of_new hnew) ?_ turns
  intro s turn hs
  exact (perform_outcome turn s).config_eq.trans hs

end Session

end CidrLookup
