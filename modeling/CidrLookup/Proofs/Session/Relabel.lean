import CidrLookup.Proofs.Session.Flush
import CidrLookup.Proofs.Session.Run
import Mathlib.Data.List.Forall2

/-!
# A session does not look at its requesters

Replacing every requester by its image under a function commutes with every call: the session
behaves the same whatever its requesters are. A run can therefore be followed with requesters that
carry the number of the turn they were submitted in; taking the numbers away gives back the run.
-/

namespace CidrLookup

variable {α β σ : Type}

/-! ## Replacing requesters -/

/-- A lookup of another requester. -/
def Entry.map (f : α → β) (e : Entry α) : Entry β :=
  ⟨f e.requester, e.text, e.address, e.metadata, e.state⟩

/-- A queue whose lookups have other requesters. -/
def Queue.map (f : α → β) (queue : Queue α) : Queue β :=
  ⟨queue.entries.map (·.map f), queue.maxPending⟩

/-- An effect with another requester in it, where it has one. -/
def Effect.map (f : α → β) : Effect α → Effect β
  | connect endpoint => .connect endpoint
  | @sent _ requester frame => @sent β (requester.map f) frame
  | refused frame error => .refused frame error
  | close => .close
  | resolved requester resolution => .resolved (f requester) resolution
  | notice n => .notice n

/-- A call by another requester. -/
def Call.map (f : α → β) : Call α σ → Call β σ
  | .submit requester text metadata => .submit (f requester) text metadata
  | .event e => .event e
  | .connect => .connect
  | .disconnect => .disconnect
  | .purge => .purge
  | .sweepIdle => .sweepIdle
  | .relink link => .relink link

namespace Session

/-- A session whose requesters have other names. -/
def map (f : α → β) (s : Session α σ) : Session β σ :=
  ⟨s.config, s.connection, s.queue.map f, s.info, s.halted, s.lastError, s.history.map (·.map f)⟩

/-- What is left after a flush, with other requesters. -/
def Flush.map (f : α → β) (done : Flush α σ) : Flush β σ :=
  ⟨done.connection, done.entries.map (·.map f), done.effects.map (·.map f), done.failure⟩

end Session

/-! ## The queue -/

section Queue

variable (f : α → β)

/-- The request of a lookup does not depend on who made it. -/
theorem Entry.frame_map (e : Entry α) : (e.map f).frame = e.frame := rfl

/-- Nor does what becomes of it when a connection is lost. -/
theorem Entry.demote_map (e : Entry α) : (e.map f).demote = e.demote.map f := by
  by_cases h : e.state = .sent <;> simp [Entry.demote, Entry.map, Entry.withState, h]

/-- A queue counts its lookups by their state. -/
theorem Queue.count_map (queue : Queue α) (state : EntryState) :
    (queue.map f).count state = queue.count state := by
  simp only [Queue.count, Queue.map, List.countP_map]
  rfl

/-- Every lookup in flight goes back, whoever made it. -/
theorem Queue.demoteSent_map (queue : Queue α) :
    (queue.map f).demoteSent = queue.demoteSent.map f := by
  simp [Queue.demoteSent, Queue.map, Function.comp_def, Entry.demote_map]

/-- There is room for a lookup whoever makes it. -/
theorem Queue.push_map (queue : Queue α) (e : Entry α) :
    (queue.map f).push (e.map f) = (queue.push e).map (·.map f) := by
  have hout : (queue.map f).outstanding = queue.outstanding := by
    simp only [Queue.outstanding, Queue.map, List.countP_map]
    rfl
  unfold Queue.push
  rw [hout]
  -- both sides now ask the same question
  show (if queue.outstanding ≥ queue.maxPending then _ else _) = _
  split
  · rfl
  · simp [Except.map, Queue.map]

/-- An answer is matched by text, so it finds the same lookup. -/
theorem Queue.completeFirst_map (text : String) (entries : List (Entry α)) :
    Queue.completeFirst text (entries.map (·.map f))
      = (Queue.completeFirst text entries).map fun (e, next) => (e.map f, next.map (·.map f)) := by
  induction entries with
  | nil => rfl
  | cons e more ih =>
    rw [List.map_cons, Queue.completeFirst, Queue.completeFirst, ih]
    show (if e.state = .sent ∧ e.text = text then _ else _) = _
    split
    · rfl
    · cases Queue.completeFirst text more <;> rfl

/-- The same for the queue as a whole. -/
theorem Queue.completeFirstSent_map (queue : Queue α) (text : String) :
    (queue.map f).completeFirstSent text
      = (queue.completeFirstSent text).map fun (e, next) => (e.map f, next.map f) := by
  unfold Queue.completeFirstSent Queue.map
  rw [Queue.completeFirst_map]
  cases Queue.completeFirst text queue.entries <;> rfl

/-- A purge drops the same lookups. -/
theorem Queue.purge_map (queue : Queue α) : (queue.map f).purge = queue.purge.map f := by
  simp only [Queue.purge, Queue.map, List.filter_map]
  rfl

/-- The last lookup is the same one. -/
theorem Queue.markLastSent_map (queue : Queue α) :
    (queue.map f).markLastSent = queue.markLastSent.map f := by
  simp only [Queue.markLastSent, Queue.map, List.length_map]
  congr 1
  -- position by position, since the last one is found by its index
  apply List.ext_getElem?
  intro i
  simp only [List.getElem?_modify, List.getElem?_map]
  cases queue.entries[i]? with
  | none => simp
  | some e => split <;> simp [Entry.map, Entry.withState]

end Queue

/-! ## The operations -/

namespace Session

section Fields

variable (f : α → β) (s : Session α σ)

/-- Only the queue, the history and the requesters in them depend on who asks. -/
@[simp] theorem config_map : (s.map f).config = s.config := rfl

@[simp] theorem connection_map : (s.map f).connection = s.connection := rfl

@[simp] theorem queue_map : (s.map f).queue = s.queue.map f := rfl

@[simp] theorem halted_map : (s.map f).halted = s.halted := rfl

/-- A line for the log has no requester in it. -/
@[simp] theorem note_map (notice : Notice) : (s.map f).note notice = (s.note notice).map f := rfl

end Fields

variable [Link σ] (f : α → β) (s : Session α σ)

/-- Opening a connection does not look at requesters. -/
theorem openConnection_map :
    (s.map f).openConnection = s.openConnection.map id (·.map f) := by
  unfold openConnection
  rw [connection_map]
  rcases s.connection.connect with ⟨_ | _, c⟩ <;> rfl

/-- A send keeps the requester only for the history. -/
theorem sendFrame_map (now : Instant) (requester : Option α) (frame : Bytes) :
    (s.map f).sendFrame now (requester.map f) frame
      = (s.sendFrame now requester frame).map id (·.map f) := by
  unfold sendFrame
  rw [connection_map]
  rcases s.connection.send now frame with ⟨_ | ⟨⟨⟩⟩, c⟩ <;> rfl

/-- Closing does not look at requesters. -/
theorem closeConnection_map : (s.map f).closeConnection = s.closeConnection.map f := by
  by_cases h : s.connection.state = .disconnected
  · simp only [closeConnection, connection_map, h, if_true]
    rfl
  · simp only [closeConnection, connection_map, h, if_false]
    rfl

/-- Losing a connection puts back the same lookups. -/
theorem linkLost_map : (s.map f).linkLost = s.linkLost.map f := by
  unfold linkLost
  simp only [closeConnection_map, queue_map, Queue.count_map, Queue.demoteSent_map]
  by_cases h : s.queue.count .sent = 0
  · rw [if_pos h, if_pos h]
    rfl
  · rw [if_neg h, if_neg h]
    rfl

/-- So does losing it for a reason. -/
theorem fail_map (reason : String) : (s.map f).fail reason = (s.fail reason).map f :=
  linkLost_map f { s with lastError := some reason }

/-! ## A connection that comes up -/

/-- A flush asks only whether a requester still wants its answer. -/
theorem flush_map {around : Surroundings α} {around' : Surroundings β}
    (hnow : around'.now = around.now) (hreachable : around.reachable = around'.reachable ∘ f)
    (c : Connection σ) (effects : List (Effect α)) (entries : List (Entry α)) :
    flush around' c (effects.map (·.map f)) (entries.map (·.map f))
      = (flush around c effects entries).map f := by
  have hwants (e : Entry α) :
      around'.reachable (e.map f).requester = around.reachable e.requester := by
    rw [hreachable]; rfl
  have hafter (e : Entry α) (rest : Flush α σ) :
      (rest.map f).after (e.map f) = (rest.after e).map f := rfl
  have hflushes := flush_flushes around c effects entries
  generalize flush around c effects entries = done at hflushes ⊢
  -- in each case the lookup takes the same way under both names of its requester
  induction hflushes with
  | done => rfl
  | @skipped _ _ e _ _ hstate _ ih =>
    have hstate' : (e.map f).state ≠ .pending := hstate
    rw [List.map_cons, flush_of_skipped hstate', ih, hafter]
  | @gone _ _ e _ _ hstate hgone _ ih =>
    have hstate' : (e.map f).state = .pending := hstate
    rw [← hwants] at hgone
    rw [List.map_cons, flush_of_gone hstate' hgone, ← hafter, ← ih]
    rfl
  | @unencodable _ _ e _ _ _ hstate hreachable hframe _ ih =>
    have hstate' : (e.map f).state = .pending := hstate
    rw [← hwants] at hreachable
    rw [← e.frame_map f] at hframe
    rw [List.map_cons, flush_of_unencodable hstate' hreachable hframe, ← hafter, ← ih]
    rfl
  | @sent _ _ _ e _ _ _ hstate hreachable hframe hsend _ ih =>
    have hstate' : (e.map f).state = .pending := hstate
    rw [← hwants] at hreachable
    rw [← e.frame_map f] at hframe
    rw [← hnow] at hsend
    rw [List.map_cons, flush_of_sent hstate' hreachable hframe hsend, ← hafter, ← ih]
    rfl
  | @cut _ _ _ e _ _ _ hstate hreachable hframe hsend =>
    have hstate' : (e.map f).state = .pending := hstate
    rw [← hwants] at hreachable
    rw [← e.frame_map f] at hframe
    rw [← hnow] at hsend
    rw [List.map_cons, flush_of_cut hstate' hreachable hframe hsend]
    rfl

/-- The client is named for no requester. -/
theorem identify_map (now : Instant) :
    (s.map f).identify now = (s.identify now).map id (·.map f) := by
  unfold identify
  rw [config_map]
  cases s.config.identify with
  | none => rfl
  | some token =>
    simp only
    cases identifyFrame token with
    | error e => rfl
    | ok frame =>
      simp only
      rw [show (none : Option β) = (none : Option α).map f from rfl, sendFrame_map]
      rcases s.sendFrame now none frame with ⟨_ | ⟨⟨⟩⟩, s'⟩ <;> rfl

/-- Sending what waits comes to the same if the same requesters still want their answers. -/
theorem flushPending_map {around : Surroundings α} {around' : Surroundings β}
    (hnow : around'.now = around.now) (hreachable : around.reachable = around'.reachable ∘ f) :
    (s.map f).flushPending around' = (s.flushPending around).map f := by
  have hflush := flush_map f hnow hreachable s.connection s.history s.queue.entries
  -- the flush asks whether a requester can be reached, and is told the same of both
  have hdone : flush around' (s.map f).connection (s.map f).history (s.map f).queue.entries
      = (flush around s.connection s.history s.queue.entries).map f := hflush
  unfold flushPending
  simp only [hdone]
  generalize flush around s.connection s.history s.queue.entries = done
  obtain ⟨c, entries, effects, failure⟩ := done
  cases failure with
  | none => rfl
  | some e =>
    exact fail_map f (note (.flushFailed e) { s with
      connection := c, queue := { s.queue with entries }, history := effects }) e.message

/-- So does the coming up of a connection. -/
theorem onConnected_map {around : Surroundings α} {around' : Surroundings β}
    (hnow : around'.now = around.now) (hreachable : around.reachable = around'.reachable ∘ f) :
    (s.map f).onConnected around' = (s.onConnected around).map f := by
  unfold onConnected
  rw [halted_map]
  cases s.halted with
  | some reason => exact closeConnection_map f s
  | none =>
    simp only [hnow]
    -- the session that names the client, under both names of its requesters
    generalize hup' : (Session.note _ _ : Session β σ) = up'
    generalize hup : (Session.note _ _ : Session α σ) = up
    have heq : up' = up.map f := by
      rw [← hup', ← hup]; rfl
    rw [heq, identify_map]
    rcases up.identify around.now with ⟨_ | ⟨⟨⟩⟩, named⟩
    · exact fail_map f (named.note _) _
    · exact flushPending_map f named hnow hreachable

/-! ## Calls -/

omit [Link σ] in
/-- An answer goes to the requester under its new name. -/
theorem resolve_map (resolution : Resolution) :
    (s.map f).resolve resolution = (s.resolve resolution).map f := by
  unfold resolve
  rw [queue_map, Queue.completeFirstSent_map]
  rcases s.queue.completeFirstSent resolution.address.format with _ | ⟨e, queue⟩ <;> rfl

/-- So does every record. -/
theorem onFrame_map (frame : Bytes) : (s.map f).onFrame frame = (s.onFrame frame).map f := by
  unfold onFrame
  rw [config_map]
  cases Message.decode s.config.maxFrame frame with
  | error e =>
    simp only
    split
    · exact fail_map f { s.note (.foreignVersion e) with halted := some e.message } e.message
    · rfl
  | ok message =>
    cases message with
    | established info => rfl
    | identify token => rfl
    | request address metadata => rfl
    | found address range => exact resolve_map f s _
    | notFound address => exact resolve_map f s _
    | failure code text => exact fail_map f (s.note (.serviceFailure code text)) _

/-- Every event is handled alike. -/
theorem handleEvent_map {around : Surroundings α} {around' : Surroundings β}
    (hnow : around'.now = around.now) (hreachable : around.reachable = around'.reachable ∘ f)
    (event : Event) : (s.map f).handleEvent around' event = (s.handleEvent around event).map f := by
  cases event with
  | connected => exact onConnected_map f s hnow hreachable
  | received frame => exact onFrame_map f s frame
  | disconnected => exact fail_map f (s.note (.closedByService s.connection.endpoint)) _
  | failed failure =>
    exact fail_map f (s.note (.connectionFailed s.connection.endpoint failure)) _

/-- A lookup is sent, or waits, whoever made it. -/
theorem dispatch_map (now : Instant) (requester : α) (text : String) (frame : Bytes) :
    dispatch now (f requester) text frame (s.map f)
      = (dispatch now requester text frame s).map id (·.map f) := by
  unfold dispatch
  rw [connection_map]
  by_cases h : s.connection.state = .connected
  · rw [if_pos h, if_pos h]
    rw [show some (f requester) = (some requester).map f from rfl, sendFrame_map]
    rcases s.sendFrame now (some requester) frame with ⟨e | ⟨⟨⟩⟩, after⟩
    · show (_, (((after.map f).note (.sendFailed e)).fail e.message).openConnection.2) = _
      rw [note_map, fail_map, openConnection_map]
      rfl
    · show (_, { after.map f with queue := (after.queue.map f).markLastSent }) = _
      rw [Queue.markLastSent_map]
      rfl
  · rw [if_neg h, if_neg h, note_map, openConnection_map]
    rfl

/-- A submission is taken or refused whoever makes it. -/
theorem submit_map (now : Instant) (requester : α) (text : String) (metadata : Metadata) :
    (s.map f).submit now (f requester) text metadata
      = (s.submit now requester text metadata).map id (·.map f) := by
  unfold submit
  rw [halted_map]
  cases s.halted with
  | some reason => rfl
  | none =>
    cases Address.parse text with
    | error e => rfl
    | ok address =>
      simp only
      rw [show Entry.make (f requester) address metadata
        = (Entry.make requester address metadata).map f from rfl, Entry.frame_map]
      cases (Entry.make requester address metadata).frame with
      | error e => rfl
      | ok frame =>
        simp only
        rw [queue_map, Queue.push_map]
        cases s.queue.push (Entry.make requester address metadata) with
        | error e => rfl
        | ok queue =>
          have hdispatch := dispatch_map f { s with queue, halted := none } now requester text frame
          exact congrArg (Prod.map Except.ok id) hdispatch

omit [Link σ] in
/-- A connection is idle whoever used it. -/
theorem idleFor_map (now : Instant) : (s.map f).idleFor now = s.idleFor now := by
  have hsent : (s.queue.map f).hasSent = s.queue.hasSent := by
    simp only [Queue.hasSent, Queue.map, List.any_map]
    rfl
  unfold idleFor
  rw [queue_map, hsent]
  rfl

/-- So the sweep comes to the same. -/
theorem sweepIdle_map (now : Instant) :
    (s.map f).sweepIdle now = (s.sweepIdle now).map id (·.map f) := by
  unfold sweepIdle
  rw [idleFor_map]
  cases s.idleFor now with
  | none => rfl
  | some idle => exact congrArg (Prod.mk true) (linkLost_map f (s.note (.idle idle)))

omit [Link σ] in
/-- So does a purge. -/
theorem purge_map : (s.map f).purge = s.purge.map id (·.map f) := by
  unfold purge
  rw [queue_map, Queue.purge_map]
  simp only [Queue.map, List.length_map]
  rfl

/-- So does the wish to connect. -/
theorem connect_map : (s.map f).connect = s.connect.map id (·.map f) := by
  unfold connect
  rw [halted_map]
  cases s.halted with
  | some reason => rfl
  | none => exact openConnection_map f s

/-! ## Runs -/

/-- Turns that differ in their requesters only. -/
structure Turn.Relabels (f : α → β) (turn : Turn α σ) (turn' : Turn β σ) : Prop where
  hnow : turn'.around.now = turn.around.now
  hreachable : turn.around.reachable = turn'.around.reachable ∘ f
  hcall : turn'.call = turn.call.map f

/-- **A session does not look at its requesters.** A turn with other requesters gets the same reply
and leaves the same session, with the other requesters in it. -/
theorem perform_map {turn : Turn α σ} {turn' : Turn β σ} (h : Turn.Relabels f turn turn') :
    (s.map f).perform turn' = (s.perform turn).map id (·.map f) := by
  obtain ⟨hnow, hreachable, hcall⟩ := h
  unfold perform
  rw [hcall]
  -- one lemma for each call, with the time and the reachability of the turn where it reads them
  cases turn.call with
  | submit requester text metadata =>
    simp only [Call.map, hnow, submit_map]
    rfl
  | event event =>
    simp only [Call.map, handleEvent_map f s hnow hreachable]
    rfl
  | connect =>
    simp only [Call.map, connect_map]
    rfl
  | disconnect =>
    simp only [Call.map, disconnect, linkLost_map]
    rfl
  | purge =>
    simp only [Call.map, purge_map]
    rfl
  | sweepIdle =>
    simp only [Call.map, hnow, sweepIdle_map]
    rfl
  | relink link => rfl

/-- **The run.** Renaming the requesters before a run, or after it, comes to the same. -/
theorem run_map {turns : List (Turn α σ)} {turns' : List (Turn β σ)}
    (h : List.Forall₂ (Turn.Relabels f) turns turns') :
    (s.run turns).map f = (s.map f).run turns' := by
  induction h generalizing s with
  | nil => rfl
  | cons hturn _ ih =>
    rw [run, List.foldl_cons, ← run, ih]
    show _ = run _ ((s.map f).next _)
    rw [next, next, perform_map f s hturn]
    rfl

end Session

end CidrLookup
