import CidrLookup.Proofs.Session.Flush
import CidrLookup.Proofs.Session.Queue

/-!
# Purging changes nothing

A lookup that waits for nothing takes up a place in the queue and is otherwise not there. `pruned`
is a session without such lookups, which is what a purge leaves. Every operation does the same to a
session and to the pruned one, although the places of the lookups differ: the limit counts those
that are outstanding, a flush passes over the rest, an answer is for one in flight, and the last
place is that of a lookup which has just joined. `perform_pruned` says so of turns and
`pruned_run_eq` of runs.
-/

namespace CidrLookup

variable {ρ σ : Type}

/-! ## The queue -/

namespace Queue

/-- What waits for nothing is dropped once. -/
theorem purge_purge (queue : Queue ρ) : queue.purge.purge = queue.purge := by
  simp [purge]

/-- No other lookups are fewer after a purge. -/
theorem count_purge (queue : Queue ρ) {state : EntryState} (h : state ≠ .complete) :
    queue.purge.count state = queue.count state := by
  simp only [count, purge, List.countP_filter]
  refine List.countP_congr fun e _ => ?_
  simp only [decide_eq_true_eq, Bool.and_eq_true, and_iff_left_iff_imp]
  rintro rfl
  simpa [Entry.isOutstanding] using h

/-- A purge drops nothing that is in flight. -/
theorem hasSent_purge (queue : Queue ρ) : queue.purge.hasSent = queue.hasSent := by
  simp only [hasSent, purge, List.any_filter]
  congr 1
  funext e
  by_cases h : e.state = .sent <;> simp [Entry.isOutstanding, h]

/-- What goes back to waiting is nothing that a purge would drop. -/
theorem demoteSent_purge (queue : Queue ρ) : queue.purge.demoteSent = queue.demoteSent.purge :=
  congrArg (Queue.mk · queue.maxPending) queue.outstandingEntries_demoteSent_eq_map.symm

/-- There is room for a lookup after a purge if there was before, since complete lookups do not
count. -/
theorem push_purge (queue : Queue ρ) {entry : Entry ρ} (h : entry.isOutstanding) :
    queue.purge.push entry = (queue.push entry).map purge := by
  have hout : queue.purge.outstanding = queue.outstanding := by
    simp [outstanding, purge, List.countP_filter]
  unfold push
  rw [hout]
  show (if queue.outstanding ≥ queue.maxPending then _ else _) = _
  split
  · rfl
  · simp [Except.map, purge, h]

/-- The lookup that is completed is in flight, so it is the same one without those that wait for
nothing. -/
theorem completeFirst_purge (text : String) (entries : List (Entry ρ)) :
    (completeFirst text (entries.filter Entry.isOutstanding)).map
        (Prod.map id (List.filter Entry.isOutstanding))
      = (completeFirst text entries).map (Prod.map id (List.filter Entry.isOutstanding)) := by
  induction entries with
  | nil => rfl
  | cons e more ih =>
    by_cases hout : e.isOutstanding
    · rw [List.filter_cons_of_pos hout, completeFirst, completeFirst]
      by_cases hawaits : e.state = .sent ∧ e.text = text
      · have hcomplete : ¬ (e.withState .complete).isOutstanding := by simp [Entry.isOutstanding]
        rw [if_pos hawaits, if_pos hawaits]
        simp [List.filter_cons_of_neg hcomplete]
      · -- the lookup stays in front of whatever becomes of the rest
        rw [if_neg hawaits, if_neg hawaits]
        generalize completeFirst text (more.filter Entry.isOutstanding) = pruned at ih ⊢
        generalize completeFirst text more = whole at ih ⊢
        cases pruned <;> cases whole <;> simp_all [Prod.ext_iff]
    -- a lookup that was dropped awaits nothing
    · have hawaits : ¬ (e.state = .sent ∧ e.text = text) := by
        rintro ⟨hsent, -⟩
        simp [Entry.isOutstanding, hsent] at hout
      rw [List.filter_cons_of_neg hout, completeFirst, if_neg hawaits, ih]
      cases completeFirst text more <;> simp [Prod.map, hout]

/-- An answer finds the same lookup before and after a purge. -/
theorem completeFirstSent_purge (queue : Queue ρ) (text : String) :
    (queue.purge.completeFirstSent text).map (Prod.map id purge)
      = (queue.completeFirstSent text).map (Prod.map id purge) := by
  have hentries := completeFirst_purge text queue.entries
  unfold completeFirstSent
  show ((completeFirst text (queue.entries.filter Entry.isOutstanding)).map _).map _ = _
  generalize completeFirst text (queue.entries.filter Entry.isOutstanding) = pruned at hentries ⊢
  generalize completeFirst text queue.entries = whole at hentries ⊢
  cases pruned <;> cases whole <;> simp_all [Prod.ext_iff, purge]

/-- The lookup that was pushed last is outstanding, so it stays the last one. -/
theorem markLastSent_purge (front : List (Entry ρ)) {entry : Entry ρ} (h : entry.isOutstanding)
    (max : Nat) :
    (Queue.mk (front ++ [entry]) max).purge.markLastSent
      = (Queue.mk (front ++ [entry]) max).markLastSent.purge := by
  have hsent : (entry.withState .sent).isOutstanding := by simp [Entry.isOutstanding]
  simp [purge, h, hsent, markLastSent_append]

end Queue

namespace Session

/-- The session without lookups that wait for nothing. -/
def pruned (s : Session ρ σ) : Session ρ σ :=
  { s with queue := s.queue.purge }

/-! ## The operations -/

section Fields

variable (s : Session ρ σ)

/-- Dropping what is complete leaves every field but the queue. -/
@[simp] theorem config_pruned : s.pruned.config = s.config := rfl

@[simp] theorem connection_pruned : s.pruned.connection = s.connection := rfl

@[simp] theorem queue_pruned : s.pruned.queue = s.queue.purge := rfl

@[simp] theorem halted_pruned : s.pruned.halted = s.halted := rfl

/-- A line for the log is noted of either. -/
@[simp] theorem note_pruned (notice : Notice) : s.pruned.note notice = (s.note notice).pruned := rfl

/-- Pruning is done once. -/
@[simp] theorem pruned_pruned : s.pruned.pruned = s.pruned := by
  simp [pruned, Queue.purge_purge]

end Fields

/-- The same session but for lookups that wait for nothing. -/
def Alike (s s' : Session ρ σ) : Prop :=
  s.pruned = s'.pruned

/-- A session is like itself with the complete lookups dropped. -/
theorem Alike.of_eq {s s' : Session ρ σ} (h : s' = s.pruned) : Alike s' s := by
  rw [Alike, h, pruned_pruned]

variable [Link σ] (s : Session ρ σ)

/-- Opening a connection does not look at the queue. -/
theorem openConnection_pruned :
    s.pruned.openConnection = s.openConnection.map id pruned := by
  unfold openConnection
  rw [connection_pruned]
  rcases s.connection.connect with ⟨_ | _, c⟩ <;> rfl

/-- Nor does a send. -/
theorem sendFrame_pruned (now : Instant) (requester : Option ρ) (frame : Bytes) :
    s.pruned.sendFrame now requester frame
      = (s.sendFrame now requester frame).map id pruned := by
  unfold sendFrame
  rw [connection_pruned]
  rcases s.connection.send now frame with ⟨_ | ⟨⟨⟩⟩, c⟩ <;> rfl

/-- Nor does closing. -/
theorem closeConnection_pruned : s.pruned.closeConnection = s.closeConnection.pruned := by
  by_cases h : s.connection.state = .disconnected
  · simp only [closeConnection, connection_pruned, h, if_true]
    rfl
  · simp only [closeConnection, connection_pruned, h, if_false]
    rfl

/-- Losing a connection puts back what is in flight, and nothing of that would be dropped. -/
theorem linkLost_pruned : s.pruned.linkLost = s.linkLost.pruned := by
  unfold linkLost
  have hcount : s.queue.purge.count .sent = s.queue.count .sent :=
    s.queue.count_purge (by decide)
  simp only [closeConnection_pruned, queue_pruned, hcount, Queue.demoteSent_purge]
  by_cases h : s.queue.count .sent = 0
  · rw [if_pos h, if_pos h]
    rfl
  · rw [if_neg h, if_neg h]
    rfl

/-- So does losing it for a reason. -/
theorem fail_pruned (reason : String) : s.pruned.fail reason = (s.fail reason).pruned :=
  linkLost_pruned { s with lastError := some reason }

/-! ## A connection that comes up -/

namespace Flush

/-- What is left after a flush, without the lookups that wait for nothing. -/
def pruned (done : Flush ρ σ) : Flush ρ σ :=
  { done with entries := done.entries.filter Entry.isOutstanding }

omit [Link σ] in
/-- A lookup that waits for something is seen in front of what a flush leaves. -/
theorem pruned_after {e : Entry ρ} (h : e.isOutstanding) (done : Flush ρ σ) :
    (done.after e).pruned = done.pruned.after e := by
  simp [pruned, after, h]

omit [Link σ] in
/-- A complete one is not. -/
theorem pruned_after_complete {e : Entry ρ} (h : ¬ e.isOutstanding) (done : Flush ρ σ) :
    (done.after e).pruned = done.pruned := by
  simp [pruned, after, h]

end Flush

/-- A flush passes over what waits for nothing. -/
theorem flush_pruned (around : Surroundings ρ) (c : Connection σ) (effects : List (Effect ρ))
    (entries : List (Entry ρ)) :
    (flush around c effects (entries.filter Entry.isOutstanding)).pruned
      = (flush around c effects entries).pruned := by
  have hpending {e : Entry ρ} (h : e.state = .pending) : e.isOutstanding := by
    simp [Entry.isOutstanding, h]
  have hcomplete (e : Entry ρ) : ¬ (e.withState .complete).isOutstanding := by
    simp [Entry.isOutstanding]
  have hflushes := flush_flushes around c effects entries
  generalize flush around c effects entries = done at hflushes ⊢
  -- a lookup that waits is there in both queues, and a dropped one is seen in neither
  induction hflushes with
  | done => rfl
  | @skipped _ _ e _ _ hstate _ ih =>
    by_cases hout : e.isOutstanding
    · rw [List.filter_cons_of_pos hout, flush_of_skipped hstate, Flush.pruned_after hout,
        Flush.pruned_after hout, ih]
    · rw [List.filter_cons_of_neg hout, Flush.pruned_after_complete hout, ih]
  | gone hstate hgone _ ih =>
    rw [List.filter_cons_of_pos (hpending hstate), flush_of_gone hstate hgone,
      Flush.pruned_after_complete (hcomplete _), Flush.pruned_after_complete (hcomplete _), ih]
  | unencodable hstate hreachable hframe _ ih =>
    rw [List.filter_cons_of_pos (hpending hstate), flush_of_unencodable hstate hreachable hframe,
      Flush.pruned_after_complete (hcomplete _), Flush.pruned_after_complete (hcomplete _), ih]
  | @sent _ _ _ e _ _ _ hstate hreachable hframe hsend _ ih =>
    have hsent : (e.withState .sent).isOutstanding := by simp [Entry.isOutstanding]
    rw [List.filter_cons_of_pos (hpending hstate), flush_of_sent hstate hreachable hframe hsend,
      Flush.pruned_after hsent, Flush.pruned_after hsent, ih]
  | cut hstate hreachable hframe hsend =>
    rw [List.filter_cons_of_pos (hpending hstate), flush_of_cut hstate hreachable hframe hsend]
    simp [Flush.pruned, hpending hstate]

/-- Naming the client does not look at the queue. -/
theorem identify_pruned (now : Instant) :
    s.pruned.identify now = (s.identify now).map id pruned := by
  unfold identify
  rw [config_pruned]
  cases s.config.identify with
  | none => rfl
  | some token =>
    simp only
    cases identifyFrame token with
    | error e => rfl
    | ok frame =>
      simp only
      rw [sendFrame_pruned]
      rcases s.sendFrame now none frame with ⟨_ | ⟨⟨⟩⟩, s'⟩ <;> rfl

/-- Sending what waits comes to the same, but for the complete lookups that the flush has made. -/
theorem flushPending_pruned (around : Surroundings ρ) :
    Alike (s.pruned.flushPending around) (s.flushPending around) := by
  have hdone : (flush around s.pruned.connection s.pruned.history s.pruned.queue.entries).pruned
      = (flush around s.connection s.history s.queue.entries).pruned :=
    flush_pruned around s.connection s.history s.queue.entries
  unfold flushPending
  generalize flush around s.pruned.connection s.pruned.history s.pruned.queue.entries = done' at *
  generalize flush around s.connection s.history s.queue.entries = done at *
  obtain ⟨c', entries', effects', failure'⟩ := done'
  obtain ⟨c, entries, effects, failure⟩ := done
  obtain ⟨rfl, hentries, rfl, rfl⟩ := Flush.mk.inj hdone
  -- the two sessions after the flush, which differ in what waits for nothing
  have hsame : pruned { s.pruned with
        connection := c', queue := { s.pruned.queue with entries := entries' }
        history := effects' }
      = pruned { s with
        connection := c', queue := { s.queue with entries }, history := effects' } :=
    congrArg (fun entries => { s with
      connection := c', queue := ⟨entries, s.queue.maxPending⟩, history := effects' }) hentries
  cases failure' with
  | none => exact hsame
  | some e =>
    simp only [Alike]
    rw [← fail_pruned, ← fail_pruned, ← note_pruned, ← note_pruned, hsame]

/-- So does the coming up of a connection. -/
theorem onConnected_pruned (around : Surroundings ρ) :
    Alike (s.pruned.onConnected around) (s.onConnected around) := by
  unfold onConnected
  rw [halted_pruned]
  cases s.halted with
  | some reason => exact .of_eq (closeConnection_pruned s)
  | none =>
    simp only
    -- the session that names the client, from the pruned session and from the whole one
    generalize hup' : Session.note (.connected s.pruned.connection.endpoint) _ = up'
    generalize hup : Session.note (.connected s.connection.endpoint) _ = up
    have heq : up' = up.pruned := by
      rw [← hup', ← hup]; rfl
    rw [heq, identify_pruned]
    rcases up.identify around.now with ⟨_ | ⟨⟨⟩⟩, named⟩
    · exact .of_eq (fail_pruned (named.note _) _)
    · exact flushPending_pruned named around

/-! ## Calls -/

omit [Link σ] in
/-- So does an answer, since the lookup it completes is in both queues. -/
theorem resolve_pruned (resolution : Resolution) :
    Alike (s.pruned.resolve resolution) (s.resolve resolution) := by
  have hfound := s.queue.completeFirstSent_purge resolution.address.format
  unfold resolve
  rw [queue_pruned]
  generalize s.queue.purge.completeFirstSent resolution.address.format = found' at *
  generalize s.queue.completeFirstSent resolution.address.format = found at *
  rcases found' with _ | ⟨e', queue'⟩ <;> rcases found with _ | ⟨e, queue⟩
  · exact .of_eq (note_pruned s _)
  · contradiction
  · contradiction
  · obtain ⟨rfl, hqueue⟩ := Prod.mk.inj (Option.some.inj hfound)
    exact congrArg (fun queue => record (.resolved e'.requester resolution)
      (note (.resolved resolution) { s with queue })) hqueue

/-- So does every record. -/
theorem onFrame_pruned (frame : Bytes) : Alike (s.pruned.onFrame frame) (s.onFrame frame) := by
  unfold onFrame
  rw [config_pruned]
  cases Message.decode s.config.maxFrame frame with
  | error e =>
    simp only
    split
    · exact .of_eq (fail_pruned { s.note (.foreignVersion e) with halted := some e.message } _)
    · exact .of_eq (note_pruned s _)
  | ok message =>
    cases message with
    | established info => exact .of_eq rfl
    | identify token => exact .of_eq (note_pruned s _)
    | request address metadata => exact .of_eq (note_pruned s _)
    | found address range => exact resolve_pruned s _
    | notFound address => exact resolve_pruned s _
    | failure code text => exact .of_eq (fail_pruned (s.note (.serviceFailure code text)) _)

/-- So does every event. -/
theorem handleEvent_pruned (around : Surroundings ρ) (event : Event) :
    Alike (s.pruned.handleEvent around event) (s.handleEvent around event) := by
  cases event with
  | connected => exact onConnected_pruned s around
  | received frame => exact onFrame_pruned s frame
  | disconnected => exact .of_eq (fail_pruned (s.note (.closedByService s.connection.endpoint)) _)
  | failed failure =>
    exact .of_eq (fail_pruned (s.note (.connectionFailed s.connection.endpoint failure)) _)

/-- A lookup that has just joined is the last one, with the others or without them. -/
theorem dispatch_pruned {front : List (Entry ρ)} {entry : Entry ρ}
    (hentries : s.queue.entries = front ++ [entry]) (hout : entry.isOutstanding) (now : Instant)
    (requester : ρ) (text : String) (frame : Bytes) :
    dispatch now requester text frame s.pruned
      = (dispatch now requester text frame s).map id pruned := by
  -- the lookup that was just taken is the last in both queues
  have hqueue : s.queue.purge.markLastSent = s.queue.markLastSent.purge := by
    have hmark := Queue.markLastSent_purge front hout s.queue.maxPending
    rw [← hentries] at hmark
    exact hmark
  unfold dispatch
  rw [connection_pruned]
  by_cases h : s.connection.state = .connected
  · rw [if_pos h, if_pos h, sendFrame_pruned]
    obtain ⟨c, -, heq⟩ | ⟨e, c, -, heq⟩ := sendFrame_cases now (some requester) frame s
    · rw [heq]
      exact congrArg (fun queue => (SubmitOutcome.sent, { s with
        connection := c
        queue
        history := @Effect.sent ρ (some requester) frame :: s.history })) hqueue
    · rw [heq]
      show (SubmitOutcome.queued, (((pruned _).note _).fail _).openConnection.2) = _
      rw [note_pruned, fail_pruned, openConnection_pruned]
      rfl
  · rw [if_neg h, if_neg h, note_pruned, openConnection_pruned]
    rfl

/-- A submission is taken or refused alike: there is the same room, and the same state to send in.
-/
theorem submit_pruned (now : Instant) (requester : ρ) (text : String) (metadata : Metadata) :
    s.pruned.submit now requester text metadata
      = (s.submit now requester text metadata).map id pruned := by
  unfold submit
  rw [halted_pruned]
  cases s.halted with
  | some reason => rfl
  | none =>
    cases Address.parse text with
    | error e => rfl
    | ok address =>
      simp only
      cases (Entry.make requester address metadata).frame with
      | error e => rfl
      | ok frame =>
        have hout : (Entry.make requester address metadata).isOutstanding := rfl
        simp only
        rw [queue_pruned, Queue.push_purge s.queue hout]
        cases hpush : s.queue.push (Entry.make requester address metadata) with
        | error e => rfl
        | ok queue =>
          have hentries :
              queue.entries = s.queue.entries ++ [Entry.make requester address metadata] := by
            rw [(Queue.push_eq_ok hpush).2]
          have hdispatch := dispatch_pruned { s with queue, halted := none } hentries hout now
            requester text frame
          exact congrArg (Prod.map Except.ok id) hdispatch

omit [Link σ] in
/-- A connection is idle if nothing is outstanding, whatever is complete. -/
theorem idleFor_pruned (now : Instant) : s.pruned.idleFor now = s.idleFor now := by
  unfold idleFor
  rw [queue_pruned, Queue.hasSent_purge]
  rfl

/-- So the sweep comes to the same. -/
theorem sweepIdle_pruned (now : Instant) :
    s.pruned.sweepIdle now = (s.sweepIdle now).map id pruned := by
  unfold sweepIdle
  rw [idleFor_pruned]
  cases s.idleFor now with
  | none => rfl
  | some idle => exact congrArg (Prod.mk true) (linkLost_pruned (s.note (.idle idle)))

/-- So does the wish to connect. -/
theorem connect_pruned : s.pruned.connect = s.connect.map id pruned := by
  unfold connect
  rw [halted_pruned]
  cases s.halted with
  | some reason => rfl
  | none => exact openConnection_pruned s

/-! ## Runs -/

end Session

/-- A turn that is a purge. -/
def Turn.isPurge (turn : Turn ρ σ) : Bool :=
  match turn.call with
  | .purge => true
  | _ => false

namespace Session

variable [Link σ]

/-- What the calls of a run return, purges left out. -/
def replies (s : Session ρ σ) : List (Turn ρ σ) → List Reply
  | [] => []
  | turn :: more =>
    if turn.isPurge then replies (s.next turn) more
    else (s.perform turn).1 :: replies (s.next turn) more

/-- A purge is what pruning is. -/
theorem next_of_isPurge {turn : Turn ρ σ} (h : turn.isPurge) (s : Session ρ σ) :
    s.next turn = s.pruned := by
  obtain ⟨around, call⟩ := turn
  cases call with
  | purge => rfl
  | submit | event | connect | disconnect | sweepIdle | relink => contradiction

/-- **The step.** Any other turn gets the same reply from a session and from the pruned one, and
leaves sessions that are alike. -/
theorem perform_pruned {turn : Turn ρ σ} (h : ¬ turn.isPurge) (s : Session ρ σ) :
    (s.pruned.perform turn).1 = (s.perform turn).1
      ∧ Alike (s.pruned.next turn) (s.next turn) := by
  -- each call says the same to both, and the sessions stay alike
  have hmap {α : Type} {f : α → Reply} {call call' : α × Session ρ σ}
      (hcall : call' = call.map id pruned) :
      (call'.map f id).1 = (call.map f id).1 ∧ Alike (call'.map f id).2 (call.map f id).2 := by
    subst hcall
    exact ⟨rfl, .of_eq rfl⟩
  obtain ⟨around, call⟩ := turn
  cases call with
  | submit requester text metadata =>
    exact hmap (submit_pruned s around.now requester text metadata)
  | event event => exact ⟨rfl, handleEvent_pruned s around event⟩
  | connect => exact hmap (connect_pruned s)
  | disconnect => exact ⟨rfl, .of_eq (linkLost_pruned s)⟩
  | purge => contradiction
  | sweepIdle => exact hmap (sweepIdle_pruned s around.now)
  | relink link => exact ⟨rfl, .of_eq rfl⟩

/-- **The step.** Two sessions that are alike return the same, and are alike afterwards. -/
theorem Alike.next {s s' : Session ρ σ} (h : Alike s s') {turn : Turn ρ σ}
    (hturn : ¬ turn.isPurge) :
    (s.perform turn).1 = (s'.perform turn).1 ∧ Alike (s.next turn) (s'.next turn) := by
  obtain ⟨hreply, halike⟩ := perform_pruned hturn s
  obtain ⟨hreply', halike'⟩ := perform_pruned hturn s'
  rw [h] at hreply halike
  exact ⟨hreply.symm.trans hreply', halike.symm.trans halike'⟩

/-- A run and the run without its purges. -/
theorem Alike.run {s s' : Session ρ σ} (h : Alike s s') (turns : List (Turn ρ σ)) :
    s.replies turns = s'.replies (turns.filter (! ·.isPurge))
      ∧ Alike (s.run turns) (s'.run (turns.filter (! ·.isPurge))) := by
  -- along the run with the purges: the other session sits out each purge, and makes every other
  -- turn too
  induction turns generalizing s s' with
  | nil => exact ⟨rfl, h⟩
  | cons turn more ih =>
    by_cases hturn : turn.isPurge
    · have hnext : Alike (s.next turn) s' := by
        rw [Alike, next_of_isPurge hturn, pruned_pruned]
        exact h
      obtain ⟨hreplies, hrun⟩ := ih hnext
      rw [List.filter_cons_of_neg (by simp [hturn]), replies, if_pos hturn]
      exact ⟨hreplies, hrun⟩
    · obtain ⟨hreply, hnext⟩ := h.next hturn
      obtain ⟨hreplies, hrun⟩ := ih hnext
      rw [List.filter_cons_of_pos (by simp [hturn]), replies, replies, if_neg hturn, if_neg hturn,
        hreply, hreplies]
      exact ⟨rfl, hrun⟩

/-- **Purging is not observable.** Let two runs start from one session and differ in purges only,
wherever these stand. Every other call returns the same, the link gets the same calls and frames and
is left in the same state, the same answers are given and the same lines are logged, in one order,
and the two sessions differ in lookups that wait for nothing, if at all. -/
theorem purging_is_unobservable (s : Session ρ σ) {turns turns' : List (Turn ρ σ)}
    (h : turns.filter (! ·.isPurge) = turns'.filter (! ·.isPurge)) :
    s.replies turns = s.replies turns'
      ∧ (s.run turns).history = (s.run turns').history
      ∧ (s.run turns).connection = (s.run turns').connection
      ∧ (s.run turns).info = (s.run turns').info
      ∧ (s.run turns).halted = (s.run turns').halted
      ∧ (s.run turns).lastError = (s.run turns').lastError
      ∧ (s.run turns).queue.outstandingEntries = (s.run turns').queue.outstandingEntries := by
  have hself : Alike s s := rfl
  obtain ⟨hreplies, hrun⟩ := hself.run turns
  obtain ⟨hreplies', hrun'⟩ := hself.run turns'
  rw [h] at hreplies hrun
  have halike : Alike (s.run turns) (s.run turns') := hrun.trans hrun'.symm
  obtain ⟨-, hconnection, hqueue, hinfo, hhalted, hlastError, hhistory⟩ := Session.mk.inj halike
  exact ⟨hreplies.trans hreplies'.symm, hhistory, hconnection, hinfo, hhalted, hlastError,
    congrArg Queue.entries hqueue⟩

/-- A lookup is answered and purged before the next one is submitted, which is then the first in the
queue; without the purge it is the second. Both are sent at once. -/
theorem lookup_after_purge_is_sent :
    let answered := [.submit 0 "10.0.0.1" [], .event .connected,
      .event (.received [1, 4, 10, 0, 0, 1])].map Turn.plain
    let last := Turn.plain (.submit 1 "10.0.0.2" [])
    let purged := answered ++ [.plain .purge, last]
    let whole := answered ++ [last]
    purged.filter (! ·.isPurge) = whole.filter (! ·.isPurge)
      ∧ (recorded.run purged).queue.entries.map Entry.state = [.sent]
      ∧ (recorded.run whole).queue.entries.map Entry.state = [.complete, .sent]
      ∧ recorded.replies purged = recorded.replies whole
      ∧ (recorded.run purged).history = (recorded.run whole).history
      ∧ (recorded.run purged).queue.outstandingEntries
        = (recorded.run whole).queue.outstandingEntries := by
  intro answered last purged whole
  have hturns : purged.filter (! ·.isPurge) = whole.filter (! ·.isPurge) := rfl
  obtain ⟨hreplies, hhistory, -, -, -, -, hqueue⟩ := purging_is_unobservable recorded hturns
  exact ⟨hturns, by decide +kernel, by decide +kernel, hreplies, hhistory, hqueue⟩

end Session

end CidrLookup
