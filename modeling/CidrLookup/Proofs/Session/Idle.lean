import CidrLookup.Proofs.Session.Opening
import CidrLookup.Proofs.Session.Parameters
import CidrLookup.Proofs.Session.Reason

/-!
# Idle connections

A sweep ends a connection that was not used for as long as the service allows. What a session goes
by are two times that are set and forgotten as its connection comes and goes. The chronicle of a run
has all that happened, with the times, and `lastUse` reads off it when the connection was used last.
On a clock that does not go back, the two agree while the session is connected: a turn that uses the
connection is later than all before it, so it decides what the session goes by as well as what the
chronicle says.
-/

namespace CidrLookup

variable {ρ σ : Type}

/-! ## Chronicles -/

/-- The later of two times. -/
def Instant.later (a b : Instant) : Instant :=
  ⟨max a.nanos b.nanos⟩

/-- Of two moments, the second is later. -/
theorem Instant.later_eq_right {a b : Instant} (h : a.nanos ≤ b.nanos) : a.later b = b := by
  rw [later, Nat.max_eq_right h]

/-- Of two moments, the first is later. -/
theorem Instant.later_eq_left {a b : Instant} (h : b.nanos ≤ a.nanos) : a.later b = a := by
  rw [later, Nat.max_eq_left h]

/-- Whether the link takes a frame. -/
def Moment.isTaken : Moment ρ → Bool
  | deed (.sent _) => true
  | _ => false

/-- Whether the connection is used: it comes up, or the link takes a frame. -/
def Moment.isUse (m : Moment ρ) : Bool :=
  m.isUp || m.isTaken

/-- When something of a kind happened last. -/
def latest (kind : Moment ρ → Bool) (events : List (Instant × Moment ρ)) : Option Instant :=
  ((events.filter fun event => kind event.2).getLast?).map Prod.fst

/-- What there has been since the link was closed last. -/
def onConnection (events : List (Instant × Moment ρ)) : List (Instant × Moment ρ) :=
  events.rtakeWhile fun event => ! event.2.isClose

/-- When the connection was used last: the later of the last time that one came up and the last time
that the link took a frame on it. -/
def lastUse (events : List (Instant × Moment ρ)) : Option Instant :=
  Option.merge Instant.later (latest Moment.isUp events)
    (latest Moment.isTaken (onConnection events))

section Latest

variable {kind : Moment ρ → Bool} {past more : List (Instant × Moment ρ)} {now : Instant}

theorem latest_append (past more : List (Instant × Moment ρ)) :
    latest kind (past ++ more) = (latest kind more).or (latest kind past) := by
  simp only [latest, List.filter_append, List.getLast?_append, Option.map_or]

/-- Without a moment of a kind there is no latest one. -/
theorem latest_eq_none (h : ∀ event ∈ more, kind event.2 = false) : latest kind more = none := by
  have hnone : (more.filter fun event => kind event.2) = [] :=
    List.filter_eq_nil_iff.2 fun event he => by simp [h event he]
  rw [latest, hnone]
  rfl

/-- The latest moment of a kind is one of the chronicle. -/
theorem exists_of_latest {time : Instant} (h : latest kind past = some time) :
    ∃ event ∈ past, kind event.2 ∧ event.1 = time := by
  obtain ⟨event, hlast, rfl⟩ := Option.map_eq_some_iff.1 h
  obtain ⟨hmem, hkind⟩ := List.mem_filter.1 (List.mem_of_getLast? hlast)
  exact ⟨event, hmem, hkind, rfl⟩

/-- What happens now is the latest of its kind. -/
theorem latest_append_now (hnow : ∀ event ∈ more, event.1 = now)
    (h : ∃ event ∈ more, kind event.2) : latest kind (past ++ more) = some now := by
  cases hlast : latest kind more with
  | none =>
    obtain ⟨event, hmem, hkind⟩ := h
    have hnil := List.getLast?_eq_none_iff.1 (Option.map_eq_none_iff.1 hlast)
    simp [List.filter_eq_nil_iff.1 hnil event hmem] at hkind
  | some time =>
    obtain ⟨event, hmem, -, rfl⟩ := exists_of_latest hlast
    rw [latest_append, hlast, hnow event hmem]
    rfl

theorem onConnection_append (h : ∀ event ∈ more, event.2.isClose = false) :
    onConnection (past ++ more) = onConnection past ++ more :=
  rtakeWhile_append_of_all past fun event he => by simp [h event he]

/-- Of two times that are not after now, one of which is now, the later is now. -/
theorem merge_later_eq {a b : Option Instant} (ha : ∀ time ∈ a, time.nanos ≤ now.nanos)
    (hb : ∀ time ∈ b, time.nanos ≤ now.nanos) (h : a = some now ∨ b = some now) :
    Option.merge Instant.later a b = some now := by
  rcases h with rfl | rfl
  · cases b with
    | none => rfl
    | some time => exact congrArg some (Instant.later_eq_left (hb time rfl))
  · cases a with
    | none => rfl
    | some time => exact congrArg some (Instant.later_eq_right (ha time rfl))

/-- A connection that is used now was used last now. -/
theorem lastUse_append_now (hnow : ∀ event ∈ more, event.1 = now)
    (hopen : ∀ event ∈ more, event.2.isClose = false) (huse : ∃ event ∈ more, event.2.isUse)
    (hpast : ∀ event ∈ past, event.2.isUse → event.1.nanos ≤ now.nanos) :
    lastUse (past ++ more) = some now := by
  -- no use is later than now, so the use that is now is the last
  have hbound {before : List (Instant × Moment ρ)} {kind : Moment ρ → Bool}
      (hbefore : before ⊆ past) (hkind : ∀ m : Moment ρ, kind m → m.isUse) :
      ∀ time ∈ latest kind (before ++ more), time.nanos ≤ now.nanos := by
    intro time hlatest
    obtain ⟨event, hmem, hevent, rfl⟩ := exists_of_latest hlatest
    rcases List.mem_append.1 hmem with hold | hnew
    · exact hpast event (hbefore hold) (hkind _ hevent)
    · rw [hnow event hnew]
  rw [lastUse, onConnection_append hopen]
  refine merge_later_eq ?_ ?_ ?_
  · exact hbound (List.Subset.refl past) fun m hm => by simp [Moment.isUse, hm]
  · exact hbound (List.rtakeWhile_suffix _ past).subset fun m hm => by simp [Moment.isUse, hm]
  · obtain ⟨event, hmem, hevent⟩ := huse
    rcases Bool.or_eq_true_iff.1 hevent with hup | htaken
    · exact .inl (latest_append_now hnow ⟨event, hmem, hup⟩)
    · exact .inr (latest_append_now hnow ⟨event, hmem, htaken⟩)

/-- What neither uses the connection nor closes it leaves the last use as it was. -/
theorem lastUse_append_unused
    (h : ∀ event ∈ more, event.2.isUse = false ∧ event.2.isClose = false) :
    lastUse (past ++ more) = lastUse past := by
  have hunused {before : List (Instant × Moment ρ)} {kind : Moment ρ → Bool}
      (hkind : ∀ m : Moment ρ, m.isUse = false → kind m = false) :
      latest kind (before ++ more) = latest kind before := by
    rw [latest_append, latest_eq_none fun event he => hkind _ (h event he).1, Option.none_or]
  have hup (m : Moment ρ) (hm : m.isUse = false) : m.isUp = false := (Bool.or_eq_false_iff.1 hm).1
  have htaken (m : Moment ρ) (hm : m.isUse = false) : m.isTaken = false :=
    (Bool.or_eq_false_iff.1 hm).2
  rw [lastUse, onConnection_append fun event he => (h event he).2, hunused hup, hunused htaken]
  rfl

end Latest

/-! ## The times of a run -/

/-- The clock does not go back from turn to turn. A sweep is told what time it is to take it for,
which need not be the time on the clock. -/
def ClockRuns (turns : List (Turn ρ σ)) : Prop :=
  turns.Pairwise fun turn later => turn.call ≠ .sweepIdle → later.call ≠ .sweepIdle →
    turn.around.now.nanos ≤ later.around.now.nanos

namespace Session

variable [Link σ]

/-- The moments of a turn with its time. -/
def events (s : Session ρ σ) (turn : Turn ρ σ) : List (Instant × Moment ρ) :=
  (s.moments turn).map (turn.around.now, ·)

/-- All that happened in a run, with the times. -/
def chronicle (s : Session ρ σ) (turns : List (Turn ρ σ)) : List (Instant × Moment ρ) :=
  (s.visits turns).flatMap fun (found, turn) => found.events turn

theorem chronicle_concat (s : Session ρ σ) (turns : List (Turn ρ σ)) (turn : Turn ρ σ) :
    s.chronicle (turns ++ [turn]) = s.chronicle turns ++ (s.run turns).events turn := by
  simp [chronicle, visits_concat]

section Turn

variable {turn : Turn ρ σ} {s s' : Session ρ σ} {reply : Reply} {effects : List (Effect ρ)}
  {past : List (Instant × Moment ρ)}

/-- What a session goes by while it is connected is when the connection was used last. -/
def KeepsUse (past : List (Instant × Moment ρ)) (c : Connection σ) : Prop :=
  c.state = .connected → ∃ last, c.lastActivity = some last ∧ lastUse past = some last

/-- What happens in a turn is read off what it adds to the history. -/
theorem events_of_history (hnext : s.next turn = s') (h : s'.history = effects ++ s.history) :
    s.events turn
      = (turn.arrival ++ (deeds effects).reverse.map Moment.deed).map (turn.around.now, ·) := by
  rw [events, moments_of_history hnext h]

/-- All that happens in a turn happens at its time. -/
theorem fst_of_mem_events (s : Session ρ σ) (turn : Turn ρ σ) :
    ∀ event ∈ s.events turn, event.1 = turn.around.now :=
  List.forall_mem_map.2 fun _ _ => rfl

/-- A sweep closes the link or does nothing. -/
theorem isUse_of_sweepIdle (hcall : turn.call = .sweepIdle) (s : Session ρ σ) :
    ∀ event ∈ s.events turn, ¬ event.2.isUse := by
  have harrival : turn.arrival = [] := Turn.arrival_of_ne (by simp [hcall])
  have hnext : s.next turn = (s.sweepIdle turn.around.now).2 := by
    simp only [next, perform, hcall, Prod.map, id]
  -- a sweep does nothing, or closes the connection, which is not a use of it
  cases hidle : s.idleFor turn.around.now with
  | none =>
    have hsame : s.next turn = s := by rw [hnext, sweepIdle, hidle]
    rw [events_of_history hsame (List.nil_append _).symm, harrival]
    simp
  | some idle =>
    obtain ⟨effects, hlost, hdeeds, -⟩ := linkLost_note_spec (.idle idle) s
    have hlost' : s.next turn = (s.note (.idle idle)).linkLost := by rw [hnext, sweepIdle, hidle]
    rw [events_of_history (hlost'.trans hlost) rfl, harrival, hdeeds]
    simp [Moment.isUse, Moment.isUp, Moment.isTaken]

omit [Link σ] in
/-- A client that has named itself has a name with a written form. -/
theorem Greeting.isNamable {config : Config} {greeting : List (Effect ρ)}
    (h : Greeting config greeting) : IsNamable config := by
  intro token htoken hnul
  cases h with
  | silent hnone =>
    rw [hnone] at htoken
    contradiction
  | named hsome hframe =>
    rw [hsome] at htoken
    cases htoken
    have hencode := encode_of_identifyFrame hframe
    rw [Message.encode_identify, if_pos hnul] at hencode
    contradiction

/-- A connection that comes up and is not lost at once is used at that time. -/
theorem keepsUse_of_up (hcall : turn.call = .event .connected) (hhalted : s.halted = none)
    (hname : IsNamable s.config) (hencodable : ∀ e ∈ s.queue.entries, e.IsEncodable)
    (hpast : ∀ event ∈ past, event.2.isUse → event.1.nanos ≤ turn.around.now.nanos) :
    KeepsUse (past ++ s.events turn) (s.next turn).connection := by
  have hnext : s.next turn = s.onConnected turn.around := by
    simp only [next, perform, hcall, handleEvent]
  intro hstate
  rcases hoffer : Link.offer ((s.agenda turn.around.reachable).map Prod.snd) s.connection.link
    with ⟨_ | ⟨k, e⟩, after⟩
  -- the whole agenda is sent at the time of the turn, the coming up itself being a use
  · obtain ⟨effects, hdeeds, hup⟩ := onConnected_of_taken hname hhalted hencodable hoffer
    have hevents : s.events turn = (turn.around.now, .up) ::
        (s.agenda turn.around.reachable).map fun call =>
          (turn.around.now, .deed (Effect.ofSend call)) := by
      rw [events_of_history (hnext.trans hup) rfl, Turn.arrival_of_connected hcall, hdeeds,
        List.reverse_reverse, List.map_append, List.map_map, List.map_map]
      rfl
    refine ⟨turn.around.now, ?_, lastUse_append_now (s.fst_of_mem_events turn) ?_ ?_ hpast⟩
    · rw [hnext, hup]
      by_cases hnil : (s.agenda turn.around.reachable).length = 0 <;>
        simp [Connection.lastActivity, Connection.took, Connection.markConnected, hnil]
    · rw [hevents]
      exact List.forall_mem_cons.2 ⟨rfl, List.forall_mem_map.2 fun _ _ => rfl⟩
    · rw [hevents]
      exact ⟨_, List.mem_cons_self, rfl⟩
  · -- a frame that is refused ends the connection
    obtain ⟨_, _, _, -, -, -, hlost⟩ := onConnected_of_refused hname hhalted hencodable hoffer
    rw [hnext, hlost] at hstate
    contradiction

/-- **The step.** Whatever a turn comes to, a connected session goes by the last use. -/
theorem Outcome.keepsUse (h : Outcome turn s reply s') (hnext : s.next turn = s')
    (hs : KeepsUse past s.connection) (hencodable : ∀ e ∈ s.queue.entries, e.IsEncodable)
    (hpast : turn.call ≠ .sweepIdle →
      ∀ event ∈ past, event.2.isUse → event.1.nanos ≤ turn.around.now.nanos) :
    KeepsUse (past ++ s.events turn) s'.connection := by
  -- where nothing is handed to the link and it is not closed, the connection is as it was
  have hunused {effects : List (Effect ρ)} (hhistory : s'.history = effects ++ s.history)
      (hcall : turn.call ≠ .event .connected)
      (hdeeds : ∀ e ∈ deeds effects,
        (Moment.deed e).isUse = false ∧ (Moment.deed e).isClose = false)
      (hconnection : s'.connection.state = .connected →
        s.connection.state = .connected ∧ s'.connection.lastActivity = s.connection.lastActivity) :
      KeepsUse (past ++ s.events turn) s'.connection := by
    intro hstate
    obtain ⟨hstate, hactivity⟩ := hconnection hstate
    rw [hactivity, events_of_history hnext hhistory, Turn.arrival_of_ne hcall,
      lastUse_append_unused (by simpa using hdeeds)]
    exact hs hstate
  cases h with
  | noted _ hdeeds hcall => exact hunused rfl hcall (by simp [hdeeds]) fun h => ⟨h, rfl⟩
  | relinked link hcall =>
    exact hunused (List.nil_append _).symm (by simp [hcall]) (by simp) fun h => ⟨h, rfl⟩
  | purged hcall =>
    exact hunused (List.nil_append _).symm (by simp [hcall]) (by simp) fun h => ⟨h, rfl⟩
  | informed hdeeds hcall =>
    exact hunused rfl (by simp [hcall]) (by simp [hdeeds]) fun h => ⟨h, rfl⟩
  | answered hcall _ _ hdeeds =>
    refine hunused rfl (by simp [hcall]) ?_ fun h => ⟨h, rfl⟩
    simp [hdeeds, Moment.isUse, Moment.isUp, Moment.isTaken, Moment.isClose]
  | up hcall hhalted _ hgreeting =>
    rw [← hnext]
    exact keepsUse_of_up hcall hhalted hgreeting.isNamable hencodable (hpast (by simp [hcall]))
  | @sent _ entry frame _ hadmits _ hsend =>
    have hevents : s.events turn
        = [(turn.around.now, .deed (@Effect.sent ρ (some entry.requester) frame))] := by
      rw [events_of_history hnext List.singleton_append.symm,
        Turn.arrival_of_ne (by simp [hadmits.hcall])]
      rfl
    intro _
    refine ⟨turn.around.now, ?_, lastUse_append_now (s.fst_of_mem_events turn) ?_ ?_
      (hpast (by simp [hadmits.hcall]))⟩
    · obtain ⟨link, rfl⟩ := Connection.exists_eq_took_of_send hsend
      rfl
    · rw [hevents]
      exact List.forall_mem_singleton.2 rfl
    · rw [hevents]
      exact ⟨_, List.mem_singleton_self _, rfl⟩
  | opened _ hstate =>
    intro hconn
    rw [Connection.state_connect_of_ne_connected (by simp [hstate])] at hconn
    contradiction
  | queued _ hstate =>
    intro hconn
    rw [Connection.state_connect_of_ne_connected hstate] at hconn
    contradiction
  | requeued =>
    intro hconn
    rw [Connection.state_connect_of_ne_connected (by simp)] at hconn
    contradiction
  | released | lost | unnamed | cut =>
    intro hconn
    contradiction

end Turn

/-! ## Runs -/

section Run

variable {config : Config} {link : σ} {start : Session ρ σ}

/-- The connection is used in turns that are no sweeps, and at their times. -/
theorem exists_turn_of_use (start : Session ρ σ) (turns : List (Turn ρ σ)) :
    ∀ event ∈ start.chronicle turns, event.2.isUse →
      ∃ turn ∈ turns, turn.call ≠ .sweepIdle ∧ event.1 = turn.around.now := by
  induction turns using List.reverseRecOn with
  | nil => simp [chronicle, visits]
  | append_singleton turns turn ih =>
    rw [chronicle_concat]
    intro event hmem huse
    rcases List.mem_append.1 hmem with hold | hnew
    · obtain ⟨earlier, hearlier, hcall⟩ := ih event hold huse
      exact ⟨earlier, List.mem_append_left _ hearlier, hcall⟩
    · exact ⟨turn, List.mem_concat_self, fun hcall => isUse_of_sweepIdle hcall _ event hnew huse,
        fst_of_mem_events _ _ event hnew⟩

/-- On a clock that does not go back, a connected session goes by the last use. -/
theorem keepsUse_run (hnew : Session.new config link = .ok start) {turns : List (Turn ρ σ)}
    (hclock : ClockRuns turns) :
    KeepsUse (start.chronicle turns) (start.run turns).connection := by
  -- along the run: the clock says that every use so far is no later than the turn
  induction turns using List.reverseRecOn with
  | nil =>
    intro hstate
    rw [run_nil, (new_spec hnew).disconnected] at hstate
    contradiction
  | append_singleton turns turn ih =>
    obtain ⟨hbefore, -, hlater⟩ := List.pairwise_append.1 hclock
    rw [chronicle_concat, run_concat]
    refine (perform_outcome turn (start.run turns)).keepsUse rfl (ih hbefore) ?_ ?_
    · exact fun e he => (wellFormed_run hnew turns e he).hencodable
    · intro hcall event hmem huse
      obtain ⟨earlier, hearlier, hcall', htime⟩ := exists_turn_of_use start turns event hmem huse
      rw [htime]
      exact hlater earlier hearlier turn (List.mem_singleton_self turn) hcall' hcall

/-! ## Sweeps -/

/-- The time that a service allows is over: a service that allows none is not gone by. -/
theorem ttl_over_iff (ttl : UInt32) (last now : Instant) :
    ¬ (ttl = 0 ∨ (now.since last).nanos < (Duration.ofSeconds ttl.toNat).nanos)
      ↔ 0 < ttl ∧ last.nanos + (Duration.ofSeconds ttl.toNat).nanos ≤ now.nanos := by
  rw [not_or, UInt32.pos_iff_ne_zero]
  refine and_congr_right fun hne => ?_
  have hpos : 0 < ttl.toNat := UInt32.lt_iff_toNat_lt.1 (UInt32.pos_iff_ne_zero.2 hne)
  simp only [Instant.since, Duration.ofSeconds]
  omega

omit [Link σ] in
/-- When a session counts as idle, by its own record of the last use. -/
theorem idleFor_isSome_iff (s : Session ρ σ) (now : Instant) :
    (s.idleFor now).isSome ↔ s.connection.state = .connected ∧ s.queue.hasSent = false
      ∧ ∃ info last, s.info = some info ∧ s.connection.lastActivity = some last
        ∧ 0 < info.peerTtl
        ∧ last.nanos + (Duration.ofSeconds info.peerTtl.toNat).nanos ≤ now.nanos := by
  -- the guard of the sweep first, then the two readings it may lack
  by_cases hbusy : s.connection.state ≠ .connected ∨ s.queue.hasSent
  · rw [idleFor, if_pos hbusy]
    refine iff_of_false (by simp) ?_
    rintro ⟨hstate, hsent, -⟩
    simp [hstate, hsent] at hbusy
  · rw [idleFor, if_neg hbusy]
    obtain ⟨hstate, hsent⟩ := not_or.1 hbusy
    rw [and_iff_right (not_not.1 hstate), and_iff_right (Bool.eq_false_iff.2 hsent)]
    cases hinfo : s.info with
    | none => simp
    | some info =>
      cases hlast : s.connection.lastActivity with
      | none => simp
      | some last => simp [← ttl_over_iff]

/-- A sweep closes the connection of a session that counts as idle. -/
theorem sweepIdle_fst_iff (s : Session ρ σ) (now : Instant) :
    (s.sweepIdle now).1 = true ↔ (s.idleFor now).isSome := by
  unfold sweepIdle
  cases s.idleFor now <;> simp

/-- **A sweep closes idle connections only.** On a clock that does not go back, a sweep closes the
connection of a session if and only if the session is connected, has nothing outstanding and knows
for how long the service allows a connection to be idle, and at least that time has passed since the
connection was used last. The session is disconnected then and knows nothing of the service, and its
lookups and the last error are as they were; otherwise nothing changes. A sweep that closes the
connection at one time would close it at every later time, and none does before the last use. -/
theorem sweep_closes_idle_connections (hnew : Session.new config link = .ok start)
    {turns : List (Turn ρ σ)} (hclock : ClockRuns turns) (now : Instant) :
    let s := start.run turns
    let used := lastUse (start.chronicle turns)
    let s' := (s.sweepIdle now).2
    (s.connection.state = .connected → used.isSome)
      ∧ ((s.sweepIdle now).1 = true ↔ s.connection.state = .connected ∧ s.queue.outstanding = 0
        ∧ ∃ info last, s.info = some info ∧ used = some last ∧ 0 < info.peerTtl
          ∧ last.nanos + (Duration.ofSeconds info.peerTtl.toNat).nanos ≤ now.nanos)
      ∧ ((s.sweepIdle now).1 = true → s'.queue = s.queue ∧ s'.lastError = s.lastError
        ∧ s'.connection.state = .disconnected ∧ s'.info = none)
      ∧ ((s.sweepIdle now).1 = false → s' = s)
      ∧ (∀ later : Instant, now.nanos ≤ later.nanos → (s.sweepIdle now).1 = true →
          (s.sweepIdle later).1 = true)
      ∧ ∀ last, used = some last → now.nanos < last.nanos → (s.sweepIdle now).1 = false := by
  intro s used s'
  have hphase : s.InPhase := inPhase_run hnew turns
  have hused : KeepsUse (start.chronicle turns) s.connection := keepsUse_run hnew hclock
  have hcloses (now : Instant) : (s.sweepIdle now).1 = true ↔
      s.connection.state = .connected ∧ s.queue.outstanding = 0
        ∧ ∃ info last, s.info = some info ∧ used = some last ∧ 0 < info.peerTtl
          ∧ last.nanos + (Duration.ofSeconds info.peerTtl.toNat).nanos ≤ now.nanos := by
    rw [sweepIdle_fst_iff, idleFor_isSome_iff]
    refine and_congr_right fun hstate => ?_
    obtain ⟨last, hactivity, hlast⟩ := hused hstate
    have hsame : used = s.connection.lastActivity := hlast.trans hactivity.symm
    rw [hphase.hasSent_eq_false_iff hstate, hsame]
  refine ⟨?_, hcloses now, ?_, ?_, ?_, ?_⟩
  · intro hstate
    obtain ⟨last, -, hlast⟩ := hused hstate
    exact Option.isSome_of_eq_some hlast
  · intro hswept
    obtain ⟨idle, hidle⟩ := Option.isSome_iff_exists.1 ((sweepIdle_fst_iff s now).1 hswept)
    obtain ⟨effects, hlost, -⟩ := linkLost_note_spec (.idle idle) s
    have hsent : ∀ e ∈ s.queue.entries, e.state ≠ .sent := by
      intro e he hsent
      exact hphase.outstanding_of_idleFor hidle e he (by simp [Entry.isOutstanding, hsent])
    have hs' : s' = (s.note (.idle idle)).linkLost := by
      show (s.sweepIdle now).2 = _
      rw [sweepIdle, hidle]
    rw [hs', hlost, Queue.demoteSent_of_none_sent hsent]
    exact ⟨rfl, rfl, rfl, rfl⟩
  · intro hkept
    have hnone : s.idleFor now = none := by
      rw [← Option.not_isSome_iff_eq_none, ← sweepIdle_fst_iff, hkept]
      exact Bool.false_ne_true
    show (s.sweepIdle now).2 = s
    rw [sweepIdle, hnone]
  -- at a later moment nothing but the time is another
  · intro later hlater hswept
    obtain ⟨hstate, hnone, info, last, hinfo, hlast, hpos, hover⟩ := (hcloses now).1 hswept
    exact (hcloses later).2
      ⟨hstate, hnone, info, last, hinfo, hlast, hpos, hover.trans hlater⟩
  · intro last hlast hearly
    refine Bool.eq_false_iff.2 fun hswept => ?_
    obtain ⟨-, -, info, last', -, hlast', -, hover⟩ := (hcloses now).1 hswept
    rw [hlast] at hlast'
    cases hlast'
    omega

end Run

/-- A turn in the given second, with every requester waiting for its answer. -/
def inSecond (second : Nat) (call : Call Nat RecordingLink) : Turn Nat RecordingLink :=
  ⟨⟨⟨second * 1000000000⟩, fun _ => true⟩, call⟩

/-- The service allows fifteen seconds, and the link takes a request in the fifth second. A sweep in
the middle, which takes the time to be later than it is, finds the lookup in flight. The connection
is closed from the twentieth second on. -/
theorem connection_is_idle_after_request :
    let turns := [inSecond 0 .connect, inSecond 1 (.event .connected),
      inSecond 1 (.event (.received (Message.established ⟨10, 3, 86400, 15, "hello"⟩).form)),
      inSecond 5 (.submit 0 "10.0.0.1" []), inSecond 60 .sweepIdle,
      inSecond 6 (.event (.received (Message.notFound ⟨0x0A000001⟩).form))]
    let s := recorded.run turns
    ClockRuns turns ∧ s.connection.state = .connected ∧ s.queue.entries.length = 1
      ∧ (s.sweepIdle ⟨19999999999⟩).1 = false ∧ (s.sweepIdle ⟨20000000000⟩).1 = true
      ∧ (s.sweepIdle ⟨86400000000000⟩).1 = true
      ∧ (s.sweepIdle ⟨20000000000⟩).2.queue = s.queue := by
  intro turns s
  have hclock : ClockRuns turns := by simp [ClockRuns, turns, inSecond]
  have hstate : s.connection.state = .connected := by decide +kernel
  have hlength : s.queue.entries.length = 1 := by decide +kernel
  have hearly : (s.sweepIdle ⟨19999999999⟩).1 = false := by decide +kernel
  have hlate : (s.sweepIdle ⟨20000000000⟩).1 = true := by decide +kernel
  -- the rest follows without another look at the run
  clear_value turns
  obtain ⟨-, -, hswept, -, hlater, -⟩ :=
    sweep_closes_idle_connections new_recorded hclock ⟨20000000000⟩
  exact ⟨hclock, hstate, hlength, hearly, hlate, hlater ⟨86400000000000⟩ (by decide) hlate,
    (hswept hlate).1⟩

end Session

end CidrLookup
