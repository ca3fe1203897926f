import CidrLookup.Proofs.Message.Encode
import CidrLookup.Proofs.Session.Discipline
import CidrLookup.Proofs.Session.Phase

/-!
# The parameters of the service

The service announces its parameters on each connection, and a session keeps them to tell when the
connection is idle. What a session keeps is what was announced last since it lost a connection. That
is more than what was announced on the open connection: an announcement counts whatever state it
finds, and a connection that comes up takes nothing away.

`Current` is what one would ask of the parameters. `current_iff_fits` tells when they are so all
along a run: every announcement finds the session connected, and no connection comes up on top of
one whose parameters are known, unless it is lost at once.
-/

namespace CidrLookup

variable {ρ σ : Type}

/-! ## Announcements -/

/-- The parameters that a turn brings, if it brings any. -/
def Turn.announced? (maxFrame : Nat) (turn : Turn ρ σ) : Option ServiceInfo :=
  match turn.call with
  | .event (.received frame) =>
    match Message.decode maxFrame frame with
    | .ok (.established info) => some info
    | _ => none
  | _ => none

/-- Whether a connection comes up in a turn. -/
def Turn.isUp (turn : Turn ρ σ) : Bool :=
  match turn.call with
  | .event .connected => true
  | _ => false

/-- The turns after the last one in which a connection comes up. -/
def sinceUp (turns : List (Turn ρ σ)) : List (Turn ρ σ) :=
  turns.rtakeWhile fun turn => ! turn.isUp

/-- The parameters that several turns bring, those of the last that brings any. -/
def lastAnnounced (maxFrame : Nat) (turns : List (Turn ρ σ)) : Option ServiceInfo :=
  (turns.filterMap (Turn.announced? maxFrame)).getLast?

namespace Turn

variable {turn : Turn ρ σ} {maxFrame : Nat} {info : ServiceInfo}

/-- A turn brings a connection up if it hears that one did. -/
theorem isUp_iff : turn.isUp ↔ turn.call = .event .connected := by
  unfold isUp
  split <;> simp_all

/-- A turn announces parameters if it hears a record that does. -/
theorem announced?_eq_some_iff : turn.announced? maxFrame = some info ↔
    ∃ frame, turn.call = .event (.received frame)
      ∧ Message.decode maxFrame frame = .ok (.established info) := by
  unfold announced?
  cases hcall : turn.call with
  | event event =>
    cases event with
    | received frame =>
      rcases hdecode : Message.decode maxFrame frame with e | message
      · simp [hdecode]
      · cases message <;> simp [hdecode]
    | _ => simp
  | _ => simp

/-- A turn that announces parameters hears a record, and so brings no connection up. -/
theorem isUp_of_announced? (h : turn.announced? maxFrame = some info) : turn.isUp = false := by
  obtain ⟨frame, hcall, -⟩ := announced?_eq_some_iff.1 h
  unfold isUp
  rw [hcall]

end Turn

section

variable (turns : List (Turn ρ σ)) {turn : Turn ρ σ} {maxFrame : Nat}

/-- Nothing has happened yet on a connection that has just come up. -/
theorem sinceUp_concat_up (h : turn.isUp) : sinceUp (turns ++ [turn]) = [] :=
  List.rtakeWhile_concat_neg _ _ _ (by simp [h])

theorem sinceUp_concat (h : turn.isUp = false) :
    sinceUp (turns ++ [turn]) = sinceUp turns ++ [turn] :=
  List.rtakeWhile_concat_pos _ _ _ (by simp [h])

/-- What the last turn announces was announced last. -/
theorem lastAnnounced_concat_some {info : ServiceInfo} (h : turn.announced? maxFrame = some info) :
    lastAnnounced maxFrame (turns ++ [turn]) = some info := by
  simp [lastAnnounced, h]

/-- A turn that announces nothing leaves what was announced last. -/
theorem lastAnnounced_concat_none (h : turn.announced? maxFrame = none) :
    lastAnnounced maxFrame (turns ++ [turn]) = lastAnnounced maxFrame turns := by
  simp [lastAnnounced, h]

end

namespace Session

variable [Link σ]

/-! ## Losses -/

/-- Whether a turn loses the connection: the link is closed, other than by a session that has given
up and lets go of a connection that comes up. -/
def loses (s : Session ρ σ) (turn : Turn ρ σ) : Bool :=
  (s.moments turn).any Moment.isClose && !(turn.isUp && s.halted.isSome)

/-- The turns of a run, each with the session that it finds. -/
def visits (s : Session ρ σ) : List (Turn ρ σ) → List (Session ρ σ × Turn ρ σ)
  | [] => []
  | turn :: more => (s, turn) :: (s.next turn).visits more

/-- The turns of a run after the last one that loses a connection. -/
def sinceLoss (s : Session ρ σ) (turns : List (Turn ρ σ)) : List (Turn ρ σ) :=
  ((s.visits turns).rtakeWhile fun (found, turn) => ! found.loses turn).map Prod.snd

theorem visits_concat (s : Session ρ σ) (turns : List (Turn ρ σ)) (turn : Turn ρ σ) :
    s.visits (turns ++ [turn]) = s.visits turns ++ [(s.run turns, turn)] := by
  induction turns generalizing s with
  | nil => rfl
  | cons first more ih =>
    rw [List.cons_append, visits, ih, visits]
    rfl

/-- Nothing has happened yet since a loss in the last turn. -/
theorem sinceLoss_concat_lost {s : Session ρ σ} {turns : List (Turn ρ σ)} {turn : Turn ρ σ}
    (h : (s.run turns).loses turn) : s.sinceLoss (turns ++ [turn]) = [] := by
  rw [sinceLoss, visits_concat, List.rtakeWhile_concat_neg _ _ _ (by simp [h])]
  rfl

theorem sinceLoss_concat {s : Session ρ σ} {turns : List (Turn ρ σ)} {turn : Turn ρ σ}
    (h : (s.run turns).loses turn = false) :
    s.sinceLoss (turns ++ [turn]) = s.sinceLoss turns ++ [turn] := by
  rw [sinceLoss, visits_concat, List.rtakeWhile_concat_pos _ _ _ (by simp [h]), List.map_append]
  rfl

/-! ## One turn -/

/-- A turn that announces parameters leaves the session with them, whatever its connection does. -/
theorem next_of_announced {s : Session ρ σ} {turn : Turn ρ σ} {info : ServiceInfo}
    (h : turn.announced? s.config.maxFrame = some info) :
    s.next turn = { s.note (.established info) with info := some info } := by
  obtain ⟨frame, hcall, hdecode⟩ := Turn.announced?_eq_some_iff.1 h
  simp only [next, perform, hcall, handleEvent, onFrame, hdecode]

/-- What a turn does to the parameters and the connection of a session if it announces nothing. -/
inductive Aftermath (turn : Turn ρ σ) (s s' : Session ρ σ) : Prop where
  /-- The connection is lost, and the parameters are forgotten. -/
  | lost (hloses : s.loses turn) (hinfo : s'.info = none)
      (hstate : s'.connection.state ≠ .connected)
  /-- The parameters stay, and so does an open connection. -/
  | kept (hkeeps : s.loses turn = false) (hinfo : s'.info = s.info)
      (hstate : s'.connection.state = .connected
        ↔ s.connection.state = .connected ∨ turn.isUp ∧ s.halted = none)

section Turn

variable {turn : Turn ρ σ} {s s' : Session ρ σ} {effects : List (Effect ρ)}

/-- Whether a turn loses the connection can be told from what it adds to the history. -/
theorem loses_iff (hnext : s.next turn = s') (hhistory : s'.history = effects ++ s.history) :
    s.loses turn ↔ .close ∈ deeds effects ∧ ¬ (turn.isUp ∧ s.halted.isSome) := by
  -- an arrival is no close, so the closes of a turn are its own deeds
  have hclose : (s.moments turn).any Moment.isClose ↔ .close ∈ deeds effects := by
    rw [moments_of_history hnext hhistory, List.any_eq_true]
    constructor
    · rintro ⟨m, hm, hclose⟩
      rw [Moment.eq_close hclose] at hm
      have harrival : .deed .close ∉ turn.arrival := by
        unfold Turn.arrival
        split <;> simp
      simpa [harrival] using hm
    · intro hmem
      exact ⟨.deed .close, List.mem_append_right _ (List.mem_map_of_mem (List.mem_reverse.2 hmem)),
        rfl⟩
  rw [loses, Bool.and_eq_true, hclose, Bool.not_eq_true', ← Bool.not_eq_true, Bool.and_eq_true]

/-- A turn that closes the link loses the parameters. -/
theorem Aftermath.of_close (hnext : s.next turn = s') (hhistory : s'.history = effects ++ s.history)
    (hclose : .close ∈ deeds effects) (hup : turn.isUp → s.halted = none) (hinfo : s'.info = none)
    (hstate : s'.connection.state ≠ .connected) : Aftermath turn s s' := by
  refine .lost ((loses_iff hnext hhistory).2 ⟨hclose, ?_⟩) hinfo hstate
  rintro ⟨hcall, hhalted⟩
  rw [hup hcall] at hhalted
  contradiction

/-- A turn that closes nothing keeps the parameters. -/
theorem Aftermath.of_open (hnext : s.next turn = s') (hhistory : s'.history = effects ++ s.history)
    (hopen : .close ∉ deeds effects) (hinfo : s'.info = s.info)
    (hstate : s'.connection.state = .connected
      ↔ s.connection.state = .connected ∨ turn.isUp ∧ s.halted = none) : Aftermath turn s s' := by
  refine .kept (Bool.eq_false_iff.2 fun hloses => ?_) hinfo hstate
  exact hopen ((loses_iff hnext hhistory).1 hloses).1

/-- A turn in which no connection comes up, and after which the connection stands as before. -/
theorem Aftermath.of_same (hnext : s.next turn = s') (hhistory : s'.history = effects ++ s.history)
    (hopen : .close ∉ deeds effects) (hinfo : s'.info = s.info) (hup : turn.isUp = false)
    (hstate : s'.connection.state = s.connection.state) : Aftermath turn s s' := by
  refine .of_open hnext hhistory hopen hinfo ?_
  simp [hup, hstate]

/-- What is handed over in a flush is no close. -/
theorem close_notMem_flush {c : Connection σ} {greeting : List (Effect ρ)}
    (hgreeting : Greeting s.config (deeds greeting)) {done : Flush ρ σ}
    (hdone : done = flush turn.around c (greeting ++ s.history) s.queue.entries) :
    ∃ added, done.effects = added ++ s.history ∧ .close ∉ deeds added := by
  subst hdone
  obtain ⟨added, lookups, heffects, hdelivers, -⟩ :=
    deeds_flush turn.around c (greeting ++ s.history) s.queue.entries
  refine ⟨added ++ greeting, by rw [heffects, List.append_assoc], fun hmem => ?_⟩
  rw [deeds_append, List.mem_append] at hmem
  have hhand : (@Effect.close ρ).isHandover := by
    rcases hmem with hadded | hgreeted
    · exact isHandover_of_delivers hdelivers _ (List.mem_reverse.2 hadded)
    · exact hgreeting.isHandover _ hgreeted
  contradiction

/-- **The step.** A turn that announces nothing loses the connection or keeps the parameters. -/
theorem Outcome.aftermath {reply : Reply} (h : Outcome turn s reply s') (hnext : s.next turn = s')
    (hphase : s.InPhase) (hannounced : turn.announced? s.config.maxFrame = none) :
    Aftermath turn s s' := by
  -- no connection comes up in most turns
  have hup {call : Call ρ σ} (hcall : turn.call = call) (hne : call ≠ .event .connected) :
      turn.isUp = false := by
    refine Bool.eq_false_iff.2 fun hup => hne ?_
    rw [← hcall]
    exact Turn.isUp_iff.1 hup
  cases h with
  | noted _ hdeeds hcall =>
    exact .of_same hnext rfl (by simp [hdeeds]) rfl (hup rfl hcall) rfl
  | relinked link hcall =>
    exact .of_same hnext (List.nil_append _).symm (by simp) rfl (hup hcall (by simp)) rfl
  | purged hcall =>
    exact .of_same hnext (List.nil_append _).symm (by simp) rfl (hup hcall (by simp)) rfl
  | opened _ hstate hdeeds hcall =>
    refine .of_open hnext rfl (by simp [hdeeds]) rfl ?_
    simp [hup hcall, hstate, Connection.state_connect]
  | released hcall hhalted hdeeds =>
    -- the link is closed, but there was no connection to lose
    have hstate := hphase.disconnected_of_halted hhalted
    refine .kept (Bool.eq_false_iff.2 fun hloses => ?_) rfl ?_
    · exact ((loses_iff hnext rfl).1 hloses).2 ⟨Turn.isUp_iff.2 hcall, hhalted⟩
    · have hsome : s.halted ≠ none := Option.isSome_iff_ne_none.1 hhalted
      simp [hstate, hsome]
  | lost _ hdeeds _ hcause =>
    have hcall : turn.isUp = false := by
      cases hcause with
      | asked hcall => exact hup hcall (by simp)
      | idle hcall => exact hup hcall (by simp)
      | event hcall hevent => exact hup hcall (by simp [hevent])
    exact .of_close hnext rfl (by simp [hdeeds]) (by simp [hcall]) rfl (by simp)
  | informed _ hcall hdecode =>
    rw [Turn.announced?_eq_some_iff.2 ⟨_, hcall, hdecode⟩] at hannounced
    contradiction
  | answered hcall _ _ hdeeds =>
    exact .of_same hnext rfl (by simp [hdeeds]) rfl (hup hcall (by simp)) rfl
  | up hcall hhalted hstate hgreeting hdone =>
    obtain ⟨added, heffects, hopen⟩ := close_notMem_flush hgreeting hdone
    refine .of_open hnext heffects hopen rfl ?_
    subst hdone
    simp [state_flush, hstate, Turn.isUp_iff.2 hcall, hhalted]
  | unnamed _ hhalted _ hdeeds =>
    exact .of_close hnext rfl (by simp [hdeeds]) (fun _ => hhalted) rfl (by simp)
  | @cut _ _ effects _ _ hhalted _ hgreeting done hdone _ hdeeds =>
    obtain ⟨added, heffects, -⟩ := close_notMem_flush hgreeting hdone
    have hhistory : effects ++ done.effects = effects ++ added ++ s.history := by
      rw [List.append_assoc, ← heffects]
    exact .of_close hnext hhistory (by simp [hdeeds]) (fun _ => hhalted) rfl (by simp)
  | queued hadmits hstate hdeeds =>
    refine .of_open hnext rfl ?_ rfl ?_
    · rw [hdeeds]
      split <;> simp
    · simp [hup hadmits.hcall, hstate, Connection.state_connect_of_ne_connected hstate]
  | sent hadmits hstate hsend =>
    refine .of_same hnext (List.singleton_append).symm ?_ rfl (hup hadmits.hcall (by simp)) ?_
    · simp [deeds, Effect.isDeed]
    · exact Connection.state_of_send hsend
  | requeued hadmits _ _ hdeeds =>
    refine .of_close hnext rfl (by simp [hdeeds]) (fun _ => hadmits.hhalted) rfl ?_
    rw [Connection.state_connect_of_ne_connected (by simp)]
    decide

/-- A turn that announces nothing loses the parameters or keeps them. -/
theorem next_aftermath (hphase : s.InPhase)
    (hannounced : turn.announced? s.config.maxFrame = none) : Aftermath turn s (s.next turn) :=
  (perform_outcome turn s).aftermath rfl hphase hannounced

/-- A turn that announces parameters loses none. -/
theorem loses_of_announced {info : ServiceInfo}
    (h : turn.announced? s.config.maxFrame = some info) : s.loses turn = false := by
  have hhistory : (s.next turn).history = [.notice (.established info)] ++ s.history := by
    rw [next_of_announced h]
    rfl
  refine Bool.eq_false_iff.2 fun hloses => ?_
  simpa using ((loses_iff rfl hhistory).1 hloses).1

/-! ## Current parameters -/

omit [Link σ] in
/-- What one would ask of the parameters of a session after the given turns: there are none without
a connection, and on an open connection they are what it announced last. -/
structure Current (maxFrame : Nat) (turns : List (Turn ρ σ)) (s : Session ρ σ) : Prop where
  none_without : s.connection.state ≠ .connected → s.info = none
  last_since_up : s.connection.state = .connected →
    s.info = lastAnnounced maxFrame (sinceUp turns)

/-- A turn fits where the connection of a session stands: an announcement finds the session
connected, and no connection comes up on top of one whose parameters are known, unless it is lost at
once. -/
def Fits (s : Session ρ σ) (turn : Turn ρ σ) : Prop :=
  ((turn.announced? s.config.maxFrame).isSome → s.connection.state = .connected)
    ∧ (turn.isUp → s.connection.state = .connected → s.info.isSome → s.loses turn)

instance : Decidable (s.Fits turn) :=
  inferInstanceAs (Decidable (_ ∧ _))

variable {turns : List (Turn ρ σ)} {maxFrame : Nat}

omit [Link σ] in
/-- A turn that announces nothing and loses nothing keeps the parameters current, unless a
connection comes up on top of one whose parameters are known. -/
theorem Current.next_of_kept (h : Current maxFrame turns s)
    (hannounced : turn.announced? maxFrame = none) (hinfo : s'.info = s.info)
    (hstate : s'.connection.state = .connected
      ↔ s.connection.state = .connected ∨ turn.isUp ∧ s.halted = none)
    (hunknown : turn.isUp → s.connection.state = .connected → s.info = none) :
    Current maxFrame (turns ++ [turn]) s' := by
  -- without a connection now there was none before; with one, either it has just come up or the
  -- stretch goes on
  refine ⟨fun hne => ?_, fun hconnected => ?_⟩
  · rw [hinfo]
    exact h.none_without fun hbefore => hne (hstate.2 (.inl hbefore))
  · rw [hinfo]
    cases hup : turn.isUp with
    | true =>
      rw [sinceUp_concat_up _ hup]
      by_cases hbefore : s.connection.state = .connected
      · exact hunknown hup hbefore
      · exact h.none_without hbefore
    | false =>
      have hbefore : s.connection.state = .connected := by
        simpa [hup] using hstate.1 hconnected
      rw [sinceUp_concat _ hup, lastAnnounced_concat_none _ hannounced]
      exact h.last_since_up hbefore

/-- Parameters that are announced are current if and only if the session is connected. -/
theorem current_next_of_announced {info : ServiceInfo}
    (hannounced : turn.announced? s.config.maxFrame = some info) :
    Current s.config.maxFrame (turns ++ [turn]) (s.next turn)
      ↔ s.connection.state = .connected := by
  rw [next_of_announced hannounced]
  constructor
  · intro hnext
    by_contra hstate
    have hnone := hnext.none_without hstate
    contradiction
  · intro hstate
    refine ⟨fun hne => absurd hstate hne, fun _ => ?_⟩
    rw [sinceUp_concat _ (Turn.isUp_of_announced? hannounced),
      lastAnnounced_concat_some _ hannounced]

/-- **The step for current parameters.** They stay current in a turn if and only if it fits. -/
theorem current_next_iff (h : Current s.config.maxFrame turns s) (hphase : s.InPhase) :
    Current s.config.maxFrame (turns ++ [turn]) (s.next turn) ↔ s.Fits turn := by
  cases hannounced : turn.announced? s.config.maxFrame with
  | some info =>
    have hup := Turn.isUp_of_announced? hannounced
    rw [current_next_of_announced hannounced]
    simp [Fits, hannounced, hup]
  | none =>
    cases next_aftermath hphase hannounced with
    | lost hloses hinfo hstate =>
      refine iff_of_true ⟨fun _ => hinfo, fun hconnected => absurd hconnected hstate⟩ ?_
      exact ⟨by simp [hannounced], fun _ _ _ => hloses⟩
    | kept hkeeps hinfo hstate =>
      constructor
      · intro hnext
        refine ⟨by simp [hannounced], fun hup hconnected hsome => ?_⟩
        -- the parameters would be taken for those of the connection that has come up
        have hnone := hnext.last_since_up (hstate.2 (.inl hconnected))
        rw [sinceUp_concat_up _ hup, hinfo] at hnone
        rw [hnone] at hsome
        contradiction
      · intro hfits
        refine h.next_of_kept hannounced hinfo hstate fun hup hconnected => ?_
        by_contra hsome
        have hloses := hfits.2 hup hconnected (Option.isSome_iff_ne_none.2 hsome)
        rw [hkeeps] at hloses
        contradiction

end Turn

/-! ## Runs -/

variable {config : Config} {link : σ} {start : Session ρ σ}

/-- The parameters are the last that were announced since a connection was lost. -/
theorem info_run (hnew : Session.new config link = .ok start) (turns : List (Turn ρ σ)) :
    (start.run turns).info = lastAnnounced config.maxFrame (start.sinceLoss turns) := by
  -- along the run: the last turn announces, loses or keeps
  induction turns using List.reverseRecOn with
  | nil => exact info_of_new hnew
  | append_singleton turns turn ih =>
    have hconfig := config_run hnew turns
    rw [run_concat]
    cases hannounced : turn.announced? config.maxFrame with
    | some info =>
      rw [← hconfig] at hannounced
      rw [next_of_announced hannounced, sinceLoss_concat (loses_of_announced hannounced), ← hconfig,
        lastAnnounced_concat_some _ hannounced]
    | none =>
      cases next_aftermath (inPhase_run hnew turns) (hconfig ▸ hannounced) with
      | lost hloses hinfo =>
        rw [sinceLoss_concat_lost hloses]
        exact hinfo
      | kept hkeeps hinfo =>
        rw [sinceLoss_concat hkeeps, lastAnnounced_concat_none _ hannounced, ← ih]
        exact hinfo

/-- The parameters are current at each moment of a run if and only if every turn fits. -/
theorem current_iff_fits (hnew : Session.new config link = .ok start) (turns : List (Turn ρ σ)) :
    (∀ front, front <+: turns → Current config.maxFrame front (start.run front))
      ↔ ∀ visit ∈ start.visits turns, visit.1.Fits visit.2 := by
  -- along the run: current up to the last turn, that turn is the only new visit
  induction turns using List.reverseRecOn with
  | nil =>
    refine iff_of_true (fun front hfront => ?_) (by simp [visits])
    rw [List.prefix_nil.1 hfront]
    refine ⟨fun _ => info_of_new hnew, fun hstate => ?_⟩
    rw [run_nil, (new_spec hnew).disconnected] at hstate
    contradiction
  | append_singleton turns turn ih =>
    have hlast (h : Current config.maxFrame turns (start.run turns)) :
        Current config.maxFrame (turns ++ [turn]) (start.run (turns ++ [turn]))
          ↔ (start.run turns).Fits turn := by
      rw [run_concat, ← config_run hnew turns]
      exact current_next_iff (by rwa [config_run hnew turns]) (inPhase_run hnew turns)
    rw [visits_concat, List.forall_mem_append, ← ih, List.forall_mem_singleton]
    constructor
    · intro h
      have hbefore (front : List (Turn ρ σ)) (hfront : front <+: turns) :
          Current config.maxFrame front (start.run front) :=
        h front (hfront.trans (List.prefix_append turns [turn]))
      exact ⟨hbefore, (hlast (hbefore turns List.prefix_rfl)).1 (h _ List.prefix_rfl)⟩
    · rintro ⟨hbefore, hfits⟩ front hfront
      rcases List.prefix_concat_iff.1 hfront with rfl | hfront
      · exact (hlast (hbefore turns List.prefix_rfl)).2 hfits
      · exact hbefore front hfront

/-- **The parameters of the service.** Whatever happens to a session, its parameters are those that
were announced last since it lost a connection. At each moment of a run they are those of the open
connection, which are the last announced since it came up, and there are none without a connection,
if and only if every announcement of the run finds the session connected and no connection comes up
on top of one whose parameters are known, unless it is lost at once. -/
theorem parameters_are_current_iff (hnew : Session.new config link = .ok start)
    (turns : List (Turn ρ σ)) :
    (start.run turns).info = lastAnnounced config.maxFrame (start.sinceLoss turns)
      ∧ ((∀ front, front <+: turns → Current config.maxFrame front (start.run front))
        ↔ ∀ visit ∈ start.visits turns, visit.1.Fits visit.2) :=
  ⟨info_run hnew turns, current_iff_fits hnew turns⟩

/-- A service announces its parameters while the connection is up, and then ends the connection. The
next connection starts without parameters. -/
theorem reconnected_session_knows_no_parameters :
    let info : ServiceInfo := ⟨10, 3, 86400, 15, "hello"⟩
    let first := [.connect, .event .connected,
      .event (.received (Message.established info).form)].map Turn.plain
    let turns := first ++ [.event .disconnected, .connect, .event .connected].map Turn.plain
    (∀ visit ∈ recorded.visits turns, visit.1.Fits visit.2)
      ∧ (recorded.run first).info = some info
      ∧ (recorded.run turns).connection.state = .connected ∧ (recorded.run turns).info = none := by
  intro info first turns
  have hfits : ∀ visit ∈ recorded.visits turns, visit.1.Fits visit.2 := by decide +kernel
  have hup : (recorded.run first).connection.state = .connected := by decide +kernel
  have hup' : (recorded.run turns).connection.state = .connected := by decide +kernel
  have hcurrent := (parameters_are_current_iff new_recorded turns).2.2 hfits
  have hfirst : (recorded.run first).info = _ :=
    (hcurrent first (List.prefix_append _ _)).last_since_up hup
  have hlast : (recorded.run turns).info = _ := (hcurrent turns List.prefix_rfl).last_since_up hup'
  exact ⟨hfits, hfirst.trans (by decide +kernel), hup', hlast.trans (by decide +kernel)⟩

/-- An announcement that arrives after the connection has ended is kept, and the next connection,
which has announced nothing, is taken for idle by it. -/
theorem late_parameters_outlive_connection :
    let info : ServiceInfo := ⟨10, 3, 86400, 15, "hello"⟩
    let late := [.connect, .event .connected, .event .disconnected,
      .event (.received (Message.established info).form)].map Turn.plain
    let again := late ++ [.connect, .event .connected].map Turn.plain
    (recorded.run late).connection.state = .disconnected ∧ (recorded.run late).info = some info
      ∧ (recorded.run again).connection.state = .connected
      ∧ (recorded.run again).info = some info
      ∧ lastAnnounced Config.default.maxFrame (sinceUp again) = none
      ∧ ((recorded.run again).sweepIdle ⟨15000000000⟩).1 = true := by
  decide +kernel

end Session

end CidrLookup
