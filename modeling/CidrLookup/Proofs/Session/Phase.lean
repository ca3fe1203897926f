import CidrLookup.Proofs.Session.Flush

/-!
# Lookups stand as the connection does

While a session is connected no lookup waits to be sent, and while it is not connected none is in
flight. The invariant behind it also says that a session which has given up is disconnected: such a
session lets go of a connection that comes up, and does so without looking at the queue.
-/

namespace CidrLookup.Session

variable {ρ σ : Type}

/-- The lookups of a session stand as its connection does. -/
structure InPhase (s : Session ρ σ) : Prop where
  none_pending : s.connection.state = .connected → ∀ e ∈ s.queue.entries, e.state ≠ .pending
  none_sent : s.connection.state ≠ .connected → ∀ e ∈ s.queue.entries, e.state ≠ .sent
  disconnected_of_halted : s.halted.isSome → s.connection.state = .disconnected

/-- A new session is in phase: it has no lookups. -/
theorem inPhase_new {config : Config} {link : σ} {s : Session ρ σ}
    (h : Session.new config link = .ok s) : InPhase s := by
  obtain ⟨-, hqueue, hhalted, -⟩ := new_spec h
  exact ⟨by simp [hqueue], by simp [hqueue], by simp [hhalted]⟩

/-- A session without a connection and without lookups in flight. -/
theorem InPhase.of_not_connected {s : Session ρ σ} (hstate : s.connection.state ≠ .connected)
    (hsent : ∀ e ∈ s.queue.entries, e.state ≠ .sent)
    (hhalted : s.halted.isSome → s.connection.state = .disconnected) : InPhase s :=
  ⟨fun h => absurd h hstate, fun _ => hsent, hhalted⟩

/-- A connected session that has not given up and has no lookup waiting. -/
theorem InPhase.of_connected {s : Session ρ σ} (hstate : s.connection.state = .connected)
    (hpending : ∀ e ∈ s.queue.entries, e.state ≠ .pending) (hhalted : s.halted = none) :
    InPhase s :=
  ⟨fun _ => hpending, fun h => absurd hstate h, fun h => by simp [hhalted] at h⟩

variable [Link σ]

/-- **The step.** Whatever a turn comes to, the lookups stand as the connection does. -/
theorem InPhase.outcome {turn : Turn ρ σ} {s s' : Session ρ σ} {reply : Reply} (hs : InPhase s)
    (h : Outcome turn s reply s') : InPhase s' := by
  cases h with
  | noted => exact ⟨hs.none_pending, hs.none_sent, hs.disconnected_of_halted⟩
  | relinked link => exact ⟨hs.none_pending, hs.none_sent, hs.disconnected_of_halted⟩
  | informed => exact ⟨hs.none_pending, hs.none_sent, hs.disconnected_of_halted⟩
  | purged =>
    have hmem : ∀ e ∈ s.queue.purge.entries, e ∈ s.queue.entries :=
      fun e he => List.mem_of_mem_filter he
    exact ⟨fun h e he => hs.none_pending h e (hmem e he),
      fun h e he => hs.none_sent h e (hmem e he), hs.disconnected_of_halted⟩
  | opened hhalted hstate =>
    have hne : s.connection.state ≠ .connected := by simp [hstate]
    refine .of_not_connected ?_ (hs.none_sent hne) ?_
    · rw [Connection.state_connect_of_ne_connected hne]; decide
    · simp [hhalted]
  | released _ hhalted =>
    -- the session was disconnected already, so there is nothing to demote
    have hstate := hs.disconnected_of_halted hhalted
    have hne : s.connection.state ≠ .connected := by simp [hstate]
    exact .of_not_connected (by simp) (hs.none_sent hne) (fun _ => rfl)
  | lost => exact .of_not_connected (by simp) s.queue.demoteSent_leaves_none_sent (fun _ => rfl)
  | unnamed => exact .of_not_connected (by simp) s.queue.demoteSent_leaves_none_sent (fun _ => rfl)
  | cut => exact .of_not_connected (by simp) (Queue.demoteSent_leaves_none_sent _) (fun _ => rfl)
  | answered _ _ hfound =>
    obtain ⟨front, e, back, hentries, rfl, -⟩ := Queue.completeFirstSent_spec hfound
    have hmem : ∀ e' ∈ front ++ e.withState .complete :: back,
        e' ∈ s.queue.entries ∨ e'.state = .complete := by
      intro e' he'
      rw [hentries]
      exact (Entry.mem_of_mem_withState he').imp_right (congrArg Entry.state)
    -- the answered lookup is complete, which is neither pending nor sent
    refine ⟨fun h e' he' => ?_, fun h e' he' => ?_, hs.disconnected_of_halted⟩
    · rcases hmem e' he' with hold | hcomplete
      · exact hs.none_pending h e' hold
      · simp [hcomplete]
    · rcases hmem e' he' with hold | hcomplete
      · exact hs.none_sent h e' hold
      · simp [hcomplete]
  | up _ hhalted hstate _ hdone hflush =>
    subst hdone
    -- a flush that went through sent or dropped everything that waited
    exact .of_connected ((state_flush ..).trans hstate) (flush_leaves_none_pending _ _ _ _ hflush)
      hhalted
  | queued hadmits hstate =>
    have hpending := congrArg Entry.state hadmits.hmake
    refine .of_not_connected ?_ ?_ ?_
    · rw [Connection.state_connect_of_ne_connected hstate]; decide
    · refine List.forall_mem_append.2 ⟨hs.none_sent hstate, ?_⟩
      simp [hpending, Entry.make]
    · simp [hadmits.hhalted]
  | sent hadmits hstate hsend =>
    refine .of_connected ((Connection.state_of_send hsend).trans hstate) ?_ hadmits.hhalted
    exact List.forall_mem_append.2 ⟨hs.none_pending hstate, by simp⟩
  | requeued hadmits hstate hsend =>
    -- the failed send ends the connection before the next attempt is started
    refine .of_not_connected ?_ (Queue.demoteSent_leaves_none_sent _) (by simp [hadmits.hhalted])
    rw [Connection.state_connect_of_ne_connected (by simp)]
    decide

/-- A session is in phase after every run. -/
theorem inPhase_run {config : Config} {link : σ} {s : Session ρ σ}
    (h : Session.new config link = .ok s) (turns : List (Turn ρ σ)) : InPhase (s.run turns) :=
  run_induction (inPhase_new h) (fun s turn hs => hs.outcome (perform_outcome turn s)) turns

/-- **Phases.** After every run of a session, a connected session has no lookup waiting to be sent
and a session that is not connected has none in flight, so the outstanding lookups are all in
flight or all waiting. -/
theorem outstanding_lookups_follow_connection {config : Config} {link : σ} {start : Session ρ σ}
    (hnew : Session.new config link = .ok start) (turns : List (Turn ρ σ)) :
    let s := start.run turns
    (s.connection.state = .connected → ∀ e ∈ s.queue.entries, e.state ≠ .pending)
      ∧ (s.connection.state = .disconnected ∨ s.connection.state = .connecting →
          ∀ e ∈ s.queue.entries, e.state ≠ .sent)
      ∧ ∀ e ∈ s.queue.entries, e.isOutstanding →
          e.state = if s.connection.state = .connected then .sent else .pending := by
  intro s
  have hs : InPhase s := inPhase_run hnew turns
  -- the third part says of both states at once what the first two say of each
  refine ⟨hs.none_pending, ?_, ?_⟩
  · intro hstate
    apply hs.none_sent
    rcases hstate with h | h <;> simp [h]
  · intro e he hout
    have hcomplete : e.state ≠ .complete := by simpa [Entry.isOutstanding] using hout
    split
    · have hpending := hs.none_pending ‹_› e he
      cases hstate : e.state <;> simp_all
    · have hsent := hs.none_sent ‹_› e he
      cases hstate : e.state <;> simp_all

/-- A link that fails on the second lookup of a flush leaves both waiting. -/
theorem cut_flush_leaves_none_in_flight :
    let turns := [.submit 0 "10.0.0.1" [], .submit 1 "10.0.0.2" [],
      .relink { RecordingLink.new with fault := some (1, .notConnected) },
      .event .connected].map Turn.plain
    (recorded.run turns).queue.entries.map Entry.state = [.pending, .pending]
      ∧ ∀ e ∈ (recorded.run turns).queue.entries, e.state ≠ .sent := by
  intro turns
  refine ⟨by decide +kernel, ?_⟩
  exact (outstanding_lookups_follow_connection new_recorded turns).2.1 (.inl (by decide +kernel))

end CidrLookup.Session
