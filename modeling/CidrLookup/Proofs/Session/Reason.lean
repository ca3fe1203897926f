import CidrLookup.Proofs.Session.Phase
import Mathlib.Data.List.Induction

/-!
# Why a session is disconnected

A session remembers why its last connection ended or was not made. Some ends leave what it
remembers alone: the connection is closed on request, or because it was idle, or it comes up when
the session has given up. `Outcome.explained` is the step: a session that a turn leaves disconnected
with lookups outstanding was told why in that turn, or was such a session before, unless the turn
asked for the end. An idle connection has nothing outstanding, which is where the phases of the
lookups come in.
-/

namespace CidrLookup.Session

variable {ρ σ : Type}

/-! ## Idle connections -/

/-- A connection is idle only while it is up and nothing is in flight. -/
theorem state_of_idleFor {s : Session ρ σ} {now : Instant} {idle : Duration}
    (hidle : s.idleFor now = some idle) :
    s.connection.state = .connected ∧ s.queue.hasSent = false := by
  unfold idleFor at hidle
  split at hidle
  · contradiction
  · simp_all

/-- A connected session has nothing in flight if and only if it has nothing outstanding. -/
theorem InPhase.hasSent_eq_false_iff {s : Session ρ σ} (hs : s.InPhase)
    (hstate : s.connection.state = .connected) :
    s.queue.hasSent = false ↔ s.queue.outstanding = 0 := by
  rw [Queue.hasSent, List.any_eq_false, Queue.outstanding, List.countP_eq_zero]
  refine forall₂_congr fun e he => ?_
  have hpending := hs.none_pending hstate e he
  cases h : e.state <;> simp_all [Entry.isOutstanding]

/-- A connection with something outstanding is not idle: what is outstanding would be in flight. -/
theorem InPhase.outstanding_of_idleFor {s : Session ρ σ} (hs : s.InPhase) {now : Instant}
    {idle : Duration} (hidle : s.idleFor now = some idle) :
    ∀ e ∈ s.queue.entries, ¬ e.isOutstanding := by
  obtain ⟨hstate, hnone⟩ := state_of_idleFor hidle
  exact List.countP_eq_zero.1 ((hs.hasSent_eq_false_iff hstate).1 hnone)

/-- The end of an idle connection leaves no lookups waiting. -/
theorem InPhase.outstanding_eq_zero {s : Session ρ σ} (hs : s.InPhase) {now : Instant}
    {idle : Duration} (hidle : s.idleFor now = some idle) : s.queue.demoteSent.outstanding = 0 := by
  refine List.countP_eq_zero.2 fun demoted hmem => ?_
  obtain ⟨e, he, rfl⟩ := List.mem_map.1 hmem
  rw [Entry.isOutstanding_demote]
  exact hs.outstanding_of_idleFor hidle e he

/-! ## Turns -/

variable [Link σ] {turn : Turn ρ σ} {s s' : Session ρ σ} {reply : Reply}

/-- **The step for sessions without a connection.** -/
theorem Outcome.explained (h : Outcome turn s reply s') (hphase : s.InPhase)
    (hasked : turn.call ≠ .disconnect) (hstate : s'.connection.state = .disconnected)
    (hout : 0 < s'.queue.outstanding) :
    s'.lastError.isSome
      ∨ s.connection.state = .disconnected ∧ 0 < s.queue.outstanding ∧ s'.halted = s.halted
        ∧ s'.lastError = s.lastError := by
  cases h with
  | noted => exact .inr ⟨hstate, hout, rfl, rfl⟩
  | relinked link => exact .inr ⟨hstate, hout, rfl, rfl⟩
  | informed => exact .inr ⟨hstate, hout, rfl, rfl⟩
  | purged =>
    have hle : s.queue.purge.outstanding ≤ s.queue.outstanding :=
      List.filter_sublist.countP_le
    exact .inr ⟨hstate, Nat.lt_of_lt_of_le hout hle, rfl, rfl⟩
  | released _ hhalted =>
    exact .inr ⟨hphase.disconnected_of_halted hhalted, hout, rfl, rfl⟩
  | lost _ _ _ hcause =>
    cases hcause with
    | asked hcall => contradiction
    | idle _ hidle =>
      have hzero := hphase.outstanding_eq_zero hidle
      simp only at hout
      omega
    | event => exact .inl rfl
  | unnamed => exact .inl rfl
  | cut => exact .inl rfl
  | answered _ _ hfound =>
    -- the lookup that is answered is in flight, so the session is connected
    obtain ⟨front, e, back, hentries, -, -, ⟨hsent, -⟩, -⟩ := Queue.completeFirstSent_spec hfound
    have hmem : e ∈ s.queue.entries := by
      rw [hentries]
      exact List.mem_append_cons_self
    have hne : s.connection.state ≠ .connected := by
      intro hconnected
      rw [hconnected] at hstate
      contradiction
    exact absurd hsent (hphase.none_sent hne e hmem)
  | opened _ hdisconnected =>
    rw [Connection.state_connect, if_pos hdisconnected] at hstate
    contradiction
  | up _ _ hconnected _ hdone =>
    subst hdone
    rw [state_flush, hconnected] at hstate
    contradiction
  | queued _ hne =>
    rw [Connection.state_connect_of_ne_connected hne] at hstate
    contradiction
  | sent _ hconnected hsend =>
    rw [Connection.state_of_send hsend, hconnected] at hstate
    contradiction
  | requeued =>
    rw [Connection.state_connect_of_ne_connected (by simp)] at hstate
    contradiction

/-- **The step for connected sessions.** A turn that leaves a session connected found it connected,
or brought the connection up and forgot how the last one ended. -/
theorem Outcome.lastError_eq_none (h : Outcome turn s reply s')
    (hs : s.connection.state = .connected → s.lastError = none)
    (hstate : s'.connection.state = .connected) : s'.lastError = none := by
  -- outcomes that leave the connection, that clear the error, that end the connection and that
  -- start one
  cases h with
  | noted | relinked | informed | purged | answered => exact hs hstate
  | sent _ hconnected => exact hs hconnected
  | up => rfl
  | released | lost | unnamed | cut => contradiction
  | opened _ hdisconnected =>
    rw [Connection.state_connect, if_pos hdisconnected] at hstate
    contradiction
  | queued _ hne =>
    rw [Connection.state_connect_of_ne_connected hne] at hstate
    contradiction
  | requeued =>
    rw [Connection.state_connect_of_ne_connected (by simp)] at hstate
    contradiction

/-! ## Runs -/

omit [Link σ] in
/-- What a session remembers fits where its connection stands. -/
structure SaysWhy (s : Session ρ σ) : Prop where
  in_phase : s.InPhase
  none_of_connected : s.connection.state = .connected → s.lastError = none
  some_of_outstanding : s.connection.state = .disconnected → 0 < s.queue.outstanding →
    s.lastError.isSome

/-- Whatever a turn comes to, the session says why, unless it was asked to disconnect. -/
theorem SaysWhy.outcome (hs : s.SaysWhy) (h : Outcome turn s reply s')
    (hasked : turn.call ≠ .disconnect) : s'.SaysWhy := by
  refine ⟨hs.in_phase.outcome h, h.lastError_eq_none hs.none_of_connected, ?_⟩
  intro hstate hout
  rcases h.explained hs.in_phase hasked hstate hout with hsome | ⟨hbefore, hout', -, heq⟩
  · exact hsome
  · rw [heq]
    exact hs.some_of_outstanding hbefore hout'

/-- A session that is not asked to disconnect says why after every run. -/
theorem saysWhy_run {config : Config} {link : σ} {start : Session ρ σ}
    (hnew : Session.new config link = .ok start) {turns : List (Turn ρ σ)}
    (hasked : ∀ turn ∈ turns, turn.call ≠ .disconnect) : (start.run turns).SaysWhy := by
  induction turns using List.reverseRecOn with
  | nil =>
    obtain ⟨hstate, hqueue, -, -⟩ := new_spec hnew
    refine ⟨inPhase_new hnew, fun h => ?_, fun _ hout => ?_⟩
    · rw [run_nil, hstate] at h
      contradiction
    · rw [run_nil, Queue.outstanding, hqueue] at hout
      contradiction
  | append_singleton turns turn ih =>
    obtain ⟨hturns, hturn⟩ := List.forall_mem_append.1 hasked
    rw [run_concat]
    exact (ih hturns).outcome (perform_outcome turn _) (hturn turn (List.mem_singleton_self turn))

/-- **A failed session can say why.** Let a session be called in any way but to disconnect, with any
events in any order and a link that fails whenever it does. At each moment a connected session
remembers no failure, and a session that is disconnected with a lookup outstanding remembers one. An
idle sweep never ends the connection of a session with a lookup outstanding: it does nothing. -/
theorem failed_session_says_why {config : Config} {link : σ} {start : Session ρ σ}
    (hnew : Session.new config link = .ok start) (turns : List (Turn ρ σ))
    (hasked : ∀ turn ∈ turns, turn.call ≠ .disconnect) :
    let s := start.run turns
    (s.connection.state = .connected → s.lastError = none)
      ∧ (s.connection.state = .disconnected → (∃ e ∈ s.queue.entries, e.isOutstanding) →
          ∃ reason, s.lastError = some reason)
      ∧ ((∃ e ∈ s.queue.entries, e.isOutstanding) → ∀ now, s.sweepIdle now = (false, s)) := by
  intro s
  have hs : s.SaysWhy := saysWhy_run hnew hasked
  refine ⟨hs.none_of_connected, ?_, ?_⟩
  · intro hstate hout
    have hpos : 0 < s.queue.outstanding := List.countP_pos_iff.2 hout
    exact Option.isSome_iff_exists.1 (hs.some_of_outstanding hstate hpos)
  -- a session counts as idle only with nothing outstanding
  · rintro ⟨e, he, hout⟩ now
    have hbusy : s.idleFor now = none := by
      by_contra hne
      obtain ⟨idle, hidle⟩ := Option.ne_none_iff_exists'.1 hne
      exact hs.in_phase.outstanding_of_idleFor hidle e he hout
    rw [sweepIdle, hbusy]

/-- An attempt fails and leaves its reason; the next one comes up, which clears it, and the lookup
in flight keeps the connection from being idle. -/
theorem refused_attempt_is_remembered :
    let refused := [.submit 0 "10.0.0.1" [], .event (.failed ⟨.connect, "refused"⟩)].map Turn.plain
    let up := refused ++ [.connect, .event .connected].map Turn.plain
    (∀ turn ∈ up, turn.call ≠ .disconnect)
      ∧ (recorded.run refused).connection.state = .disconnected
      ∧ (∃ reason, (recorded.run refused).lastError = some reason)
      ∧ (recorded.run up).connection.state = .connected ∧ (recorded.run up).lastError = none
      ∧ ∀ now, (recorded.run up).sweepIdle now = (false, recorded.run up) := by
  intro refused up
  have hasked : ∀ turn ∈ up, turn.call ≠ .disconnect := by simp [up, refused, Turn.plain]
  have hasked' : ∀ turn ∈ refused, turn.call ≠ .disconnect := fun turn hturn =>
    hasked turn (List.mem_append_left _ hturn)
  have hdisconnected : (recorded.run refused).connection.state = .disconnected := by
    decide +kernel
  have hconnected : (recorded.run up).connection.state = .connected := by decide +kernel
  obtain ⟨-, hreason, -⟩ := failed_session_says_why new_recorded refused hasked'
  obtain ⟨hnone, -, hsweep⟩ := failed_session_says_why new_recorded up hasked
  exact ⟨hasked, hdisconnected, hreason hdisconnected (by decide +kernel), hconnected,
    hnone hconnected, hsweep (by decide +kernel)⟩

end CidrLookup.Session
