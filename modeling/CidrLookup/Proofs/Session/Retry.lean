import CidrLookup.Proofs.Session.Phase

/-!
# What starts the next attempt

A session that lost its connection waits to be asked for something. `state_submit_iff` says when
being asked is enough: a submission leaves the session connecting or connected unless it was
disconnected with as many lookups outstanding as it may have. The limit is looked at before the
connection, so a full session that is disconnected refuses every submission and starts nothing; the
lookups that fill it wait for a connection, and no number of submissions brings one.
-/

namespace CidrLookup

variable {ρ σ : Type}

/-- A call that asks for an address. -/
def Turn.Submits (turn : Turn ρ σ) : Prop :=
  ∃ requester text metadata, turn.call = .submit requester text metadata

namespace Session

/-- As many lookups are outstanding as there may be. -/
def IsFull (s : Session ρ σ) : Prop :=
  s.queue.maxPending ≤ s.queue.outstanding

instance (s : Session ρ σ) : Decidable s.IsFull :=
  inferInstanceAs (Decidable (_ ≤ _))

variable [Link σ]

/-! ## Submissions that are taken -/

/-- A submission that is taken finds a connection or starts an attempt. -/
theorem Outcome.state_ne_disconnected {turn : Turn ρ σ} {s s' : Session ρ σ} {reply : Reply}
    (h : Outcome turn s reply s') (haccepted : reply.accepted) :
    s'.connection.state ≠ .disconnected := by
  cases h with
  | queued _ hstate =>
    rw [Connection.state_connect_of_ne_connected hstate]
    decide
  | sent _ hstate hsend =>
    have hconnected := (Connection.state_of_send hsend).trans hstate
    simp [hconnected]
  | requeued =>
    -- the refused frame closed the link, so the next attempt is not skipped
    rw [Connection.state_connect_of_ne_connected (by simp)]
    decide
  | noted hreply => simp [hreply] at haccepted
  | lost hreply => simp [hreply] at haccepted
  | relinked | purged | opened | released | informed | answered | up | unnamed | cut =>
    contradiction

/-! ## Submissions that are refused -/

/-- A full session takes no submission, whatever it asks for. -/
theorem next_of_isFull {s : Session ρ σ} (hfull : s.IsFull) {turn : Turn ρ σ}
    (hturn : turn.Submits) : s.next turn = s := by
  obtain ⟨requester, text, metadata, hcall⟩ := hturn
  have hpush (entry : Entry ρ) : s.queue.push entry = .error (.queueFull s.queue.maxPending) :=
    if_pos hfull
  rw [next, perform, hcall]
  simp only [submit, hpush, Prod.map]
  split
  · rfl
  · split
    · rfl
    · split <;> rfl

/-- A session whose queue is full is changed by no submissions, however many. -/
theorem run_of_isFull {s : Session ρ σ} (hfull : s.IsFull) {turns : List (Turn ρ σ)}
    (hturns : ∀ turn ∈ turns, turn.Submits) : s.run turns = s := by
  induction turns with
  | nil => rfl
  | cons turn more ih =>
    obtain ⟨hturn, hmore⟩ := List.forall_mem_cons.1 hturns
    show (s.next turn).run more = s
    rw [next_of_isFull hfull hturn, ih hmore]

/-! ## Requests without a fault -/

section Sound

variable {s : Session ρ σ} {requester : ρ} {text : String} {metadata : Metadata}
  {address : Address} {frame : Bytes} (around : Surroundings ρ)

/-- A request that nothing is wrong with is refused by a full session, and only by one. -/
theorem perform_submit (hhalted : s.halted = none) (hparse : Address.parse text = .ok address)
    (hframe : (Entry.make requester address metadata).frame = .ok frame) :
    (s.IsFull ∧ (s.perform ⟨around, .submit requester text metadata⟩).1
        = .submitted (.error (.queueFull s.queue.maxPending)))
      ∨ ¬ s.IsFull ∧ (s.perform ⟨around, .submit requester text metadata⟩).1.accepted := by
  -- with a sound request, only the room in the queue is left to decide
  by_cases hfull : s.IsFull
  · have hpush : s.queue.push (.make requester address metadata)
        = .error (.queueFull s.queue.maxPending) := if_pos hfull
    refine .inl ⟨hfull, ?_⟩
    simp only [perform, submit, hhalted, hparse, hframe, hpush, Prod.map]
  · have hpush : s.queue.push (.make requester address metadata)
        = .ok { s.queue with
            entries := s.queue.entries ++ [.make requester address metadata] } := if_neg hfull
    refine .inr ⟨hfull, ?_⟩
    simp only [perform, submit, hhalted, hparse, hframe, hpush, Prod.map]
    rfl

/-- **When a submission tries again.** -/
theorem state_submit_iff (hhalted : s.halted = none) (hparse : Address.parse text = .ok address)
    (hframe : (Entry.make requester address metadata).frame = .ok frame) :
    (s.next ⟨around, .submit requester text metadata⟩).connection.state = .disconnected
      ↔ s.connection.state = .disconnected ∧ s.IsFull := by
  obtain ⟨hfull, -⟩ | ⟨hfull, haccepted⟩ := perform_submit around hhalted hparse hframe
  · rw [next_of_isFull hfull ⟨_, _, _, rfl⟩]
    exact (and_iff_left hfull).symm
  · have hstate := (perform_outcome _ s).state_ne_disconnected haccepted
    exact ⟨fun h => absurd h hstate, fun h => absurd h.2 hfull⟩

end Sound

/-- **Only a session with room tries again.** Whatever happened to a session that has not given up,
a submission that nothing is wrong with leaves it connecting or connected, unless it is disconnected
and full. Then the submission is refused, every outstanding lookup waits for a connection, and any
number of submissions leaves the session as it is. -/
theorem submission_reconnects_unless_full {config : Config} {link : σ} {start : Session ρ σ}
    (hnew : Session.new config link = .ok start) (turns : List (Turn ρ σ))
    (around : Surroundings ρ) {requester : ρ} {text : String} {metadata : Metadata}
    {address : Address} {frame : Bytes} (hhalted : (start.run turns).halted = none)
    (hparse : Address.parse text = .ok address)
    (hframe : (Entry.make requester address metadata).frame = .ok frame) :
    let s := start.run turns
    let turn : Turn ρ σ := ⟨around, .submit requester text metadata⟩
    ((s.next turn).connection.state = .disconnected
        ↔ s.connection.state = .disconnected ∧ s.IsFull)
      ∧ (s.IsFull → (s.perform turn).1 = .submitted (.error (.queueFull s.queue.maxPending)))
      ∧ (s.connection.state = .disconnected → s.IsFull →
          (∀ e ∈ s.queue.entries, e.isOutstanding → e.state = .pending)
          ∧ ∀ more : List (Turn ρ σ), (∀ turn ∈ more, turn.Submits) → s.run more = s) := by
  intro s turn
  refine ⟨state_submit_iff around hhalted hparse hframe, ?_, ?_⟩
  · intro hfull
    obtain ⟨-, hreply⟩ | ⟨hroom, -⟩ := perform_submit around hhalted hparse hframe
    · exact hreply
    · exact absurd hfull hroom
  · intro hstate hfull
    refine ⟨?_, fun more hmore => run_of_isFull hfull hmore⟩
    intro e he houtstanding
    have hsent := (inPhase_run hnew turns).none_sent (by rw [hstate]; decide) e he
    cases h : e.state <;> simp_all [Entry.isOutstanding]

/-! ## A session with room for one -/

/-- A session that may have one lookup outstanding, before its first call. -/
def narrow : Session Nat RecordingLink :=
  { recorded with config := { Config.default with maxPending := 1 }, queue := .empty 1 }

/-- The narrow session is a new one, with room for one lookup. -/
theorem new_narrow :
    Session.new { Config.default with maxPending := 1 } RecordingLink.new = .ok narrow := by
  have hhost : Endpoint.make "127.0.0.1" 9595 = .ok ⟨"127.0.0.1", 9595⟩ := by rfl
  simp only [Session.new, Config.default, Config.defaultPort, hhost]
  rfl

/-- A lookup is submitted, and the connection is refused. -/
def outage : List (Turn Nat RecordingLink) :=
  [.submit 1 "10.0.0.1" [], .event (.failed ⟨.connect, "refused"⟩)].map Turn.plain

/-- A second lookup that nothing is wrong with. -/
theorem second_request_is_sound :
    (narrow.run outage).halted = none ∧ Address.parse "10.0.0.2" = .ok ⟨0x0A000002⟩
      ∧ (Entry.make 2 ⟨0x0A000002⟩ []).frame = .ok [1, 2, 10, 0, 0, 2, 0] := by
  decide +kernel

/-- The lookup that waits keeps every later one out, so that none starts an attempt. -/
theorem submissions_after_outage_change_nothing :
    (narrow.run outage).halted = none
      ∧ (narrow.run outage).queue.entries.map Entry.state = [.pending]
      ∧ (narrow.run outage).run ([.submit 2 "10.0.0.2" [], .submit 3 "10.0.0.3" []].map Turn.plain)
        = narrow.run outage := by
  obtain ⟨hhalted, hparse, hframe⟩ := second_request_is_sound
  refine ⟨hhalted, by decide +kernel, ?_⟩
  obtain ⟨-, -, hfull⟩ := submission_reconnects_unless_full new_narrow outage ⟨⟨0⟩, fun _ => true⟩
    hhalted hparse hframe
  refine (hfull (by decide +kernel) (by decide +kernel)).2 _ ?_
  simp [Turn.plain, Turn.Submits]

/-- A submission without a fault need not leave a session connecting or connected: here it is
refused for now, the session stays disconnected, and the link is not told to connect. -/
theorem submission_may_leave_disconnected :
    let s := narrow.run outage
    let turn := Turn.plain (.submit 2 "10.0.0.2" [])
    s.halted = none ∧ Address.parse "10.0.0.2" = .ok ⟨0x0A000002⟩
      ∧ (Entry.make 2 ⟨0x0A000002⟩ []).IsEncodable
      ∧ (s.perform turn).1 = .submitted (.error (.queueFull 1))
      ∧ (SessionError.queueFull 1).isRetryable
      ∧ (s.next turn).connection.state = .disconnected
      ∧ (s.next turn).queue.entries.map Entry.state = [.pending]
      ∧ (s.next turn).connection.link.targets = s.connection.link.targets := by
  intro s turn
  obtain ⟨hhalted, hparse, hframe⟩ : s.halted = none ∧ _ ∧ _ := second_request_is_sound
  have hfull : s.IsFull := by decide +kernel
  have hmax : s.queue.maxPending = 1 := by decide +kernel
  have hstate : s.connection.state = .disconnected := by decide +kernel
  have hpending : s.queue.entries.map Entry.state = [.pending] := by decide +kernel
  clear_value s
  have hunchanged : s.next turn = s := next_of_isFull hfull ⟨2, "10.0.0.2", [], rfl⟩
  obtain ⟨-, hreply⟩ | ⟨hroom, -⟩ := perform_submit turn.around hhalted hparse hframe
  · rw [hmax] at hreply
    rw [hunchanged]
    exact ⟨hhalted, hparse, ⟨_, hframe⟩, hreply, rfl, hstate, hpending, rfl⟩
  · exact absurd hfull hroom

end Session

end CidrLookup
