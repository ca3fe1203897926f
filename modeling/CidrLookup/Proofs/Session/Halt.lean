import CidrLookup.Proofs.Message.Version
import CidrLookup.Proofs.Session.Moves
import CidrLookup.Proofs.Session.Phase
import Mathlib.Data.List.Induction

/-!
# Giving up

A session gives up when it is brought a frame of another protocol version, and for no other reason.
`Rests` says what it does from then on: it closes what it is told to close, and nothing else. Only
some of the operations ask whether the session has given up. The others do nothing because such a
session is disconnected, which is why no lookup of it is in flight: an answer that comes late
matches nothing, and a connection that comes up late is let go.
-/

namespace CidrLookup

variable {ρ σ : Type}

/-- A turn that brings a frame of another protocol version. -/
def Turn.BringsForeign (turn : Turn ρ σ) : Prop :=
  ∃ frame, turn.call = .event (.received frame) ∧ Message.IsForeign frame

/-! ## Outstanding lookups -/

namespace Queue

/-- A lookup that is outstanding after the end of a connection waits for the next one. -/
theorem outstandingEntries_demoteSent (queue : Queue ρ) :
    queue.demoteSent.outstandingEntries
      = queue.outstandingEntries.map (·.withState .pending) := by
  rw [outstandingEntries_demoteSent_eq_map]
  refine List.map_congr_left fun e he => ?_
  have hout : e.isOutstanding := (List.mem_filter.1 he).2
  cases hstate : e.state with
  | pending =>
    rw [Entry.demote_of_ne_sent (by simp [hstate]), Entry.withState_eq_self hstate]
  | sent => exact Entry.demote_of_sent hstate
  | complete => simp [Entry.isOutstanding, hstate] at hout

/-- A queue with nothing in flight has nothing to take back. -/
theorem demoteSent_of_none_sent {queue : Queue ρ} (h : ∀ e ∈ queue.entries, e.state ≠ .sent) :
    queue.demoteSent = queue := by
  show { queue with entries := queue.entries.map Entry.demote } = queue
  rw [Entry.map_demote_of_none_sent h]

/-- Where nothing is in flight, every outstanding lookup waits for a connection. -/
theorem outstandingEntries_of_none_sent {queue : Queue ρ}
    (h : ∀ e ∈ queue.entries, e.state ≠ .sent) :
    queue.outstandingEntries.map (·.withState .pending) = queue.outstandingEntries := by
  rw [← outstandingEntries_demoteSent, demoteSent_of_none_sent h]

end Queue

namespace Session

/-- What a session that has given up has done since an earlier time: it has closed its link, and
every lookup that was outstanding then waits. -/
structure Rests (s s' : Session ρ σ) : Prop where
  halted : s'.halted.isSome
  only_closes : ∃ effects, s'.history = effects ++ s.history
    ∧ ∀ effect ∈ deeds effects, effect = .close
  outstanding : s'.queue.outstandingEntries
    = s.queue.outstandingEntries.map (·.withState .pending)

theorem Rests.trans {s s' s'' : Session ρ σ} (h : Rests s s') (h' : Rests s' s'') :
    Rests s s'' := by
  obtain ⟨first, hfirst, hcloses⟩ := h.only_closes
  obtain ⟨more, hmore, hcloses'⟩ := h'.only_closes
  refine ⟨h'.halted, ⟨more ++ first, ?_, ?_⟩, ?_⟩
  · rw [hmore, hfirst, List.append_assoc]
  · rw [deeds_append]
    exact List.forall_mem_append.2 ⟨hcloses', hcloses⟩
  · rw [h'.outstanding, h.outstanding, List.map_map]
    rfl

variable [Link σ]

/-! ## Turns -/

/-- A frame of another version ends the connection, and the session gives up. -/
theorem rests_of_foreign {turn : Turn ρ σ} (h : turn.BringsForeign) (s : Session ρ σ) :
    Rests s (s.next turn) := by
  obtain ⟨frame, hcall, hforeign⟩ := h
  obtain ⟨e, hdecode, hfatal⟩ :=
    (Message.decode_fatal_iff s.config.maxFrame).2 hforeign
  have hnext : s.next turn = fail e.message
      (note (.foreignVersion e) { s with halted := some e.message }) := by
    show (s.perform turn).2 = _
    simp only [perform, hcall, handleEvent, onFrame, hdecode, if_pos hfatal]
    rfl
  obtain ⟨effects, hfail, hdeeds, -⟩ :=
    fail_note_spec (.foreignVersion e) e.message { s with halted := some e.message }
  rw [hnext, hfail]
  refine ⟨rfl, ⟨effects, rfl, ?_⟩, s.queue.outstandingEntries_demoteSent⟩
  rw [hdeeds]
  exact List.forall_mem_singleton.2 rfl

/-- A session that has given up goes on as it is, whatever it is asked for or told. -/
theorem Outcome.rests {turn : Turn ρ σ} {s s' : Session ρ σ} {reply : Reply}
    (h : Outcome turn s reply s') (hs : s.InPhase) (hhalted : s.halted.isSome) : Rests s s' := by
  have hdisconnected := hs.disconnected_of_halted hhalted
  have hsent := hs.none_sent (by simp [hdisconnected])
  have hsome : s.halted ≠ none := Option.isSome_iff_ne_none.1 hhalted
  -- with nothing in flight, what is outstanding waits already
  have hwaits := Queue.outstandingEntries_of_none_sent hsent
  cases h with
  | noted _ hdeeds => exact ⟨hhalted, ⟨_, rfl, by simp [hdeeds]⟩, hwaits.symm⟩
  | relinked link => exact ⟨hhalted, ⟨[], rfl, by simp⟩, hwaits.symm⟩
  | informed hdeeds => exact ⟨hhalted, ⟨_, rfl, by simp [hdeeds]⟩, hwaits.symm⟩
  | purged =>
    refine ⟨hhalted, ⟨[], rfl, by simp⟩, ?_⟩
    rw [hwaits]
    exact s.queue.outstandingEntries_purge
  | released _ _ hdeeds => exact ⟨hhalted, ⟨_, rfl, by simp [hdeeds]⟩, hwaits.symm⟩
  | lost _ hdeeds hgives =>
    refine ⟨?_, ⟨_, rfl, by simp [hdeeds]⟩, s.queue.outstandingEntries_demoteSent⟩
    obtain rfl | ⟨_, e, -, -, -, rfl⟩ := hgives
    · exact hhalted
    · rfl
  | answered _ _ hfound =>
    obtain ⟨front, e, back, hentries, -, -, hawaits, -⟩ := Queue.completeFirstSent_spec hfound
    have hmem : e ∈ s.queue.entries := by
      rw [hentries]
      exact List.mem_append_cons_self
    exact absurd hawaits.1 (hsent e hmem)
  | opened hnone => exact absurd hnone hsome
  | up _ hnone => exact absurd hnone hsome
  | unnamed _ hnone => exact absurd hnone hsome
  | cut _ hnone => exact absurd hnone hsome
  | queued hadmits => exact absurd hadmits.hhalted hsome
  | sent hadmits => exact absurd hadmits.hhalted hsome
  | requeued hadmits => exact absurd hadmits.hhalted hsome

/-- A session that has not given up does so in a turn that brings a foreign frame only. -/
theorem Outcome.bringsForeign {turn : Turn ρ σ} {s s' : Session ρ σ} {reply : Reply}
    (h : Outcome turn s reply s') (hnone : s.halted = none) (hhalted : s'.halted.isSome) :
    turn.BringsForeign := by
  -- only a loss may give up, and only for a record of a foreign version
  cases h with
  | lost _ _ hgives =>
    obtain rfl | ⟨frame, e, hcall, hdecode, hfatal, -⟩ := hgives
    · rw [hnone] at hhalted
      contradiction
    · exact ⟨frame, hcall, (Message.decode_fatal_iff _).1 ⟨e, hdecode, hfatal⟩⟩
  | noted | relinked | purged | opened | released | informed | answered | up | unnamed | cut
  | queued | sent | requeued =>
    have heq : s.halted.isSome := hhalted
    rw [hnone] at heq
    contradiction

/-! ## Runs -/

/-- A session that rests does so however long it is called. -/
theorem rests_run {s s' : Session ρ σ} (hs : Rests s s') (hphase : s'.InPhase)
    (more : List (Turn ρ σ)) : Rests s (s'.run more) := by
  have hall : Rests s (s'.run more) ∧ (s'.run more).InPhase := by
    refine run_induction (motive := fun s' => Rests s s' ∧ s'.InPhase) ⟨hs, hphase⟩ ?_ more
    rintro s' turn ⟨hs, hphase⟩
    have houtcome := perform_outcome turn s'
    exact ⟨hs.trans (houtcome.rests hphase hs.halted), hphase.outcome houtcome⟩
  exact hall.1

/-- A session has given up if and only if a record of a foreign version was heard. -/
theorem halted_run_iff {config : Config} {link : σ} {start : Session ρ σ}
    (hnew : Session.new config link = .ok start) (turns : List (Turn ρ σ)) :
    (start.run turns).halted.isSome ↔ ∃ turn ∈ turns, turn.BringsForeign := by
  -- along the run: what halts is the last turn, or was there before and stays
  induction turns using List.reverseRecOn with
  | nil =>
    have hnone := (new_spec hnew).not_halted
    simp [hnone]
  | append_singleton turns turn ih =>
    have hphase := inPhase_run hnew turns
    have houtcome := perform_outcome turn (start.run turns)
    rw [run_concat]
    constructor
    · intro hhalted
      cases hbefore : (start.run turns).halted with
      | none =>
        exact ⟨turn, List.mem_concat_self, houtcome.bringsForeign hbefore hhalted⟩
      | some reason =>
        obtain ⟨earlier, hmem, hforeign⟩ := ih.1 (by rw [hbefore]; rfl)
        exact ⟨earlier, List.mem_append_left _ hmem, hforeign⟩
    · rintro ⟨earlier, hmem, hforeign⟩
      rcases List.mem_append.1 hmem with hold | hlast
      · exact (houtcome.rests hphase (ih.2 ⟨earlier, hold, hforeign⟩)).halted
      · rw [List.mem_singleton.1 hlast] at hforeign
        exact (rests_of_foreign hforeign _).halted

/-- **A session gives up on another version, and for good.** A session has given up if and only if
one of its turns brought a frame of another protocol version. From that turn on, whatever turns
follow it, the session is disconnected and does nothing but close its link: it starts no attempt,
sends nothing and answers nobody. It does not connect when told to, it refuses every submission and
is the same afterwards, and every lookup that was outstanding before that turn waits in the
queue. -/
theorem foreign_version_halts_for_good {config : Config} {link : σ} {start : Session ρ σ}
    (hnew : Session.new config link = .ok start) (turns : List (Turn ρ σ)) :
    ((start.run turns).halted.isSome ↔ ∃ turn ∈ turns, turn.BringsForeign)
      ∧ ∀ before turn more, turns = before ++ turn :: more → turn.BringsForeign →
        let s := start.run before
        let s' := start.run turns
        s'.connection.state = .disconnected
          ∧ (∀ effect ∈ deeds (since s s'), effect = .close)
          ∧ s'.connect = (false, s')
          ∧ (∃ reason, s'.halted = some reason ∧ ∀ now requester text metadata,
              s'.submit now requester text metadata = (.error (.halted reason), s'))
          ∧ s'.queue.outstandingEntries
            = s.queue.outstandingEntries.map (·.withState .pending) := by
  refine ⟨halted_run_iff hnew turns, ?_⟩
  intro before turn more hturns hforeign s s'
  -- the rest of the run starts with a session that has given up
  have hrun : s' = (s.next turn).run more := by
    show start.run turns = _
    rw [hturns, run_append]
    rfl
  have hrests : Rests s s' := by
    rw [hrun]
    exact rests_run (rests_of_foreign hforeign s)
      ((inPhase_run hnew before).outcome (perform_outcome turn s)) more
  have hdisconnected : s'.connection.state = .disconnected :=
    (inPhase_run hnew turns).disconnected_of_halted hrests.halted
  obtain ⟨reason, hreason⟩ := Option.isSome_iff_exists.1 hrests.halted
  obtain ⟨effects, hhistory, hcloses⟩ := hrests.only_closes
  refine ⟨hdisconnected, ?_, ?_, ⟨reason, hreason, ?_⟩, hrests.outstanding⟩
  · have hsince : since s s' = effects.reverse :=
      since_of_history_eq (by rw [List.reverse_reverse]; exact hhistory)
    rw [hsince, deeds_reverse]
    intro effect heffect
    exact hcloses effect (List.mem_reverse.1 heffect)
  · rw [connect, hreason]
  · intro now requester text metadata
    rw [submit, hreason]

/-- A lookup is in flight when the service answers in another version. The connection comes up once
more, the answer arrives after all, and another lookup is submitted: the first still waits, and the
link was told to close and nothing else. -/
theorem late_answer_reaches_nobody :
    let before := [.submit 0 "10.0.0.1" [], .event .connected].map Turn.plain
    let foreign := Turn.plain (.event (.received [2]))
    let turns := before ++ foreign :: [.event .connected, .event (.received [1, 4, 10, 0, 0, 1]),
      .submit 1 "10.0.0.2" []].map Turn.plain
    foreign.BringsForeign ∧ (recorded.run before).queue.entries.map Entry.state = [.sent]
      ∧ (recorded.run turns).connection.state = .disconnected
      ∧ (∀ effect ∈ deeds (since (recorded.run before) (recorded.run turns)), effect = .close)
      ∧ (recorded.run turns).queue.outstandingEntries
        = (recorded.run before).queue.outstandingEntries.map (·.withState .pending)
      ∧ (recorded.run turns).queue.entries.map Entry.requester = [0] := by
  intro before foreign turns
  have hforeign : foreign.BringsForeign := ⟨[2], rfl, 2, [], rfl, by decide⟩
  obtain ⟨-, hgood⟩ := foreign_version_halts_for_good new_recorded turns
  obtain ⟨hdisconnected, hcloses, -, -, houtstanding⟩ := hgood before foreign _ rfl hforeign
  exact ⟨hforeign, by decide +kernel, hdisconnected, hcloses, houtstanding, by decide +kernel⟩

end Session

end CidrLookup
