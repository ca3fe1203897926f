import CidrLookup.Proofs.Session.Frames
import CidrLookup.Proofs.Session.Submission

/-!
# What the queue of a session holds

A lookup enters the queue by a submission and keeps what it was made of, whatever its state. So its
text is that of its address, its request has the written form that the submission saw, and as many
lookups are outstanding as the configuration allows, or fewer.

Two things follow for the operations. An answer is matched by text, which is the same as by address.
And a flush, which can drop a lookup whose request has no written form, finds none: `unwritten` are
the lookups that were dropped so, and no operation adds to them.
-/

namespace CidrLookup

variable {ρ σ : Type}

namespace Session

/-! ## Lookups without a written form -/

/-- The lookups that a session dropped since their requests have no written form. -/
def unwritten (s : Session ρ σ) : List (String × SessionError) :=
  s.history.filterMap Effect.unwritten?

/-- A flush drops no lookup whose request has a written form. -/
theorem dropped_flush [Link σ] (around : Surroundings ρ) (c : Connection σ)
    (effects : List (Effect ρ)) {entries : List (Entry ρ)} (h : ∀ e ∈ entries, e.IsEncodable) :
    dropped (flush around c effects entries).effects = dropped effects := by
  have hflushes := flush_flushes around c effects entries
  generalize flush around c effects entries = done at hflushes ⊢
  induction hflushes with
  | done => rfl
  | skipped _ _ ih => exact ih (List.forall_mem_cons.1 h).2
  | gone _ _ _ ih => exact ih (List.forall_mem_cons.1 h).2
  | unencodable _ _ herror =>
    -- the one case that notes a lookup, and no lookup that is encodable gets here
    obtain ⟨frame, hframe⟩ := (List.forall_mem_cons.1 h).1
    rw [hframe] at herror
    contradiction
  | sent _ _ _ _ _ ih => exact ih (List.forall_mem_cons.1 h).2
  | cut => rfl

/-- **The step.** Where every request has a written form, a turn drops no lookup for want of one. -/
theorem unwritten_next [Link σ] (turn : Turn ρ σ) (s : Session ρ σ)
    (h : ∀ e ∈ s.queue.entries, e.IsEncodable) : (s.next turn).unwritten = s.unwritten := by
  have houtcome := perform_outcome turn s
  show dropped (s.perform turn).2.history = dropped s.history
  generalize (s.perform turn).1 = reply at houtcome
  generalize (s.perform turn).2 = s' at houtcome ⊢
  have hadd {effects more : List (Effect ρ)} (hnone : dropped effects = []) :
      dropped (effects ++ more) = dropped more := by
    rw [dropped_append, hnone, List.nil_append]
  -- only a flush could drop a lookup so, and it comes to one in two of the outcomes
  cases houtcome with
  | relinked | purged | sent => rfl
  | noted _ _ _ hdropped => exact hadd hdropped
  | opened _ _ _ _ hdropped => exact hadd hdropped
  | released _ _ _ hdropped => exact hadd hdropped
  | lost _ _ _ _ hdropped => exact hadd hdropped
  | informed _ _ _ hdropped => exact hadd hdropped
  | answered _ _ _ _ hdropped => exact hadd hdropped
  | unnamed _ _ _ _ hdropped => exact hadd hdropped
  | queued _ _ _ hdropped => exact hadd hdropped
  | requeued _ _ _ _ hdropped => exact hadd hdropped
  | up _ _ _ _ hdone _ hdropped =>
    rw [hdone, dropped_flush _ _ _ h]
    exact hadd hdropped
  | cut _ _ _ _ hdone _ _ hdropped =>
    rw [hdone, dropped_append, dropped_flush _ _ _ h, ← dropped_append, ← List.append_assoc]
    exact hadd hdropped

/-! ## The limit -/

section Limit

variable {turn : Turn ρ σ} {s : Session ρ σ} {reply : Reply} {after : List (Entry ρ)}
  {given : List (ρ × Resolution)}

/-- No lookup that stays in its place becomes outstanding. -/
theorem countP_of_moved {entries entries' : List (Entry ρ)}
    (h : List.Forall₂ (Entry.Moved turn) entries entries') :
    entries'.countP Entry.isOutstanding ≤ entries.countP Entry.isOutstanding := by
  induction h with
  | nil => exact Nat.le_refl _
  | @cons e e' _ _ hmoved _ ih =>
    -- what waits for nothing never waits again
    obtain ⟨state, -, hlater⟩ := hmoved.later
    rw [List.countP_cons, List.countP_cons]
    refine Nat.add_le_add ih ?_
    by_cases hout : e'.isOutstanding
    · simp [hout, hlater hout]
    · simp [hout]

/-- A turn keeps the queue within its limit: only a lookup that is taken adds to it. -/
theorem Moves.countP_le (h : Moves turn s reply after given)
    (hlimit : s.queue.outstanding ≤ s.queue.maxPending) :
    after.countP Entry.isOutstanding ≤ s.queue.maxPending := by
  cases h with
  | stayed _ hmoved => exact Nat.le_trans (countP_of_moved hmoved) hlimit
  | purged => exact Nat.le_trans List.filter_sublist.countP_le hlimit
  | @joined _ entries _ entry _ state hadmits _ hmoved =>
    -- there was room for one more
    have hroom : s.queue.entries.countP Entry.isOutstanding < s.queue.maxPending := hadmits.hroom
    have hlast : [entry.withState state].countP Entry.isOutstanding ≤ 1 := List.countP_le_length
    have hkept := countP_of_moved hmoved
    rw [List.countP_append]
    omega
  | @answered _ front back e _ _ hentries =>
    have hfewer : (front ++ e.withState .complete :: back).countP Entry.isOutstanding
        ≤ s.queue.entries.countP Entry.isOutstanding := by
      rw [hentries, List.countP_append, List.countP_append]
      refine Nat.add_le_add_left ?_ _
      rw [List.countP_cons_of_neg (by simp [Entry.isOutstanding])]
      exact (List.sublist_cons_self e back).countP_le
    exact Nat.le_trans hfewer hlimit

variable [Link σ]

/-- No more lookups wait or are in flight than the configuration allows. -/
theorem outstanding_run {config : Config} {link : σ} {start : Session ρ σ}
    (hnew : Session.new config link = .ok start) (turns : List (Turn ρ σ)) :
    (start.run turns).queue.outstanding ≤ config.maxPending := by
  rw [← maxPending_run hnew turns]
  induction turns using List.reverseRecOn with
  | nil =>
    rw [run_nil, Queue.outstanding, (new_spec hnew).none_queued]
    exact Nat.zero_le _
  | append_singleton turns turn ih =>
    obtain ⟨added, -, hmoves⟩ := perform_moves turn (wellFormed_run hnew turns)
    rw [run_concat, next, (perform_outcome turn _).maxPending_eq]
    exact hmoves.countP_le ih

end Limit

/-! ## Where a lookup comes from -/

section Origin

variable [Link σ]

/-- A lookup enters by a turn: the session takes the submission, and whatever the state, the lookup
has the requester, the address and the metadata that were submitted, the text of the address, and a
request with the written form that the submission saw. -/
structure Enters (turn : Turn ρ σ) (s : Session ρ σ) (e : Entry ρ) : Prop where
  haccepted : (s.perform turn).1.accepted
  hcall : ∃ text, turn.call = .submit e.requester text e.metadata
    ∧ Address.parse text = .ok e.address
  htext : e.text = e.address.format
  hframe : ∃ frame, (Entry.make e.requester e.address e.metadata).frame = .ok frame
    ∧ e.frame = .ok frame

/-- A lookup enters the queue whatever its state becomes. -/
theorem Enters.withState {turn : Turn ρ σ} {s : Session ρ σ} {e : Entry ρ}
    (h : s.Enters turn e) (state : EntryState) : s.Enters turn (e.withState state) :=
  ⟨h.haccepted, h.hcall, h.htext, h.hframe⟩

/-- A lookup that is taken enters the queue. -/
theorem Admits.enters {turn : Turn ρ σ} {s : Session ρ σ} {text : String} {entry : Entry ρ}
    {frame : Bytes} (h : s.Admits turn text entry frame)
    (haccepted : (s.perform turn).1.accepted) : s.Enters turn entry := by
  have hframe := h.hframe
  rw [h.hmake] at hframe
  exact ⟨haccepted, ⟨text, h.hcall, h.hparse⟩, h.wellFormed.htext, frame, hframe, h.hframe⟩

/-- **The step.** A lookup in the queue after a turn was there before, whatever became of its state,
or enters by this turn. -/
theorem origin_next {turn : Turn ρ σ} {s : Session ρ σ}
    (hwell : ∀ e ∈ s.queue.entries, e.WellFormed) {e' : Entry ρ}
    (he' : e' ∈ (s.next turn).queue.entries) :
    (∃ e ∈ s.queue.entries, ∃ state, e' = e.withState state) ∨ s.Enters turn e' := by
  obtain ⟨added, -, hmoves⟩ := perform_moves turn hwell
  obtain ⟨e, he, state, rfl, -⟩ | ⟨haccepted, text, frame, entry, state, hadmits, rfl⟩ :=
    hmoves.origin he'
  · exact .inl ⟨e, he, state, rfl⟩
  · exact .inr ((hadmits.enters haccepted).withState state)

/-- **The run.** Every lookup in the queue entered by some turn. -/
theorem origin_run {config : Config} {link : σ} {start : Session ρ σ}
    (hnew : Session.new config link = .ok start) (turns : List (Turn ρ σ)) {e : Entry ρ}
    (he : e ∈ (start.run turns).queue.entries) :
    ∃ front turn back, turns = front ++ turn :: back ∧ (start.run front).Enters turn e := by
  -- along the run, for every lookup that the queue ends up with
  induction turns using List.reverseRecOn generalizing e with
  | nil =>
    rw [run_nil, (new_spec hnew).none_queued] at he
    contradiction
  | append_singleton turns last ih =>
    rw [run_concat] at he
    obtain ⟨e₀, he₀, state, rfl⟩ | henters := origin_next (wellFormed_run hnew turns) he
    · -- it entered before, in another state
      obtain ⟨front, turn, back, rfl, henters⟩ := ih he₀
      refine ⟨front, turn, back ++ [last], ?_, henters.withState state⟩
      rw [List.append_assoc, List.cons_append]
    · exact ⟨turns, last, [], rfl, henters⟩

end Origin

/-! ## The queue of a session -/

section Runs

variable [Link σ] {config : Config} {link : σ} {start : Session ρ σ}

/-- No flush of a run drops a lookup for want of a written form. -/
theorem unwritten_run (hnew : Session.new config link = .ok start) (turns : List (Turn ρ σ)) :
    (start.run turns).unwritten = [] := by
  induction turns using List.reverseRecOn with
  | nil => rw [run_nil, unwritten, (new_spec hnew).nothing_done, List.filterMap_nil]
  | append_singleton turns turn ih =>
    rw [run_concat, unwritten_next turn _ fun e he => (wellFormed_run hnew turns e he).hencodable]
    exact ih

/-- **What the queue holds.** Whatever happened to a session, no more lookups are outstanding than
the configuration allows. Every lookup in the queue entered by some turn and is, but for its state,
what that turn made it: its text is that of its address, and its request has the written form that
the submission saw. No turn makes anything else of it. So an answer for an address is matched by
text with the lookups of this address and no others, and completes the first of them that is in
flight. And no lookup has ever been dropped for want of a written form. -/
theorem queue_holds_what_was_submitted (hnew : Session.new config link = .ok start)
    (turns : List (Turn ρ σ)) :
    let s := start.run turns
    s.queue.outstanding ≤ config.maxPending
      ∧ (∀ e ∈ s.queue.entries, ∃ front turn back, turns = front ++ turn :: back
          ∧ (start.run front).Enters turn e)
      ∧ (∀ turn, ∀ e' ∈ (s.next turn).queue.entries,
          (∃ e ∈ s.queue.entries, ∃ state, e' = e.withState state) ∨ s.Enters turn e')
      ∧ (∀ e ∈ s.queue.entries, ∀ address, e.text = address.format ↔ e.address = address)
      ∧ (∀ address found next, s.queue.completeFirstSent address.format = some (found, next)
          ↔ ∃ front e back, s.queue.entries = front ++ e :: back ∧ e.state = .sent
            ∧ e.address = address ∧ (∀ e' ∈ front, e'.state = .sent → e'.address ≠ address)
            ∧ found = e.withState .complete
            ∧ next = { s.queue with entries := front ++ e.withState .complete :: back })
      ∧ s.unwritten = [] := by
  intro s
  have hwell : ∀ e ∈ s.queue.entries, e.WellFormed := wellFormed_run hnew turns
  refine ⟨outstanding_run hnew turns, fun e he => origin_run hnew turns he,
    fun turn e' he' => origin_next hwell he', fun e he address => (hwell e he).text_eq_iff,
    fun address found next => Queue.completeFirstSent_eq_some_iff hwell address,
    unwritten_run hnew turns⟩

/-- Two lookups of one address, spelled in two ways, wait after their connection was lost. -/
theorem spellings_of_one_address_are_one :
    let turns := [.submit 0 "10.0.0.1" [], .event .connected, .submit 1 "010.0.0.01" [],
      .disconnect].map Turn.plain
    let s := recorded.run turns
    s.queue.entries.map Entry.text = ["10.0.0.1", "10.0.0.1"]
      ∧ s.queue.outstanding ≤ 1024
      ∧ (∀ e ∈ s.queue.entries, e.address = ⟨0x0A000001⟩)
      ∧ s.unwritten = [] := by
  intro turns s
  have htexts : s.queue.entries.map Entry.text = ["10.0.0.1", "10.0.0.1"] := by decide +kernel
  have hformat : Address.format ⟨0x0A000001⟩ = "10.0.0.1" := by decide +kernel
  clear_value turns
  obtain ⟨hlimit, -, -, hmatched, -, hunwritten⟩ :=
    queue_holds_what_was_submitted new_recorded turns
  refine ⟨htexts, hlimit, fun e he => (hmatched e he _).1 ?_, hunwritten⟩
  have htext : e.text ∈ s.queue.entries.map Entry.text := List.mem_map_of_mem he
  rw [htexts] at htext
  rw [hformat]
  simpa using htext

end Runs

end Session

end CidrLookup
