import CidrLookup.Proofs.Session.Flush

/-!
# How lookups move

`Moves` is the list of outcomes of a turn as far as lookups and answers are concerned: every lookup
stays in its place, the complete ones are dropped from the queue, one joins at the end, or one gets
its answer. A lookup that stays waits for something afterwards if and only if it did before, unless
a flush finds that nobody wants its answer.

Every lookup in the queue of a session is `WellFormed`: its text is that of its address, and its
request has a written form. Without the second fact a flush could drop a lookup for another reason.
-/

namespace CidrLookup

variable {ρ σ : Type}

/-! ## Lookups -/

namespace Entry

/-- The text is that of the address, and the request has a written form. -/
structure WellFormed (e : Entry ρ) : Prop where
  htext : e.text = e.address.format
  hencodable : e.IsEncodable

/-- Neither the text nor the request of a lookup depends on its state. -/
theorem WellFormed.withState {e : Entry ρ} (h : e.WellFormed) (state : EntryState) :
    (e.withState state).WellFormed :=
  ⟨h.htext, h.hencodable⟩

/-- What a turn can make of a lookup that stays in its place. -/
inductive Moved (turn : Turn ρ σ) : Entry ρ → Entry ρ → Prop where
  /-- It waits for something afterwards if it did before. -/
  | kept (e : Entry ρ) (state : EntryState)
      (houtstanding : (e.withState state).isOutstanding = e.isOutstanding) :
      Moved turn e (e.withState state)
  /-- A flush finds that nobody wants the answer. -/
  | dropped {e : Entry ρ} (hcall : turn.call = .event .connected) (hstate : e.state = .pending)
      (hreachable : turn.around.reachable e.requester = false) :
      Moved turn e (e.withState .complete)

variable {turn : Turn ρ σ}

theorem Moved.refl (e : Entry ρ) : Moved turn e e :=
  .kept e e.state rfl

/-- A lookup that is done is not taken back. -/
theorem demote_withState_complete (e : Entry ρ) :
    (e.withState .complete).demote = e.withState .complete :=
  demote_of_ne_sent (by simp)

/-- Taking a lookup back changes its state at most. -/
theorem exists_demote_eq (e : Entry ρ) : ∃ state, e.demote = e.withState state := by
  by_cases h : e.state = .sent
  · exact ⟨.pending, demote_of_sent h⟩
  · exact ⟨e.state, demote_of_ne_sent h⟩

/-- What a turn makes of a lookup may be taken back at the end of the turn. -/
theorem Moved.demote {e e' : Entry ρ} (h : Moved turn e e') : Moved turn e e'.demote := by
  cases h with
  | kept state houtstanding =>
    obtain ⟨state', hdemote⟩ := (e.withState state).exists_demote_eq
    have houtstanding' := (e.withState state).isOutstanding_demote.trans houtstanding
    rw [hdemote] at houtstanding' ⊢
    exact .kept e state' houtstanding'
  | dropped hcall hstate hreachable =>
    rw [demote_withState_complete]
    exact .dropped hcall hstate hreachable

/-- What a flush makes of a lookup is what the turn that brings the connection up makes of it. -/
theorem Flushed.moved {e e' : Entry ρ} (hcall : turn.call = .event .connected)
    (h : Flushed turn.around.reachable e e') : Moved turn e e' := by
  cases h with
  | kept => exact .refl e
  | sent hstate => exact .kept e .sent (by simp [isOutstanding, hstate])
  | dropped hstate hreachable => exact .dropped hcall hstate (by simpa using hreachable)

/-- The same lookup at a later time: once it waits for nothing, it never waits again. -/
def Later (e e' : Entry ρ) : Prop :=
  ∃ state, e' = e.withState state ∧ (e'.isOutstanding → e.isOutstanding)

theorem Later.refl (e : Entry ρ) : Later e e :=
  ⟨e.state, rfl, id⟩

/-- A lookup may have been completed. -/
theorem Later.complete (e : Entry ρ) : Later e (e.withState .complete) :=
  ⟨.complete, rfl, fun h => by contradiction⟩

/-- A lookup keeps its requester. -/
theorem Later.requester_eq {e e' : Entry ρ} (h : Later e e') : e'.requester = e.requester := by
  obtain ⟨state, rfl, -⟩ := h
  rfl

/-- A lookup stays well-formed. -/
theorem Later.wellFormed {e e' : Entry ρ} (h : Later e e') (he : e.WellFormed) :
    e'.WellFormed := by
  obtain ⟨state, rfl, -⟩ := h
  exact he.withState state

/-- What a turn makes of a lookup is the same lookup later. -/
theorem Moved.later {e e' : Entry ρ} (h : Moved turn e e') : Later e e' := by
  cases h with
  | kept state houtstanding => exact ⟨state, rfl, fun h => by rwa [← houtstanding]⟩
  | dropped => exact .complete e

end Entry

/-- Each element of the second list is the partner of one of the first. -/
theorem exists_partner {α β : Type} {r : α → β → Prop} {as : List α} {bs : List β}
    (h : List.Forall₂ r as bs) {b : β} (hb : b ∈ bs) : ∃ a ∈ as, r a b := by
  induction h with
  | nil => contradiction
  | @cons a b' as bs hab _ ih =>
    rcases List.mem_cons.1 hb with rfl | hb
    · exact ⟨a, List.mem_cons_self, hab⟩
    · obtain ⟨a', ha', hab'⟩ := ih hb
      exact ⟨a', List.mem_cons_of_mem _ ha', hab'⟩

/-- A number above all others may be put last. -/
theorem pairwise_snoc {numbers : List Nat} {n : Nat} (h : numbers.Pairwise (· < ·))
    (hlt : ∀ m ∈ numbers, m < n) : (numbers ++ [n]).Pairwise (· < ·) := by
  refine List.pairwise_append.2 ⟨h, List.pairwise_singleton _ _, fun m hm last hlast => ?_⟩
  rw [List.mem_singleton.1 hlast]
  exact hlt m hm

namespace Session

namespace Admits

variable {s : Session ρ σ} {turn : Turn ρ σ} {text : String} {entry : Entry ρ} {frame : Bytes}

/-- A lookup is made waiting. -/
theorem withState_pending (h : s.Admits turn text entry frame) :
    entry.withState .pending = entry := by
  rw [h.hmake]; rfl

/-- A lookup that has just been made is not in flight, so it is not taken back. -/
theorem demote_eq (h : s.Admits turn text entry frame) : entry.demote = entry := by
  rw [h.hmake]; rfl

/-- A lookup that is taken is well-formed: its address was read from a text, and its request was
encoded. -/
theorem wellFormed (h : s.Admits turn text entry frame) : entry.WellFormed := by
  refine ⟨?_, frame, h.hframe⟩
  rw [h.hmake]; rfl

/-- The text of a lookup that is taken is the usual form of what was submitted. -/
theorem normalize_eq (h : s.Admits turn text entry frame) :
    Address.normalize text = .ok entry.text := by
  rw [Address.normalize, h.hparse, h.wellFormed.htext]; rfl

end Admits

/-! ## Turns -/

/-- What a turn makes of the lookups, with the answers it gives. -/
inductive Moves (turn : Turn ρ σ) (s : Session ρ σ) :
    Reply → List (Entry ρ) → List (ρ × Resolution) → Prop where
  /-- Every lookup stays in its place. -/
  | stayed {reply : Reply} {entries : List (Entry ρ)} (hreply : reply.accepted = false)
      (hmoved : List.Forall₂ (Entry.Moved turn) s.queue.entries entries) :
      Moves turn s reply entries []
  /-- The lookups that wait for nothing are dropped from the queue. -/
  | purged {count : Nat} :
      Moves turn s (.purged count) (s.queue.entries.filter Entry.isOutstanding) []
  /-- A lookup that was submitted joins at the end. -/
  | joined {outcome : SubmitOutcome} {entries : List (Entry ρ)} {text : String} {entry : Entry ρ}
      {frame : Bytes} {state : EntryState} (hadmits : s.Admits turn text entry frame)
      (hstate : state ≠ .complete)
      (hmoved : List.Forall₂ (Entry.Moved turn) s.queue.entries entries) :
      Moves turn s (.submitted (.ok outcome)) (entries ++ [entry.withState state]) []
  /-- A lookup in flight gets its answer. -/
  | answered {record : Bytes} {front back : List (Entry ρ)} {e : Entry ρ} {resolution : Resolution}
      (hcall : turn.call = .event (.received record))
      (hentries : s.queue.entries = front ++ e :: back) (hstate : e.state = .sent)
      (htext : e.text = resolution.address.format)
      (hdecode : Message.decode s.config.maxFrame record = .ok resolution.message) :
      Moves turn s .done (front ++ e.withState .complete :: back) [(e.requester, resolution)]

section

variable {turn : Turn ρ σ} {s s' : Session ρ σ} {reply : Reply}

/-- A turn may leave the lookups as they are. -/
theorem Moves.same (hreply : reply.accepted = false) : Moves turn s reply s.queue.entries [] :=
  .stayed hreply (List.forall₂_same.2 fun e _ => .refl e)

/-- Lookups that have moved may be taken back. -/
theorem forall₂_demote {entries : List (Entry ρ)}
    (h : List.Forall₂ (Entry.Moved turn) s.queue.entries entries) :
    List.Forall₂ (Entry.Moved turn) s.queue.entries (entries.map Entry.demote) :=
  List.forall₂_map_right_iff.2 (h.imp fun _ _ => Entry.Moved.demote)

/-- A turn may take back what was in flight, and leave all else. -/
theorem Moves.demoted (hreply : reply.accepted = false) :
    Moves turn s reply s.queue.demoteSent.entries [] :=
  .stayed hreply (forall₂_demote (List.forall₂_same.2 fun e _ => .refl e))

variable [Link σ]

omit [Link σ] in
/-- A client that names itself answers nobody. -/
theorem answers_greeting {config : Config} {greeting : List (Effect ρ)}
    (h : Greeting config (deeds greeting)) : answers greeting = [] := by
  rw [← answers_deeds]
  generalize deeds greeting = done at h
  cases h <;> rfl

omit [Link σ] in
/-- A client that is cut short in naming itself answers nobody. -/
theorem answers_snub {config : Config} {snub : List (Effect ρ)} (h : Snub config snub) :
    answers snub = [] := by
  cases h <;> rfl

/-- What a flush adds behind a greeting answers nobody. -/
theorem exists_added_of_flush {c : Connection σ} {greeting : List (Effect ρ)} {done : Flush ρ σ}
    (hgreeting : Greeting s.config (deeds greeting))
    (hdone : done = flush turn.around c (greeting ++ s.history) s.queue.entries) :
    ∃ added, done.effects = added ++ s.history ∧ answers added = [] := by
  subst hdone
  obtain ⟨added, heffects, hanswers, -⟩ :=
    effects_flush turn.around c (greeting ++ s.history) s.queue.entries
  refine ⟨added ++ greeting, by rw [heffects, List.append_assoc], ?_⟩
  rw [answers_append, hanswers, answers_greeting hgreeting]
  rfl

/-- Each outcome of a turn moves the lookups in one of the four ways. -/
theorem Outcome.moves (h : Outcome turn s reply s') (hqueue : ∀ e ∈ s.queue.entries, e.WellFormed) :
    ∃ added, s'.history = added ++ s.history
      ∧ Moves turn s reply s'.queue.entries (answers added) := by
  -- where a connection comes up, lookups move in place, since each of them can be written
  have hflushed {c : Connection σ} {greeting : List (Effect ρ)} {done : Flush ρ σ}
      (hcall : turn.call = .event .connected)
      (hdone : done = flush turn.around c (greeting ++ s.history) s.queue.entries) :
      List.Forall₂ (Entry.Moved turn) s.queue.entries done.entries := by
    subst hdone
    exact (entries_flush turn.around c _ s.queue.entries fun e he => (hqueue e he).hencodable).imp
      fun _ _ => Entry.Flushed.moved hcall
  -- most outcomes say by their deeds alone that they answer nobody
  cases h with
  | noted hreply hdeeds =>
    refine ⟨_, rfl, ?_⟩
    rw [answers_of_deeds hdeeds]
    exact .same hreply
  | relinked link => exact ⟨[], rfl, .same rfl⟩
  | purged => exact ⟨[], rfl, .purged⟩
  | opened _ _ hdeeds =>
    refine ⟨_, rfl, ?_⟩
    rw [answers_of_deeds hdeeds]
    exact .same rfl
  | released _ _ hdeeds =>
    refine ⟨_, rfl, ?_⟩
    rw [answers_of_deeds hdeeds]
    exact .same rfl
  | lost hreply hdeeds =>
    refine ⟨_, rfl, ?_⟩
    rw [answers_of_deeds hdeeds]
    exact .demoted hreply
  | informed hdeeds =>
    refine ⟨_, rfl, ?_⟩
    rw [answers_of_deeds hdeeds]
    exact .same rfl
  | answered hcall hdecode hfound hdeeds =>
    -- the answer goes to the first lookup in flight for the address, wherever it stands
    obtain ⟨front, e, back, hentries, rfl, hrequester, ⟨hstate, htext⟩, -⟩ :=
      Queue.completeFirstSent_spec hfound
    refine ⟨_, rfl, ?_⟩
    rw [answers_of_deeds hdeeds, hrequester]
    exact .answered hcall hentries hstate htext hdecode
  | up hcall _ _ hgreeting hdone _ =>
    obtain ⟨added, heffects, hanswers⟩ := exists_added_of_flush hgreeting hdone
    refine ⟨added, heffects, ?_⟩
    rw [hanswers]
    exact .stayed rfl (hflushed hcall hdone)
  | unnamed _ _ hsnub hdeeds =>
    refine ⟨_, rfl, ?_⟩
    rw [answers_of_deeds hdeeds, answers_cons, answers_snub hsnub]
    exact .demoted rfl
  | @cut c greeting effects _ hcall _ _ hgreeting _ hdone _ hdeeds =>
    obtain ⟨added, heffects, hanswers⟩ := exists_added_of_flush hgreeting hdone
    refine ⟨effects ++ added, ?_, ?_⟩
    · rw [List.append_assoc, ← heffects]
    · rw [answers_append, answers_of_deeds hdeeds, hanswers]
      exact .stayed rfl (forall₂_demote (hflushed hcall hdone))
  | queued hadmits _ hdeeds =>
    refine ⟨_, rfl, ?_⟩
    have hnone : answers (if s.connection.state = .disconnected
        then [@Effect.connect ρ s.connection.endpoint] else []) = [] := by
      split <;> rfl
    rw [answers_of_deeds hdeeds, hnone]
    -- the lookup joins as it was made, which is waiting
    show Moves _ _ _ (s.queue.entries ++ [_]) _
    rw [← hadmits.withState_pending]
    exact .joined hadmits (by decide) (List.forall₂_same.2 fun e _ => .refl e)
  | sent hadmits =>
    refine ⟨[@Effect.sent ρ _ _], rfl, ?_⟩
    exact .joined hadmits (by decide) (List.forall₂_same.2 fun e _ => .refl e)
  | @requeued _ entry _ _ _ _ hadmits _ _ hdeeds =>
    refine ⟨_, rfl, ?_⟩
    -- demoting passes over the new lookup, which is not in flight
    have hdemoted : (s.queue.entries ++ [entry]).map Entry.demote
        = s.queue.entries.map Entry.demote ++ [entry] := by
      rw [List.map_append, List.map_singleton, hadmits.demote_eq]
    rw [answers_of_deeds hdeeds]
    show Moves _ _ _ ((s.queue.entries ++ [entry]).map Entry.demote) _
    rw [hdemoted, ← hadmits.withState_pending]
    exact .joined hadmits (by decide) (forall₂_demote (List.forall₂_same.2 fun e _ => .refl e))

end

/-! ## Where a lookup comes from and where it goes -/

section

variable {turn : Turn ρ σ} {s : Session ρ σ} {reply : Reply} {after : List (Entry ρ)}
  {given : List (ρ × Resolution)}

/-- Every lookup in the queue is a lookup that was there before, at a later time, or has just
joined. -/
theorem Moves.origin (h : Moves turn s reply after given) {e' : Entry ρ} (he' : e' ∈ after) :
    (∃ e ∈ s.queue.entries, e.Later e')
    ∨ reply.accepted ∧ ∃ text frame entry state, s.Admits turn text entry frame
      ∧ e' = entry.withState state := by
  -- what stays in its place comes from the same place
  have hmoved {entries : List (Entry ρ)} (he' : e' ∈ entries)
      (h : List.Forall₂ (Entry.Moved turn) s.queue.entries entries) :
      ∃ e ∈ s.queue.entries, e.Later e' := by
    obtain ⟨e, he, hmove⟩ := exists_partner h he'
    exact ⟨e, he, hmove.later⟩
  cases h with
  | stayed _ h => exact .inl (hmoved he' h)
  | purged => exact .inl ⟨e', List.mem_of_mem_filter he', .refl e'⟩
  | joined hadmits _ h =>
    rcases List.mem_append.1 he' with hold | hnew
    · exact .inl (hmoved hold h)
    · exact .inr ⟨rfl, _, _, _, _, hadmits, List.mem_singleton.1 hnew⟩
  | answered _ hentries =>
    rw [hentries]
    rcases Entry.mem_of_mem_withState he' with hold | rfl
    · exact .inl ⟨e', hold, .refl e'⟩
    · exact .inl ⟨_, List.mem_append_cons_self, .complete _⟩

/-- The lookups of a session stay well-formed. -/
theorem Moves.wellFormed (h : Moves turn s reply after given)
    (hqueue : ∀ e ∈ s.queue.entries, e.WellFormed) : ∀ e ∈ after, e.WellFormed := by
  intro e' he'
  obtain ⟨e, he, hlater⟩ | ⟨-, _, _, _, state, hadmits, rfl⟩ := h.origin he'
  · exact hlater.wellFormed (hqueue e he)
  · exact hadmits.wellFormed.withState state

/-- A turn that takes a lookup answers nobody, and the lookup is in the queue and waits for
something. -/
theorem Moves.joins (h : Moves turn s reply after given) (haccepted : reply.accepted) :
    given = [] ∧ ∃ text frame entry state, s.Admits turn text entry frame
      ∧ entry.withState state ∈ after ∧ (entry.withState state).isOutstanding := by
  cases h with
  | stayed hreply =>
    rw [hreply] at haccepted
    contradiction
  | purged => contradiction
  | joined hadmits hstate _ =>
    refine ⟨rfl, _, _, _, _, hadmits, List.mem_append_right _ (List.mem_singleton_self _), ?_⟩
    exact decide_eq_true hstate
  | answered => contradiction

/-- The requesters keep their order; a new one comes last. -/
theorem Moves.requesters (h : Moves turn s reply after given) :
    List.Sublist (after.map Entry.requester) (s.queue.entries.map Entry.requester)
    ∨ ∃ text frame entry, s.Admits turn text entry frame
      ∧ after.map Entry.requester = s.queue.entries.map Entry.requester ++ [entry.requester] := by
  have hmoved {entries : List (Entry ρ)}
      (h : List.Forall₂ (Entry.Moved turn) s.queue.entries entries) :
      entries.map Entry.requester = s.queue.entries.map Entry.requester := by
    -- lookups that stay in their places keep their requesters
    rw [← List.forall₂_eq_eq_eq, List.forall₂_map_left_iff, List.forall₂_map_right_iff]
    exact h.flip.imp fun _ _ hmove => hmove.later.requester_eq
  cases h with
  | stayed _ h => exact .inl (hmoved h ▸ List.Sublist.refl _)
  | purged => exact .inl (List.filter_sublist.map _)
  | @joined _ entries text entry frame state hadmits _ h =>
    refine .inr ⟨text, frame, entry, hadmits, ?_⟩
    rw [List.map_append, hmoved h]
    rfl
  | answered _ hentries =>
    rw [hentries]
    exact .inl (by simp)

/-- An answer goes to a lookup in flight, which waits for nothing afterwards. -/
theorem Moves.given_cases (h : Moves turn s reply after given) :
    given = [] ∨ ∃ record e resolution, turn.call = .event (.received record)
      ∧ given = [(e.requester, resolution)] ∧ e ∈ s.queue.entries ∧ e.state = .sent
      ∧ e.text = resolution.address.format ∧ e.withState .complete ∈ after := by
  cases h with
  | stayed => exact .inl rfl
  | purged => exact .inl rfl
  | joined => exact .inl rfl
  | @answered record front back e resolution hcall hentries hstate htext _ =>
    refine .inr ⟨record, e, resolution, hcall, rfl, ?_, hstate, htext, ?_⟩
    · rw [hentries]
      exact List.mem_append_cons_self
    · exact List.mem_append_cons_self

/-- Who is given an answer had a lookup in flight for its address, which is complete afterwards. -/
theorem Moves.mem_given (h : Moves turn s reply after given) {answer : ρ × Resolution}
    (hanswer : answer ∈ given) :
    ∃ record e, turn.call = .event (.received record) ∧ e ∈ s.queue.entries
      ∧ e.requester = answer.1 ∧ e.state = .sent ∧ e.withState .complete ∈ after := by
  obtain hnone | ⟨record, e, resolution, hcall, hgiven, he, hstate, -, hcomplete⟩ := h.given_cases
  · rw [hnone] at hanswer
    contradiction
  · rw [hgiven, List.mem_singleton] at hanswer
    exact ⟨record, e, hcall, he, congrArg Prod.fst hanswer.symm, hstate, hcomplete⟩

/-- An answer is brought by a record, for the address of the lookup that is given it. -/
theorem Moves.brings (h : Moves turn s reply after given) {answer : ρ × Resolution}
    (hanswer : answer ∈ given) :
    ∃ record e, turn.call = .event (.received record)
      ∧ Message.decode s.config.maxFrame record = .ok answer.2.message
      ∧ e ∈ s.queue.entries ∧ e.requester = answer.1 ∧ e.text = answer.2.address.format := by
  cases h with
  | stayed => contradiction
  | purged => contradiction
  | joined => contradiction
  | @answered record front back e resolution hcall hentries _ htext hdecode =>
    rw [List.mem_singleton.1 hanswer]
    refine ⟨record, e, hcall, hdecode, ?_, rfl, htext⟩
    rw [hentries]
    exact List.mem_append_cons_self

/-- A lookup that waits for something still does, or it was given an answer, or a flush found that
nobody wants one. -/
theorem Moves.outstanding_cases (h : Moves turn s reply after given) {e : Entry ρ}
    (he : e ∈ s.queue.entries) (houtstanding : e.isOutstanding) :
    (∃ state, e.withState state ∈ after ∧ (e.withState state).isOutstanding)
    ∨ (∃ resolution, given = [(e.requester, resolution)] ∧ e.text = resolution.address.format)
    ∨ turn.call = .event .connected ∧ e.state = .pending
      ∧ turn.around.reachable e.requester = false ∧ e.withState .complete ∈ after := by
  have hmoved {entries : List (Entry ρ)}
      (h : List.Forall₂ (Entry.Moved turn) s.queue.entries entries) :
      (∃ state, e.withState state ∈ entries ∧ (e.withState state).isOutstanding)
      ∨ turn.call = .event .connected ∧ e.state = .pending
        ∧ turn.around.reachable e.requester = false ∧ e.withState .complete ∈ entries := by
    obtain ⟨e', he', hmove⟩ := exists_partner h.flip he
    cases hmove with
    | kept state hkept => exact .inl ⟨state, he', hkept.trans houtstanding⟩
    | dropped hcall hstate hreachable => exact .inr ⟨hcall, hstate, hreachable, he'⟩
  cases h with
  | stayed _ h => exact (hmoved h).imp_right .inr
  | purged => exact .inl ⟨e.state, List.mem_filter.2 ⟨he, houtstanding⟩, houtstanding⟩
  | joined _ _ h =>
    obtain ⟨state, hmem, hout⟩ | ⟨hcall, hstate, hreachable, hmem⟩ := hmoved h
    · exact .inl ⟨state, List.mem_append_left _ hmem, hout⟩
    · exact .inr (.inr ⟨hcall, hstate, hreachable, List.mem_append_left _ hmem⟩)
  | @answered _ front back e₀ resolution _ hentries _ htext _ =>
    rw [hentries] at he
    rcases List.mem_append.1 he with hfront | hrest
    · exact .inl ⟨e.state, List.mem_append_left _ hfront, houtstanding⟩
    -- it is the lookup that is answered, or stands behind it
    · rcases List.mem_cons.1 hrest with rfl | hback
      · exact .inr (.inl ⟨resolution, rfl, htext⟩)
      · refine .inl ⟨e.state, ?_, houtstanding⟩
        exact List.mem_append_right _ (List.mem_cons_of_mem _ hback)

end

variable [Link σ]

/-- **How lookups move.** Whatever a turn is made with, it moves the lookups in one of four ways. -/
theorem perform_moves (turn : Turn ρ σ) {s : Session ρ σ}
    (hqueue : ∀ e ∈ s.queue.entries, e.WellFormed) :
    ∃ added, (s.next turn).history = added ++ s.history
      ∧ Moves turn s (s.perform turn).1 (s.next turn).queue.entries (answers added) :=
  (perform_outcome turn s).moves hqueue

/-- Every lookup in the queue of a session is well-formed. -/
theorem wellFormed_run {config : Config} {link : σ} {s : Session ρ σ}
    (hnew : Session.new config link = .ok s) (turns : List (Turn ρ σ)) :
    ∀ e ∈ (s.run turns).queue.entries, e.WellFormed := by
  refine run_induction (motive := fun s => ∀ e ∈ s.queue.entries, e.WellFormed) ?_ ?_ turns
  · simp [(new_spec hnew).none_queued]
  · intro s turn hs
    obtain ⟨added, -, hmoves⟩ := perform_moves turn hs
    exact hmoves.wellFormed hs

end Session

end CidrLookup
