import CidrLookup.Proofs.Session.Outcome
import Mathlib.Data.List.Forall2

/-!
# Sending what waits

The flush goes through the queue once. Each waiting lookup is sent, or dropped where nobody waits
for it; other lookups stay as they are; a send that fails leaves the rest untouched. `due` are the
requests it has to make, and `effects_flush` says that it makes them in the order of the queue, all
of them unless a send fails.

`Flushes` says what becomes of each lookup on the way; whatever is said of a flush is proved by
induction on it.
-/

namespace CidrLookup

/-! ## Entries -/

namespace Entry

variable {ρ : Type}

/-- What a flush can make of an entry whose request has a written form. -/
inductive Flushed (reachable : ρ → Bool) : Entry ρ → Entry ρ → Prop where
  | kept (e : Entry ρ) : Flushed reachable e e
  | sent {e : Entry ρ} (hstate : e.state = .pending) (hreachable : reachable e.requester) :
      Flushed reachable e (e.withState .sent)
  | dropped {e : Entry ρ} (hstate : e.state = .pending) (hreachable : ¬ reachable e.requester) :
      Flushed reachable e (e.withState .complete)

end Entry

/-! ## Requests -/

section Requests

variable {ρ : Type}

/-- The requests of the lookups in flight, in the order of the queue. -/
def inFlight (entries : List (Entry ρ)) : List (Option ρ × Bytes) :=
  entries.filterMap (Entry.send? .sent)

/-- The requests that a flush has to make. -/
def due (reachable : ρ → Bool) (entries : List (Entry ρ)) : List (Option ρ × Bytes) :=
  (entries.filter fun e => reachable e.requester).filterMap (Entry.send? .pending)

@[simp] theorem inFlight_append (front back : List (Entry ρ)) :
    inFlight (front ++ back) = inFlight front ++ inFlight back :=
  List.filterMap_append ..

theorem inFlight_cons_of_ne_sent {e : Entry ρ} (h : e.state ≠ .sent) (more : List (Entry ρ)) :
    inFlight (e :: more) = inFlight more :=
  List.filterMap_cons_none (if_neg h)

theorem inFlight_cons_of_sent {e : Entry ρ} {frame : Bytes} (h : e.state = .sent)
    (hframe : e.frame = .ok frame) (more : List (Entry ρ)) :
    inFlight (e :: more) = (some e.requester, frame) :: inFlight more := by
  apply List.filterMap_cons_some
  rw [Entry.send?, if_pos h, hframe]
  rfl

/-- Where nothing was sent, nothing is in flight. -/
theorem inFlight_eq_nil {entries : List (Entry ρ)} (h : ∀ e ∈ entries, e.state ≠ .sent) :
    inFlight entries = [] :=
  List.filterMap_eq_nil_iff.2 fun e he => if_neg (h e he)

variable {reachable : ρ → Bool}

theorem due_cons_of_ne_pending {e : Entry ρ} (h : e.state ≠ .pending) (more : List (Entry ρ)) :
    due reachable (e :: more) = due reachable more := by
  by_cases hreachable : reachable e.requester <;> simp [due, Entry.send?, hreachable, h]

theorem due_cons_of_unreachable {e : Entry ρ} (h : ¬ reachable e.requester)
    (more : List (Entry ρ)) : due reachable (e :: more) = due reachable more := by
  simp [due, h]

theorem due_cons_of_error {e : Entry ρ} {error : ProtocolError} (h : e.frame = .error error)
    (more : List (Entry ρ)) : due reachable (e :: more) = due reachable more := by
  by_cases hreachable : reachable e.requester <;>
    simp [due, Entry.send?, hreachable, h, Except.toOption]

theorem due_cons_of_pending {e : Entry ρ} {frame : Bytes} (hstate : e.state = .pending)
    (hreachable : reachable e.requester) (hframe : e.frame = .ok frame) (more : List (Entry ρ)) :
    due reachable (e :: more) = (some e.requester, frame) :: due reachable more := by
  simp [due, Entry.send?, hreachable, hstate, hframe, Except.toOption]

end Requests

namespace Session

variable {ρ σ : Type} [Link σ]

/-! ## The flush -/

namespace Flush

/-- The flush of a queue with one more lookup in front. -/
def after (e : Entry ρ) (rest : Flush ρ σ) : Flush ρ σ :=
  { rest with entries := e :: rest.entries }

variable (e : Entry ρ) (rest : Flush ρ σ)

omit [Link σ] in
/-- The lookup that is left behind stands in front of the others. -/
@[simp] theorem entries_after : (rest.after e).entries = e :: rest.entries := rfl

omit [Link σ] in
/-- A lookup that is left behind has had its effects already. -/
@[simp] theorem effects_after : (rest.after e).effects = rest.effects := rfl

omit [Link σ] in
/-- Whether a flush is cut short is seen at the lookups behind. -/
@[simp] theorem failure_after : (rest.after e).failure = rest.failure := rfl

end Flush

/-! ### Lookup by lookup -/

section Lookups

variable {around : Surroundings ρ} {c c' : Connection σ} {effects : List (Effect ρ)} {e : Entry ρ}
  {more : List (Entry ρ)}

/-- A lookup that does not wait is passed over. -/
theorem flush_of_skipped (hstate : e.state ≠ .pending) :
    flush around c effects (e :: more) = (flush around c effects more).after e := by
  rw [flush, if_pos hstate]
  rfl

/-- A lookup that nobody waits for is dropped. -/
theorem flush_of_gone (hstate : e.state = .pending) (hgone : ¬ around.reachable e.requester) :
    flush around c effects (e :: more)
      = (flush around c (.notice (.requesterGone e.text) :: effects) more).after
        (e.withState .complete) := by
  rw [flush, if_neg (not_not.2 hstate), if_pos hgone]
  rfl

/-- So is a lookup whose request has no written form. -/
theorem flush_of_unencodable {error : ProtocolError} (hstate : e.state = .pending)
    (hreachable : around.reachable e.requester) (hframe : e.frame = .error error) :
    flush around c effects (e :: more)
      = (flush around c (.notice (.unencodable e.text (.protocol error)) :: effects) more).after
        (e.withState .complete) := by
  rw [flush, if_neg (not_not.2 hstate), if_neg (not_not.2 hreachable)]
  simp only [hframe]
  rfl

/-- A lookup whose request the connection takes is in flight. -/
theorem flush_of_sent {frame : Bytes} (hstate : e.state = .pending)
    (hreachable : around.reachable e.requester) (hframe : e.frame = .ok frame)
    (hsend : c.send around.now frame = (.ok (), c')) :
    flush around c effects (e :: more)
      = (flush around c' (@Effect.sent ρ (some e.requester) frame :: effects) more).after
        (e.withState .sent) := by
  rw [flush, if_neg (not_not.2 hstate), if_neg (not_not.2 hreachable)]
  simp only [hframe, hsend]
  rfl

/-- A request that is refused ends the flush, and the queue stays as it is from there. -/
theorem flush_of_cut {frame : Bytes} {error : SessionError} (hstate : e.state = .pending)
    (hreachable : around.reachable e.requester) (hframe : e.frame = .ok frame)
    (hsend : c.send around.now frame = (.error error, c')) :
    flush around c effects (e :: more)
      = ⟨c', e :: more, .refused frame error :: effects, some error⟩ := by
  rw [flush, if_neg (not_not.2 hstate), if_neg (not_not.2 hreachable)]
  simp only [hframe, hsend]

end Lookups

/-- What a flush comes to, lookup by lookup. Inductions along a flush go by cases on it. -/
inductive Flushes (around : Surroundings ρ) : Connection σ → List (Effect ρ) → List (Entry ρ) →
    Flush ρ σ → Prop where
  /-- The queue is at its end. -/
  | done (c : Connection σ) (effects : List (Effect ρ)) :
      Flushes around c effects [] ⟨c, [], effects, none⟩
  /-- The lookup does not wait. -/
  | skipped {c : Connection σ} {effects : List (Effect ρ)} {e : Entry ρ} {more : List (Entry ρ)}
      {rest : Flush ρ σ} (hstate : e.state ≠ .pending)
      (hmore : Flushes around c effects more rest) :
      Flushes around c effects (e :: more) (rest.after e)
  /-- Nobody waits for the lookup. -/
  | gone {c : Connection σ} {effects : List (Effect ρ)} {e : Entry ρ} {more : List (Entry ρ)}
      {rest : Flush ρ σ} (hstate : e.state = .pending) (hgone : ¬ around.reachable e.requester)
      (hmore : Flushes around c (.notice (.requesterGone e.text) :: effects) more rest) :
      Flushes around c effects (e :: more) (rest.after (e.withState .complete))
  /-- The request of the lookup has no written form. -/
  | unencodable {c : Connection σ} {effects : List (Effect ρ)} {e : Entry ρ} {more : List (Entry ρ)}
      {rest : Flush ρ σ} {error : ProtocolError} (hstate : e.state = .pending)
      (hreachable : around.reachable e.requester) (hframe : e.frame = .error error)
      (hmore : Flushes around c (.notice (.unencodable e.text (.protocol error)) :: effects) more
        rest) :
      Flushes around c effects (e :: more) (rest.after (e.withState .complete))
  /-- The connection takes the request of the lookup. -/
  | sent {c c' : Connection σ} {effects : List (Effect ρ)} {e : Entry ρ} {more : List (Entry ρ)}
      {rest : Flush ρ σ} {frame : Bytes} (hstate : e.state = .pending)
      (hreachable : around.reachable e.requester) (hframe : e.frame = .ok frame)
      (hsend : c.send around.now frame = (.ok (), c'))
      (hmore : Flushes around c' (@Effect.sent ρ (some e.requester) frame :: effects) more rest) :
      Flushes around c effects (e :: more) (rest.after (e.withState .sent))
  /-- The connection does not take it, and the flush ends. -/
  | cut {c c' : Connection σ} {effects : List (Effect ρ)} {e : Entry ρ} {more : List (Entry ρ)}
      {frame : Bytes} {error : SessionError} (hstate : e.state = .pending)
      (hreachable : around.reachable e.requester) (hframe : e.frame = .ok frame)
      (hsend : c.send around.now frame = (.error error, c')) :
      Flushes around c effects (e :: more)
        ⟨c', e :: more, .refused frame error :: effects, some error⟩

/-- Every flush goes lookup by lookup. -/
theorem flush_flushes (around : Surroundings ρ) (c : Connection σ) (effects : List (Effect ρ))
    (entries : List (Entry ρ)) :
    Flushes around c effects entries (flush around c effects entries) := by
  -- the connection and the history change on the way
  induction entries generalizing c effects with
  | nil => exact .done c effects
  | cons e more ih =>
    by_cases hstate : e.state = .pending
    · by_cases hreachable : around.reachable e.requester
      · cases hframe : e.frame with
        | error error =>
          rw [flush_of_unencodable hstate hreachable hframe]
          exact .unencodable hstate hreachable hframe (ih ..)
        | ok frame =>
          rcases hsend : c.send around.now frame with ⟨error | ⟨⟨⟩⟩, c'⟩
          · rw [flush_of_cut hstate hreachable hframe hsend]
            exact .cut hstate hreachable hframe hsend
          · rw [flush_of_sent hstate hreachable hframe hsend]
            exact .sent hstate hreachable hframe hsend (ih ..)
      · rw [flush_of_gone hstate hreachable]
        exact .gone hstate hreachable (ih ..)
    · rw [flush_of_skipped hstate]
      exact .skipped hstate (ih ..)

/-! ### What a flush does -/

section Flush

variable (around : Surroundings ρ) (c : Connection σ) (effects : List (Effect ρ))
  (entries : List (Entry ρ))

/-- A flush leaves the state of the connection alone. -/
theorem state_flush : (flush around c effects entries).connection.state = c.state := by
  have hflushes := flush_flushes around c effects entries
  generalize flush around c effects entries = done at hflushes ⊢
  induction hflushes with
  | done => rfl
  | skipped _ _ ih => exact ih
  | gone _ _ _ ih => exact ih
  | unencodable _ _ _ _ ih => exact ih
  | sent _ _ _ hsend _ ih => exact ih.trans (Connection.state_of_send hsend)
  | cut _ _ _ hsend => exact Connection.state_of_send hsend

/-- A flush that does not fail leaves nothing waiting. -/
theorem flush_leaves_none_pending (h : (flush around c effects entries).failure = none) :
    ∀ e ∈ (flush around c effects entries).entries, e.state ≠ .pending := by
  have hflushes := flush_flushes around c effects entries
  generalize flush around c effects entries = done at hflushes h ⊢
  induction hflushes with
  | done => exact List.forall_mem_nil _
  | skipped hstate _ ih => exact List.forall_mem_cons.2 ⟨hstate, ih h⟩
  | gone _ _ _ ih => exact List.forall_mem_cons.2 ⟨by simp, ih h⟩
  | unencodable _ _ _ _ ih => exact List.forall_mem_cons.2 ⟨by simp, ih h⟩
  | sent _ _ _ _ _ ih => exact List.forall_mem_cons.2 ⟨by simp, ih h⟩
  | cut => contradiction

/-- A flush changes entries in place. -/
theorem entries_flush (hencodable : ∀ e ∈ entries, e.IsEncodable) :
    List.Forall₂ (Entry.Flushed around.reachable) entries
      (flush around c effects entries).entries := by
  have hflushes := flush_flushes around c effects entries
  generalize flush around c effects entries = done at hflushes ⊢
  induction hflushes with
  | done => exact .nil
  | skipped _ _ ih => exact .cons (.kept _) (ih (List.forall_mem_cons.1 hencodable).2)
  | gone hstate hgone _ ih =>
    exact .cons (.dropped hstate hgone) (ih (List.forall_mem_cons.1 hencodable).2)
  | unencodable _ _ herror =>
    -- the only other way to drop a lookup, and no lookup of a session takes it
    obtain ⟨frame, hframe⟩ := (List.forall_mem_cons.1 hencodable).1
    rw [hframe] at herror
    contradiction
  | sent hstate hreachable _ _ _ ih =>
    exact .cons (.sent hstate hreachable) (ih (List.forall_mem_cons.1 hencodable).2)
  | cut => exact List.forall₂_same.2 fun e _ => .kept e

/-- **A flush sends in order.** It adds to the history, and gives no answers. The requests it makes
are the ones that are due, in the order of the queue, and all of them where no send fails. -/
theorem effects_flush :
    ∃ added, (flush around c effects entries).effects = added ++ effects ∧ answers added = []
      ∧ sends added.reverse <+: due around.reachable entries
      ∧ ((flush around c effects entries).failure = none →
          sends added.reverse = due around.reachable entries) := by
  have hflushes := flush_flushes around c effects entries
  generalize flush around c effects entries = done at hflushes ⊢
  induction hflushes with
  | done => exact ⟨[], rfl, rfl, List.nil_prefix, fun _ => rfl⟩
  | skipped hstate _ ih =>
    rw [due_cons_of_ne_pending hstate]
    exact ih
  | @gone _ _ e _ _ _ hgone _ ih =>
    obtain ⟨added, heffects, hanswers, hprefix, hall⟩ := ih
    rw [due_cons_of_unreachable hgone]
    refine ⟨added ++ [.notice (.requesterGone e.text)], ?_, ?_, ?_, ?_⟩
    · simpa using heffects
    · simpa using hanswers
    · simpa using hprefix
    · simpa using hall
  | @unencodable _ _ e _ _ error _ _ hframe _ ih =>
    obtain ⟨added, heffects, hanswers, hprefix, hall⟩ := ih
    rw [due_cons_of_error hframe]
    refine ⟨added ++ [.notice (.unencodable e.text (.protocol error))], ?_, ?_, ?_, ?_⟩
    · simpa using heffects
    · simpa using hanswers
    · simpa using hprefix
    · simpa using hall
  | @sent _ _ _ e _ _ frame hstate hreachable hframe _ _ ih =>
    obtain ⟨added, heffects, hanswers, hprefix, hall⟩ := ih
    -- the history has the newest first, so this send comes before those of the rest
    have hsends : sends (added ++ [@Effect.sent ρ (some e.requester) frame]).reverse
        = (some e.requester, frame) :: sends added.reverse := by
      simp
    rw [due_cons_of_pending hstate hreachable hframe]
    refine ⟨added ++ [@Effect.sent ρ (some e.requester) frame], ?_, ?_, ?_, ?_⟩
    · simpa using heffects
    · simpa using hanswers
    · rw [hsends]
      exact List.cons_prefix_cons.2 ⟨rfl, hprefix⟩
    · intro hflush
      rw [hsends, hall hflush]
  | @cut _ _ _ _ _ frame error =>
    -- a refused frame is no request, and what comes after it is not looked at
    exact ⟨[.refused frame error], rfl, rfl, List.nil_prefix, fun h => by contradiction⟩

/-- Where nothing waits, a flush does nothing. -/
theorem flush_of_none_pending (hnone : ∀ e ∈ entries, e.state ≠ .pending) :
    flush around c effects entries = ⟨c, entries, effects, none⟩ := by
  induction entries with
  | nil => rfl
  | cons e more ih =>
    obtain ⟨he, hmore⟩ := List.forall_mem_cons.1 hnone
    rw [flush, if_pos he, ih hmore]
    rfl

/-- Where nothing is in flight, a flush that does not fail puts in flight what is due. -/
theorem inFlight_flush (hnone : ∀ e ∈ entries, e.state ≠ .sent)
    (hflush : (flush around c effects entries).failure = none) :
    inFlight (flush around c effects entries).entries = due around.reachable entries := by
  have hflushes := flush_flushes around c effects entries
  generalize flush around c effects entries = done at hflushes hflush ⊢
  -- a lookup that was passed over was not in flight, and one that was dropped is not
  induction hflushes with
  | done => rfl
  | skipped hstate _ ih =>
    obtain ⟨he, hmore⟩ := List.forall_mem_cons.1 hnone
    rw [due_cons_of_ne_pending hstate, ← ih hmore hflush]
    exact inFlight_cons_of_ne_sent he _
  | gone _ hgone _ ih =>
    obtain ⟨-, hmore⟩ := List.forall_mem_cons.1 hnone
    rw [due_cons_of_unreachable hgone, ← ih hmore hflush]
    exact inFlight_cons_of_ne_sent (by simp) _
  | unencodable _ _ hframe _ ih =>
    obtain ⟨-, hmore⟩ := List.forall_mem_cons.1 hnone
    rw [due_cons_of_error hframe, ← ih hmore hflush]
    exact inFlight_cons_of_ne_sent (by simp) _
  | @sent _ _ _ e _ _ frame hstate hreachable hframe _ _ ih =>
    obtain ⟨-, hmore⟩ := List.forall_mem_cons.1 hnone
    rw [due_cons_of_pending hstate hreachable hframe, ← ih hmore hflush]
    have hframe' : (e.withState .sent).frame = .ok frame := hframe
    exact inFlight_cons_of_sent rfl hframe' _
  | cut => contradiction

end Flush

end Session

end CidrLookup
