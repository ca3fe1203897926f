import CidrLookup.Session.Queue

/-!
# Operations of the queue

What each operation of the queue makes of its entries. `completeFirst_spec` is the one later modules
lean on: the entry that is completed is the first one in flight with the text, and all others stay.
-/

namespace CidrLookup

/-! ## Entries -/

namespace Entry

variable {ρ : Type}

/-- The state is the one that was set; every other field is kept. -/
@[simp] theorem state_withState (e : Entry ρ) (state : EntryState) :
    (e.withState state).state = state := rfl

@[simp] theorem requester_withState (e : Entry ρ) (state : EntryState) :
    (e.withState state).requester = e.requester := rfl

@[simp] theorem text_withState (e : Entry ρ) (state : EntryState) :
    (e.withState state).text = e.text := rfl

@[simp] theorem address_withState (e : Entry ρ) (state : EntryState) :
    (e.withState state).address = e.address := rfl

@[simp] theorem metadata_withState (e : Entry ρ) (state : EntryState) :
    (e.withState state).metadata = e.metadata := rfl

/-- The request of a lookup does not depend on its state. -/
@[simp] theorem frame_withState (e : Entry ρ) (state : EntryState) :
    (e.withState state).frame = e.frame := rfl

/-- A lookup that is put into the state it is in stays what it is. -/
theorem withState_eq_self {e : Entry ρ} {state : EntryState} (h : e.state = state) :
    e.withState state = e := by
  rw [← h]
  rfl

/-- Whether the request of an entry has a written form. -/
def IsEncodable (e : Entry ρ) : Prop :=
  ∃ frame, e.frame = .ok frame

/-- The request of an entry in the given state, as the link takes it. -/
def send? (state : EntryState) (e : Entry ρ) : Option (Option ρ × Bytes) :=
  if e.state = state then e.frame.toOption.map (some e.requester, ·) else none

/-- A lookup makes a call if it is in the state that is asked for, and has a request that can be
written. -/
theorem send?_eq_some_iff {state : EntryState} {e : Entry ρ} {call : Option ρ × Bytes} :
    e.send? state = some call
      ↔ e.state = state ∧ ∃ frame, e.frame = .ok frame ∧ call = (some e.requester, frame) := by
  unfold send?
  cases hframe : e.frame with
  | error _ => simp [Except.toOption]
  | ok frame => simp [Except.toOption, eq_comm]

/-- A lookup in flight goes back to waiting. -/
theorem demote_of_sent {e : Entry ρ} (h : e.state = .sent) : e.demote = e.withState .pending :=
  if_pos h

/-- Any other lookup stays as it is. -/
theorem demote_of_ne_sent {e : Entry ρ} (h : e.state ≠ .sent) : e.demote = e :=
  if_neg h

/-- Where nothing is in flight, nothing goes back. -/
theorem map_demote_of_none_sent {entries : List (Entry ρ)} (h : ∀ e ∈ entries, e.state ≠ .sent) :
    entries.map demote = entries := by
  rw [List.map_congr_left fun e he => demote_of_ne_sent (h e he), List.map_id']

/-- What has gone back is not in flight. -/
theorem state_demote_ne_sent (e : Entry ρ) : e.demote.state ≠ .sent := by
  by_cases h : e.state = .sent
  · simp [demote_of_sent h]
  · rwa [demote_of_ne_sent h]

/-- A lookup that goes back is still outstanding. -/
theorem isOutstanding_demote (e : Entry ρ) : e.demote.isOutstanding = e.isOutstanding := by
  by_cases h : e.state = .sent
  · simp [demote_of_sent h, isOutstanding, h]
  · rw [demote_of_ne_sent h]

/-- Where one entry changes its state, every other was there before. -/
theorem mem_of_mem_withState {front back : List (Entry ρ)} {e e' : Entry ρ} {state : EntryState}
    (h : e' ∈ front ++ e.withState state :: back) :
    e' ∈ front ++ e :: back ∨ e' = e.withState state := by
  rcases List.mem_append.1 h with hfront | hrest
  · exact .inl (List.mem_append_left _ hfront)
  · rcases List.mem_cons.1 hrest with rfl | hback
    · exact .inr rfl
    · exact .inl (List.mem_append_right _ (List.mem_cons_of_mem _ hback))

end Entry

/-! ## The queue -/

namespace Queue

variable {ρ : Type}

/-- The lookups that still wait for something, in the order of the queue. -/
def outstandingEntries (queue : Queue ρ) : List (Entry ρ) :=
  queue.entries.filter Entry.isOutstanding

/-- A purge keeps the lookups that wait for something. -/
theorem outstandingEntries_purge (queue : Queue ρ) :
    queue.purge.outstandingEntries = queue.outstandingEntries := by
  simp [outstandingEntries, purge]

/-- What was outstanding when a connection was lost is outstanding afterwards, and waits. -/
theorem outstandingEntries_demoteSent_eq_map (queue : Queue ρ) :
    queue.demoteSent.outstandingEntries = queue.outstandingEntries.map Entry.demote := by
  show (queue.entries.map Entry.demote).filter Entry.isOutstanding = _
  rw [List.filter_map]
  congr 1
  exact List.filter_congr fun e _ => e.isOutstanding_demote

/-- A lookup that gets in finds room, and stands behind the others. -/
theorem push_eq_ok {queue next : Queue ρ} {entry : Entry ρ} (h : queue.push entry = .ok next) :
    queue.outstanding < queue.maxPending
      ∧ next = { queue with entries := queue.entries ++ [entry] } := by
  unfold push at h
  split at h
  · contradiction
  · cases h
    exact ⟨by omega, rfl⟩

/-- The lookup that was pushed last is the one that is marked. -/
theorem markLastSent_append (entries : List (Entry ρ)) (entry : Entry ρ) (max : Nat) :
    (Queue.mk (entries ++ [entry]) max).markLastSent
      = ⟨entries ++ [entry.withState .sent], max⟩ := by
  simp [markLastSent, List.modify_eq_take_cons_drop]

/-- After the end of a connection nothing is in flight. -/
theorem demoteSent_leaves_none_sent (queue : Queue ρ) :
    ∀ e ∈ queue.demoteSent.entries, e.state ≠ .sent := by
  intro e he
  obtain ⟨e, -, rfl⟩ := List.mem_map.1 he
  exact e.state_demote_ne_sent

/-- Whether an entry is in flight with the given text. -/
def Awaits (text : String) (e : Entry ρ) : Prop :=
  e.state = .sent ∧ e.text = text

/-- The entry completed is the first in flight with the text; nothing else changes. -/
theorem completeFirst_spec {text : String} {entries next : List (Entry ρ)} {found : Entry ρ}
    (h : completeFirst text entries = some (found, next)) :
    ∃ front e back, entries = front ++ e :: back ∧ next = front ++ e.withState .complete :: back
      ∧ found = e.withState .complete ∧ Awaits text e ∧ ∀ e' ∈ front, ¬ Awaits text e' := by
  -- along the queue: the first lookup awaits the answer, or the search goes on behind it
  induction entries generalizing next with
  | nil => contradiction
  | cons e more ih =>
    unfold completeFirst at h
    split at h
    · cases h
      exact ⟨[], e, more, rfl, rfl, rfl, ‹_›, by simp⟩
    · obtain ⟨⟨found', rest⟩, hrest, heq⟩ := Option.map_eq_some_iff.1 h
      cases heq
      obtain ⟨front, e', back, rfl, rfl, hfound, hawaits, hfront⟩ := ih hrest
      exact ⟨e :: front, e', back, rfl, rfl, hfound, hawaits, List.forall_mem_cons.2 ⟨‹_›, hfront⟩⟩

/-- An entry in flight with the text is completed if no entry in front of it is in flight with the
text. -/
theorem completeFirst_append {text : String} {front : List (Entry ρ)} {e : Entry ρ}
    (hfront : ∀ e' ∈ front, ¬ Awaits text e') (he : Awaits text e) (back : List (Entry ρ)) :
    completeFirst text (front ++ e :: back)
      = some (e.withState .complete, front ++ e.withState .complete :: back) := by
  induction front with
  | nil => exact if_pos he
  | cons e' front ih =>
    obtain ⟨he', hfront⟩ := List.forall_mem_cons.1 hfront
    rw [List.cons_append, completeFirst]
    refine (if_neg he').trans ?_
    rw [ih hfront]
    rfl

/-- An answer completes one lookup in its place: one in flight, with the text, and none in front of
it is such a lookup. -/
theorem completeFirstSent_spec {text : String} {queue next : Queue ρ} {found : Entry ρ}
    (h : queue.completeFirstSent text = some (found, next)) :
    ∃ front e back, queue.entries = front ++ e :: back
      ∧ next = { queue with entries := front ++ e.withState .complete :: back }
      ∧ found.requester = e.requester ∧ Awaits text e ∧ ∀ e' ∈ front, ¬ Awaits text e' := by
  obtain ⟨⟨found', entries⟩, hfirst, heq⟩ := Option.map_eq_some_iff.1 h
  cases heq
  obtain ⟨front, e, back, hentries, rfl, rfl, hawaits, hfront⟩ := completeFirst_spec hfirst
  exact ⟨front, e, back, hentries, rfl, rfl, hawaits, hfront⟩

end Queue

end CidrLookup
