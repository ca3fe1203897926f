import CidrLookup.Proofs.Message.Encode
import CidrLookup.Proofs.Session.Halt

/-!
# What a session does with a connection that comes up

A connection that comes up is used at once: the client names itself, if it has a token, and asks for
everything that waits. `agenda` is what it has to send, and `Link.offer` what a link makes of it: it
takes all, or it refuses one frame after it has taken some. Either way the session is known from
that. A flush is followed up to any place in the queue by `flush_front`, so the place at which the
link refuses a frame needs no induction of its own.
-/

namespace CidrLookup

variable {ρ σ : Type}

/-! ## Frames and links -/

/-- Hands frames to a link one after the other until it refuses one: the refusal, with the number of
frames taken before it, if there is one, and the link afterwards. -/
def Link.offer [Link σ] : List Bytes → σ → Option (Nat × SessionError) × σ
  | [], link => (none, link)
  | frame :: more, link =>
    match Link.send frame link with
    | (.error e, link) => (some (0, e), link)
    | (.ok (), link) =>
      let after := offer more link
      (after.1.map fun (k, e) => (k + 1, e), after.2)

namespace Link

variable [Link σ] {frame : Bytes} {more : List Bytes} {link link' : σ}

theorem offer_cons_of_ok (h : Link.send frame link = (.ok (), link')) :
    offer (frame :: more) link
      = ((offer more link').1.map fun (k, e) => (k + 1, e), (offer more link').2) := by
  rw [offer, h]

/-- All frames are taken where the first is, and then the others. -/
theorem offer_cons_eq_none_iff {after : σ} : offer (frame :: more) link = (none, after)
    ↔ ∃ link', Link.send frame link = (.ok (), link') ∧ offer more link' = (none, after) := by
  rcases hsend : Link.send frame link with ⟨e | ⟨⟨⟩⟩, link'⟩
  · simp [offer, hsend]
  · rw [offer_cons_of_ok hsend]
    simp [Prod.ext_iff]

/-- Frames behind others that were all taken are offered to the link that these leave. -/
theorem offer_append_of_taken {front : List Bytes} (h : offer front link = (none, link')) :
    offer (front ++ more) link
      = ((offer more link').1.map fun (k, e) => (front.length + k, e), (offer more link').2) := by
  induction front generalizing link with
  | nil =>
    obtain rfl : link = link' := congrArg Prod.snd h
    simp
  | cons frame front ih =>
    obtain ⟨mid, hsend, hfront⟩ := offer_cons_eq_none_iff.1 h
    rw [List.cons_append, offer_cons_of_ok hsend, ih hfront]
    simp [Function.comp_def, Nat.add_right_comm]

/-- Frames behind one that is refused are not offered. -/
theorem offer_append_of_refused {front : List Bytes} {refusal : Nat × SessionError}
    (h : offer front link = (some refusal, link')) :
    offer (front ++ more) link = (some refusal, link') := by
  -- the frame that is refused is one of the front
  induction front generalizing link refusal with
  | nil => cases h
  | cons frame front ih =>
    rcases hsend : Link.send frame link with ⟨e | ⟨⟨⟩⟩, mid⟩
    · rw [offer, hsend] at h
      rw [List.cons_append, offer, hsend]
      exact h
    · rw [offer_cons_of_ok hsend] at h
      obtain ⟨hrefused, rfl⟩ := Prod.mk.inj h
      obtain ⟨refusal', hmore, rfl⟩ := Option.map_eq_some_iff.1 hrefused
      rw [List.cons_append, offer_cons_of_ok hsend, ih (Prod.ext hmore rfl)]
      rfl

/-- The frames before the one that is refused are taken. -/
theorem exists_of_offer_eq_some {frames : List Bytes} {k : Nat} {e : SessionError} {after : σ}
    (h : offer frames link = (some (k, e), after)) :
    ∃ frame link', frames[k]? = some frame ∧ offer (frames.take k) link = (none, link')
      ∧ Link.send frame link' = (.error e, after) := by
  -- frame by frame: the first is refused, or it is taken and the place is one further back
  induction frames generalizing link k with
  | nil => cases h
  | cons frame more ih =>
    rcases hsend : Link.send frame link with ⟨e' | ⟨⟨⟩⟩, mid⟩
    · rw [offer, hsend] at h
      cases h
      exact ⟨frame, link, rfl, rfl, hsend⟩
    · rw [offer_cons_of_ok hsend] at h
      obtain ⟨hrefused, rfl⟩ := Prod.mk.inj h
      obtain ⟨⟨k', e'⟩, hmore, heq⟩ := Option.map_eq_some_iff.1 hrefused
      cases heq
      obtain ⟨refused, link', hget, hfront, hrefuses⟩ := ih (Prod.ext hmore rfl)
      exact ⟨refused, link', hget, offer_cons_eq_none_iff.2 ⟨mid, hsend, hfront⟩, hrefuses⟩

end Link

namespace Connection

/-- A connection whose link has taken so many frames. -/
def took (now : Instant) (count : Nat) (link : σ) (c : Connection σ) : Connection σ :=
  { c with link, lastSendAt := if count = 0 then c.lastSendAt else some now }

/-- What a link takes in two goes is what it takes in one. -/
@[simp] theorem took_took (now : Instant) (count count' : Nat) (link link' : σ)
    (c : Connection σ) :
    (c.took now count link).took now count' link' = c.took now (count + count') link' := by
  unfold took
  by_cases h : count' = 0 <;> by_cases h' : count = 0 <;> simp [h, h']

variable [Link σ] {c : Connection σ} {frame : Bytes} {link : σ}

/-- A frame that the link takes counts as activity. -/
theorem send_of_ok (hstate : c.state = .connected)
    (h : Link.send frame c.link = (.ok (), link)) (now : Instant) :
    c.send now frame = (.ok (), c.took now 1 link) := by
  rw [send, if_pos hstate, h]
  rfl

/-- A connection that has sent a frame differs in its link and the time of its last use. -/
theorem exists_eq_took_of_send {now : Instant} {c' : Connection σ}
    (h : c.send now frame = (.ok (), c')) : ∃ link, c' = c.took now 1 link := by
  unfold send at h
  split at h
  · split at h <;> cases h
    exact ⟨_, rfl⟩
  · cases h

/-- A frame that the link refuses does not count as activity. -/
theorem send_of_error {e : SessionError} (hstate : c.state = .connected)
    (h : Link.send frame c.link = (.error e, link)) (now : Instant) :
    c.send now frame = (.error e, { c with link }) := by
  rw [send, if_pos hstate, h]

end Connection

/-! ## Lookups -/

namespace Entry

/-- A lookup after a flush that goes through: what waits is sent, or dropped where nobody waits for
the answer. -/
def settle (reachable : ρ → Bool) (e : Entry ρ) : Entry ρ :=
  if e.state = .pending then e.withState (if reachable e.requester then .sent else .complete) else e

/-- A lookup after a flush that went past it and was cut short: it is dropped where nobody waits for
the answer, and waits again otherwise. -/
def abandon (reachable : ρ → Bool) (e : Entry ρ) : Entry ρ :=
  if e.state = .pending ∧ ¬ reachable e.requester then e.withState .complete else e

variable {reachable : ρ → Bool} {e : Entry ρ}

/-- A flush leaves alone what does not wait. -/
theorem settle_of_ne_pending (h : e.state ≠ .pending) : e.settle reachable = e :=
  if_neg h

/-- A lookup that nobody waits for is dropped. -/
theorem settle_of_unreachable (hstate : e.state = .pending) (h : ¬ reachable e.requester) :
    e.settle reachable = e.withState .complete := by
  rw [settle, if_pos hstate, if_neg h]

/-- A lookup that somebody waits for is sent. -/
theorem settle_of_reachable (hstate : e.state = .pending) (h : reachable e.requester) :
    e.settle reachable = e.withState .sent := by
  rw [settle, if_pos hstate, if_pos h]

/-- The end of the connection takes back what was sent on it. -/
theorem demote_settle (reachable : ρ → Bool) (e : Entry ρ) :
    (e.settle reachable).demote = (e.abandon reachable).demote := by
  by_cases hstate : e.state = .pending
  · by_cases hreachable : reachable e.requester
    · rw [settle_of_reachable hstate hreachable, demote_of_sent rfl, abandon,
        if_neg fun h => h.2 hreachable, demote_of_ne_sent (by simp [hstate])]
      exact withState_eq_self hstate
    · rw [settle_of_unreachable hstate hreachable, abandon, if_pos ⟨hstate, hreachable⟩]
  · rw [settle_of_ne_pending hstate, abandon, if_neg fun h => hstate h.1]

/-- A flush that was cut short leaves nothing in flight that was not. -/
theorem state_abandon_ne_sent (h : e.state ≠ .sent) : (e.abandon reachable).state ≠ .sent := by
  unfold abandon
  split
  · simp
  · exact h

/-- A flush that goes through leaves a lookup as it was but for its state. -/
theorem later_settle (reachable : ρ → Bool) (e : Entry ρ) : Later e (e.settle reachable) := by
  unfold settle
  split
  · rename_i hstate
    exact ⟨_, rfl, fun _ => by simp [isOutstanding, hstate]⟩
  · exact .refl e

/-- A flush that is cut short leaves a lookup as it was but for its state. -/
theorem later_abandon (reachable : ρ → Bool) (e : Entry ρ) : Later e (e.abandon reachable) := by
  unfold abandon
  split
  · exact .complete e
  · exact .refl e

end Entry

/-- The effect of a frame that the link takes. -/
def Effect.ofSend (call : Option ρ × Bytes) : Effect ρ :=
  @Effect.sent ρ call.1 call.2

theorem due_append (reachable : ρ → Bool) (front back : List (Entry ρ)) :
    due reachable (front ++ back) = due reachable front ++ due reachable back := by
  simp [due]

/-- The place in the queue of a request that is due. -/
theorem exists_of_due_getElem? {reachable : ρ → Bool} {entries : List (Entry ρ)} {k : Nat}
    {call : Option ρ × Bytes} (h : (due reachable entries)[k]? = some call) :
    ∃ front entry back frame, entries = front ++ entry :: back
      ∧ due reachable front = (due reachable entries).take k
      ∧ entry.state = .pending ∧ reachable entry.requester ∧ entry.frame = .ok frame
      ∧ call = (some entry.requester, frame) := by
  obtain ⟨hlt, hget⟩ := List.getElem?_eq_some_iff.1 h
  have hsplit : due reachable entries
      = (due reachable entries).take k ++ call :: (due reachable entries).drop (k + 1) := by
    rw [← hget, List.getElem_cons_drop, List.take_append_drop]
  generalize (due reachable entries).take k = taken at hsplit ⊢
  generalize (due reachable entries).drop (k + 1) = left at hsplit
  unfold due at hsplit
  rw [List.filterMap_filter, List.filterMap_eq_append_iff] at hsplit
  obtain ⟨front, rest, rfl, rfl, hrest⟩ := hsplit
  obtain ⟨skipped, entry, back, rfl, hskipped, hentry, -⟩ := List.filterMap_eq_cons_iff.1 hrest
  -- what stands between the last request and this one is not due
  refine ⟨front ++ skipped, entry, back, call.2, by rw [List.append_assoc], ?_, ?_⟩
  · rw [due, List.filterMap_filter, List.filterMap_append, List.filterMap_eq_nil_iff.2 hskipped,
      List.append_nil]
  · split at hentry
    · obtain ⟨hstate, frame, hframe, rfl⟩ := Entry.send?_eq_some_iff.1 hentry
      exact ⟨hstate, ‹_›, hframe, rfl⟩
    · contradiction

/-- What was given up is not due, and everything else is as it was. -/
theorem due_map_abandon (reachable : ρ → Bool) (entries : List (Entry ρ)) :
    due reachable (entries.map (Entry.abandon reachable)) = due reachable entries := by
  induction entries with
  | nil => rfl
  | cons e more ih =>
    rw [List.map_cons]
    by_cases h : e.state = .pending ∧ ¬ reachable e.requester
    · rw [Entry.abandon, if_pos h, due_cons_of_ne_pending (by simp),
        due_cons_of_unreachable h.2, ih]
    · rw [Entry.abandon, if_neg h, ← List.singleton_append, due_append, ih, ← due_append,
        List.singleton_append]

namespace Session

/-! ## What there is to send -/

/-- The name of the client, if it has one, as it is sent on each connection. -/
def naming (s : Session ρ σ) : List (Option ρ × Bytes) :=
  match s.config.identify with
  | none => []
  | some token => [(none, (Message.identify token).form)]

/-- What a session has to send when a connection comes up. -/
def agenda (reachable : ρ → Bool) (s : Session ρ σ) : List (Option ρ × Bytes) :=
  s.naming ++ due reachable s.queue.entries

/-- A client without a name, or with one that has a written form. -/
def IsNamable (config : Config) : Prop :=
  ∀ token, config.identify = some token → '\x00' ∉ token.toList

/-- A token that has a written form is put into its frame. -/
theorem IsNamable.identifyFrame_eq {config : Config} (h : IsNamable config) {token : String}
    (htoken : config.identify = some token) :
    identifyFrame token = .ok (Message.identify token).form := by
  rw [identifyFrame, Message.encode_identify, if_neg (h token htoken)]
  rfl

/-- A session whose connection has come up, before anything is sent on it. -/
def risen (now : Instant) (s : Session ρ σ) : Session ρ σ :=
  ({ s with connection := s.connection.markConnected now, lastError := none }).note
    (.connected s.connection.endpoint)

/-- The lookups after an opening that was cut short at the given place of the agenda. -/
inductive Spares (reachable : ρ → Bool) (s : Session ρ σ) (k : Nat) : List (Entry ρ) → Prop where
  /-- It was cut short in naming the client, which comes before all lookups. -/
  | all (hname : k < s.naming.length) : Spares reachable s k s.queue.entries
  /-- It was cut short at the request of a lookup. Those behind it were not looked at, and those in
  front were given up where nobody waits for the answer. -/
  | rest {front back : List (Entry ρ)} {entry : Entry ρ} {frame : Bytes}
      (hentries : s.queue.entries = front ++ entry :: back) (hpending : entry.state = .pending)
      (hcall : (s.agenda reachable)[k]? = some (some entry.requester, frame))
      (hplace : k = s.naming.length + (due reachable front).length) :
      Spares reachable s k (front.map (Entry.abandon reachable) ++ entry :: back)

namespace Spares

variable {reachable : ρ → Bool} {s : Session ρ σ} {k : Nat} {entries : List (Entry ρ)}

/-- An opening that was cut short leaves as much due as it found. -/
theorem due_eq (h : s.Spares reachable k entries) :
    due reachable entries = due reachable s.queue.entries := by
  cases h with
  | all => rfl
  | rest hentries => rw [hentries, due_append, due_map_abandon, ← due_append]

/-- An opening that was cut short keeps every lookup in its place. -/
theorem later (h : s.Spares reachable k entries) :
    List.Forall₂ Entry.Later s.queue.entries entries := by
  cases h with
  | all => exact List.forall₂_same.2 fun e _ => .refl e
  | rest hentries =>
    rw [hentries]
    refine List.rel_append ?_ (List.forall₂_same.2 fun e _ => .refl e)
    exact List.forall₂_map_right_iff.2 (List.forall₂_same.2 fun e _ => e.later_abandon reachable)

/-- An opening that was cut short has nothing in flight. -/
theorem none_sent (h : s.Spares reachable k entries)
    (hsent : ∀ e ∈ s.queue.entries, e.state ≠ .sent) : ∀ e ∈ entries, e.state ≠ .sent := by
  cases h with
  | all => exact hsent
  | rest hentries =>
    rw [hentries] at hsent
    obtain ⟨hfront, hrest⟩ := List.forall_mem_append.1 hsent
    refine List.forall_mem_append.2 ⟨?_, hrest⟩
    exact List.forall_mem_map.2 fun e he => Entry.state_abandon_ne_sent (hfront e he)

end Spares

variable [Link σ]

/-! ## The flush -/

section Flush

variable (around : Surroundings ρ) {c : Connection σ} (effects : List (Effect ρ))
  {entries front : List (Entry ρ)} {link : σ}

/-- **The flush up to a place.** Where the link takes the requests of the lookups in front, these
are settled, and the flush goes on behind them. -/
theorem flush_front (rest : List (Entry ρ)) (hstate : c.state = .connected)
    (hencodable : ∀ e ∈ front, e.IsEncodable)
    (hoffer : Link.offer ((due around.reachable front).map Prod.snd) c.link = (none, link)) :
    ∃ added, deeds added = ((due around.reachable front).map Effect.ofSend).reverse
      ∧ flush around c effects (front ++ rest)
        = let done := flush around (c.took around.now (due around.reachable front).length link)
            (added ++ effects) rest
          { done with entries := front.map (Entry.settle around.reachable) ++ done.entries } := by
  -- along the lookups in front, for every connection and history that the flush comes to them with
  induction front generalizing c effects with
  | nil =>
    obtain rfl : c.link = link := congrArg Prod.snd hoffer
    exact ⟨[], rfl, rfl⟩
  | cons e front ih =>
    obtain ⟨⟨frame, hframe⟩, hfront⟩ := List.forall_mem_cons.1 hencodable
    by_cases hpending : e.state = .pending
    · by_cases hreachable : around.reachable e.requester
      · rw [due_cons_of_pending hpending hreachable hframe] at hoffer ⊢
        obtain ⟨link', hsend, hmore⟩ := Link.offer_cons_eq_none_iff.1 hoffer
        obtain ⟨added, hdeeds, hflush⟩ := ih (c := c.took around.now 1 link')
          (@Effect.sent ρ (some e.requester) frame :: effects) hstate hfront hmore
        -- the history has the newest first, so this request comes before those of the rest
        refine ⟨added ++ [@Effect.sent ρ (some e.requester) frame], ?_, ?_⟩
        · rw [deeds_append, hdeeds, List.map_cons, List.reverse_cons]
          rfl
        · have hsend' := Connection.send_of_ok hstate hsend around.now
          rw [List.cons_append, flush_of_sent hpending hreachable hframe hsend', hflush]
          simp [Flush.after, Entry.settle_of_reachable hpending hreachable, Nat.add_comm]
      · rw [due_cons_of_unreachable hreachable] at hoffer ⊢
        obtain ⟨added, hdeeds, hflush⟩ := ih (.notice (.requesterGone e.text) :: effects) hstate
          hfront hoffer
        refine ⟨added ++ [.notice (.requesterGone e.text)], by simpa using hdeeds, ?_⟩
        rw [List.cons_append, flush_of_gone hpending hreachable, hflush]
        simp [Flush.after, Entry.settle_of_unreachable hpending hreachable]
    · rw [due_cons_of_ne_pending hpending] at hoffer ⊢
      obtain ⟨added, hdeeds, hflush⟩ := ih effects hstate hfront hoffer
      refine ⟨added, hdeeds, ?_⟩
      rw [List.cons_append, flush_of_skipped hpending, hflush]
      simp [Flush.after, Entry.settle_of_ne_pending hpending]

/-- A link that takes every request: every lookup is settled. -/
theorem flush_of_taken (hstate : c.state = .connected)
    (hencodable : ∀ e ∈ entries, e.IsEncodable)
    (hoffer : Link.offer ((due around.reachable entries).map Prod.snd) c.link = (none, link)) :
    ∃ added, deeds added = ((due around.reachable entries).map Effect.ofSend).reverse
      ∧ flush around c effects entries
        = ⟨c.took around.now (due around.reachable entries).length link,
          entries.map (Entry.settle around.reachable), added ++ effects, none⟩ := by
  obtain ⟨added, hdeeds, hflush⟩ := flush_front around effects [] hstate hencodable hoffer
  refine ⟨added, hdeeds, ?_⟩
  rw [List.append_nil] at hflush
  rw [hflush]
  simp [flush]

/-- A link that refuses a request: the lookups in front are settled, and the others are not looked
at. -/
theorem flush_of_refused {entry : Entry ρ} (back : List (Entry ρ)) {frame : Bytes} {after : σ}
    {e : SessionError} (hstate : c.state = .connected)
    (hencodable : ∀ e ∈ front, e.IsEncodable)
    (hoffer : Link.offer ((due around.reachable front).map Prod.snd) c.link = (none, link))
    (hpending : entry.state = .pending) (hreachable : around.reachable entry.requester)
    (hframe : entry.frame = .ok frame) (hsend : Link.send frame link = (.error e, after)) :
    ∃ added, deeds added
        = .refused frame e :: ((due around.reachable front).map Effect.ofSend).reverse
      ∧ flush around c effects (front ++ entry :: back)
        = ⟨{ c.took around.now (due around.reachable front).length link with link := after },
          front.map (Entry.settle around.reachable) ++ entry :: back, added ++ effects,
          some e⟩ := by
  obtain ⟨added, hdeeds, hflush⟩ :=
    flush_front around effects (entry :: back) hstate hencodable hoffer
  have hstate' : (c.took around.now (due around.reachable front).length link).state
      = .connected := hstate
  refine ⟨.refused frame e :: added, ?_, ?_⟩
  · rw [← hdeeds]
    rfl
  · have hsend' := Connection.send_of_error hstate' hsend around.now
    rw [hflush, flush_of_cut hpending hreachable hframe hsend']
    rfl

end Flush

/-! ## The opening -/

section Opening

variable {s : Session ρ σ} {around : Surroundings ρ} {link after : σ} {e : SessionError}

/-- A link that takes the name of the client, if there is one to take. -/
theorem identify_of_taken (hname : IsNamable s.config) (hstate : s.connection.state = .connected)
    (hoffer : Link.offer (s.naming.map Prod.snd) s.connection.link = (none, link))
    (now : Instant) :
    ∃ effects, deeds effects = (s.naming.map Effect.ofSend).reverse
      ∧ s.identify now = (.ok (), { s with
          connection := s.connection.took now s.naming.length link
          history := effects ++ s.history }) := by
  unfold naming identify at *
  cases htoken : s.config.identify with
  | none =>
    rw [htoken] at hoffer
    obtain rfl : s.connection.link = link := congrArg Prod.snd hoffer
    exact ⟨[], rfl, rfl⟩
  | some token =>
    rw [htoken] at hoffer
    obtain ⟨link', hsend, hnil⟩ := Link.offer_cons_eq_none_iff.1 hoffer
    obtain rfl : link' = link := congrArg Prod.snd hnil
    refine ⟨[.notice .identified, @Effect.sent ρ none (Message.identify token).form], rfl, ?_⟩
    simp only [hname.identifyFrame_eq htoken, sendFrame, Connection.send_of_ok hstate hsend]
    rfl

/-- A link that refuses the name of the client. -/
theorem identify_of_refused (hname : IsNamable s.config)
    (hstate : s.connection.state = .connected) {token : String}
    (htoken : s.config.identify = some token)
    (hsend : Link.send (Message.identify token).form s.connection.link = (.error e, after))
    (now : Instant) :
    s.identify now = (.error e, { s with
      connection := { s.connection with link := after }
      history := .refused (Message.identify token).form e :: s.history }) := by
  simp only [identify, htoken, hname.identifyFrame_eq htoken, sendFrame,
    Connection.send_of_error hstate hsend]
  rfl

/-- A connection that comes up is marked, the client is named on it, and what waits is sent. -/
theorem onConnected_eq (hhalted : s.halted = none) (around : Surroundings ρ) :
    s.onConnected around = match (s.risen around.now).identify around.now with
      | (.ok (), s) => s.flushPending around
      | (.error e, s) => (s.note (.identifyFailed e)).fail e.message := by
  unfold onConnected
  split
  · simp_all
  · rfl

/-- Where the client is named, or has no name, an opening is a flush. -/
theorem onConnected_of_named (hname : IsNamable s.config) (hhalted : s.halted = none)
    (hoffer : Link.offer (s.naming.map Prod.snd) s.connection.link = (none, link))
    (around : Surroundings ρ) :
    ∃ effects, deeds effects = (s.naming.map Effect.ofSend).reverse
      ∧ s.onConnected around = flushPending around { s with
          connection := (s.connection.markConnected around.now).took around.now s.naming.length link
          lastError := none
          history := effects ++ s.history } := by
  obtain ⟨effects, hdeeds, hidentify⟩ :=
    identify_of_taken (s := s.risen around.now) hname rfl hoffer around.now
  refine ⟨effects ++ [.notice (.connected s.connection.endpoint)], ?_, ?_⟩
  · rw [deeds_append, hdeeds]
    exact List.append_nil _
  · rw [onConnected_eq hhalted, hidentify]
    simp only [List.append_assoc]
    rfl

/-- Where the link refuses the name of the client, nothing else is handed to it. -/
theorem onConnected_of_unnamed (hname : IsNamable s.config) (hhalted : s.halted = none)
    {token : String} (htoken : s.config.identify = some token)
    (hsend : Link.send (Message.identify token).form s.connection.link = (.error e, after))
    (around : Surroundings ρ) :
    ∃ effects, deeds effects = [.close, .refused (Message.identify token).form e]
      ∧ s.onConnected around = { s with
          connection := { s.connection with link := after }.disconnect
          queue := s.queue.demoteSent
          info := none
          lastError := some e.message
          history := effects ++ s.history } := by
  have hidentify := identify_of_refused (s := s.risen around.now) hname rfl htoken hsend around.now
  obtain ⟨effects, hfail, hdeeds, -⟩ := fail_note_spec (.identifyFailed e) e.message
    ((s.risen around.now).identify around.now).2
  rw [hidentify] at hfail
  refine ⟨effects ++ [.refused (Message.identify token).form e,
    .notice (.connected s.connection.endpoint)], ?_, ?_⟩
  · rw [deeds_append, hdeeds]
    rfl
  · rw [onConnected_eq hhalted, hidentify]
    simp only [hfail, List.append_assoc]
    rfl

/-- A link that takes every request leaves the session connected, with every lookup settled. -/
theorem flushPending_of_taken (hstate : s.connection.state = .connected)
    (hencodable : ∀ e ∈ s.queue.entries, e.IsEncodable)
    (hoffer : Link.offer ((due around.reachable s.queue.entries).map Prod.snd) s.connection.link
      = (none, link)) :
    ∃ effects, deeds effects = ((due around.reachable s.queue.entries).map Effect.ofSend).reverse
      ∧ s.flushPending around = { s with
          connection :=
            s.connection.took around.now (due around.reachable s.queue.entries).length link
          queue := { s.queue with entries := s.queue.entries.map (Entry.settle around.reachable) }
          history := effects ++ s.history } := by
  obtain ⟨added, hdeeds, hflush⟩ := flush_of_taken around s.history hstate hencodable hoffer
  refine ⟨added, hdeeds, ?_⟩
  simp only [flushPending, hflush]

/-- A flush that is cut short ends the connection, and what was sent on it waits again. -/
theorem flushPending_of_refused (hstate : s.connection.state = .connected)
    (hencodable : ∀ e ∈ s.queue.entries, e.IsEncodable) {k : Nat}
    (hoffer : Link.offer ((due around.reachable s.queue.entries).map Prod.snd) s.connection.link
      = (some (k, e), after)) :
    ∃ effects front entry back frame, s.queue.entries = front ++ entry :: back
      ∧ due around.reachable front = (due around.reachable s.queue.entries).take k
      ∧ (due around.reachable s.queue.entries)[k]? = some (some entry.requester, frame)
      ∧ entry.state = .pending
      ∧ deeds effects = .close :: .refused frame e
          :: (((due around.reachable s.queue.entries).take k).map Effect.ofSend).reverse
      ∧ s.flushPending around = { s with
          connection := { s.connection with link := after }.disconnect
          queue := { s.queue with
            entries := front.map (Entry.abandon around.reachable) ++ entry :: back }.demoteSent
          info := none
          lastError := some e.message
          history := effects ++ s.history } := by
  obtain ⟨frame, link, hget, hfront, hsend⟩ := Link.exists_of_offer_eq_some hoffer
  rw [List.getElem?_map] at hget
  obtain ⟨call, hcall, rfl⟩ := Option.map_eq_some_iff.1 hget
  obtain ⟨front, entry, back, frame, hentries, hdue, hpending, hreachable, hframe, rfl⟩ :=
    exists_of_due_getElem? hcall
  rw [hentries] at hencodable
  obtain ⟨hencodable, -⟩ := List.forall_mem_append.1 hencodable
  rw [← List.map_take, ← hdue] at hfront
  obtain ⟨added, hdeeds, hflush⟩ := flush_of_refused around s.history back hstate hencodable hfront
    hpending hreachable hframe hsend
  rw [← hentries] at hflush
  obtain ⟨effects, hfail, hclose, -⟩ := fail_note_spec (.flushFailed e) e.message
    { s with
      connection := (flush around s.connection s.history s.queue.entries).connection
      queue := { s.queue with
        entries := (flush around s.connection s.history s.queue.entries).entries }
      history := (flush around s.connection s.history s.queue.entries).effects }
  -- ending the connection takes back what the flush has sent in front of the lookup
  have hdemote : (front.map (Entry.settle around.reachable) ++ entry :: back).map Entry.demote
      = (front.map (Entry.abandon around.reachable) ++ entry :: back).map Entry.demote := by
    simp only [List.map_append, List.map_map]
    congr 1
    exact List.map_congr_left fun e _ => e.demote_settle around.reachable
  refine ⟨effects ++ added, front, entry, back, frame, hentries, hdue, hcall, hpending, ?_, ?_⟩
  · rw [deeds_append, hclose, hdeeds, hdue]
    rfl
  · rw [hflush] at hfail
    simp only [flushPending, hflush, hfail, Queue.demoteSent, hdemote, List.append_assoc]
    rfl

/-- A link that takes the whole agenda leaves the session connected. -/
theorem onConnected_of_taken (hname : IsNamable s.config) (hhalted : s.halted = none)
    (hencodable : ∀ e ∈ s.queue.entries, e.IsEncodable)
    (hoffer : Link.offer ((s.agenda around.reachable).map Prod.snd) s.connection.link
      = (none, after)) :
    ∃ effects, deeds effects = ((s.agenda around.reachable).map Effect.ofSend).reverse
      ∧ s.onConnected around = { s with
          connection := (s.connection.markConnected around.now).took around.now
            (s.agenda around.reachable).length after
          queue := { s.queue with entries := s.queue.entries.map (Entry.settle around.reachable) }
          lastError := none
          history := effects ++ s.history } := by
  rw [agenda, List.map_append] at hoffer
  -- the name first; what is left of the agenda is what the flush finds due
  rcases hfirst : Link.offer (s.naming.map Prod.snd) s.connection.link with ⟨_ | refusal, link⟩
  · rw [Link.offer_append_of_taken hfirst] at hoffer
    obtain ⟨hnone, hafter⟩ := Prod.mk.inj hoffer
    have hrest : Link.offer ((due around.reachable s.queue.entries).map Prod.snd) link
        = (none, after) := Prod.ext (Option.map_eq_none_iff.1 hnone) hafter
    obtain ⟨greeting, hgreeting, hnamed⟩ := onConnected_of_named hname hhalted hfirst around
    obtain ⟨effects, hdeeds, hflush⟩ := flushPending_of_taken
      (s := { s with
        connection := (s.connection.markConnected around.now).took around.now s.naming.length link
        lastError := none, history := greeting ++ s.history }) rfl hencodable hrest
    refine ⟨effects ++ greeting, ?_, ?_⟩
    · rw [deeds_append, hdeeds, hgreeting, agenda, List.map_append, List.reverse_append]
    · rw [hnamed, hflush]
      simp [agenda]
  · rw [Link.offer_append_of_refused hfirst] at hoffer
    cases hoffer

/-- A link that refuses a frame of the agenda leaves the session without a connection. -/
theorem onConnected_of_refused (hname : IsNamable s.config) (hhalted : s.halted = none)
    (hencodable : ∀ e ∈ s.queue.entries, e.IsEncodable) {k : Nat}
    (hoffer : Link.offer ((s.agenda around.reachable).map Prod.snd) s.connection.link
      = (some (k, e), after)) :
    ∃ effects call entries, (s.agenda around.reachable)[k]? = some call
      ∧ deeds effects
        = .close :: .refused call.2 e
          :: (((s.agenda around.reachable).take k).map Effect.ofSend).reverse
      ∧ s.Spares around.reachable k entries
      ∧ s.onConnected around = { s with
          connection := { s.connection with link := after }.disconnect
          queue := { s.queue with entries }.demoteSent
          info := none
          lastError := some e.message
          history := effects ++ s.history } := by
  rw [agenda, List.map_append] at hoffer
  rcases hfirst : Link.offer (s.naming.map Prod.snd) s.connection.link with ⟨_ | refusal, link⟩
  · -- the client is named, so the frame that is refused is a request
    rw [Link.offer_append_of_taken hfirst, List.length_map] at hoffer
    obtain ⟨hsome, hafter⟩ := Prod.mk.inj hoffer
    obtain ⟨⟨j, e'⟩, hrefused, heq⟩ := Option.map_eq_some_iff.1 hsome
    cases heq
    have hrest : Link.offer ((due around.reachable s.queue.entries).map Prod.snd) link
        = (some (j, e), after) := Prod.ext hrefused hafter
    obtain ⟨greeting, hgreeting, hnamed⟩ := onConnected_of_named hname hhalted hfirst around
    obtain ⟨effects, front, entry, back, frame, hentries, hdue, hcall, hpending, hdeeds, hflush⟩ :=
      flushPending_of_refused
        (s := { s with
          connection := (s.connection.markConnected around.now).took around.now s.naming.length link
          lastError := none, history := greeting ++ s.history }) rfl hencodable hrest
    have hcall' : (s.agenda around.reachable)[s.naming.length + j]?
        = some (some entry.requester, frame) := by
      rw [agenda, List.getElem?_append_right (Nat.le_add_right ..), Nat.add_sub_cancel_left]
      exact hcall
    have htake : (s.agenda around.reachable).take (s.naming.length + j)
        = s.naming ++ (due around.reachable s.queue.entries).take j := by
      rw [agenda, List.take_length_add_append]
    have hplace : j = (due around.reachable front).length := by
      rw [hdue, List.length_take, Nat.min_eq_left]
      exact Nat.le_of_lt (List.getElem?_eq_some_iff.1 hcall).1
    refine ⟨effects ++ greeting, _, _, hcall', ?_,
      .rest hentries hpending hcall' (by rw [← hplace]), ?_⟩
    · rw [deeds_append, hdeeds, hgreeting, htake, List.map_append, List.reverse_append]
      rfl
    · rw [hnamed, hflush]
      simp only [List.append_assoc]
      rfl
  · -- the only frame in front of the requests is the name of the client
    rw [Link.offer_append_of_refused hfirst] at hoffer
    cases hoffer
    cases htoken : s.config.identify with
    | none =>
      rw [naming, htoken] at hfirst
      cases hfirst
    | some token =>
      have hnaming : s.naming = [(none, (Message.identify token).form)] := by
        rw [naming, htoken]
      obtain ⟨frame, link, hget, htaken, hsend⟩ := Link.exists_of_offer_eq_some hfirst
      rw [hnaming] at hget htaken
      obtain rfl : k = 0 := Nat.lt_one_iff.1 (List.getElem?_eq_some_iff.1 hget).1
      cases hget
      obtain rfl : s.connection.link = link := congrArg Prod.snd htaken
      obtain ⟨effects, hdeeds, hunnamed⟩ :=
        onConnected_of_unnamed hname hhalted htoken hsend around
      refine ⟨effects, (none, (Message.identify token).form), s.queue.entries, ?_, ?_, .all ?_,
        hunnamed⟩
      · rw [agenda, hnaming]
        rfl
      · exact hdeeds
      · rw [hnaming]
        exact Nat.one_pos

end Opening

/-! ## What an opening comes to -/

/-- A connection that came up and is used: everything there was to send is sent. -/
structure Opened (around : Surroundings ρ) (link : σ) (s s' : Session ρ σ) : Prop where
  sends : deeds (since s s') = (s.agenda around.reachable).map Effect.ofSend
  link_eq : s'.connection.link = link
  connected : s'.connection.state = .connected
  no_error : s'.lastError = none
  settles : s'.queue.entries = s.queue.entries.map (Entry.settle around.reachable)

/-- A connection that came up and was given up at the given place of the agenda, where the link
refused a frame. The next one starts over. -/
structure GivenUp (around : Surroundings ρ) (k : Nat) (e : SessionError) (link : σ)
    (s s' : Session ρ σ) : Prop where
  stops : ∃ call, (s.agenda around.reachable)[k]? = some call ∧ deeds (since s s')
    = ((s.agenda around.reachable).take k).map Effect.ofSend ++ [.refused call.2 e, .close]
  link_eq : s'.connection.link = Link.close link
  disconnected : s'.connection.state = .disconnected
  says_why : s'.lastError = some e.message
  spares : s.Spares around.reachable k s'.queue.entries
  starts_over : s'.agenda around.reachable = s.agenda around.reachable

section Endings

variable {s : Session ρ σ} {around : Surroundings ρ} {after : σ}

/-- A link that takes the whole agenda leaves an opened session. -/
theorem opened_of_taken (hname : IsNamable s.config) (hhalted : s.halted = none)
    (hencodable : ∀ e ∈ s.queue.entries, e.IsEncodable)
    (hoffer : Link.offer ((s.agenda around.reachable).map Prod.snd) s.connection.link
      = (none, after)) :
    Opened around after s (s.onConnected around) := by
  obtain ⟨effects, hdeeds, heq⟩ := onConnected_of_taken hname hhalted hencodable hoffer
  have hsince := since_eq_reverse (congrArg history heq)
  have hsends : deeds (since s (s.onConnected around))
      = (s.agenda around.reachable).map Effect.ofSend := by
    rw [hsince, deeds_reverse, hdeeds, List.reverse_reverse]
  rw [heq] at hsends ⊢
  exact ⟨hsends, rfl, rfl, rfl, rfl⟩

/-- A link that refuses a frame of the agenda leaves a session that has given the connection up. -/
theorem givenUp_of_refused (hname : IsNamable s.config) (hhalted : s.halted = none)
    (hencodable : ∀ e ∈ s.queue.entries, e.IsEncodable)
    (hsent : ∀ e ∈ s.queue.entries, e.state ≠ .sent) {k : Nat} {e : SessionError}
    (hoffer : Link.offer ((s.agenda around.reachable).map Prod.snd) s.connection.link
      = (some (k, e), after)) :
    GivenUp around k e after s (s.onConnected around) := by
  obtain ⟨effects, call, entries, hcall, hdeeds, hspares, heq⟩ :=
    onConnected_of_refused hname hhalted hencodable hoffer
  have hnone : ∀ e ∈ entries, e.state ≠ .sent := hspares.none_sent hsent
  rw [Queue.demoteSent_of_none_sent hnone] at heq
  have hsince := since_eq_reverse (congrArg history heq)
  have hstops : deeds (since s (s.onConnected around))
      = ((s.agenda around.reachable).take k).map Effect.ofSend ++ [.refused call.2 e, .close] := by
    rw [hsince, deeds_reverse, hdeeds, List.reverse_cons, List.reverse_cons, List.reverse_reverse,
      List.append_assoc]
    rfl
  rw [heq] at hstops ⊢
  exact ⟨⟨call, hcall, hstops⟩, rfl, rfl, rfl, hspares, congrArg (s.naming ++ ·) hspares.due_eq⟩

end Endings

/-- **An opening sends what waits.** When a connection comes up, a session that has not given up
hands to its link the name of the client, if it has one, and then one request for each lookup that
waits and whose answer somebody wants, in the order of the queue, until the link refuses a frame. If
it refuses none, the session is connected, and what waited is in flight or dropped. If it refuses
one, the session is disconnected and says why; the lookups in front of the one it was for are
dropped where nobody wants the answer, and all others are as they were, so that the next connection
has the same to send. In no case does a lookup change its place or anything but its state. -/
theorem opening_sends_what_waits {config : Config} {link : σ} {start : Session ρ σ}
    (hnew : Session.new config link = .ok start) (hname : IsNamable config)
    (turns : List (Turn ρ σ)) (hhalted : (start.run turns).halted = none)
    (hstate : (start.run turns).connection.state ≠ .connected) (around : Surroundings ρ) :
    let s := start.run turns
    let s' := s.handleEvent around .connected
    let offered := Link.offer ((s.agenda around.reachable).map Prod.snd) s.connection.link
    (∀ e ∈ s.queue.entries, e.IsEncodable)
      ∧ List.Forall₂ Entry.Later s.queue.entries s'.queue.entries
      ∧ (∀ after, offered = (none, after) → Opened around after s s')
      ∧ ∀ k e after, offered = (some (k, e), after) → GivenUp around k e after s s' := by
  intro s s' offered
  have hencodable : ∀ e ∈ s.queue.entries, e.IsEncodable :=
    fun e he => (wellFormed_run hnew turns e he).hencodable
  have hsent : ∀ e ∈ s.queue.entries, e.state ≠ .sent := (inPhase_run hnew turns).none_sent hstate
  rw [← config_run hnew turns] at hname
  have htaken (after : σ) (hoffer : offered = (none, after)) : Opened around after s s' :=
    opened_of_taken hname hhalted hencodable hoffer
  have hrefused (k : Nat) (e : SessionError) (after : σ) (hoffer : offered = (some (k, e), after)) :
      GivenUp around k e after s s' :=
    givenUp_of_refused hname hhalted hencodable hsent hoffer
  refine ⟨hencodable, ?_, htaken, hrefused⟩
  rcases hoffer : offered with ⟨_ | ⟨k, e⟩, after⟩
  · rw [(htaken after hoffer).settles]
    exact List.forall₂_map_right_iff.2
      (List.forall₂_same.2 fun e _ => e.later_settle around.reachable)
  · exact (hrefused k e after hoffer).spares.later

/-- The link takes the name of the client and the first request, and refuses the second. Nobody
wants the answer to the lookup between the two any more, so it is dropped. -/
theorem second_request_is_refused :
    let config : Config := { Config.default with identify := some "probe" }
    let start : Session Nat RecordingLink := { recorded with config }
    let turns := [.submit 0 "10.0.0.1" [], .submit 1 "10.0.0.2" [], .submit 2 "10.0.0.3" [],
      .relink { RecordingLink.new with fault := some (2, .notConnected) }].map Turn.plain
    let around : Surroundings Nat := ⟨⟨0⟩, fun requester => requester ≠ 1⟩
    let s' := (start.run turns).handleEvent around .connected
    s'.connection.state = .disconnected ∧ s'.lastError = some SessionError.notConnected.message
      ∧ s'.connection.link.sent.length = 2
      ∧ s'.agenda around.reachable = (start.run turns).agenda around.reachable
      ∧ s'.queue.entries.map Entry.state = [.pending, .complete, .pending] := by
  intro config start turns around s'
  have hname : IsNamable config := by
    intro token htoken
    cases htoken
    decide
  have hnew : Session.new config RecordingLink.new = .ok start := new_recorded_naming (some "probe")
  have hhalted : (start.run turns).halted = none := by decide +kernel
  have hstate : (start.run turns).connection.state ≠ .connected := by decide +kernel
  have hrefused : (Link.offer (((start.run turns).agenda around.reachable).map Prod.snd)
      (start.run turns).connection.link).1 = some (2, .notConnected) := by decide +kernel
  have htaken : s'.connection.link.sent.length = 2 := by decide +kernel
  have hentries : s'.queue.entries.map Entry.state = [.pending, .complete, .pending] := by
    decide +kernel
  -- the rest follows without another look at the run
  clear_value turns start
  obtain ⟨-, -, -, hgives⟩ := opening_sends_what_waits hnew hname turns hhalted hstate around
  have hgiven := hgives 2 .notConnected _ (Prod.ext hrefused rfl)
  exact ⟨hgiven.disconnected, hgiven.says_why, htaken, hgiven.starts_over, hentries⟩

end Session

end CidrLookup
