import CidrLookup.Proofs.Address
import CidrLookup.Proofs.Message.Encode
import CidrLookup.Proofs.Session.Moves
import CidrLookup.Proofs.Session.Phase
import Mathlib.Data.List.Induction

/-!
# Answers follow requests

The protocol has no request numbers. While a connection lasts, the requests for an address are
answered in the order they were sent in, which is the order of the queue: at each moment the
requests sent for an address are those that were answered and then those in flight. One turn keeps
this balance, and it is even where a connection comes up, since nothing is in flight then.
-/

namespace CidrLookup

/-! ## Requests for an address -/

namespace Message

/-- The address that a frame asks for, if it is a request. -/
def requested? : Bytes → Option Address
  | version :: tag :: a :: b :: c :: d :: _ =>
    if version = protocolVersion ∧ tag = Kind.request.tag then some ⟨Bytes.word a b c d⟩ else none
  | _ => none

/-- A request asks for its address. -/
theorem requested?_request {address : Address} {pairs : Metadata} {frame : Bytes}
    (h : (request address pairs).encode = .ok frame) : requested? frame = some address := by
  rw [(encode_eq_ok_iff.1 h).2]
  show some (Address.mk (Bytes.word _ _ _ _)) = _
  rw [Bytes.word_ofWord]

/-- The name of a client asks for nothing. -/
theorem requested?_identify {token : String} {frame : Bytes}
    (h : (identify token).encode = .ok frame) : requested? frame = none := by
  have hnone (rest : Bytes) : requested? (protocolVersion :: Kind.identify.tag :: rest) = none := by
    unfold requested?
    split
    · rename_i heq
      cases heq
      exact if_neg (by decide)
    · rfl
  rw [(encode_eq_ok_iff.1 h).2]
  exact hnone _

end Message

variable {ρ σ : Type}

/-- The requesters of the frames that ask for an address. -/
def pick (address : Address) (frames : List (Option ρ × Bytes)) : List (Option ρ) :=
  (frames.filter fun frame => Message.requested? frame.2 = some address).map Prod.fst

/-- The requesters for whom the link took a request for an address, in order. -/
def requestsFor (address : Address) (effects : List (Effect ρ)) : List (Option ρ) :=
  pick address (sends effects)

/-- The requesters that were given an answer for an address, in order. -/
def answersFor (address : Address) (effects : List (Effect ρ)) : List ρ :=
  ((answers effects).filter fun answer => answer.2.address = address).map Prod.fst

section Pick

variable (address : Address)

@[simp] theorem pick_append (front back : List (Option ρ × Bytes)) :
    pick address (front ++ back) = pick address front ++ pick address back := by
  simp [pick]

theorem pick_cons_of_eq {frame : Bytes} (h : Message.requested? frame = some address)
    (requester : Option ρ) (more : List (Option ρ × Bytes)) :
    pick address ((requester, frame) :: more) = requester :: pick address more := by
  simp [pick, h]

theorem pick_cons_of_ne {frame : Bytes} (h : Message.requested? frame ≠ some address)
    (requester : Option ρ) (more : List (Option ρ × Bytes)) :
    pick address ((requester, frame) :: more) = pick address more := by
  simp [pick, h]

@[simp] theorem requestsFor_append (front back : List (Effect ρ)) :
    requestsFor address (front ++ back)
      = requestsFor address front ++ requestsFor address back := by
  simp [requestsFor]

@[simp] theorem answersFor_append (front back : List (Effect ρ)) :
    answersFor address (front ++ back) = answersFor address front ++ answersFor address back := by
  simp [answersFor]

/-- Where nothing is sent, nothing is asked for. -/
theorem requestsFor_of_sends_eq_nil {effects : List (Effect ρ)} (h : sends effects = []) :
    requestsFor address effects = [] := by
  rw [requestsFor, h]
  rfl

/-- Where nobody is answered, nobody is answered about an address. -/
theorem answersFor_of_answers_eq_nil {effects : List (Effect ρ)} (h : answers effects = []) :
    answersFor address effects = [] := by
  rw [answersFor, h]
  rfl

end Pick

/-- The request of a lookup asks for its address. -/
theorem Entry.requested?_frame {e : Entry ρ} {frame : Bytes} (h : e.frame = .ok frame) :
    Message.requested? frame = some e.address :=
  Message.requested?_request h

/-- Nothing is in flight for an address that no lookup in flight has. -/
theorem pick_inFlight_eq_nil {address : Address} {entries : List (Entry ρ)}
    (h : ∀ e ∈ entries, e.state = .sent → e.address ≠ address) :
    pick address (inFlight entries) = [] := by
  rw [pick, List.map_eq_nil_iff, List.filter_eq_nil_iff]
  intro sent hsent hfor
  obtain ⟨e, he, hsend⟩ := List.mem_filterMap.1 hsent
  unfold Entry.send? at hsend
  split at hsend
  · obtain ⟨frame, hframe, rfl⟩ := Option.map_eq_some_iff.1 hsend
    have hok : e.frame = .ok frame := by
      cases hcase : e.frame <;> simp_all [Except.toOption]
    have haddress : some e.address = some address :=
      (Entry.requested?_frame hok).symm.trans (of_decide_eq_true hfor)
    exact h e he ‹_› (Option.some.inj haddress)
  · contradiction

namespace Session

/-! ## One turn -/

/-- What a turn adds to the history, in order, for one address: what was in flight and is now asked
is what is now answered and is then in flight. No turn both asks and answers. -/
structure Balances (address : Address) (before after : List (Entry ρ))
    (added : List (Effect ρ)) : Prop where
  hbalance : pick address (inFlight before) ++ requestsFor address added
    = (answersFor address added).map some ++ pick address (inFlight after)
  hapart : answers added = [] ∨ sends added = []

/-- A turn that neither asks nor answers, and leaves in flight what is in flight. -/
theorem Balances.idle {address : Address} {before after : List (Entry ρ)}
    {effects : List (Effect ρ)} (hdeeds : deeds effects = [])
    (hqueue : inFlight after = inFlight before) :
    Balances address before after effects.reverse := by
  have hsends : sends effects.reverse = [] := by
    rw [sends_reverse, sends_of_deeds hdeeds]
    rfl
  have hanswers : answers effects.reverse = [] := by
    rw [answers_reverse, answers_of_deeds hdeeds]
    rfl
  refine ⟨?_, .inl hanswers⟩
  rw [requestsFor_of_sends_eq_nil address hsends, answersFor_of_answers_eq_nil address hanswers,
    hqueue, List.append_nil]
  rfl

/-- Dropping what is complete leaves in flight what was. -/
theorem inFlight_purge (queue : Queue ρ) :
    inFlight queue.purge.entries = inFlight queue.entries := by
  unfold inFlight Queue.purge
  rw [List.filterMap_filter]
  congr 1
  funext e
  by_cases h : e.isOutstanding
  · rw [if_pos h]
  · have hstate : e.state ≠ .sent := by
      intro hsent
      simp [Entry.isOutstanding, hsent] at h
    rw [if_neg h, Entry.send?, if_neg hstate]

/-- An answer goes to the first request in flight for its address. -/
theorem balances_answer (address : Address) {front back : List (Entry ρ)} {e : Entry ρ}
    {resolution : Resolution} {effects : List (Effect ρ)}
    (hqueue : ∀ e' ∈ front ++ e :: back, e'.WellFormed)
    (hawaits : Queue.Awaits resolution.address.format e)
    (hfront : ∀ e' ∈ front, ¬ Queue.Awaits resolution.address.format e')
    (hdeeds : deeds effects = [.resolved e.requester resolution]) :
    Balances address (front ++ e :: back) (front ++ e.withState .complete :: back)
      effects.reverse := by
  have hsends : sends effects.reverse = [] := by
    rw [sends_reverse, sends_of_deeds hdeeds]
    rfl
  have hanswers : answers effects.reverse = [(e.requester, resolution)] := by
    rw [answers_reverse, answers_of_deeds hdeeds]
    rfl
  have he := hqueue e List.mem_append_cons_self
  obtain ⟨frame, hframe⟩ := he.hencodable
  have haddress : e.address = resolution.address :=
    Address.format_injective (he.htext.symm.trans hawaits.2)
  have hcomplete : (e.withState .complete).state ≠ .sent := by simp
  -- with the text of the answer, the lookup has its address, since an address has one text
  refine ⟨?_, .inr hsends⟩
  rw [requestsFor_of_sends_eq_nil address hsends, inFlight_append, inFlight_append,
    inFlight_cons_of_sent hawaits.1 hframe, inFlight_cons_of_ne_sent hcomplete]
  by_cases hfor : resolution.address = address
  · -- nothing in flight for the address stands in front of the lookup
    have hnone : pick address (inFlight front) = [] := by
      refine pick_inFlight_eq_nil fun e' he' hsent haddress' => hfront e' he' ⟨hsent, ?_⟩
      rw [(hqueue e' (List.mem_append_left _ he')).htext, haddress', hfor]
    have hrequest : Message.requested? frame = some address := by
      rw [Entry.requested?_frame hframe, haddress, hfor]
    have hgiven : answersFor address effects.reverse = [e.requester] := by
      simp [answersFor, hanswers, hfor]
    rw [pick_append, pick_append, pick_cons_of_eq address hrequest, hnone, hgiven]
    simp
  · have hrequest : Message.requested? frame ≠ some address := by
      rw [Entry.requested?_frame hframe, haddress]
      exact fun heq => hfor (Option.some.inj heq)
    have hgiven : answersFor address effects.reverse = [] := by
      simp [answersFor, hanswers, hfor]
    rw [pick_append, pick_append, pick_cons_of_ne address hrequest, hgiven]
    simp

/-- To name itself, a client asks for nothing. -/
theorem requestsFor_greeting (address : Address) {config : Config} {greeting : List (Effect ρ)}
    (h : Greeting config (deeds greeting)) : requestsFor address greeting.reverse = [] := by
  rw [requestsFor, sends_reverse, ← sends_deeds]
  generalize deeds greeting = done at h
  cases h with
  | silent => rfl
  | @named token frame _ hframe =>
    have hnone := Message.requested?_identify (encode_of_identifyFrame hframe)
    exact pick_cons_of_ne address (by simp [hnone]) none []

variable [Link σ]

/-- A flush asks for what was waiting, and puts it in flight. -/
theorem balances_flush (address : Address) {turn : Turn ρ σ} {s : Session ρ σ} {c : Connection σ}
    {greeting : List (Effect ρ)} {done : Flush ρ σ} (hs : s.InPhase)
    (hgreeting : Greeting s.config (deeds greeting))
    (hdone : done = flush turn.around c (greeting ++ s.history) s.queue.entries)
    (hflush : done.failure = none) :
    ∃ added, done.effects = added.reverse ++ s.history
      ∧ Balances address s.queue.entries done.entries added := by
  subst hdone
  obtain ⟨added, heffects, hanswers, -, hall⟩ :=
    effects_flush turn.around c (greeting ++ s.history) s.queue.entries
  refine ⟨(added ++ greeting).reverse, ?_, ?_⟩
  · rw [List.reverse_reverse, heffects, List.append_assoc]
  have hnone : answers (added ++ greeting).reverse = [] := by
    rw [answers_reverse, answers_append, hanswers, answers_greeting hgreeting]
    rfl
  have hrequests : requestsFor address (added ++ greeting).reverse
      = pick address (due turn.around.reachable s.queue.entries) := by
    rw [List.reverse_append, requestsFor_append, requestsFor_greeting address hgreeting,
      List.nil_append, requestsFor, hall hflush]
  refine ⟨?_, .inl hnone⟩
  rw [answersFor_of_answers_eq_nil address hnone, hrequests]
  by_cases hstate : s.connection.state = .connected
  · -- the connection was up before, so nothing was waiting
    have hidle := flush_of_none_pending turn.around c (greeting ++ s.history) s.queue.entries
      (hs.none_pending hstate)
    have hadded : added = [] := by
      rw [hidle] at heffects
      exact List.append_left_eq_self.1 heffects.symm
    have hdue : due turn.around.reachable s.queue.entries = [] := by
      rw [← hall hflush, hadded]
      rfl
    rw [hidle, hdue]
    simp [pick]
  · -- nothing was in flight, so what is in flight now is what was sent
    rw [inFlight_eq_nil (hs.none_sent hstate),
      inFlight_flush turn.around c _ _ (hs.none_sent hstate) hflush]
    rfl

/-- **One turn.** A turn that leaves the session connected keeps the balance. -/
theorem Outcome.balances (address : Address) {turn : Turn ρ σ} {s s' : Session ρ σ} {reply : Reply}
    (h : Outcome turn s reply s') (hs : s.InPhase) (hqueue : ∀ e ∈ s.queue.entries, e.WellFormed)
    (hstate : s'.connection.state = .connected) :
    ∃ added, s'.history = added.reverse ++ s.history
      ∧ Balances address s.queue.entries s'.queue.entries added := by
  cases h with
  | @noted _ effects _ hdeeds =>
    exact ⟨effects.reverse, by rw [List.reverse_reverse], .idle hdeeds rfl⟩
  | relinked link => exact ⟨[], rfl, .idle deeds_nil rfl⟩
  | purged => exact ⟨[], rfl, .idle deeds_nil (inFlight_purge s.queue)⟩
  | @informed _ effects hdeeds =>
    exact ⟨effects.reverse, by rw [List.reverse_reverse], .idle hdeeds rfl⟩
  | @answered _ entry _ resolution effects _ _ hfound hdeeds =>
    obtain ⟨front, e, back, hentries, rfl, hrequester, hawaits, hfront⟩ :=
      Queue.completeFirstSent_spec hfound
    rw [hentries] at hqueue ⊢
    rw [hrequester] at hdeeds
    exact ⟨effects.reverse, by rw [List.reverse_reverse],
      balances_answer address hqueue hawaits hfront hdeeds⟩
  | up _ _ _ hgreeting hdone hflush => exact balances_flush address hs hgreeting hdone hflush
  | @sent _ entry frame _ hadmits _ _ =>
    refine ⟨[@Effect.sent ρ (some entry.requester) frame], rfl, ?_, .inl rfl⟩
    have hframe : (entry.withState .sent).frame = .ok frame := hadmits.hframe
    -- the request just made is the last one in flight
    show _ ++ pick address [(some entry.requester, frame)]
      = [] ++ pick address (inFlight (_ ++ [_]))
    rw [inFlight_append, pick_append, inFlight_cons_of_sent rfl hframe]
    rfl
  -- every other outcome leaves the session without a connection
  | opened _ hdisconnected =>
    have hconnecting := Connection.state_connect s.connection
    rw [if_pos hdisconnected] at hconnecting
    cases hconnecting.symm.trans hstate
  | released => cases hstate
  | lost => cases hstate
  | unnamed => cases hstate
  | cut => cases hstate
  | queued _ hne => cases (Connection.state_connect_of_ne_connected hne).symm.trans hstate
  | @requeued _ _ _ c =>
    have hne : c.disconnect.state ≠ .connected := by simp
    cases (Connection.state_connect_of_ne_connected hne).symm.trans hstate

/-! ## A connection -/

/-- A stretch of a run that starts unconnected and stays connected from its first turn on. -/
structure Stretch (start : Session ρ σ) (before during : List (Turn ρ σ)) : Prop where
  hopens : (start.run before).connection.state ≠ .connected
  hstays : ∀ front, front <+: during → front ≠ [] →
    (start.run (before ++ front)).connection.state = .connected

/-- A stretch without its last turn is a stretch. -/
theorem Stretch.init {start : Session ρ σ} {before during : List (Turn ρ σ)} {turn : Turn ρ σ}
    (h : Stretch start before (during ++ [turn])) : Stretch start before during :=
  ⟨h.hopens, fun front hfront => h.hstays front (hfront.trans (List.prefix_append ..))⟩

/-- At each moment of a stretch, those who were answered for an address are the first of those for
whom it was asked, and what was asked and is not answered is in flight. -/
theorem stretch_balance (address : Address) {config : Config} {link : σ} {start : Session ρ σ}
    (hnew : Session.new config link = .ok start) {before during : List (Turn ρ σ)}
    (h : Stretch start before during) :
    ∃ done, (start.run (before ++ during)).history = done.reverse ++ (start.run before).history
      ∧ requestsFor address done = (answersFor address done).map some
        ++ pick address (inFlight (start.run (before ++ during)).queue.entries)
      ∧ ∀ front, front <+: done →
        (answersFor address front).map some <+: requestsFor address front := by
  induction during using List.reverseRecOn with
  | nil =>
    -- nothing is in flight where the stretch opens
    have hnone := (inPhase_run hnew before).none_sent h.hopens
    refine ⟨[], by simp, ?_, ?_⟩
    · rw [List.append_nil, inFlight_eq_nil hnone]
      rfl
    · intro front hfront
      rw [List.prefix_nil.1 hfront]
      exact List.nil_prefix
  | append_singleton during turn ih =>
    obtain ⟨done, hhistory, hbalance, hmoments⟩ := ih h.init
    have hstate := h.hstays (during ++ [turn]) List.prefix_rfl (by simp)
    rw [← List.append_assoc, run_concat] at hstate ⊢
    obtain ⟨added, hadded, hstep, hapart⟩ := (perform_outcome turn _).balances address
      (inPhase_run hnew (before ++ during)) (wellFormed_run hnew (before ++ during)) hstate
    refine ⟨done ++ added, ?_, ?_, ?_⟩
    · rw [List.reverse_append, List.append_assoc, ← hhistory]
      exact hadded
    · rw [requestsFor_append, hbalance, List.append_assoc, hstep, answersFor_append,
        List.map_append, List.append_assoc]
      rfl
    · intro front hfront
      -- a moment before the last turn, or within it
      rcases List.prefix_or_prefix_of_prefix hfront (List.prefix_append done added) with hold | hnew
      · exact hmoments front hold
      · obtain ⟨part, rfl⟩ := hnew
        obtain ⟨rest, rfl⟩ := (List.prefix_append_right_inj done).1 hfront
        rw [requestsFor_append, answersFor_append, List.map_append, hbalance, List.append_assoc,
          List.prefix_append_right_inj]
        -- a turn that asks has given no answer yet, and one that answers has asked for nothing
        rcases hapart with hanswers | hsends
        · have hnone : answers part = [] := by
            rw [answers_append] at hanswers
            exact (List.append_eq_nil_iff.1 hanswers).1
          rw [answersFor_of_answers_eq_nil address hnone]
          exact List.nil_prefix
        · rw [requestsFor_of_sends_eq_nil address hsends, List.append_nil, answersFor_append,
            List.map_append, List.append_assoc] at hstep
          rw [hstep, List.append_assoc]
          exact List.prefix_append _ _

/-- **Answers follow requests.** While a connection lasts, an answer for an address, the one that
comes after `j` others for it, goes to the requester of the request for the address that the link
took after `j` others, and the link took that request before. The count starts with the turn in
which the connection comes up: `earlier` is what the session did from there to the answer. -/
theorem answers_follow_requests {config : Config} {link : σ} {start : Session ρ σ}
    (hnew : Session.new config link = .ok start) {before during : List (Turn ρ σ)}
    (h : Stretch start before during) (address : Address) (j : Nat) :
    ∀ earlier requester resolution later,
      since (start.run before) (start.run (before ++ during))
        = earlier ++ .resolved requester resolution :: later →
      resolution.address = address → (answersFor address earlier).length = j →
      j < (requestsFor address earlier).length
        ∧ (requestsFor address earlier)[j]? = some (some requester) := by
  intro earlier requester resolution later hdone haddress hj
  obtain ⟨done, hhistory, -, hmoments⟩ := stretch_balance address hnew h
  rw [since_of_history_eq hhistory] at hdone
  -- the answers up to this one are a beginning of the requests before it
  have hfront : earlier ++ [.resolved requester resolution] <+: done := by
    rw [hdone]
    exact ⟨later, by simp⟩
  obtain ⟨rest, hprefix⟩ := hmoments _ hfront
  have hgiven : answersFor address (earlier ++ [.resolved requester resolution])
      = answersFor address earlier ++ [requester] := by
    rw [answersFor_append]
    simp [answersFor, haddress]
  have hasked : requestsFor address (earlier ++ [.resolved requester resolution])
      = requestsFor address earlier := by
    rw [requestsFor_append]
    exact List.append_nil _
  rw [hgiven, hasked] at hprefix
  have hget : (requestsFor address earlier)[j]? = some (some requester) := by
    rw [← hprefix, ← hj]
    simp
  exact ⟨(List.getElem?_eq_some_iff.1 hget).1, hget⟩

/-- Two requesters ask for one address, written in two ways, before the connection comes up; the
first answer goes to the first of them. -/
theorem first_answer_goes_to_first_request :
    let address : Address := ⟨0x0A000001⟩
    let before := [.submit 0 "10.0.0.1" [], .submit 1 "10.0.0.01" []].map Turn.plain
    let during := [.event .connected, .event (.received [1, 4, 10, 0, 0, 1])].map Turn.plain
    ∃ earlier, since (recorded.run before) (recorded.run (before ++ during))
        = earlier ++ .resolved 0 (.notFound address) :: []
      ∧ (requestsFor address earlier)[0]? = some (some 0) := by
  intro address before during
  have hstretch : Stretch recorded before during := by
    refine ⟨by decide +kernel, fun front hfront hne => ?_⟩
    have htake := List.prefix_iff_eq_take.1 hfront
    have hle : front.length ≤ 2 := hfront.length_le
    have hpos := List.length_pos_iff.2 hne
    have hlength : front.length = 1 ∨ front.length = 2 := by omega
    rcases hlength with hone | htwo
    · rw [htake, hone]
      decide +kernel
    · rw [htake, htwo]
      decide +kernel
  have hdone : since (recorded.run before) (recorded.run (before ++ during))
      = [.notice (.connected ⟨"127.0.0.1", 9595⟩),
        @Effect.sent Nat (some 0) [1, 2, 10, 0, 0, 1, 0],
        @Effect.sent Nat (some 1) [1, 2, 10, 0, 0, 1, 0],
        .notice (.resolved (.notFound address))] ++ .resolved 0 (.notFound address) :: [] := by
    decide +kernel
  have hanswer := answers_follow_requests new_recorded hstretch address 0 _ 0 _ [] hdone rfl rfl
  exact ⟨_, hdone, hanswer.2⟩

end Session

end CidrLookup
