import CidrLookup.Proofs.Message.Encode
import CidrLookup.Proofs.Session.Halt
import CidrLookup.Proofs.Session.Retry

/-!
# What a submission comes to

A submission is refused or taken, and nothing in between. `Refuses` lists the reasons for which a
session refuses a lookup, in the order in which they count, and `submit_of_refuses` says that a
refused submission leaves the session as it was. A lookup that is taken joins at the end of the
queue. It is in flight if the link took its request on an open connection; otherwise everything
outstanding waits and a connection is being made, whatever the link did.

All reasons but a full queue are final. Two of them depend on the lookup alone, and the third, that
the session has given up, never goes away.
-/

namespace CidrLookup.Session

variable {ρ σ : Type}

/-! ## Reasons to refuse -/

/-- Why a session refuses a lookup: the first reason that applies. -/
inductive Refuses (s : Session ρ σ) (text : String) (metadata : Metadata) :
    SessionError → Prop where
  /-- The session has given up. -/
  | halted {reason : String} (hhalted : s.halted = some reason) :
      Refuses s text metadata (.halted reason)
  /-- The text is no address. -/
  | notAddress {e : ProtocolError} (hhalted : s.halted = none)
      (hparse : Address.parse text = .error e) : Refuses s text metadata (.invalidAddress e)
  /-- The request has no written form. -/
  | notEncodable {address : Address} {e : ProtocolError} (hhalted : s.halted = none)
      (hparse : Address.parse text = .ok address)
      (hencode : (Message.request address metadata).encode = .error e) :
      Refuses s text metadata (.protocol e)
  /-- As many lookups are outstanding as there may be. -/
  | full {address : Address} (hhalted : s.halted = none) (hparse : Address.parse text = .ok address)
      (hencodable : (Message.request address metadata).Encodable) (hfull : s.IsFull) :
      Refuses s text metadata (.queueFull s.queue.maxPending)

/-- A lookup that nothing is wrong with, for a session with room. -/
structure Takes (s : Session ρ σ) (text : String) (metadata : Metadata) (address : Address)
    (frame : Bytes) : Prop where
  hhalted : s.halted = none
  hparse : Address.parse text = .ok address
  hencode : (Message.request address metadata).encode = .ok frame
  hroom : ¬ s.IsFull

variable {s : Session ρ σ} {requester : ρ} {text : String} {metadata : Metadata}

/-- Every submission is refused for the first reason there is, or taken. -/
theorem refuses_or_takes (s : Session ρ σ) (text : String) (metadata : Metadata) :
    (∃ e, s.Refuses text metadata e) ∨ ∃ address frame, s.Takes text metadata address frame := by
  -- the reasons in the order in which they are looked for
  cases hhalted : s.halted with
  | some reason => exact .inl ⟨_, .halted hhalted⟩
  | none =>
    cases hparse : Address.parse text with
    | error e => exact .inl ⟨_, .notAddress hhalted hparse⟩
    | ok address =>
      cases hencode : (Message.request address metadata).encode with
      | error e => exact .inl ⟨_, .notEncodable hhalted hparse hencode⟩
      | ok frame =>
        by_cases hfull : s.IsFull
        · exact .inl ⟨_, .full hhalted hparse (Message.encode_eq_ok_iff.1 hencode).1 hfull⟩
        · exact .inr ⟨address, frame, hhalted, hparse, hencode, hfull⟩

variable [Link σ]

/-- A submission that is refused gets the reason and changes nothing. -/
theorem submit_of_refuses {e : SessionError} (h : s.Refuses text metadata e) (now : Instant)
    (requester : ρ) : s.submit now requester text metadata = (.error e, s) := by
  cases h with
  | halted hhalted => rw [submit, hhalted]
  | notAddress hhalted hparse => simp only [submit, hhalted, hparse]
  | notEncodable hhalted hparse hencode =>
    simp only [submit, hhalted, hparse, Entry.frame, Entry.request, Entry.make, hencode]
  | full hhalted hparse hencodable hfull =>
    -- the request is written before the limit is looked at
    have hencode := Message.encode_eq_ok_iff.2 ⟨hencodable, rfl⟩
    have hpush (entry : Entry ρ) : s.queue.push entry = .error (.queueFull s.queue.maxPending) :=
      if_pos hfull
    simp only [submit, hhalted, hparse, Entry.frame, Entry.request, Entry.make, hencode, hpush]

/-- A submission that is taken joins the queue and is dispatched. -/
theorem submit_of_takes {address : Address} {frame : Bytes}
    (h : s.Takes text metadata address frame) (now : Instant) (requester : ρ) :
    s.submit now requester text metadata
      = (dispatch now requester text frame { s with queue := { s.queue with
          entries := s.queue.entries ++ [.make requester address metadata] } }).map .ok id := by
  obtain ⟨hhalted, hparse, hencode, hroom⟩ := h
  have hframe : (Entry.make requester address metadata).frame = .ok frame := hencode
  have hpush : s.queue.push (.make requester address metadata)
      = .ok { s.queue with entries := s.queue.entries ++ [.make requester address metadata] } :=
    if_neg hroom
  simp only [submit, hhalted, hparse, hframe, hpush]
  rfl

/-- **The reasons are complete.** A session refuses a lookup with an error if and only if that is
the first reason that applies. -/
theorem submit_error_iff {e : SessionError} (now : Instant) (requester : ρ) :
    (s.submit now requester text metadata).1 = .error e ↔ s.Refuses text metadata e := by
  constructor
  · intro h
    obtain ⟨e', hrefuses⟩ | ⟨address, frame, htakes⟩ := refuses_or_takes s text metadata
    · rw [submit_of_refuses hrefuses] at h
      cases h
      exact hrefuses
    · rw [submit_of_takes htakes] at h
      contradiction
  · intro h
    rw [submit_of_refuses h]

/-! ## Lookups that are taken -/

/-- Whether the session hands the frame to its link at once and the link takes it. -/
def LinkTakes (s : Session ρ σ) (frame : Bytes) : Prop :=
  s.connection.state = .connected ∧ ∃ link, Link.send frame s.connection.link = (.ok (), link)

/-- A link takes a frame where the connection can send it. -/
theorem linkTakes_iff (now : Instant) {frame : Bytes} :
    s.LinkTakes frame ↔ (s.connection.send now frame).1 = .ok () := by
  unfold LinkTakes Connection.send
  by_cases hstate : s.connection.state = .connected
  · rcases hsend : Link.send frame s.connection.link with ⟨e | ⟨⟨⟩⟩, link⟩ <;> simp [hstate]
  · simp [hstate]

/-- What becomes of a lookup that is taken. -/
inductive Taken (s : Session ρ σ) (entry : Entry ρ) (frame : Bytes) :
    SubmitOutcome → Session ρ σ → Prop where
  /-- It is in flight: the link took its request, and nothing else. -/
  | sent {s' : Session ρ σ} (hlink : s.LinkTakes frame)
      (hentries : s'.queue.entries = s.queue.entries ++ [entry.withState .sent])
      (hstate : s'.connection.state = .connected)
      (hsends : sends (since s s') = [(some entry.requester, frame)]) : Taken s entry frame .sent s'
  /-- It waits, with every other lookup that is outstanding, and a connection is being made. -/
  | queued {s' : Session ρ σ} (hlink : ¬ s.LinkTakes frame)
      (hentries : s'.queue.entries = s.queue.demoteSent.entries ++ [entry])
      (hwaits : ∀ e ∈ s'.queue.entries, e.isOutstanding → e.state = .pending)
      (hstate : s'.connection.state = .connecting) (hsends : sends (since s s') = []) :
      Taken s entry frame .queued s'

omit [Link σ] in
/-- The frames that went out since are those of the history that was added, in order. -/
theorem sends_since {s' : Session ρ σ} {front : List (Effect ρ)}
    (h : s'.history = front ++ s.history) : sends (since s s') = (sends front).reverse := by
  rw [since_eq_reverse h, sends_reverse]

omit [Link σ] in
/-- The lookup that a turn submits is made of what the turn gives. -/
theorem Admits.entry_eq {turn : Turn ρ σ} {text' : String} {entry : Entry ρ} {frame : Bytes}
    {address : Address} (h : s.Admits turn text' entry frame)
    (hcall : turn.call = .submit requester text metadata)
    (hparse : Address.parse text = .ok address) :
    entry = .make requester address metadata
      ∧ (Message.request address metadata).encode = .ok frame := by
  obtain ⟨-, hcall', hparse', hmake, hframe, -⟩ := h
  obtain ⟨hrequester, rfl, hmetadata⟩ := Call.submit.inj (hcall'.symm.trans hcall)
  have haddress : entry.address = address := Except.ok.inj (hparse'.symm.trans hparse)
  have hentry : entry = .make requester address metadata := by
    rw [hmake, hrequester, haddress, hmetadata]
  rw [hentry] at hframe
  exact ⟨hentry, hframe⟩

omit [Link σ] in
/-- Behind lookups that are not in flight any more, a lookup that has just joined waits like
them. -/
theorem pending_of_demoteSent (queue : Queue ρ) (requester : ρ) (address : Address)
    (metadata : Metadata) :
    ∀ e ∈ queue.demoteSent.entries ++ [.make requester address metadata],
      e.isOutstanding → e.state = .pending := by
  refine List.forall_mem_append.2 ⟨fun e he hout => ?_, by simp [Entry.make]⟩
  have hsent := queue.demoteSent_leaves_none_sent e he
  cases hstate : e.state <;> simp_all [Entry.isOutstanding]

/-- A lookup that is taken is in flight or waits, as the link has it. -/
theorem taken_of_takes {address : Address} {frame : Bytes} (hphase : s.InPhase)
    (h : s.Takes text metadata address frame) (now : Instant) (requester : ρ) :
    ∃ outcome s', s.submit now requester text metadata = (.ok outcome, s')
      ∧ s.Taken (.make requester address metadata) frame outcome s' := by
  obtain ⟨outcome, s', hsubmit⟩ :
      ∃ outcome s', s.submit now requester text metadata = (.ok outcome, s') :=
    ⟨_, _, submit_of_takes h now requester⟩
  refine ⟨outcome, s', hsubmit, ?_⟩
  let turn : Turn ρ σ := ⟨⟨now, fun _ => true⟩, .submit requester text metadata⟩
  have hcall : turn.call = .submit requester text metadata := rfl
  have houtcome : Outcome turn s (.submitted (s.submit now requester text metadata).1)
      (s.submit now requester text metadata).2 := outcome_submit hcall s
  rw [hsubmit] at houtcome
  simp only at houtcome
  -- the outcome is for the lookup that was submitted
  have hsame {entry : Entry ρ} {text' : String} {frame' : Bytes}
      (hadmits : s.Admits turn text' entry frame') :
      entry = .make requester address metadata ∧ frame = frame' := by
    obtain ⟨hentry, hframe⟩ := hadmits.entry_eq hcall h.hparse
    exact ⟨hentry, Except.ok.inj (h.hencode.symm.trans hframe)⟩
  have hwaits := pending_of_demoteSent s.queue requester address metadata
  cases houtcome with
  | sent hadmits hstate hsend =>
    obtain ⟨rfl, rfl⟩ := hsame hadmits
    refine .sent ((linkTakes_iff now).2 (congrArg Prod.fst hsend)) rfl
      ((Connection.state_of_send hsend).trans hstate) ?_
    rw [sends_since List.singleton_append.symm]
    rfl
  | queued hadmits hstate hdeeds =>
    obtain ⟨rfl, rfl⟩ := hsame hadmits
    -- nothing is in flight without a connection
    rw [Queue.demoteSent_of_none_sent (hphase.none_sent hstate)] at hwaits
    refine .queued (fun hlink => hstate hlink.1) ?_ hwaits
      (Connection.state_connect_of_ne_connected hstate) ?_
    · rw [Queue.demoteSent_of_none_sent (hphase.none_sent hstate)]
    · rw [sends_since rfl, sends_of_deeds hdeeds]
      split <;> rfl
  | requeued hadmits hstate hsend hdeeds =>
    obtain ⟨rfl, rfl⟩ := hsame hadmits
    have hlink : ¬ s.LinkTakes frame := by
      intro hlink
      have hok := (linkTakes_iff now).1 hlink
      rw [show s.connection.send now frame = _ from hsend] at hok
      contradiction
    -- the lookup that was submitted waits already
    have hentries : (Queue.demoteSent ⟨s.queue.entries ++ [.make requester address metadata],
        s.queue.maxPending⟩).entries
        = s.queue.demoteSent.entries ++ [.make requester address metadata] := by
      simp [Queue.demoteSent, Entry.make, Entry.demote]
    refine .queued hlink hentries ?_ (Connection.state_connect_of_ne_connected (by simp)) ?_
    · rw [← hentries] at hwaits
      exact hwaits
    · rw [sends_since rfl, sends_of_deeds hdeeds]
      rfl
  | noted haccepted => contradiction
  | lost haccepted => contradiction

/-! ## Runs -/

/-- No turn changes the limit of the queue. -/
theorem Outcome.maxPending_eq {turn : Turn ρ σ} {s' : Session ρ σ} {reply : Reply}
    (h : Outcome turn s reply s') : s'.queue.maxPending = s.queue.maxPending := by
  cases h with
  | answered _ _ hfound =>
    obtain ⟨front, e, back, -, rfl, -⟩ := Queue.completeFirstSent_spec hfound
    rfl
  | _ => rfl

/-- The limit of the queue is the configured one. -/
theorem maxPending_run {config : Config} {link : σ} {start : Session ρ σ}
    (hnew : Session.new config link = .ok start) (turns : List (Turn ρ σ)) :
    (start.run turns).queue.maxPending = config.maxPending := by
  refine run_induction (motive := fun s => s.queue.maxPending = config.maxPending)
    (maxPending_of_new hnew) ?_ turns
  intro s turn hs
  exact (perform_outcome turn s).maxPending_eq.trans hs

/-- **A submission is taken or leaves no trace.** Whatever happened to a session, it refuses a
lookup for the first of four reasons: it has given up, the text is no address, the request has no
written form, or as many lookups are outstanding as the configuration allows. It is the same
session afterwards, with the same history: it has sent nothing and told nobody anything. Where none
of the reasons applies, the lookup is taken. It joins at the end of the queue, and it is reported as
sent if and only if the session was connected and the link took its request. In every other case,
that of a link which does not take it included, it waits with all the others for a connection that
is being made. -/
theorem submission_is_taken_or_leaves_no_trace {config : Config} {link : σ} {start : Session ρ σ}
    (hnew : Session.new config link = .ok start) (turns : List (Turn ρ σ)) (now : Instant)
    (requester : ρ) (text : String) (metadata : Metadata) :
    let s := start.run turns
    let reply := (s.submit now requester text metadata).1
    let s' := (s.submit now requester text metadata).2
    s.queue.maxPending = config.maxPending
      ∧ (∀ e, reply = .error e ↔ s.Refuses text metadata e)
      ∧ (∀ e, reply = .error e → s' = s)
      ∧ (∀ e, reply = .error (.protocol e) →
          maxMetadata < metadata.length ∧ e = .tooManyPairs metadata.length
          ∨ metadata.length ≤ maxMetadata
            ∧ (∃ part ∈ Message.pairTexts metadata, '\x00' ∈ part.toList)
            ∧ ∃ field, e = .interiorNul field)
      ∧ ∀ outcome, reply = .ok outcome → ∃ address frame, Address.parse text = .ok address
          ∧ (Message.request address metadata).encode = .ok frame
          ∧ (outcome = .sent ↔ s.LinkTakes frame)
          ∧ s.Taken (.make requester address metadata) frame outcome s' := by
  intro s reply s'
  have hrefuses (e : SessionError) : reply = .error e ↔ s.Refuses text metadata e :=
    submit_error_iff now requester
  refine ⟨maxPending_run hnew turns, hrefuses, ?_, ?_, ?_⟩
  · intro e he
    show (s.submit now requester text metadata).2 = s
    rw [submit_of_refuses ((hrefuses e).1 he)]
  · intro e he
    cases (hrefuses _).1 he with
    | notEncodable _ _ hencode => exact Message.encode_request_eq_error hencode
  · intro outcome hok
    obtain ⟨e, he⟩ | ⟨address, frame, htakes⟩ := refuses_or_takes s text metadata
    · cases hok.symm.trans ((hrefuses e).2 he)
    · obtain ⟨outcome', after, hsubmit, htaken⟩ :=
        taken_of_takes (inPhase_run hnew turns) htakes now requester
      have hreply : reply = .ok outcome' := congrArg Prod.fst hsubmit
      have hafter : s' = after := congrArg Prod.snd hsubmit
      obtain rfl : outcome' = outcome := Except.ok.inj (hreply.symm.trans hok)
      rw [hafter]
      refine ⟨address, frame, htakes.hparse, htakes.hencode, ?_, htaken⟩
      cases htaken with
      | sent hlink => exact ⟨fun _ => hlink, fun _ => rfl⟩
      | queued hlink => exact ⟨fun h => by contradiction, fun h => absurd h hlink⟩

/-- The link fails while a lookup is in flight. The next one is queued behind it, both wait, and a
new attempt is under way. -/
theorem refused_frame_leaves_both_waiting :
    let turns := [.submit 0 "10.0.0.1" [], .event .connected,
      .relink { RecordingLink.new with fault := some (0, .notConnected) }].map Turn.plain
    let s := recorded.run turns
    let reply := (s.submit ⟨0⟩ 1 "10.0.0.02" []).1
    let s' := (s.submit ⟨0⟩ 1 "10.0.0.02" []).2
    s.queue.entries.map Entry.state = [.sent] ∧ reply = .ok .queued
      ∧ s'.queue.entries.map Entry.text = ["10.0.0.1", "10.0.0.2"]
      ∧ (∀ e ∈ s'.queue.entries, e.isOutstanding → e.state = .pending)
      ∧ s'.connection.state = .connecting ∧ sends (since s s') = [] := by
  intro turns s reply s'
  have hbefore : s.queue.entries.map Entry.state = [.sent] := by decide +kernel
  have hreply : reply = .ok .queued := by decide +kernel
  have htexts : s'.queue.entries.map Entry.text = ["10.0.0.1", "10.0.0.2"] := by decide +kernel
  obtain ⟨-, -, -, -, htakes⟩ :=
    submission_is_taken_or_leaves_no_trace new_recorded turns ⟨0⟩ 1 "10.0.0.02" []
  obtain ⟨address, frame, -, -, -, htaken⟩ := htakes .queued hreply
  change s.Taken (.make 1 address []) frame .queued s' at htaken
  clear_value s s' reply
  cases htaken with
  | queued _ _ hwaits hstate hsends => exact ⟨hbefore, hreply, htexts, hwaits, hstate, hsends⟩

/-! ## Final refusals -/

omit [Link σ] in
/-- A lookup that is refused for good is refused by a session that has gone on from there. -/
theorem Refuses.later {s' : Session ρ σ} {e : SessionError} (h : s.Refuses text metadata e)
    (hfinal : e.isRetryable = false) (hhalts : s.halted.isSome → s'.halted.isSome) :
    ∃ e', s'.Refuses text metadata e' ∧ e'.isRetryable = false
      ∧ (e' = e ∨ ∃ reason, e' = .halted reason) := by
  cases hhalted' : s'.halted with
  | some reason => exact ⟨.halted reason, .halted hhalted', rfl, .inr ⟨reason, rfl⟩⟩
  | none =>
    -- the session has not given up since, so it had not given up before
    cases h with
    | halted hhalted =>
      have hsome := hhalts (by rw [hhalted]; rfl)
      rw [hhalted'] at hsome
      contradiction
    | notAddress _ hparse => exact ⟨_, .notAddress hhalted' hparse, hfinal, .inl rfl⟩
    | notEncodable _ hparse hencode =>
      exact ⟨_, .notEncodable hhalted' hparse hencode, hfinal, .inl rfl⟩
    | full => contradiction

/-- A session that has given up does not take it back. -/
theorem halted_run_append {config : Config} {link : σ} {start : Session ρ σ}
    (hnew : Session.new config link = .ok start) (turns more : List (Turn ρ σ))
    (h : (start.run turns).halted.isSome) : (start.run (turns ++ more)).halted.isSome := by
  obtain ⟨turn, hmem, hforeign⟩ := (halted_run_iff hnew turns).1 h
  exact (halted_run_iff hnew (turns ++ more)).2 ⟨turn, List.mem_append_left _ hmem, hforeign⟩

/-- **A refusal that is not worth a retry is final.** If a session refuses a lookup with an error
that is not worth a retry, then the same lookup is refused with such an error after whatever
follows: with the same error, or because the session has given up since. It is never taken, and a
full queue is never the reason. -/
theorem refusal_without_retry_is_final {config : Config} {link : σ} {start : Session ρ σ}
    (hnew : Session.new config link = .ok start) (turns more : List (Turn ρ σ))
    (now later : Instant) (requester : ρ) (text : String) (metadata : Metadata) {e : SessionError}
    (hrefused : ((start.run turns).submit now requester text metadata).1 = .error e)
    (hfinal : e.isRetryable = false) :
    let s' := ((start.run turns).submit now requester text metadata).2.run more
    ∃ e', (s'.submit later requester text metadata).1 = .error e' ∧ e'.isRetryable = false
      ∧ (∀ limit, e' ≠ .queueFull limit) ∧ (e' = e ∨ ∃ reason, e' = .halted reason) := by
  intro s'
  have hrefuses := (submit_error_iff now requester).1 hrefused
  -- the refusal left no trace, so the later session is that of a run
  have hs' : s' = start.run (turns ++ more) := by
    show ((start.run turns).submit now requester text metadata).2.run more = _
    rw [submit_of_refuses hrefuses, run_append]
  obtain ⟨e', hrefuses', hfinal', hcases⟩ :=
    hrefuses.later hfinal (halted_run_append hnew turns more)
  rw [hs']
  refine ⟨e', (submit_error_iff later requester).2 hrefuses', hfinal', ?_, hcases⟩
  rintro limit rfl
  contradiction

/-- A key with a NUL in it is refused before the connection comes up, and afterwards, when the
service has answered in another version. -/
theorem key_with_nul_stays_refused :
    let metadata : Metadata := [("a\x00b", "c")]
    let more := [.submit 0 "10.0.0.1" [], .event .connected, .event (.received [2])].map Turn.plain
    let refused := recorded.submit ⟨0⟩ 0 "10.0.0.1" metadata
    refused.1 = .error (.protocol (.interiorNul "meta key"))
      ∧ ∃ reason, ((refused.2.run more).submit ⟨0⟩ 0 "10.0.0.1" metadata).1
        = .error (.halted reason) := by
  intro metadata more refused
  have hrefused : refused.1 = .error (.protocol (.interiorNul "meta key")) := by decide +kernel
  have hlater : ((refused.2.run more).submit ⟨0⟩ 0 "10.0.0.1" metadata).1
      ≠ .error (.protocol (.interiorNul "meta key")) := by decide +kernel
  obtain ⟨e', herror, -, -, hcases⟩ := refusal_without_retry_is_final new_recorded []
    more ⟨0⟩ ⟨0⟩ 0 "10.0.0.1" metadata hrefused rfl
  rcases hcases with rfl | ⟨reason, rfl⟩
  · exact absurd herror hlater
  · exact ⟨hrefused, reason, herror⟩

end CidrLookup.Session
