import CidrLookup.Proofs.Session.Fate
import CidrLookup.Proofs.Session.Timeline

/-!
# What a session asks of its link

A session starts an attempt to connect only after it has closed its link, hands over frames only
while a connection is up, and on each connection first names itself, if it has a token, and then
asks for addresses in the order of submission. Three pieces of code hand frames over: naming the
client, the flush, and a submission on an open connection. The flush goes through the queue, whose
order is that of the turns, and it goes through all of it before the next turn can submit; so each
lookup that is sent at once is younger than those that were sent before.

Turns are numbered as in `traced`, so that the lookup that a frame was sent for can be told.
-/

namespace CidrLookup

variable {ρ σ : Type}

/-! ## Frames -/

namespace Effect

/-- The name of the client was handed to the link. -/
inductive Names (token : String) : Effect ρ → Prop where
  | sent {frame : Bytes} (hframe : (Message.identify token).encode = .ok frame) :
      Names token (@sent ρ none frame)
  | refused {frame : Bytes} {e : SessionError}
      (hframe : (Message.identify token).encode = .ok frame) : Names token (refused frame e)

/-- The request of a lookup was handed to the link. -/
inductive Delivers : Effect ρ → Entry ρ → Prop where
  | sent {entry : Entry ρ} {frame : Bytes} (hframe : entry.frame = .ok frame) :
      Delivers (@sent ρ (some entry.requester) frame) entry
  | refused {entry : Entry ρ} {frame : Bytes} {e : SessionError}
      (hframe : entry.frame = .ok frame) : Delivers (refused frame e) entry

end Effect

namespace Session

variable [Link σ]

/-- A flush hands over requests of the queue, in the order of the queue, each at most once. -/
theorem deeds_flush (around : Surroundings ρ) (c : Connection σ) (effects : List (Effect ρ))
    (entries : List (Entry ρ)) :
    ∃ added lookups, (flush around c effects entries).effects = added ++ effects
      ∧ List.Forall₂ Effect.Delivers (deeds added).reverse lookups
      ∧ lookups.Sublist entries := by
  have hflushes := flush_flushes around c effects entries
  generalize flush around c effects entries = done at hflushes ⊢
  -- along the queue: what is left alone is no request, what the link takes is the next one, and
  -- nothing comes after a refusal
  induction hflushes with
  | done => exact ⟨[], [], rfl, .nil, .slnil⟩
  | @skipped _ _ e _ _ _ _ ih =>
    obtain ⟨added, lookups, heffects, hdelivers, hsub⟩ := ih
    exact ⟨added, lookups, heffects, hdelivers, hsub.cons e⟩
  | @gone _ _ e _ _ _ _ _ ih =>
    obtain ⟨added, lookups, heffects, hdelivers, hsub⟩ := ih
    refine ⟨added ++ [.notice (.requesterGone e.text)], lookups, ?_, ?_, hsub.cons e⟩
    · simpa using heffects
    · simpa using hdelivers
  | @unencodable _ _ e _ _ error _ _ _ _ ih =>
    obtain ⟨added, lookups, heffects, hdelivers, hsub⟩ := ih
    refine ⟨added ++ [.notice (.unencodable e.text (.protocol error))], lookups, ?_, ?_,
      hsub.cons e⟩
    · simpa using heffects
    · simpa using hdelivers
  | @sent _ _ _ e _ _ frame _ _ hframe _ _ ih =>
    obtain ⟨added, lookups, heffects, hdelivers, hsub⟩ := ih
    have hdeed : deeds [@Effect.sent ρ (some e.requester) frame]
        = [@Effect.sent ρ (some e.requester) frame] := rfl
    -- the history has the newest first, so this request comes before those of the rest
    refine ⟨added ++ [@Effect.sent ρ (some e.requester) frame], e :: lookups, ?_, ?_,
      hsub.cons_cons e⟩
    · simpa using heffects
    · rw [deeds_append, hdeed, List.reverse_append, List.reverse_singleton]
      exact .cons (.sent hframe) hdelivers
  | @cut _ _ _ e more frame error _ _ hframe =>
    refine ⟨[.refused frame error], [e], rfl, .cons (.refused hframe) .nil, ?_⟩
    exact List.singleton_sublist.2 List.mem_cons_self

/-! ## One turn -/

/-- What was speech before a turn still is, and what is said in the turn makes it longer. -/
structure Permits (said speech : List (Effect ρ) → Prop) (turn : Turn ρ σ) (s : Session ρ σ)
    (reply : Reply) : Prop where
  grows : ∀ calls, said calls → speech calls
  closed : PrefixClosed speech
  opening : ∀ greeting calls lookups, Greeting s.config greeting →
    List.Forall₂ Effect.Delivers calls lookups → lookups.Sublist s.queue.entries →
    speech (greeting.reverse ++ calls)
  snubbed : ∀ snub, Snub s.config snub → snub.reverse = [] ∨ speech snub.reverse
  joining : ∀ text entry frame call calls, reply.accepted → s.Admits turn text entry frame →
    call.Delivers entry → said calls → speech (calls ++ [call])

omit [Link σ] in
/-- To name itself, a client does nothing but hand a frame over. -/
theorem Greeting.isHandover {config : Config} {greeting : List (Effect ρ)}
    (h : Greeting config greeting) : ∀ e ∈ greeting, e.isHandover := by
  cases h <;> simp [Effect.isHandover]

omit [Link σ] in
/-- A client that is cut short in naming itself has done nothing but hand a frame over. -/
theorem Snub.isHandover {config : Config} {snub : List (Effect ρ)} (h : Snub config snub) :
    ∀ e ∈ snub, e.isHandover := by
  cases h <;> simp [Effect.isHandover]

omit [Link σ] in
/-- Requests are delivered by handing frames over. -/
theorem isHandover_of_delivers {calls : List (Effect ρ)} {lookups : List (Entry ρ)}
    (h : List.Forall₂ Effect.Delivers calls lookups) : ∀ e ∈ calls, e.isHandover := by
  intro e he
  obtain ⟨_, -, hdelivers⟩ := exists_partner h.flip he
  cases hdelivers <;> rfl

section Turn

variable {said speech : List (Effect ρ) → Prop} {turn : Turn ρ σ} {s s' : Session ρ σ}
  {reply : Reply} {moments : List (Moment ρ)}

/-- On a connection that has just come up, the client names itself and then asks for what waits. -/
theorem Permits.rise (hpermits : Permits said speech turn s reply) (h : Clean speech moments)
    {c : Connection σ} {greeting : List (Effect ρ)}
    (hgreeting : Greeting s.config (deeds greeting)) {done : Flush ρ σ}
    (hdone : done = flush turn.around c (greeting ++ s.history) s.queue.entries) :
    ∃ added, done.effects = added ++ s.history
      ∧ Conforms speech .connected (moments ++ [.up] ++ (deeds added).reverse.map .deed) := by
  subst hdone
  obtain ⟨added, lookups, heffects, hdelivers, hsub⟩ :=
    deeds_flush turn.around c (greeting ++ s.history) s.queue.entries
  have hspeech := hpermits.opening _ _ _ hgreeting hdelivers hsub
  obtain ⟨hup, hsilent⟩ := h.silent_up
  refine ⟨added ++ greeting, by rw [heffects, List.append_assoc], ?_⟩
  rw [deeds_append, List.reverse_append]
  refine .hand hpermits.closed h.up ?_ hup fun hone => ?_
  · refine List.forall_mem_append.2 ⟨fun e he => ?_, isHandover_of_delivers hdelivers⟩
    exact hgreeting.isHandover e (List.mem_reverse.1 he)
  · rw [hsilent hone]
    exact hspeech

omit [Link σ] in
/-- On a connection that has just come up, the client may be cut short in naming itself. -/
theorem Permits.snub (hpermits : Permits said speech turn s reply) (h : Clean speech moments)
    {snub : List (Effect ρ)} (hsnub : Snub s.config snub) :
    Clean speech (moments ++ [.up] ++ snub.reverse.map .deed) := by
  obtain ⟨hup, hsilent⟩ := h.silent_up
  refine h.up.hand hpermits.closed ?_ hup fun hone => ?_
  · exact fun e he => hsnub.isHandover e (List.mem_reverse.1 he)
  · rw [hsilent hone]
    exact hpermits.snubbed _ hsnub

omit [Link σ] in
/-- The request of a lookup that has just been taken, on an open connection. -/
theorem Permits.say (hpermits : Permits said speech turn s reply)
    (hs : Conforms said .connected moments) {text : String} {entry : Entry ρ} {frame : Bytes}
    (haccepted : reply.accepted) (hadmits : s.Admits turn text entry frame) {call : Effect ρ}
    (hcall : call.Delivers entry) : Conforms speech .connected (moments ++ [.deed call]) := by
  have hhand : ∀ e ∈ [call], e.isHandover := isHandover_of_delivers (.cons hcall .nil)
  have hclean : Clean speech moments := hs.clean.mono hpermits.grows
  refine .hand hpermits.closed hclean hhand (hs.has_come_up rfl) fun hone => ?_
  exact hpermits.joining _ _ _ _ _ haccepted hadmits hcall (hs.speaks rfl hone)

/-- **The step.** Whatever a turn comes to, the timeline conforms to the connection. -/
theorem Outcome.conforms (h : Outcome turn s reply s')
    (hsaid : Conforms said s.connection.state moments)
    (hpermits : Permits said speech turn s reply) :
    ∃ effects, s'.history = effects ++ s.history
      ∧ Conforms speech s'.connection.state
        (moments ++ turn.arrival ++ (deeds effects).reverse.map .deed) := by
  have hs : Conforms speech s.connection.state moments := hsaid.mono hpermits.grows
  -- most turns bring no connection up
  have harrival (hcall : turn.call ≠ .event .connected) : moments ++ turn.arrival = moments := by
    rw [Turn.arrival_of_ne hcall, List.append_nil]
  -- the outcomes that hand frames over use `rise`, `snub` or `say`; for the others the deeds are
  -- known and hand over none
  cases h with
  | @noted _ effects _ hdeeds hcall =>
    refine ⟨effects, rfl, ?_⟩
    rw [harrival hcall, hdeeds]
    simpa using hs
  | relinked link hcall =>
    refine ⟨[], rfl, ?_⟩
    rw [harrival (by simp [hcall])]
    simpa [withLink] using hs
  | purged hcall =>
    refine ⟨[], rfl, ?_⟩
    rw [harrival (by simp [hcall])]
    simpa using hs
  | opened _ hstate hdeeds hcall =>
    refine ⟨_, rfl, ?_⟩
    rw [harrival (by simp [hcall]), hdeeds, Connection.state_connect, if_pos hstate]
    rw [hstate] at hs
    exact hs.connect _
  | released hcall _ hdeeds =>
    refine ⟨_, rfl, ?_⟩
    rw [Turn.arrival_of_connected hcall, hdeeds]
    exact .close hs.clean.up
  | lost _ hdeeds _ hcause =>
    refine ⟨_, rfl, ?_⟩
    have hcall : turn.call ≠ .event .connected := by
      cases hcause <;> simp_all
    rw [harrival hcall, hdeeds]
    exact .close hs.clean
  | informed hdeeds hcall =>
    refine ⟨_, rfl, ?_⟩
    rw [harrival (by simp [hcall]), hdeeds]
    simpa using hs
  | answered hcall _ _ hdeeds =>
    refine ⟨_, rfl, ?_⟩
    rw [harrival (by simp [hcall]), hdeeds]
    exact hs.answer _ _
  | up hcall _ hstate hgreeting hdone _ =>
    obtain ⟨added, heffects, hconforms⟩ := hpermits.rise hs.clean hgreeting hdone
    refine ⟨added, heffects, ?_⟩
    rw [Turn.arrival_of_connected hcall, hdone]
    show Conforms speech (flush ..).connection.state _
    rw [state_flush, hstate]
    exact hconforms
  | unnamed hcall _ hsnub hdeeds =>
    refine ⟨_, rfl, ?_⟩
    rw [Turn.arrival_of_connected hcall, hdeeds, List.reverse_cons, List.map_append,
      ← List.append_assoc]
    exact .close (hpermits.snub hs.clean hsnub)
  | @cut c greeting effects _ hcall _ _ hgreeting _ hdone _ hdeeds =>
    obtain ⟨added, heffects, hconforms⟩ := hpermits.rise hs.clean hgreeting hdone
    refine ⟨effects ++ added, by rw [List.append_assoc, ← heffects], ?_⟩
    rw [Turn.arrival_of_connected hcall, deeds_append, hdeeds, List.reverse_append, List.map_append,
      ← List.append_assoc]
    exact .close hconforms.clean
  | queued hadmits hstate hdeeds =>
    refine ⟨_, rfl, ?_⟩
    rw [harrival (by simp [hadmits.hcall]), hdeeds]
    show Conforms speech s.connection.connect.2.state _
    rw [Connection.state_connect]
    exact hs.retry _
  | sent hadmits hstate hsend =>
    rw [hstate] at hsaid
    refine ⟨[@Effect.sent ρ _ _], rfl, ?_⟩
    rw [harrival (by simp [hadmits.hcall])]
    show Conforms speech (Connection.state _) _
    rw [Connection.state_of_send hsend, hstate]
    exact hpermits.say hsaid rfl hadmits (.sent hadmits.hframe)
  | @requeued _ entry frame c e _ hadmits hstate _ hdeeds =>
    rw [hstate] at hsaid
    have hcall : (Effect.refused frame e).Delivers entry := .refused hadmits.hframe
    have hrefused := hpermits.say hsaid rfl hadmits hcall
    refine ⟨_, rfl, ?_⟩
    rw [harrival (by simp [hadmits.hcall]), hdeeds]
    show Conforms speech (Connection.state (Connection.connect _).2) _
    rw [Connection.state_connect_of_ne_connected (by simp)]
    -- the refusal ends the connection, and the next attempt is started
    have hagain := (Conforms.close hrefused.clean).connect c.endpoint
    rw [List.append_assoc, List.append_assoc] at hagain
    exact hagain

end Turn

/-! ## Speech -/

/-- The lookup of a ticket was taken in the turn of its number, and the frame asks for what was
submitted there. -/
def IsLookup (start : Session ρ σ) (turns : List (Turn ρ σ)) (ticket : Ticket ρ)
    (frame : Bytes) : Prop :=
  ∃ turn text metadata address, turns[ticket.number]? = some turn
    ∧ turn.call = .submit ticket.requester text metadata
    ∧ ((start.run (turns.take ticket.number)).perform turn).1.accepted
    ∧ Address.parse text = .ok address
    ∧ (Message.request address metadata).encode = .ok frame

/-- The request of the lookup with a number was handed to the link. -/
inductive Asks (start : Session ρ σ) (turns : List (Turn ρ σ)) :
    Effect (Ticket ρ) → Nat → Prop where
  | sent {ticket : Ticket ρ} {frame : Bytes} (hlookup : IsLookup start turns ticket frame) :
      Asks start turns (@Effect.sent _ (some ticket) frame) ticket.number
  | refused {ticket : Ticket ρ} {frame : Bytes} {e : SessionError}
      (hlookup : IsLookup start turns ticket frame) :
      Asks start turns (.refused frame e) ticket.number

/-- Requests of different lookups, in the order of submission. -/
def AsksInOrder (start : Session ρ σ) (turns : List (Turn ρ σ))
    (calls : List (Effect (Ticket ρ))) : Prop :=
  ∃ numbers, List.Forall₂ (Asks start turns) calls numbers ∧ numbers.Pairwise (· < ·)

/-- What a session says on a connection: its name, if it has a token, and then requests. -/
inductive Speech (config : Config) (start : Session ρ σ) (turns : List (Turn ρ σ)) :
    List (Effect (Ticket ρ)) → Prop where
  | anonymous {calls : List (Effect (Ticket ρ))} (htoken : config.identify = none)
      (hasks : AsksInOrder start turns calls) : Speech config start turns calls
  | named {token : String} {call : Effect (Ticket ρ)} {calls : List (Effect (Ticket ρ))}
      (htoken : config.identify = some token) (hname : call.Names token)
      (hasks : AsksInOrder start turns calls) : Speech config start turns (call :: calls)

section Speech

variable {config : Config} {start : Session ρ σ} {turns : List (Turn ρ σ)}
  {calls : List (Effect (Ticket ρ))}

/-- The number of a lookup is that of a turn of the run. -/
theorem IsLookup.number_lt {ticket : Ticket ρ} {frame : Bytes}
    (h : IsLookup start turns ticket frame) : ticket.number < turns.length := by
  obtain ⟨_, _, _, _, hturn, -⟩ := h
  exact (List.getElem?_eq_some_iff.1 hturn).1

theorem IsLookup.concat {ticket : Ticket ρ} {frame : Bytes}
    (h : IsLookup start turns ticket frame) (turn : Turn ρ σ) :
    IsLookup start (turns ++ [turn]) ticket frame := by
  have hlt := h.number_lt
  obtain ⟨submission, text, metadata, address, hturn, hcall, haccepted, hparse, hframe⟩ := h
  refine ⟨submission, text, metadata, address, ?_, hcall, ?_, hparse, hframe⟩
  · rw [List.getElem?_append_left hlt, hturn]
  · rwa [List.take_append_of_le_length (Nat.le_of_lt hlt)]

/-- What is asked for was submitted in a turn of the run. -/
theorem Asks.number_lt {call : Effect (Ticket ρ)} {number : Nat}
    (h : Asks start turns call number) : number < turns.length := by
  cases h with
  | sent hlookup => exact hlookup.number_lt
  | refused hlookup => exact hlookup.number_lt

theorem Asks.concat {call : Effect (Ticket ρ)} {number : Nat} (h : Asks start turns call number)
    (turn : Turn ρ σ) : Asks start (turns ++ [turn]) call number := by
  cases h with
  | sent hlookup => exact .sent (hlookup.concat turn)
  | refused hlookup => exact .refused (hlookup.concat turn)

theorem AsksInOrder.concat (h : AsksInOrder start turns calls) (turn : Turn ρ σ) :
    AsksInOrder start (turns ++ [turn]) calls := by
  obtain ⟨numbers, hasks, hordered⟩ := h
  exact ⟨numbers, hasks.imp fun _ _ hask => hask.concat turn, hordered⟩

/-- The first of some requests that are in order are in order. -/
theorem AsksInOrder.of_prefix (h : AsksInOrder start turns calls)
    {front : List (Effect (Ticket ρ))} (hfront : front <+: calls) :
    AsksInOrder start turns front := by
  obtain ⟨numbers, hasks, hordered⟩ := h
  obtain ⟨back, rfl⟩ := hfront
  refine ⟨numbers.take front.length, ?_, hordered.sublist (List.take_sublist ..)⟩
  exact (List.forall₂_take_append numbers front back hasks.flip).flip

/-- The request of a lookup that has just been taken comes after all others. -/
theorem AsksInOrder.snoc (h : AsksInOrder start turns calls) {turn : Turn ρ σ}
    {call : Effect (Ticket ρ)} (hcall : Asks start (turns ++ [turn]) call turns.length) :
    AsksInOrder start (turns ++ [turn]) (calls ++ [call]) := by
  obtain ⟨numbers, hasks, hordered⟩ := h
  refine ⟨numbers ++ [turns.length], ?_, ?_⟩
  · exact List.rel_append (hasks.imp fun _ _ hask => hask.concat turn) (.cons hcall .nil)
  · refine pairwise_snoc hordered fun n hn => ?_
    obtain ⟨_, -, hask⟩ := exists_partner hasks hn
    exact hask.number_lt

theorem Speech.concat (h : Speech config start turns calls) (turn : Turn ρ σ) :
    Speech config start (turns ++ [turn]) calls := by
  cases h with
  | anonymous htoken hasks => exact .anonymous htoken (hasks.concat turn)
  | named htoken hname hasks => exact .named htoken hname (hasks.concat turn)

/-- A client that has spoken may ask for the lookup that has just been taken. -/
theorem Speech.snoc (h : Speech config start turns calls) {turn : Turn ρ σ}
    {call : Effect (Ticket ρ)} (hcall : Asks start (turns ++ [turn]) call turns.length) :
    Speech config start (turns ++ [turn]) (calls ++ [call]) := by
  cases h with
  | anonymous htoken hasks => exact .anonymous htoken (hasks.snoc hcall)
  | named htoken hname hasks => exact .named htoken hname (hasks.snoc hcall)

/-- A session that is cut short has said nothing or has said the beginning. -/
theorem Speech.of_prefix (h : Speech config start turns calls) {front : List (Effect (Ticket ρ))}
    (hfront : front <+: calls) : front = [] ∨ Speech config start turns front := by
  cases h with
  | anonymous htoken hasks => exact .inr (.anonymous htoken (hasks.of_prefix hfront))
  | named htoken hname hasks =>
    rcases List.prefix_cons_iff.1 hfront with rfl | ⟨more, rfl, hmore⟩
    · exact .inl rfl
    · exact .inr (.named htoken hname (hasks.of_prefix hmore))

/-- Speech may be cut short anywhere. -/
theorem prefixClosed_speech : PrefixClosed (Speech config start turns) :=
  fun _ _ hspeech hfront => hspeech.of_prefix hfront

/-- A greeting and requests after it are speech. -/
theorem Speech.of_greeting {greeting : List (Effect (Ticket ρ))} (h : Greeting config greeting)
    (hasks : AsksInOrder start turns calls) :
    Speech config start turns (greeting.reverse ++ calls) := by
  cases h with
  | silent htoken => exact .anonymous htoken hasks
  | named htoken hframe => exact .named htoken (.sent (encode_of_identifyFrame hframe)) hasks

/-- A greeting that is cut short is speech as far as it goes. -/
theorem Speech.of_snub {snub : List (Effect (Ticket ρ))} (h : Snub config snub) :
    snub.reverse = [] ∨ Speech config start turns snub.reverse := by
  cases h with
  | unwritten => exact .inl rfl
  | refused htoken hframe =>
    refine .inr (.named htoken (.refused (encode_of_identifyFrame hframe)) ?_)
    exact ⟨[], .nil, .nil⟩

end Speech

/-! ## Numbered lookups -/

/-- The timeline of a run with the numbers of the turns on the requesters. -/
def tracedTimeline (start : Session ρ σ) (turns : List (Turn ρ σ)) : List (Moment (Ticket ρ)) :=
  (start.map (Ticket.mk 0)).timeline (turns.mapIdx Turn.numbered)

theorem tracedTimeline_concat (start : Session ρ σ) (turns : List (Turn ρ σ)) (turn : Turn ρ σ) :
    start.tracedTimeline (turns ++ [turn]) = start.tracedTimeline turns
      ++ (start.traced turns).moments (turn.numbered turns.length) := by
  rw [tracedTimeline, List.mapIdx_concat, timeline_concat]
  rfl

/-- Without the numbers, the timeline is that of the run itself. -/
theorem map_requester_tracedTimeline (start : Session ρ σ) (turns : List (Turn ρ σ)) :
    (start.tracedTimeline turns).map (·.map Ticket.requester) = start.timeline turns := by
  rw [tracedTimeline, timeline_map Ticket.requester _ (numbered_relabels_all turns), map_map]
  exact congrArg (timeline · turns) (map_id start)

section Run

variable {config : Config} {link : σ} {start : Session ρ σ}
  (hnew : Session.new config link = .ok start)

include hnew in
/-- A run does not change the configuration, with numbers or without. -/
theorem config_traced (turns : List (Turn ρ σ)) : (start.traced turns).config = config :=
  config_run (new_map hnew (Ticket.mk 0)) _

/-- A lookup that has just been taken has the number of the turn. -/
theorem isLookup_of_admits {turns : List (Turn ρ σ)} {turn : Turn ρ σ} {text : String}
    {entry : Entry (Ticket ρ)} {frame : Bytes}
    (haccepted : ((start.run turns).perform turn).1.accepted)
    (hadmits : (start.traced turns).Admits (turn.numbered turns.length) text entry frame) :
    entry.requester.number = turns.length ∧ ∀ {form}, entry.frame = .ok form →
      IsLookup start (turns ++ [turn]) entry.requester form := by
  obtain ⟨hnumber, hcall⟩ := submit_of_numbered hadmits.hcall
  refine ⟨hnumber, fun {form} hform => ⟨turn, text, entry.metadata, entry.address, ?_, hcall, ?_,
    hadmits.hparse, hform⟩⟩
  · rw [hnumber, List.getElem?_concat_length]
  · rwa [hnumber, List.take_left]

include hnew

/-- Every lookup in the queue was taken in the turn of its number, and its frame asks for what was
submitted there. -/
theorem isLookup_of_mem (turns : List (Turn ρ σ)) {e : Entry (Ticket ρ)}
    (he : e ∈ (start.traced turns).queue.entries) {frame : Bytes} (hframe : e.frame = .ok frame) :
    IsLookup start turns e.requester frame := by
  -- along the run: a lookup of the queue is an older one later on, or joined in the last turn
  induction turns using List.reverseRecOn generalizing e with
  | nil =>
    have hempty : (start.traced []).queue.entries = [] := by
      simp [traced, Queue.map, (new_spec hnew).none_queued]
    simp [hempty] at he
  | append_singleton turns turn ih =>
    obtain ⟨_, -, hmoves⟩ := traced_moves hnew turns turn
    obtain ⟨before, hbefore, hlater⟩ | ⟨haccepted, _, _, entry, state, hadmits, rfl⟩ :=
      hmoves.origin he
    · rw [hlater.requester_eq]
      obtain ⟨state, rfl, -⟩ := hlater
      exact (ih hbefore hframe).concat turn
    · exact (isLookup_of_admits haccepted hadmits).2 hframe

/-- Requests of the queue, in its order, are in the order of submission. -/
theorem asksInOrder_of_delivers (turns : List (Turn ρ σ)) {calls : List (Effect (Ticket ρ))}
    {lookups : List (Entry (Ticket ρ))} (hdelivers : List.Forall₂ Effect.Delivers calls lookups)
    (hsub : lookups.Sublist (start.traced turns).queue.entries) :
    AsksInOrder start turns calls := by
  refine ⟨lookups.map fun e => e.requester.number, ?_, ?_⟩
  -- the lookups handed over are in the queue, and the queue is in the order of the turns
  · refine List.forall₂_map_right_iff.2 ?_
    have hqueued := (List.forall₂_and_left lookups calls).2
      ⟨fun e he => hsub.subset he, hdelivers.flip⟩
    refine hqueued.flip.imp fun call e hboth => ?_
    obtain ⟨hmem, hdeliver⟩ := hboth
    cases hdeliver with
    | sent hframe => exact .sent (isLookup_of_mem hnew turns hmem hframe)
    | refused hframe => exact .refused (isLookup_of_mem hnew turns hmem hframe)
  · have hordered := (numbers_traced hnew turns).1
    rw [numbers, List.map_map] at hordered
    exact hordered.sublist (hsub.map _)

/-! ## Runs -/

/-- What a turn of a run may say: all that was said before, and requests of the queue or of the
lookup it takes. -/
theorem permits_traced (turns : List (Turn ρ σ)) (turn : Turn ρ σ) :
    Permits (Speech config start turns) (Speech config start (turns ++ [turn]))
      (turn.numbered turns.length) (start.traced turns) ((start.run turns).perform turn).1 := by
  have hconfig := config_traced hnew turns
  refine ⟨fun _ hspeech => hspeech.concat turn, prefixClosed_speech, ?_, ?_, ?_⟩
  -- a connection comes up: the name, and requests of the queue
  · intro greeting calls lookups hgreeting hdelivers hsub
    rw [hconfig] at hgreeting
    have hasks := asksInOrder_of_delivers hnew turns hdelivers hsub
    exact Speech.of_greeting hgreeting (hasks.concat turn)
  -- the link refuses the name
  · intro snub hsnub
    rw [hconfig] at hsnub
    exact Speech.of_snub hsnub
  -- a lookup is taken on an open connection, and its number is the highest
  · intro text entry frame call calls haccepted hadmits hdelivers hspeech
    obtain ⟨hnumber, hlookup⟩ := isLookup_of_admits haccepted hadmits
    refine hspeech.snoc ?_
    rw [← hnumber]
    cases hdelivers with
    | sent hframe => exact .sent (hlookup hframe)
    | refused hframe => exact .refused (hlookup hframe)

/-- Along every run, the timeline conforms to the connection. -/
theorem conforms_traced (turns : List (Turn ρ σ)) :
    Conforms (Speech config start turns) (start.traced turns).connection.state
      (start.tracedTimeline turns) := by
  induction turns using List.reverseRecOn with
  | nil =>
    have hstate : (start.traced []).connection.state = .disconnected := (new_spec hnew).disconnected
    rw [hstate]
    exact ⟨.nil, fun _ => rfl, fun h => by contradiction, fun h => by contradiction⟩
  | append_singleton turns turn ih =>
    have houtcome := perform_outcome (turn.numbered turns.length) (start.traced turns)
    rw [reply_traced] at houtcome
    obtain ⟨effects, hhistory, hconforms⟩ := houtcome.conforms
      ih (permits_traced hnew turns turn)
    rw [tracedTimeline_concat, moments_of_history rfl hhistory, traced_concat, ← List.append_assoc]
    exact hconforms

/-- **Discipline.** Numbering the turns changes nothing about the timeline of a run. Along it, the
link is closed between any two attempts to connect; a frame is handed over only after a connection
came up, with no close in between; and in any stretch that begins at the start or at a close, in
which one connection comes up and which has no further close, the frames handed over are none, or
the name of the client if and only if there is a token, and then requests of different lookups in
the order of submission, each the written form of what was submitted. -/
theorem link_calls_are_disciplined (turns : List (Turn ρ σ)) :
    (start.tracedTimeline turns).map (·.map Ticket.requester) = start.timeline turns
      ∧ Discipline (Speech config start turns) (start.tracedTimeline turns) :=
  ⟨map_requester_tracedTimeline start turns, (conforms_traced hnew turns).clean.discipline⟩

end Run

/-- A client with a token names itself, asks for what waited and then for what is submitted later;
when the service has gone, the link is closed before the next attempt. -/
theorem named_client_asks_twice :
    let config := { Config.default with identify := some "id" }
    let start : Session Nat RecordingLink := { recorded with config }
    let turns := [.submit 0 "10.0.0.1" [], .event .connected, .submit 1 "10.0.0.2" [],
      .event .disconnected, .connect].map Turn.plain
    Discipline (Speech config start turns) (start.tracedTimeline turns)
      ∧ start.timeline turns = [.deed (.connect ⟨"127.0.0.1", 9595⟩), .up,
        .deed (@Effect.sent _ none [1, 1, 105, 100, 0]),
        .deed (@Effect.sent _ (some 0) [1, 2, 10, 0, 0, 1, 0]),
        .deed (@Effect.sent _ (some 1) [1, 2, 10, 0, 0, 2, 0]),
        .deed .close, .deed (.connect ⟨"127.0.0.1", 9595⟩)] := by
  intro config start turns
  have hdiscipline := link_calls_are_disciplined (new_recorded_naming (some "id")) turns
  exact ⟨hdiscipline.2, by decide +kernel⟩

end Session

end CidrLookup
