import CidrLookup.Proofs.Client.Interleaving

/-!
# Stretches of a history

A stretch of the history of a session over a socket link begins with an effect that starts an
attempt and lasts until the link is closed. `Follows` says that a history and a connection belong
together: the number of the link counts the effects that move it to a new one, a session is
disconnected outside of stretches, and within one it has heard of what the attempt that began it has
posted, in order, and of nothing else. Each effect keeps that, and so does what the helpers do.
-/

namespace CidrLookup

variable {ρ : Type}

open SocketLink (HasAttempt Later Next reportsOf)
open Connection (Does Amid)

/-! ## Reading a history

Histories have the newest effect first. What was done up to some moment is a suffix. -/

namespace Effect

/-- Whether an effect moves the link to a new number. -/
def renumbers : Effect ρ → Bool
  | connect _ | close => true
  | _ => false

/-- The event that a notice says was passed to the session. -/
def heard? : Effect ρ → Option Event
  | notice (.linkEvent event) => some event
  | _ => none

end Effect

/-- Whether an event means that the connection is over. -/
def Event.isEnd : Event → Bool
  | disconnected | failed _ => true
  | connected | received _ => false

/-- How often the link was moved to a new number. -/
def number (history : List (Effect ρ)) : Nat :=
  history.countP Effect.renumbers

/-- The events that were passed to the session. -/
def heard (effects : List (Effect ρ)) : List Event :=
  effects.filterMap Effect.heard?

/-- What looks at the link have brought, each with the number that the link had. -/
def looks : List (Effect ρ) → List (Nat × Notice)
  | [] => []
  | .notice notice :: more =>
    if notice.isLook then (number more, notice) :: looks more else looks more
  | _ :: more => looks more

/-- A history that is in a stretch: the effects since an attempt was started, the endpoint, and what
was done before. -/
structure Stretch (history during : List (Effect ρ)) (endpoint : Endpoint)
    (earlier : List (Effect ρ)) : Prop where
  history_eq : history = during ++ .connect endpoint :: earlier
  not_closed : .close ∉ during

/-- A session that has heard of no end of its connection. -/
def Live (history : List (Effect ρ)) : Prop :=
  ∀ during endpoint earlier, Stretch history during endpoint earlier →
    ∀ event ∈ heard during, ¬ event.isEnd

section

variable {history during earlier : List (Effect ρ)} {endpoint : Endpoint} {effect : Effect ρ}

theorem number_cons : number (effect :: history)
    = number history + if effect.renumbers then 1 else 0 := by
  rw [number, List.countP_cons]
  rfl

theorem heard_cons_of_none (h : effect.heard? = none) : heard (effect :: history) = heard history :=
  List.filterMap_cons_none h

theorem heard_cons_of_some {event : Event} (h : effect.heard? = some event) :
    heard (effect :: history) = event :: heard history :=
  List.filterMap_cons_some h

/-- What is heard comes from a look. -/
theorem heard?_of_not_look (h : ∀ notice, effect = .notice notice → notice.isLook = false) :
    effect.heard? = none := by
  cases effect with
  | notice notice =>
    have hlook := h notice rfl
    cases notice with
    | linkEvent => contradiction
    | _ => rfl
  | _ => rfl

theorem looks_cons_of_not_look (h : ∀ notice, effect = .notice notice → notice.isLook = false) :
    looks (effect :: history) = looks history := by
  cases effect with
  | notice notice => rw [looks, if_neg (by simp [h notice rfl])]
  | _ => rfl

/-- Before anything is done, there is no stretch. -/
theorem not_stretch_nil : ¬ Stretch ([] : List (Effect ρ)) during endpoint earlier := by
  rintro ⟨h, -⟩
  simp at h

/-- The newest effect began the stretch, or it goes on. -/
theorem stretch_cons_iff : Stretch (effect :: history) during endpoint earlier
    ↔ (during = [] ∧ effect = .connect endpoint ∧ earlier = history)
      ∨ ∃ before, during = effect :: before ∧ effect ≠ .close
        ∧ Stretch history before endpoint earlier := by
  -- the effect that began the stretch is the newest, or is behind it
  constructor
  · rintro ⟨h, hclosed⟩
    rcases List.cons_eq_append_iff.1 h with ⟨rfl, h⟩ | ⟨before, rfl, rfl⟩
    · cases h
      exact .inl ⟨rfl, rfl, rfl⟩
    · rw [List.mem_cons, not_or] at hclosed
      exact .inr ⟨before, rfl, Ne.symm hclosed.1, rfl, hclosed.2⟩
  · rintro (⟨rfl, rfl, rfl⟩ | ⟨before, rfl, hne, rfl, hclosed⟩)
    · exact ⟨rfl, List.not_mem_nil⟩
    · refine ⟨rfl, fun hmem => ?_⟩
      rcases List.mem_cons.1 hmem with heq | hmem
      · exact hne heq.symm
      · exact hclosed hmem

/-- An attempt that was just started begins a stretch. -/
theorem stretch_connect (history : List (Effect ρ)) (endpoint : Endpoint) :
    Stretch (.connect endpoint :: history) [] endpoint history :=
  ⟨rfl, List.not_mem_nil⟩

/-- A close ends the stretch. -/
theorem not_stretch_close : ¬ Stretch (.close :: history) during endpoint earlier := by
  rw [stretch_cons_iff]
  rintro (⟨-, h, -⟩ | ⟨_, -, h, -⟩)
  · contradiction
  · exact h rfl

/-- An effect that keeps the number of the link lets a stretch go on. -/
theorem stretch_cons_iff_of_not_renumbers (h : effect.renumbers = false) :
    Stretch (effect :: history) during endpoint earlier
      ↔ ∃ before, during = effect :: before ∧ Stretch history before endpoint earlier := by
  rw [stretch_cons_iff]
  constructor
  · rintro (⟨-, rfl, -⟩ | ⟨before, hduring, -, hstretch⟩)
    · contradiction
    · exact ⟨before, hduring, hstretch⟩
  · rintro ⟨before, hduring, hstretch⟩
    refine .inr ⟨before, hduring, ?_, hstretch⟩
    rintro rfl
    contradiction

/-- A session stays live with effects that are no end. -/
theorem Live.cons (h : Live history) (hend : ∀ event, effect.heard? = some event → ¬ event.isEnd) :
    Live (effect :: history) := by
  intro during endpoint earlier hstretch
  rcases stretch_cons_iff.1 hstretch with ⟨rfl, -⟩ | ⟨before, rfl, -, hbefore⟩
  · simp [heard]
  · intro event hevent
    cases heffect : effect.heard? with
    | none =>
      rw [heard_cons_of_none heffect] at hevent
      exact h _ _ _ hbefore event hevent
    | some heard =>
      rw [heard_cons_of_some heffect] at hevent
      rcases List.mem_cons.1 hevent with rfl | hold
      · exact hend event heffect
      · exact h _ _ _ hbefore event hold

end

/-! ## A history and its link -/

/-- What a look was at, and what it brought: a signal of the number that the link had is an event,
and every other one is stale. -/
inductive Decided : Nat × Notice → Signal → Prop where
  | event {generation : Nat} {event : Event} {report : Report} (hevent : event = report.event) :
      Decided (generation, .linkEvent event) ⟨generation, report⟩
  | stale {current generation : Nat} {report : Report} (hstale : generation ≠ current) :
      Decided (current, .staleSignal generation current) ⟨generation, report⟩

/-- Events, the newest first, that come from the attempt of a number: they are what it has posted,
from the start, and only the last of them may be an end. -/
structure ComesFrom (link : SocketLink) (generation : Nat) (endpoint : Endpoint)
    (events : List Event) : Prop where
  attempt : ∃ a ∈ link.attempts, a.generation = generation ∧ a.endpoint = endpoint
  posted : events.reverse <+: (link.posted generation).map Report.event
  ends : ∀ event ∈ events.tail, ¬ event.isEnd

/-- Events that come from an attempt do so later as well: it keeps its number, and posts more. -/
theorem ComesFrom.later {link link' : SocketLink} {generation : Nat} {endpoint : Endpoint}
    {events : List Event} (h : ComesFrom link generation endpoint events)
    (hlater : Later link link') : ComesFrom link' generation endpoint events := by
  refine ⟨?_, h.posted.trans ((hlater.posted_prefix generation).map _), h.ends⟩
  obtain ⟨a, ha, hgeneration, hendpoint⟩ := h.attempt
  obtain ⟨a', ha', hgeneration', hendpoint'⟩ := hlater.kept a ha
  exact ⟨a', ha', hgeneration'.trans hgeneration, hendpoint'.trans hendpoint⟩

/-- What is true within a stretch. -/
structure Current (link : SocketLink) (during : List (Effect ρ)) (endpoint : Endpoint) : Prop where
  number_eq : number during = 0
  attempt : ∃ a ∈ link.attempts, a.generation = link.generation ∧ a.endpoint = endpoint
  heard_eq : heard during = (reportsOf link.generation link.signals.received).map Report.event

/-- What is current stays so as long as nothing else is heard under the number. -/
theorem Current.later {link link' : SocketLink} {during during' : List (Effect ρ)}
    {endpoint : Endpoint} (h : Current link during endpoint) (hlater : Later link link')
    (hgeneration : link'.generation = link.generation) (hnumber : number during' = 0)
    (hheard : heard during' = (reportsOf link.generation link'.signals.received).map Report.event) :
    Current link' during' endpoint := by
  obtain ⟨a, ha, hattempt, hendpoint⟩ := h.attempt
  obtain ⟨a', ha', hattempt', hendpoint'⟩ := hlater.kept a ha
  refine ⟨hnumber, ⟨a', ha', ?_, hendpoint'.trans hendpoint⟩, ?_⟩
  · rw [hattempt', hattempt, hgeneration]
  · rw [hgeneration, hheard]

/-- Within a stretch, what was heard comes from its attempt. -/
theorem Current.comesFrom {link : SocketLink} {during : List (Effect ρ)} {endpoint : Endpoint}
    (h : Current link during endpoint) (hends : ∀ event ∈ (heard during).tail, ¬ event.isEnd) :
    ComesFrom link link.generation endpoint (heard during) := by
  refine ⟨h.attempt, ?_, hends⟩
  rw [h.heard_eq, ← List.map_reverse]
  exact (SocketLink.reportsOf_received_prefix _ link).map _

/-- No attempt comes to have a number that was passed over. -/
theorem not_hasAttempt_later {link link' : SocketLink} (h : ¬ link.HasAttempt link.generation)
    (hlater : Later link link') (hgeneration : link'.generation = link.generation) :
    ¬ link'.HasAttempt link'.generation := by
  rintro ⟨a, ha, hattempt⟩
  rw [hgeneration] at hattempt
  exact h (hattempt ▸ hlater.absent a ha (Nat.le_of_eq hattempt))

/-- An attempt is started on a link that was let go. -/
theorem connect_spec {c : Connection SocketLink} (hstate : c.state = .disconnected) :
    c.connect.2.link = c.link.startConnect c.endpoint ∧ c.connect.2.state = .connecting := by
  simp [Connection.connect, hstate, Link.startConnect]

/-- No operation of a session notes what a look has brought. -/
theorem not_look_of_does {c c' : Connection SocketLink} {effect : Effect ρ}
    (h : Does effect c c') : ∀ notice, effect = .notice notice → notice.isLook = false := by
  rintro notice rfl
  cases h with
  | notice _ hlook => exact hlook

/-- The link takes a frame, or it is left alone. -/
theorem link_cases_of_send {c c' : Connection SocketLink} {now : Instant} {frame : Bytes}
    {result : Except SessionError Unit} (h : c.send now frame = (result, c')) :
    (result = .ok () ∧ c.link.send frame = (.ok (), c'.link))
      ∨ (∃ e, result = .error e) ∧ c'.link = c.link := by
  -- a frame that is refused may not have come to the link at all
  unfold Connection.send at h
  split at h
  · rw [show Link.send frame c.link = c.link.send frame from rfl] at h
    unfold SocketLink.send at h ⊢
    by_cases htakes : c.link.takesFrames
    · rw [if_pos htakes] at h ⊢
      cases h
      exact .inl ⟨rfl, rfl⟩
    · rw [if_neg htakes] at h
      cases h
      exact .inr ⟨⟨_, rfl⟩, rfl⟩
  · cases h
    exact .inr ⟨⟨_, rfl⟩, rfl⟩

/-- Handing a frame to the link is no signal and moves nothing to a new number. -/
theorem link_of_send {c c' : Connection SocketLink} {now : Instant} {frame : Bytes}
    {result : Except SessionError Unit} (h : c.send now frame = (result, c')) :
    Next c.link c'.link ∧ c'.link.generation = c.link.generation
      ∧ c'.link.isOpen = c.link.isOpen ∧ c'.link.signals.received = c.link.signals.received := by
  obtain ⟨-, hsend⟩ | ⟨-, hlink⟩ := link_cases_of_send h
  · have hnext := SocketLink.next_send c.link frame
    obtain ⟨hgeneration, hopen, hsignals⟩ := SocketLink.send_spec c.link frame
    rw [hsend] at hnext hgeneration hopen hsignals
    exact ⟨hnext, hgeneration, hopen, by rw [hsignals]⟩
  · rw [hlink]
    exact ⟨.refl _, rfl, rfl, rfl⟩

/-- A history and the connection that it has led to. -/
structure Follows (history : List (Effect ρ)) (c : Connection SocketLink) : Prop where
  sound : c.link.Sound
  generation_eq : c.link.generation = number history
  disconnected_iff : c.state = .disconnected
    ↔ ∀ during endpoint earlier, ¬ Stretch history during endpoint earlier
  unreached : c.state = .disconnected → ¬ c.link.HasAttempt c.link.generation
  current : ∀ {during endpoint earlier}, Stretch history during endpoint earlier →
    Current c.link during endpoint
  past : ∀ {moment during endpoint earlier}, moment <:+ history →
    Stretch moment during endpoint earlier →
    ComesFrom c.link (number earlier + 1) endpoint (heard during)
  stretched : ∀ {event earlier}, .notice (.linkEvent event) :: earlier <:+ history →
    ∃ during endpoint before, Stretch earlier during endpoint before
      ∧ number earlier = number before + 1
  decided : List.Forall₂ Decided (looks history) c.link.signals.received

namespace Follows

variable {history : List (Effect ρ)} {c c' : Connection SocketLink} {effect : Effect ρ}

/-- A session that is not disconnected is in a stretch. -/
theorem exists_stretch (h : Follows history c) (hstate : c.state ≠ .disconnected) :
    ∃ during endpoint earlier, Stretch history during endpoint earlier := by
  by_contra hnone
  refine hstate (h.disconnected_iff.2 fun during endpoint earlier hstretch => hnone ?_)
  exact ⟨during, endpoint, earlier, hstretch⟩

/-- The number of a stretch is the one its first effect moved the link to. -/
theorem generation_of_stretch (h : Follows history c) {during earlier : List (Effect ρ)}
    {endpoint : Endpoint} (hstretch : Stretch history during endpoint earlier) :
    c.link.generation = number earlier + 1 := by
  have hduring := (h.current hstretch).number_eq
  rw [h.generation_eq, hstretch.history_eq, number, List.countP_append, ← number, hduring, ← number,
    number_cons]
  simp [Effect.renumbers]

/-- What was true of earlier stretches stays true, so only the one that is going on matters. -/
theorem past_cons (h : Follows history c) {link : SocketLink} (hlater : Later c.link link)
    (hnew : ∀ {during endpoint earlier}, Stretch (effect :: history) during endpoint earlier →
      ComesFrom link (number earlier + 1) endpoint (heard during))
    {moment during earlier : List (Effect ρ)} {endpoint : Endpoint}
    (hmoment : moment <:+ effect :: history) (hstretch : Stretch moment during endpoint earlier) :
    ComesFrom link (number earlier + 1) endpoint (heard during) := by
  rcases List.suffix_cons_iff.1 hmoment with rfl | hmoment
  · exact hnew hstretch
  · exact (h.past hmoment hstretch).later hlater

/-- An effect that passes an event on does so within a stretch. -/
theorem stretched_cons (h : Follows history c)
    (hnew : effect.heard? ≠ none → c.state ≠ .disconnected) {event : Event}
    {earlier : List (Effect ρ)}
    (hmoment : .notice (.linkEvent event) :: earlier <:+ effect :: history) :
    ∃ during endpoint before, Stretch earlier during endpoint before
      ∧ number earlier = number before + 1 := by
  rcases List.suffix_cons_iff.1 hmoment with heq | hmoment
  · cases heq
    obtain ⟨during, endpoint, before, hstretch⟩ :=
      h.exists_stretch (hnew (by simp [Effect.heard?]))
    refine ⟨during, endpoint, before, hstretch, ?_⟩
    rw [← h.generation_eq, h.generation_of_stretch hstretch]
  · exact h.stretched hmoment

/-- The helpers may get on, as long as the link keeps its number and nobody looks at it. -/
theorem relink (h : Follows history c) (hnext : Next c.link c'.link)
    (hgeneration : c'.link.generation = c.link.generation)
    (hreceived : c'.link.signals.received = c.link.signals.received)
    (hstate : c'.state = .disconnected ↔ c.state = .disconnected) : Follows history c' := by
  obtain ⟨hsound, hlater⟩ := hnext h.sound
  refine ⟨hsound, hgeneration.trans h.generation_eq, hstate.trans h.disconnected_iff, ?_, ?_, ?_,
    h.stretched, hreceived ▸ h.decided⟩
  · exact fun hdown => not_hasAttempt_later (h.unreached (hstate.1 hdown)) hlater hgeneration
  · intro during endpoint earlier hstretch
    have hcurrent := h.current hstretch
    exact hcurrent.later hlater hgeneration hcurrent.number_eq (hreceived ▸ hcurrent.heard_eq)
  · exact fun hmoment hstretch => (h.past hmoment hstretch).later hlater

/-- A stretch goes on, or the time between two goes on, with an effect that keeps the number of the
link. What it says was heard is what was taken from the channel. -/
theorem cons (h : Follows history c) (hrenumbers : effect.renumbers = false)
    (hnext : Next c.link c'.link) (hgeneration : c'.link.generation = c.link.generation)
    (hstate : c'.state = .disconnected ↔ c.state = .disconnected)
    (hheard : effect.heard?.toList
        ++ (reportsOf c.link.generation c.link.signals.received).map Report.event
      = (reportsOf c.link.generation c'.link.signals.received).map Report.event)
    (hlive : effect.heard? ≠ none → Live history ∧ c.state ≠ .disconnected)
    (hdecided : List.Forall₂ Decided (looks (effect :: history)) c'.link.signals.received) :
    Follows (effect :: history) c' := by
  obtain ⟨hsound, hlater⟩ := hnext h.sound
  have hgoes {during earlier : List (Effect ρ)} {endpoint : Endpoint} :=
    @stretch_cons_iff_of_not_renumbers ρ history during earlier endpoint effect hrenumbers
  have hheard_cons (during : List (Effect ρ)) :
      heard (effect :: during) = effect.heard?.toList ++ heard during := by
    cases heffect : effect.heard? with
    | none => exact heard_cons_of_none heffect
    | some event => exact heard_cons_of_some heffect
  have hnumber_cons (during : List (Effect ρ)) : number (effect :: during) = number during := by
    rw [number_cons, hrenumbers]
    rfl
  have hcurrent {during earlier : List (Effect ρ)} {endpoint : Endpoint}
      (hstretch : Stretch history during endpoint earlier) :
      Current c'.link (effect :: during) endpoint := by
    have hold := h.current hstretch
    refine hold.later hlater hgeneration ?_ ?_
    · rw [hnumber_cons, hold.number_eq]
    · rw [hheard_cons, hold.heard_eq, hheard]
  refine ⟨hsound, ?_, ?_, ?_, ?_, ?_, ?_, hdecided⟩
  · rw [hgeneration, hnumber_cons, h.generation_eq]
  · rw [hstate, h.disconnected_iff]
    constructor
    · intro hnone during endpoint earlier hstretch
      obtain ⟨before, -, hbefore⟩ := hgoes.1 hstretch
      exact hnone _ _ _ hbefore
    · exact fun hnone _ _ _ hstretch => hnone _ _ _ (hgoes.2 ⟨_, rfl, hstretch⟩)
  · exact fun hdown => not_hasAttempt_later (h.unreached (hstate.1 hdown)) hlater hgeneration
  · intro during endpoint earlier hstretch
    obtain ⟨before, rfl, hbefore⟩ := hgoes.1 hstretch
    exact hcurrent hbefore
  · refine h.past_cons hlater fun hstretch => ?_
    -- the stretch that goes on: nothing follows an end in it
    obtain ⟨before, rfl, hbefore⟩ := hgoes.1 hstretch
    rw [← h.generation_of_stretch hbefore, ← hgeneration]
    refine (hcurrent hbefore).comesFrom ?_
    cases heffect : effect.heard? with
    | none =>
      rw [heard_cons_of_none heffect]
      exact (h.past List.suffix_rfl hbefore).ends
    | some event =>
      rw [heard_cons_of_some heffect, List.tail_cons]
      exact (hlive (by simp [heffect])).1 _ _ _ hbefore
  · exact h.stretched_cons fun hsome => (hlive hsome).2

/-- An effect that is no look and keeps the number of the link. -/
theorem cons_silent (h : Follows history c) (hrenumbers : effect.renumbers = false)
    (hlook : ∀ notice, effect = .notice notice → notice.isLook = false)
    (hnext : Next c.link c'.link) (hgeneration : c'.link.generation = c.link.generation)
    (hreceived : c'.link.signals.received = c.link.signals.received)
    (hstate : c'.state = c.state) : Follows (effect :: history) c' := by
  have hheard := heard?_of_not_look hlook
  refine h.cons hrenumbers hnext hgeneration (by rw [hstate]) ?_ ?_ ?_
  · rw [hheard, hreceived]
    rfl
  · exact fun hsome => absurd hheard hsome
  · rw [looks_cons_of_not_look hlook, hreceived]
    exact h.decided

/-- An attempt is started, and with it a stretch begins. -/
theorem cons_connect (h : Follows history c) (hstate : c.state = .disconnected) :
    Follows (.connect c.endpoint :: history) c.connect.2 := by
  obtain ⟨hlink, hconnecting⟩ := connect_spec hstate
  obtain ⟨hsound, hlater⟩ := SocketLink.next_startConnect c.link c.endpoint h.sound
  obtain ⟨hgeneration, -, hsignals, hbegun⟩ := SocketLink.startConnect_spec c.link c.endpoint
  have hnone := h.disconnected_iff.1 hstate
  have hreceived : reportsOf (c.link.generation + 1) c.link.signals.received = [] :=
    h.sound.received_eq_nil (Nat.lt_succ_self _)
  have hcurrent : Current c.connect.2.link ([] : List (Effect ρ)) c.endpoint := by
    rw [hlink]
    refine ⟨rfl, ⟨_, hbegun, hgeneration.symm, rfl⟩, ?_⟩
    rw [hgeneration, hsignals, hreceived]
    rfl
  -- a session that was disconnected was in no stretch, so the only stretch is the one that begins
  -- here
  refine ⟨hlink ▸ hsound, ?_, ?_, ?_, ?_, ?_, ?_, ?_⟩
  · rw [hlink, hgeneration, h.generation_eq, number_cons]
    rfl
  · refine ⟨fun hdown => ?_, fun hnone => absurd (stretch_connect _ _) (hnone _ _ _)⟩
    rw [hconnecting] at hdown
    contradiction
  · intro hdown
    rw [hconnecting] at hdown
    contradiction
  · intro during endpoint earlier hstretch
    rcases stretch_cons_iff.1 hstretch with ⟨rfl, heq, -⟩ | ⟨before, -, -, hbefore⟩
    · cases heq
      exact hcurrent
    · exact absurd hbefore (hnone _ _ _)
  · refine h.past_cons (hlink ▸ hlater) fun hstretch => ?_
    rcases stretch_cons_iff.1 hstretch with ⟨rfl, heq, rfl⟩ | ⟨before, -, -, hbefore⟩
    · cases heq
      rw [← h.generation_eq, ← hgeneration, ← hlink]
      exact hcurrent.comesFrom (by simp [heard])
    · exact absurd hbefore (hnone _ _ _)
  · exact h.stretched_cons fun hsome => absurd rfl hsome
  · rw [hlink, hsignals]
    exact h.decided

/-- The link is closed, and with it a stretch ends, if there was one. -/
theorem cons_close (h : Follows history c) : Follows (.close :: history) c.disconnect := by
  obtain ⟨hsound, hlater⟩ := SocketLink.next_close c.link h.sound
  obtain ⟨hgeneration, -, hsignals⟩ := SocketLink.close_spec c.link
  -- after a close there is no stretch; what was heard in the one before is kept as past
  refine ⟨hsound, ?_, ?_, ?_, ?_, ?_, ?_, ?_⟩
  · show c.link.close.generation = _
    rw [hgeneration, h.generation_eq, number_cons]
    rfl
  · exact ⟨fun _ _ _ _ => not_stretch_close, fun _ => rfl⟩
  · intro _ hattempt
    have hold := SocketLink.hasAttempt_close c.link hattempt
    have hle := h.sound.hasAttempt_le hold
    have hgeneration' : c.disconnect.link.generation = c.link.generation + 1 := hgeneration
    omega
  · exact fun hstretch => absurd hstretch not_stretch_close
  · exact h.past_cons hlater fun hstretch => absurd hstretch not_stretch_close
  · exact h.stretched_cons fun hsome => absurd rfl hsome
  · show List.Forall₂ Decided _ c.link.close.signals.received
    rw [hsignals]
    exact h.decided

/-- Whatever an effect made of the connection, the history follows. -/
theorem does (h : Follows history c) (hdoes : Does effect c c') :
    Follows (effect :: history) c' := by
  -- only the two effects that renumber the link change the stretch
  have hlook := not_look_of_does hdoes
  cases hdoes with
  | connect hstate => exact h.cons_connect hstate
  | close => exact h.cons_close
  | sent hsend =>
    obtain ⟨hnext, hgeneration, -, hreceived⟩ := link_of_send hsend
    exact h.cons_silent rfl hlook hnext hgeneration hreceived (Connection.state_of_send hsend)
  | refused hsend =>
    obtain ⟨hnext, hgeneration, -, hreceived⟩ := link_of_send hsend
    exact h.cons_silent rfl hlook hnext hgeneration hreceived (Connection.state_of_send hsend)
  | resolved => exact h.cons_silent rfl hlook (.refl _) rfl rfl rfl
  | notice => exact h.cons_silent rfl hlook (.refl _) rfl rfl rfl

/-- A step beside the session is no effect, and the history still follows. -/
theorem beside (h : Follows history c) (step : Beside) :
    Follows history (c.relink (step.apply c.link)) := by
  obtain ⟨hgeneration, -, hreceived⟩ := step.apply_spec c.link
  exact h.relink (step.next_apply c.link) hgeneration hreceived Iff.rfl

/-- A call with steps in it keeps a history and its connection together. -/
theorem amid {effects : List (Effect ρ)} {found : List (SocketLink × Beside)}
    (h : Follows history c) (hamid : Amid effects found c c') :
    Follows (effects ++ history) c' := by
  induction hamid with
  | nil => exact h
  | does _ hdoes ih => exact (ih h).does hdoes
  | beside _ step ih => exact (ih h).beside step

end Follows

/-! ## Between two calls -/

/-- What is true of a session between two calls: its history follows its connection, it has heard of
no end of the connection it has, and the socket is open if and only if it is connected. -/
structure InStep (history : List (Effect ρ)) (c : Connection SocketLink) : Prop where
  follows : Follows history c
  live : Live history
  isOpen_iff : c.link.isOpen ↔ c.state = .connected

namespace InStep

variable {history : List (Effect ρ)} {c c' : Connection SocketLink} {effect : Effect ρ}

/-- Each effect keeps a session in step. -/
theorem does (h : InStep history c) (hdoes : Does effect c c') : InStep (effect :: history) c' := by
  refine ⟨h.follows.does hdoes, ?_, ?_⟩
  · exact h.live.cons fun event hheard => by
      simp [heard?_of_not_look (not_look_of_does hdoes)] at hheard
  -- the link is open as long as the session takes itself for connected
  · cases hdoes with
    | connect hstate =>
      obtain ⟨hlink, hconnecting⟩ := connect_spec hstate
      obtain ⟨-, hopen, -⟩ := SocketLink.startConnect_spec c.link c.endpoint
      simp [hlink, hopen, hconnecting]
    | sent hsend =>
      obtain ⟨-, -, hopen, -⟩ := link_of_send hsend
      rw [hopen, Connection.state_of_send hsend]
      exact h.isOpen_iff
    | refused hsend =>
      obtain ⟨-, -, hopen, -⟩ := link_of_send hsend
      rw [hopen, Connection.state_of_send hsend]
      exact h.isOpen_iff
    | close =>
      have hopen : c.disconnect.link.isOpen = false := (SocketLink.close_spec c.link).2.1
      simp [hopen]
    | resolved => exact h.isOpen_iff
    | notice => exact h.isOpen_iff

/-- A step beside the session keeps it in step: it takes nothing that is heard. -/
theorem beside (h : InStep history c) (step : Beside) :
    InStep history (c.relink (step.apply c.link)) := by
  refine ⟨h.follows.beside step, h.live, ?_⟩
  show (step.apply c.link).isOpen ↔ c.state = .connected
  rw [(step.apply_spec c.link).2.1]
  exact h.isOpen_iff

/-- A call with steps in it keeps a session in step. -/
theorem amid {effects : List (Effect ρ)} {found : List (SocketLink × Beside)}
    (h : InStep history c) (hamid : Amid effects found c c') : InStep (effects ++ history) c' := by
  induction hamid with
  | nil => exact h
  | does _ hdoes ih => exact (ih h).does hdoes
  | beside _ step ih => exact (ih h).beside step

/-- A session that has let go of its connection has not heard of an end of the next one. -/
theorem of_disconnect (h : Follows history c.disconnect) : InStep history c.disconnect := by
  refine ⟨h, fun _ _ _ hstretch => ?_, ?_⟩
  · exact absurd hstretch (h.disconnected_iff.1 rfl _ _ _)
  · have hopen : c.disconnect.link.isOpen = false := (SocketLink.close_spec c.link).2.1
    simp [hopen]

end InStep

/-! ## Looks -/

section Looks

variable {history : List (Effect ρ)} {c : Connection SocketLink} {link : SocketLink}

/-- A stale signal is noted and nothing else. -/
theorem InStep.cons_stale (h : InStep history c) {generation : Nat} {report : Report}
    (hnext : Next c.link link) (hstale : generation ≠ c.link.generation)
    (hgeneration : link.generation = c.link.generation)
    (hreceived : link.signals.received = ⟨generation, report⟩ :: c.link.signals.received)
    (hopen : link.isOpen = c.link.isOpen) :
    InStep (.notice (.staleSignal generation c.link.generation) :: history) { c with link } := by
  -- a signal of another number is none of those that the current attempt has posted
  have hsame : reportsOf c.link.generation link.signals.received
      = reportsOf c.link.generation c.link.signals.received := by
    rw [hreceived]
    simp [reportsOf, hstale]
  refine ⟨h.follows.cons rfl hnext hgeneration Iff.rfl ?_ ?_ ?_, ?_, ?_⟩
  · exact congrArg (List.map Report.event) hsame.symm
  · exact fun hsome => absurd rfl hsome
  · rw [hreceived]
    refine .cons ?_ h.follows.decided
    rw [← h.follows.generation_eq]
    exact .stale hstale
  · exact h.live.cons fun event hheard => by contradiction
  · rw [hopen]
    exact h.isOpen_iff

/-- A signal of the current attempt means that there is one. -/
theorem Follows.state_of_received (h : Follows history c) {report : Report}
    (hnext : Next c.link link) (hgeneration : link.generation = c.link.generation)
    (hreceived : link.signals.received = ⟨c.link.generation, report⟩ :: c.link.signals.received) :
    c.state ≠ .disconnected := by
  intro hdown
  obtain ⟨hsound, hlater⟩ := hnext h.sound
  have hattempt : link.HasAttempt c.link.generation := by
    refine hsound.tagged ⟨c.link.generation, report⟩ (List.mem_append_left _ ?_)
    rw [hreceived]
    exact List.mem_reverse.2 List.mem_cons_self
  rw [← hgeneration] at hattempt
  exact not_hasAttempt_later (h.unreached hdown) hlater hgeneration hattempt

/-- A signal of the current attempt is passed to the session. -/
theorem InStep.cons_event (h : InStep history c) {report : Report} (hnext : Next c.link link)
    (hgeneration : link.generation = c.link.generation)
    (hreceived : link.signals.received = ⟨c.link.generation, report⟩ :: c.link.signals.received) :
    Follows (.notice (.linkEvent report.event) :: history) { c with link } := by
  have hstate := h.follows.state_of_received hnext hgeneration hreceived
  refine h.follows.cons rfl hnext hgeneration Iff.rfl ?_ (fun _ => ⟨h.live, hstate⟩) ?_
  · rw [hreceived]
    simp [Effect.heard?, reportsOf]
  · rw [hreceived]
    refine .cons ?_ h.follows.decided
    rw [← h.follows.generation_eq]
    exact .event rfl

end Looks

end CidrLookup
