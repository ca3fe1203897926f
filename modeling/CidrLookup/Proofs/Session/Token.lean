import CidrLookup.Link.Socket
import CidrLookup.Proofs.Message.Encode
import CidrLookup.Proofs.Session.Flush
import Mathlib.Data.List.Forall2

/-!
# The token is told to nobody but the service

Two sessions that differ in the token alone are followed side by side. The tokens are of the same
size and have a written form both or neither, and the link takes a frame or refuses it without
looking at its bytes. `Twins` is what the two sessions share at each moment, which is all but the
token in the configuration, the state of the link, and the frames in which the client is named.
Every operation keeps it and returns the same, so the token can be told from nothing but these
frames. `SocketLink.oblivious` says that the link of a client is one that does not look at bytes.
-/

namespace CidrLookup

variable {ρ σ : Type}

/-- Two calls that return the same and leave related states. -/
inductive SameReply {α β : Type} (related : β → β → Prop) : α × β → α × β → Prop where
  | intro (reply : α) {after after' : β} (h : related after after') :
      SameReply related (reply, after) (reply, after')

namespace SameReply

variable {α β γ : Type} {related : β → β → Prop} {result result' : α × β}

/-- Both calls return the same. -/
theorem reply_eq (h : SameReply related result result') : result'.1 = result.1 := by
  cases h
  rfl

/-- The states that both calls leave are related. -/
theorem after (h : SameReply related result result') : related result.2 result'.2 := by
  cases h
  assumption

/-- What is returned may be put into another form. -/
theorem map (h : SameReply related result result') (f : α → γ) :
    SameReply related (result.map f id) (result'.map f id) := by
  obtain ⟨reply, hafter⟩ := h
  exact .intro (f reply) hafter

end SameReply

/-! ## Links that do not look at bytes -/

/-- Links in related states do the same, and stay related, whatever frames of the same lengths they
are given. -/
structure Link.Oblivious [Link σ] (agree : σ → σ → Prop) : Prop where
  startConnect : ∀ (endpoint : Endpoint) {link link' : σ}, agree link link' →
    agree (Link.startConnect endpoint link) (Link.startConnect endpoint link')
  send : ∀ {frame frame' : Bytes} {link link' : σ}, frame'.length = frame.length →
    agree link link' → SameReply agree (Link.send frame link) (Link.send frame' link')
  close : ∀ {link link' : σ}, agree link link' → agree (Link.close link) (Link.close link')

/-! ## Tokens -/

/-- Two tokens that look the same from outside: they take as many bytes, and both or neither can be
written. -/
structure TokensMatch (token token' : String) : Prop where
  hsize : token'.utf8ByteSize = token.utf8ByteSize
  hnul : '\x00' ∈ token'.toList ↔ '\x00' ∈ token.toList

/-- Frames that name the client by one token and by the other, of the same length. -/
structure NameFrames (token token' : String) (frame frame' : Bytes) : Prop where
  hframe : (Message.identify token).encode = .ok frame
  hframe' : (Message.identify token').encode = .ok frame'
  hlength : frame'.length = frame.length

namespace Session

/-- Tokens that match are both written, in frames of the same length, or neither can be, for the
same reason. -/
theorem identifyFrame_cases {token token' : String} (h : TokensMatch token token') :
    (∃ frame frame', NameFrames token token' frame frame'
        ∧ identifyFrame token = .ok frame ∧ identifyFrame token' = .ok frame')
      ∨ ∃ e, identifyFrame token = .error e ∧ identifyFrame token' = .error e := by
  by_cases hnul : '\x00' ∈ token.toList
  · refine .inr ⟨.protocol (.interiorNul "id"), ?_, ?_⟩
    · rw [identifyFrame, Message.encode_identify, if_pos hnul]; rfl
    · rw [identifyFrame, Message.encode_identify, if_pos (h.hnul.2 hnul)]; rfl
  · have hframe := Message.encode_identify token
    have hframe' := Message.encode_identify token'
    rw [if_neg hnul] at hframe
    rw [if_neg (mt h.hnul.1 hnul)] at hframe'
    refine .inl ⟨_, _, ⟨hframe, hframe', ?_⟩, ?_, ?_⟩
    · rw [Message.length_form_identify, Message.length_form_identify, h.hsize]
    · rw [identifyFrame, hframe]; rfl
    · rw [identifyFrame, hframe']; rfl

end Session

/-! ## Effects -/

namespace Effect

/-- Effects that stand against each other in runs with different tokens: the same effect, or the
client is named, by the one token and by the other. -/
inductive Twin (token token' : String) : Effect ρ → Effect ρ → Prop where
  | same (effect : Effect ρ) : Twin token token' effect effect
  | named {frame frame' : Bytes} (h : NameFrames token token' frame frame') :
      Twin token token' (@sent ρ none frame) (@sent ρ none frame')
  | unnamed {frame frame' : Bytes} (h : NameFrames token token' frame frame') (e : SessionError) :
      Twin token token' (refused frame e) (refused frame' e)

/-- The line for the log, if an effect is one. -/
def notice? : Effect ρ → Option Notice
  | notice n => some n
  | _ => none

end Effect

/-- The lines for the log. -/
def notices (effects : List (Effect ρ)) : List Notice :=
  effects.filterMap Effect.notice?

section Effects

variable {token token' : String} {effects effects' : List (Effect ρ)}

/-- Histories of twins. -/
abbrev Effect.Twins (token token' : String) : List (Effect ρ) → List (Effect ρ) → Prop :=
  List.Forall₂ (Effect.Twin token token')

/-- Where the name of the client does not come in, the effects of twins are the same. -/
theorem Effect.Twins.filterMap_eq {α : Type} {pick : Effect ρ → Option α}
    (h : Effect.Twins token token' effects effects')
    (hpick : ∀ {e e' : Effect ρ}, e.Twin token token' e' → pick e' = pick e) :
    effects'.filterMap pick = effects.filterMap pick := by
  induction h with
  | nil => rfl
  | cons he _ ih => rw [List.filterMap_cons, List.filterMap_cons, hpick he, ih]

/-- Twins write the same lines to the log: none of them has the name of the client in it. -/
theorem Effect.Twins.notices_eq (h : Effect.Twins token token' effects effects') :
    notices effects' = notices effects :=
  h.filterMap_eq fun he => by cases he <;> rfl

/-- Twins give the same answers. -/
theorem Effect.Twins.answers_eq (h : Effect.Twins token token' effects effects') :
    answers effects' = answers effects :=
  h.filterMap_eq fun he => by cases he <;> rfl

end Effects

/-! ## Connections -/

/-- Connections that differ in the state of the link. -/
structure Connection.Agrees (agree : σ → σ → Prop) (c c' : Connection σ) : Prop where
  link : agree c.link c'.link
  endpoint : c'.endpoint = c.endpoint
  state : c'.state = c.state
  connectedAt : c'.connectedAt = c.connectedAt
  lastSendAt : c'.lastSendAt = c.lastSendAt

namespace Connection.Agrees

variable [Link σ] {agree : σ → σ → Prop} {c c' : Connection σ}

/-- A connection attempt begins on both connections or on neither. -/
theorem connect (h : Agrees agree c c') (hlink : Link.Oblivious agree) :
    SameReply (Agrees agree) c.connect c'.connect := by
  unfold Connection.connect
  rw [h.state, h.endpoint]
  split
  · exact .intro _ ⟨hlink.startConnect _ h.link, rfl, rfl, h.connectedAt, h.lastSendAt⟩
  · exact .intro _ h

omit [Link σ] in
theorem markConnected (h : Agrees agree c c') (now : Instant) :
    Agrees agree (c.markConnected now) (c'.markConnected now) :=
  ⟨h.link, h.endpoint, rfl, rfl, rfl⟩

theorem disconnect (h : Agrees agree c c') (hlink : Link.Oblivious agree) :
    Agrees agree c.disconnect c'.disconnect :=
  ⟨hlink.close h.link, h.endpoint, rfl, rfl, rfl⟩

/-- Frames of one length are taken from both or refused to both, for the same reason. -/
theorem send (h : Agrees agree c c') (hlink : Link.Oblivious agree) (now : Instant)
    {frame frame' : Bytes} (hlength : frame'.length = frame.length) :
    SameReply (Agrees agree) (c.send now frame) (c'.send now frame') := by
  unfold Connection.send
  rw [h.state]
  split
  · have hsend := hlink.send hlength h.link
    generalize Link.send frame c.link = result at hsend ⊢
    generalize Link.send frame' c'.link = result' at hsend ⊢
    obtain ⟨e | ⟨⟨⟩⟩, hagree⟩ := hsend
    · exact .intro _ ⟨hagree, h.endpoint, rfl, h.connectedAt, h.lastSendAt⟩
    · exact .intro _ ⟨hagree, h.endpoint, rfl, h.connectedAt, rfl⟩
  · exact .intro _ h

/-- The same frame is taken from both or refused to both. -/
theorem send_eq (h : Agrees agree c c') (hlink : Link.Oblivious agree) {now : Instant}
    {frame : Bytes} {reply : Except SessionError Unit} {after : Connection σ}
    (hsend : c.send now frame = (reply, after)) :
    ∃ after', c'.send now frame = (reply, after') ∧ Agrees agree after after' := by
  have hsame := h.send hlink now (rfl : frame.length = frame.length)
  rw [hsend] at hsame
  generalize c'.send now frame = result' at hsame ⊢
  obtain ⟨_, hafter⟩ := hsame
  exact ⟨_, rfl, hafter⟩

omit [Link σ] in
/-- Both connections were used last at the same moment. -/
theorem lastActivity (h : Agrees agree c c') : c'.lastActivity = c.lastActivity := by
  rw [Connection.lastActivity, h.connectedAt, h.lastSendAt]
  rfl

end Connection.Agrees

/-! ## Sessions -/

/-- A configuration with a token. -/
def Config.naming (token : String) (config : Config) : Config :=
  { config with identify := some token }

namespace Session

/-- What two sessions with different tokens share. -/
structure Twins (token token' : String) (agree : σ → σ → Prop) (s s' : Session ρ σ) : Prop where
  config : ∃ config : Config, s.config = config.naming token ∧ s'.config = config.naming token'
  connection : s.connection.Agrees agree s'.connection
  queue : s'.queue = s.queue
  info : s'.info = s.info
  halted : s'.halted = s.halted
  lastError : s'.lastError = s.lastError
  history : Effect.Twins token token' s.history s'.history

variable {token token' : String} {agree : σ → σ → Prop} {s s' : Session ρ σ}

namespace Twins

theorem record (h : Twins token token' agree s s') {effect effect' : Effect ρ}
    (he : effect.Twin token token' effect') :
    Twins token token' agree (s.record effect) (s'.record effect') :=
  { h with history := .cons he h.history }

/-- Twins write the same line to the log. -/
theorem note (h : Twins token token' agree s s') (notice : Notice) :
    Twins token token' agree (s.note notice) (s'.note notice) :=
  h.record (.same _)

theorem withConnection (h : Twins token token' agree s s') {c c' : Connection σ}
    (hc : c.Agrees agree c') :
    Twins token token' agree { s with connection := c } { s' with connection := c' } :=
  { h with connection := hc }

theorem withQueue (h : Twins token token' agree s s') (queue : Queue ρ) :
    Twins token token' agree { s with queue } { s' with queue } :=
  { h with queue := rfl }

theorem withInfo (h : Twins token token' agree s s') (info : Option ServiceInfo) :
    Twins token token' agree { s with info } { s' with info } :=
  { h with info := rfl }

theorem withHalted (h : Twins token token' agree s s') (halted : Option String) :
    Twins token token' agree { s with halted } { s' with halted } :=
  { h with halted := rfl }

theorem withLastError (h : Twins token token' agree s s') (lastError : Option String) :
    Twins token token' agree { s with lastError } { s' with lastError } :=
  { h with lastError := rfl }

/-- Both sessions have the same limit for a record. -/
theorem maxFrame (h : Twins token token' agree s s') :
    s'.config.maxFrame = s.config.maxFrame := by
  obtain ⟨config, hconfig, hconfig'⟩ := h.config
  rw [hconfig, hconfig']
  rfl

/-- An answer of the service finds the same lookup in both queues. -/
theorem resolve (h : Twins token token' agree s s') (resolution : Resolution) :
    Twins token token' agree (s.resolve resolution) (s'.resolve resolution) := by
  unfold Session.resolve
  rw [h.queue]
  split
  · exact ((h.withQueue _).note _).record (.same _)
  · exact h.note _

/-- Both sessions drop the same lookups, and as many. -/
theorem purge (h : Twins token token' agree s s') :
    SameReply (Twins token token' agree) s.purge s'.purge := by
  unfold Session.purge
  rw [h.queue]
  exact .intro _ (h.withQueue _)

/-- Both sessions have been idle for as long. -/
theorem idleFor (h : Twins token token' agree s s') (now : Instant) :
    s'.idleFor now = s.idleFor now := by
  unfold Session.idleFor
  rw [h.connection.state, h.connection.lastActivity, h.queue, h.info]

variable [Link σ] (hlink : Link.Oblivious agree)

include hlink

/-! ### The connection of a session -/

/-- Both sessions begin to connect, or neither does. -/
theorem openConnection (h : Twins token token' agree s s') :
    SameReply (Twins token token' agree) s.openConnection s'.openConnection := by
  have hconnect := h.connection.connect hlink
  unfold Session.openConnection
  rw [h.connection.endpoint, h.connection.state]
  generalize s.connection.connect = result at hconnect ⊢
  generalize s'.connection.connect = result' at hconnect ⊢
  obtain ⟨started, hc⟩ := hconnect
  cases started with
  | true => exact .intro _ (((h.note _).withConnection hc).record (.same _))
  | false => exact .intro _ (h.note _)

/-- Both sessions close their connections. -/
theorem closeConnection (h : Twins token token' agree s s') :
    Twins token token' agree s.closeConnection s'.closeConnection := by
  have hc := h.connection.disconnect hlink
  unfold Session.closeConnection
  simp only
  rw [h.connection.endpoint, h.connection.state]
  split
  · exact (h.withConnection hc).record (.same _)
  · exact ((h.note _).withConnection hc).record (.same _)

/-- Both sessions take back what was sent. -/
theorem linkLost (h : Twins token token' agree s s') :
    Twins token token' agree s.linkLost s'.linkLost := by
  have hnext := ((h.closeConnection hlink).withInfo none).withQueue s.queue.demoteSent
  unfold Session.linkLost
  simp only
  rw [h.queue]
  split
  · exact hnext
  · exact (hnext.note _).note _

/-- Both connections fail for the same reason. -/
theorem fail (h : Twins token token' agree s s') (reason : String) :
    Twins token token' agree (s.fail reason) (s'.fail reason) :=
  (h.withLastError (some reason)).linkLost hlink

/-- A frame is taken from both or refused to both. -/
theorem sendFrame (h : Twins token token' agree s s') (now : Instant) (requester : Option ρ)
    {frame frame' : Bytes} (hlength : frame'.length = frame.length)
    (hsent : (@Effect.sent ρ requester frame).Twin token token' (@Effect.sent ρ requester frame'))
    (hrefused : ∀ e, (Effect.refused frame e : Effect ρ).Twin token token' (.refused frame' e)) :
    SameReply (Twins token token' agree) (s.sendFrame now requester frame)
      (s'.sendFrame now requester frame') := by
  have hsend := h.connection.send hlink now hlength
  unfold Session.sendFrame
  generalize s.connection.send now frame = result at hsend ⊢
  generalize s'.connection.send now frame' = result' at hsend ⊢
  obtain ⟨e | ⟨⟨⟩⟩, hc⟩ := hsend
  · exact .intro _ ((h.withConnection hc).record (hrefused e))
  · exact .intro _ ((h.withConnection hc).record hsent)

end Twins

/-! ### Sending what waits -/

/-- What a flush leaves of two sessions with different tokens. -/
structure Flush.Twins (token token' : String) (agree : σ → σ → Prop) (done done' : Flush ρ σ) :
    Prop where
  connection : done.connection.Agrees agree done'.connection
  entries : done'.entries = done.entries
  effects : Effect.Twins token token' done.effects done'.effects
  failure : done'.failure = done.failure

/-- A lookup that both flushes leave behind them. -/
theorem Flush.Twins.after {done done' : Flush ρ σ} (h : Flush.Twins token token' agree done done')
    (entry : Entry ρ) :
    Flush.Twins token token' agree (done.after entry) (done'.after entry) :=
  { h with entries := congrArg (entry :: ·) h.entries }

variable [Link σ] (hlink : Link.Oblivious agree)

include hlink

/-- A flush hands over requests, which do not have the token in them. -/
theorem flush_twins (around : Surroundings ρ) (c : Connection σ) (effects : List (Effect ρ))
    (entries : List (Entry ρ)) :
    ∀ (c' : Connection σ) (effects' : List (Effect ρ)), c.Agrees agree c' →
      Effect.Twins token token' effects effects' →
      Flush.Twins token token' agree (flush around c effects entries)
        (flush around c' effects' entries) := by
  have hflushes := flush_flushes around c effects entries
  generalize flush around c effects entries = done at hflushes ⊢
  -- each frame that is taken moves both connections on, so the induction is for all of the other's
  induction hflushes with
  | done => exact fun c' effects' hc heffects => ⟨hc, rfl, heffects, rfl⟩
  | skipped hstate _ ih =>
    intro c' effects' hc heffects
    rw [flush_of_skipped hstate]
    exact (ih c' effects' hc heffects).after _
  | gone hstate hgone _ ih =>
    intro c' effects' hc heffects
    rw [flush_of_gone hstate hgone]
    exact (ih c' _ hc (.cons (.same _) heffects)).after _
  | unencodable hstate hreachable hframe _ ih =>
    intro c' effects' hc heffects
    rw [flush_of_unencodable hstate hreachable hframe]
    exact (ih c' _ hc (.cons (.same _) heffects)).after _
  | sent hstate hreachable hframe hsend _ ih =>
    intro c' effects' hc heffects
    obtain ⟨after', hsend', hafter⟩ := hc.send_eq hlink hsend
    rw [flush_of_sent hstate hreachable hframe hsend']
    exact (ih after' _ hafter (.cons (.same _) heffects)).after _
  | cut hstate hreachable hframe hsend =>
    intro c' effects' hc heffects
    obtain ⟨after', hsend', hafter⟩ := hc.send_eq hlink hsend
    rw [flush_of_cut hstate hreachable hframe hsend']
    exact ⟨hafter, rfl, .cons (.same _) heffects, rfl⟩

namespace Twins

/-- What waits is sent by both sessions alike. -/
theorem flushPending (h : Twins token token' agree s s') (around : Surroundings ρ) :
    Twins token token' agree (s.flushPending around) (s'.flushPending around) := by
  have hdone := flush_twins hlink around _ _ s.queue.entries _ _ h.connection h.history
  unfold Session.flushPending
  simp only
  rw [h.queue]
  generalize flush around s.connection s.history s.queue.entries = done at hdone ⊢
  generalize flush around s'.connection s'.history s.queue.entries = done' at hdone ⊢
  obtain ⟨hc, hentries, heffects, hfailure⟩ := hdone
  rw [hentries, hfailure]
  have hnext : Twins token token' agree
      { s with connection := done.connection, queue := { s.queue with entries := done.entries },
               history := done.effects }
      { s' with connection := done'.connection, queue := { s.queue with entries := done.entries },
                history := done'.effects } :=
    { (h.withConnection hc).withQueue { s.queue with entries := done.entries } with
      history := heffects }
  cases done.failure with
  | none => exact hnext
  | some e => exact (hnext.note _).fail hlink _

/-! ### Calls and records -/

/-- A record of the service means the same to both sessions. No record that is decoded is answered
with the token. -/
theorem onFrame (h : Twins token token' agree s s') (frame : Bytes) :
    Twins token token' agree (s.onFrame frame) (s'.onFrame frame) := by
  unfold Session.onFrame
  rw [h.maxFrame]
  cases Message.decode s.config.maxFrame frame with
  | error e =>
    simp only
    split
    · exact ((h.note _).withHalted (some e.message)).fail hlink _
    · exact h.note _
  | ok message =>
    cases message with
    | established info => exact (h.note _).withInfo (some info)
    | identify token => exact h.note _
    | request address metadata => exact h.note _
    | found address range => exact h.resolve _
    | notFound address => exact h.resolve _
    | failure code text => exact (h.note _).fail hlink _

/-- A lookup that was taken is sent by both sessions or waits in both. -/
theorem dispatch (h : Twins token token' agree s s') (now : Instant) (requester : ρ) (text : String)
    (frame : Bytes) :
    SameReply (Twins token token' agree) (s.dispatch now requester text frame)
      (s'.dispatch now requester text frame) := by
  unfold Session.dispatch
  rw [h.connection.state]
  split
  · have hsend := h.sendFrame hlink now (some requester) (rfl : frame.length = frame.length)
      (.same _) fun _ => .same _
    generalize s.sendFrame now (some requester) frame = result at hsend ⊢
    generalize s'.sendFrame now (some requester) frame = result' at hsend ⊢
    obtain ⟨e | ⟨⟨⟩⟩, hafter⟩ := hsend
    · exact .intro _ (((hafter.note _).fail hlink _).openConnection hlink).after
    · simp only
      rw [hafter.queue]
      exact .intro _ (hafter.withQueue _)
  · exact .intro _ ((h.note _).openConnection hlink).after

/-- A lookup is taken by both sessions or refused by both, for the same reason. -/
theorem submit (h : Twins token token' agree s s') (now : Instant) (requester : ρ) (text : String)
    (metadata : Metadata) :
    SameReply (Twins token token' agree) (s.submit now requester text metadata)
      (s'.submit now requester text metadata) := by
  unfold Session.submit
  rw [h.halted, h.queue]
  cases s.halted with
  | some reason => exact .intro _ h
  | none =>
    cases Address.parse text with
    | error e => exact .intro _ h
    | ok address =>
      simp only
      cases (Entry.make requester address metadata).frame with
      | error e => exact .intro _ h
      | ok frame =>
        simp only
        cases s.queue.push (Entry.make requester address metadata) with
        | error e => exact .intro _ h
        | ok queue =>
          exact (((h.withQueue queue).withHalted none).dispatch hlink now requester text frame).map
            Except.ok

/-- Both sessions begin to connect, or say the same about it. -/
theorem connect (h : Twins token token' agree s s') :
    SameReply (Twins token token' agree) s.connect s'.connect := by
  unfold Session.connect
  rw [h.halted]
  cases s.halted with
  | some reason => exact .intro _ h
  | none => exact h.openConnection hlink

/-- Both sessions are swept, or neither. -/
theorem sweepIdle (h : Twins token token' agree s s') (now : Instant) :
    SameReply (Twins token token' agree) (s.sweepIdle now) (s'.sweepIdle now) := by
  unfold Session.sweepIdle
  rw [h.idleFor]
  cases s.idleFor now with
  | none => exact .intro _ h
  | some idle => exact .intro _ ((h.note _).linkLost hlink)

/-! ### Naming the client -/

variable (htokens : TokensMatch token token')

include htokens

/-- Each client names itself by its own token, and the two frames are taken or refused alike. -/
theorem identify (h : Twins token token' agree s s') (now : Instant) :
    SameReply (Twins token token' agree) (s.identify now) (s'.identify now) := by
  obtain ⟨config, hconfig, hconfig'⟩ := h.config
  unfold Session.identify
  rw [hconfig, hconfig']
  simp only [Config.naming]
  obtain ⟨frame, frame', hnames, hframe, hframe'⟩ | ⟨e, herror, herror'⟩ :=
    identifyFrame_cases htokens
  · simp only [hframe, hframe']
    -- the frames are others, but what comes back is the same
    have hsend := h.sendFrame hlink now none hnames.hlength (.named hnames) (.unnamed hnames)
    generalize s.sendFrame now none frame = result at hsend ⊢
    generalize s'.sendFrame now none frame' = result' at hsend ⊢
    obtain ⟨e | ⟨⟨⟩⟩, hafter⟩ := hsend
    · exact .intro _ hafter
    · exact .intro _ (hafter.note _)
  · simp only [herror, herror']
    exact .intro _ h

/-- When the connections come up, both sessions name themselves, each by its own token, and send
what waits. -/
theorem onConnected (h : Twins token token' agree s s') (around : Surroundings ρ) :
    Twins token token' agree (s.onConnected around) (s'.onConnected around) := by
  unfold Session.onConnected
  rw [h.halted, h.connection.endpoint]
  cases s.halted with
  | some reason => exact h.closeConnection hlink
  | none =>
    simp only
    -- the sessions that name the client, with their connections marked as up
    have hmarked := h.withConnection (h.connection.markConnected around.now)
    have hup := ((hmarked.withLastError none).withHalted none).note
      (.connected s.connection.endpoint)
    generalize hnamed : (Session.identify around.now _ : Except SessionError Unit × Session ρ σ)
      = result
    generalize hnamed' : (Session.identify around.now _ : Except SessionError Unit × Session ρ σ)
      = result'
    have hsame : SameReply (Twins token token' agree) result result' := by
      rw [← hnamed, ← hnamed']
      exact hup.identify hlink htokens around.now
    obtain ⟨e | ⟨⟨⟩⟩, hafter⟩ := hsame
    · exact (hafter.note _).fail hlink _
    · exact hafter.flushPending hlink around

/-- Both sessions hear the same event. -/
theorem handleEvent (h : Twins token token' agree s s') (around : Surroundings ρ) (event : Event) :
    Twins token token' agree (s.handleEvent around event) (s'.handleEvent around event) := by
  unfold Session.handleEvent
  rw [h.connection.endpoint]
  cases event with
  | connected => exact h.onConnected hlink htokens around
  | received frame => exact h.onFrame hlink frame
  | disconnected => exact (h.note _).fail hlink _
  | failed failure => exact (h.note _).fail hlink _

end Twins

end Session

/-! ## Runs -/

/-- The same call, or the link is found in related states. -/
inductive Call.Matches (agree : σ → σ → Prop) : Call ρ σ → Call ρ σ → Prop where
  | same {call : Call ρ σ} (hlink : ∀ link, call ≠ .relink link) : Matches agree call call
  | relink {link link' : σ} (h : agree link link') : Matches agree (.relink link) (.relink link')

/-- Turns with the same surroundings and the same call. -/
structure Turn.Matches (agree : σ → σ → Prop) (turn turn' : Turn ρ σ) : Prop where
  around : turn'.around = turn.around
  call : turn.call.Matches agree turn'.call

/-- A turn stands against itself where every link is related to itself. -/
theorem Turn.Matches.refl {agree : σ → σ → Prop} (hagree : ∀ link, agree link link)
    (turn : Turn ρ σ) : turn.Matches agree turn := by
  refine ⟨rfl, ?_⟩
  cases turn.call with
  | relink link => exact .relink (hagree link)
  | _ => exact .same (by simp)

namespace Session

variable {token token' : String} {agree : σ → σ → Prop} {s s' : Session ρ σ}

/-- Two clients with different tokens are made alike, or neither can be. -/
theorem new_twins (config : Config) {link link' : σ} (hagree : agree link link') :
    (∀ e, (Session.new (config.naming token) link : Except _ (Session ρ σ)) = .error e →
        (Session.new (config.naming token') link' : Except _ (Session ρ σ)) = .error e)
      ∧ ∀ start : Session ρ σ, Session.new (config.naming token) link = .ok start →
        ∃ start', Session.new (config.naming token') link' = .ok start'
          ∧ Twins token token' agree start start' := by
  unfold Session.new
  simp only [Config.naming]
  cases Endpoint.make config.host config.port with
  | error e => cases e <;> simp
  | ok endpoint =>
    refine ⟨by simp, ?_⟩
    rintro _ ⟨⟩
    exact ⟨_, rfl, ⟨config, rfl, rfl⟩, ⟨hagree, rfl, rfl, rfl, rfl⟩, rfl, rfl, rfl, rfl, .nil⟩

variable [Link σ]

/-- What the calls of a run return. -/
def returned (s : Session ρ σ) : List (Turn ρ σ) → List Reply
  | [] => []
  | turn :: more => (s.perform turn).1 :: (s.next turn).returned more

variable (hlink : Link.Oblivious agree) (htokens : TokensMatch token token')

include hlink htokens

/-- **The step.** A turn gets the same reply from twins and leaves twins. -/
theorem Twins.perform (h : Twins token token' agree s s') {turn turn' : Turn ρ σ}
    (hturn : turn.Matches agree turn') :
    SameReply (Twins token token' agree) (s.perform turn) (s'.perform turn') := by
  obtain ⟨around, call⟩ := turn
  obtain ⟨around', call'⟩ := turn'
  obtain ⟨hsame, hcall⟩ := hturn
  obtain rfl : around' = around := hsame
  -- one lemma for each call; where the link is found anew, its two states are related as given
  cases hcall with
  | relink hagree => exact .intro _ (h.withConnection { h.connection with link := hagree })
  | same hne =>
    cases call with
    | submit requester text metadata =>
      exact (h.submit hlink around'.now requester text metadata).map Reply.submitted
    | event event => exact .intro _ (h.handleEvent hlink htokens around' event)
    | connect => exact (h.connect hlink).map Reply.started
    | disconnect => exact .intro _ (h.linkLost hlink)
    | purge => exact h.purge.map Reply.purged
    | sweepIdle => exact (h.sweepIdle hlink around'.now).map Reply.swept
    | relink link => exact absurd rfl (hne link)

/-- **The run.** Matching turns get the same replies from twins and leave twins. -/
theorem Twins.run (h : Twins token token' agree s s') {turns turns' : List (Turn ρ σ)}
    (hturns : List.Forall₂ (Turn.Matches agree) turns turns') :
    s'.returned turns' = s.returned turns
      ∧ Twins token token' agree (s.run turns) (s'.run turns') := by
  -- along the turns of both runs at once: the twins that a turn leaves are those of the next
  induction hturns generalizing s s' with
  | nil => exact ⟨rfl, h⟩
  | @cons turn turn' _ _ hturn _ ih =>
    have hsame := h.perform hlink htokens hturn
    obtain ⟨hreplies, htwins⟩ := ih hsame.after
    exact ⟨congrArg₂ List.cons hsame.reply_eq hreplies, htwins⟩

end Session

/-! ## Shown forms -/

/-- A configuration shows no more of its token than its size, so the two are shown alike. -/
theorem Config.format_naming {token token' : String} (h : TokensMatch token token')
    (config : Config) : (config.naming token').format = (config.naming token).format := by
  have hshown : redacted token' = redacted token := by
    unfold redacted
    rw [h.hsize]
  unfold Config.format
  simp only [Config.naming, Option.elim_some]
  rw [hshown]

namespace Session

variable [Link σ]

/-- **The token stays in its frame.** Take two configurations that differ in their tokens, which are
of the same size and have a NUL both or neither, and call the two sessions alike, over links that do
not look at the bytes of a frame. Either neither session can be made, for the same reason, or every
call returns the same to both, whatever the calls are, and after every run the sessions are in the
same state, have given the same answers and have written the same lines to the log. The effects of
the one stand against those of the other one by one, and are the same but for the frames that name
the client, which have the same length. The two configurations are shown alike. -/
theorem token_stays_in_its_frame {token token' : String} {agree : σ → σ → Prop}
    (hlink : Link.Oblivious agree) (htokens : TokensMatch token token') (config : Config)
    {link link' : σ} (hagree : agree link link') :
    (config.naming token').format = (config.naming token).format
      ∧ (∀ e, (Session.new (config.naming token) link : Except _ (Session ρ σ)) = .error e →
        (Session.new (config.naming token') link' : Except _ (Session ρ σ)) = .error e)
      ∧ ∀ start : Session ρ σ, Session.new (config.naming token) link = .ok start →
        ∃ start' : Session ρ σ, Session.new (config.naming token') link' = .ok start'
          ∧ ∀ turns turns' : List (Turn ρ σ), List.Forall₂ (Turn.Matches agree) turns turns' →
            let s := start.run turns
            let s' := start'.run turns'
            start'.returned turns' = start.returned turns
              ∧ s.connection.Agrees agree s'.connection ∧ s'.queue = s.queue ∧ s'.info = s.info
              ∧ s'.halted = s.halted ∧ s'.lastError = s.lastError
              ∧ notices s'.history = notices s.history ∧ answers s'.history = answers s.history
              ∧ List.Forall₂ (Effect.Twin token token') s.history s'.history := by
  obtain ⟨herror, hok⟩ := new_twins (ρ := ρ) config hagree
  refine ⟨config.format_naming htokens, herror, fun start hnew => ?_⟩
  obtain ⟨start', hnew', htwins⟩ := hok start hnew
  refine ⟨start', hnew', fun turns turns' hturns => ?_⟩
  obtain ⟨hreplies, hrun⟩ := htwins.run hlink htokens hturns
  exact ⟨hreplies, hrun.connection, hrun.queue, hrun.info, hrun.halted, hrun.lastError,
    hrun.history.notices_eq, hrun.history.answers_eq, hrun.history⟩

end Session

/-! ## Socket links -/

/-- Attempts that a session cannot tell apart: they have the same number, and the writing helper of
both or of neither is at its end. -/
structure Attempt.LooksLike (a a' : Attempt) : Prop where
  generation : a'.generation = a.generation
  finished : a'.writer = .finished ↔ a.writer = .finished

namespace SocketLink

/-- Socket links that a session cannot tell apart. -/
structure LooksLike (link link' : SocketLink) : Prop where
  generation : link'.generation = link.generation
  isOpen : link'.isOpen = link.isOpen
  attempts : List.Forall₂ Attempt.LooksLike link.attempts link'.attempts

variable {link link' : SocketLink}

/-- The attempts of a number are changed alike. -/
theorem LooksLike.modify (h : LooksLike link link') (n : Nat) {f f' : Attempt → Attempt}
    (hf : ∀ {a a' : Attempt}, a.LooksLike a' → (f a).LooksLike (f' a')) :
    LooksLike (link.modify n f) (link'.modify n f') := by
  refine { h with attempts := ?_ }
  refine List.forall₂_map_left_iff.2 (List.forall₂_map_right_iff.2 (h.attempts.imp ?_))
  intro a a' ha
  simp only [ha.generation]
  split
  · exact hf ha
  · exact ha

/-- Both links close: both have an open attempt, or neither has. -/
theorem LooksLike.close (h : LooksLike link link') : LooksLike link.close link'.close := by
  have hnext : LooksLike { link with generation := link.generation + 1, isOpen := false }
      { link' with generation := link.generation + 1, isOpen := false } :=
    { h with generation := rfl, isOpen := rfl }
  unfold SocketLink.close
  rw [h.generation, h.isOpen]
  split
  · exact hnext.modify _ fun ha => ⟨ha.generation, ha.finished⟩
  · exact hnext

/-- The attempt of a number takes frames in both lists or in neither. -/
theorem takes_of_looksLike {attempts attempts' : List Attempt}
    (h : List.Forall₂ Attempt.LooksLike attempts attempts') (n : Nat) :
    (attempts'.find? (·.generation = n)).any (·.writer ≠ .finished)
      = (attempts.find? (·.generation = n)).any (·.writer ≠ .finished) := by
  induction h with
  | nil => rfl
  | @cons a a' _ _ ha _ ih =>
    by_cases hn : a.generation = n
    · simp [ha.generation, hn, ha.finished]
    · simpa [ha.generation, hn] using ih

/-- Both links take frames, or neither does. -/
theorem LooksLike.takesFrames (h : LooksLike link link') :
    link'.takesFrames = link.takesFrames := by
  unfold SocketLink.takesFrames SocketLink.attempt?
  rw [h.generation, h.isOpen, takes_of_looksLike h.attempts]

/-- A socket link looks at no frame: it puts what it is given into an outbox. -/
theorem oblivious : Link.Oblivious LooksLike := by
  refine ⟨?_, ?_, LooksLike.close⟩
  -- an attempt begins with the end of the one before, on both links
  · intro endpoint link link' h
    have hclosed := h.close
    show LooksLike (startConnect endpoint link) (startConnect endpoint link')
    unfold startConnect
    refine { hclosed with attempts := ?_ }
    exact List.rel_append hclosed.attempts (.cons ⟨hclosed.generation, Iff.rfl⟩ .nil)
  · intro frame frame' link link' _ h
    show SameReply _ (send frame link) (send frame' link')
    unfold send
    rw [h.takesFrames, h.generation]
    split
    · exact .intro _ (h.modify _ fun ha => ⟨ha.generation, ha.finished⟩)
    · exact .intro _ h

end SocketLink

/-! ## Recording links -/

/-- Recording links that were asked the same, with frames of the same lengths. -/
structure RecordingLink.SameSizes (link link' : RecordingLink) : Prop where
  targets : link'.targets = link.targets
  closes : link'.closes = link.closes
  sizes : link'.sent.map List.length = link.sent.map List.length
  fault : link'.fault = link.fault

/-- A recording link keeps the frames but goes by their number alone: it refuses what it was told
to. -/
theorem RecordingLink.oblivious : Link.Oblivious RecordingLink.SameSizes := by
  refine ⟨?_, ?_, ?_⟩
  · intro endpoint link link' h
    exact { h with targets := congrArg (endpoint :: ·) h.targets }
  · intro frame frame' link link' hlength h
    have hsizes :
        (frame' :: link'.sent).map List.length = (frame :: link.sent).map List.length := by
      rw [List.map_cons, List.map_cons, hlength, h.sizes]
    show SameReply _ (RecordingLink.take frame link) (RecordingLink.take frame' link')
    unfold RecordingLink.take
    rw [h.fault]
    split
    · exact .intro _ ⟨h.targets, h.closes, hsizes, rfl⟩
    · exact .intro _ h
    · exact .intro _ ⟨h.targets, h.closes, hsizes, rfl⟩
  · intro link link' h
    exact { h with closes := congrArg (· + 1) h.closes }

namespace Session

/-- A client names itself on one connection and fails to on the next. With another token of as many
bytes the frames are others, and nothing else is. -/
theorem names_of_one_size_look_alike :
    let turns := [.submit 0 "10.0.0.1" [], .event .connected, .event .disconnected,
      .relink { RecordingLink.new with fault := some (0, .notConnected) }, .connect,
      .event .connected].map Turn.plain
    let s := { recorded with config := Config.default.naming "swordfish" }.run turns
    let s' := { recorded with config := Config.default.naming "xylophone" }.run turns
    s'.history ≠ s.history ∧ notices s'.history = notices s.history
      ∧ s.lastError = some "not connected" ∧ s'.lastError = s.lastError := by
  intro turns s s'
  have htokens : TokensMatch "swordfish" "xylophone" := ⟨by decide +kernel, by decide +kernel⟩
  have hrefl (link : RecordingLink) : link.SameSizes link := ⟨rfl, rfl, rfl, rfl⟩
  obtain ⟨-, -, hmade⟩ := token_stays_in_its_frame (ρ := Nat) RecordingLink.oblivious htokens
    Config.default (hrefl RecordingLink.new)
  obtain ⟨start', hnew', hruns⟩ := hmade _ (new_recorded_naming (some "swordfish"))
  cases hnew'.symm.trans (new_recorded_naming (some "xylophone"))
  have hturns : List.Forall₂ (Turn.Matches RecordingLink.SameSizes) turns turns :=
    List.forall₂_same.2 fun turn _ => .refl hrefl turn
  obtain ⟨-, -, -, -, -, herror, hnotices, -⟩ := hruns turns turns hturns
  have hrefused : s.lastError = some "not connected" := by decide +kernel
  exact ⟨by decide +kernel, hnotices, hrefused, herror⟩

end Session

end CidrLookup
