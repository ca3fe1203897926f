import CidrLookup.Proofs.Client.Stale
import CidrLookup.Proofs.Link.Written
import Mathlib.Data.List.Infix

/-!
# The bytes on each socket

A session resends its lookups when it has a new connection, while the helper of the old one may
still be writing, or have failed inside a record. `sockets_hold_records` says that the sockets are
kept apart all the same. `accepted` reads off a history which frames the link took for the attempt
of a number; `Bears` says that these are the frames in the outbox of the attempt, and that what it
has written fits what its helper is about. Whatever one of the parties does keeps that.

The network may do what it likes with the bytes that are under way, as long as it does not write to
the socket from this end: that is what a `Faithful` run asks of it.
-/

namespace CidrLookup

variable {ρ : Type}

open Connection (Does Amid)

/-! ## Accepted frames -/

/-- The frame that the link took. -/
def Effect.accepted? : Effect ρ → Option Bytes
  | sent frame => some frame
  | _ => none

/-- The frames that the link took while it had a number, in order. -/
def accepted (generation : Nat) : List (Effect ρ) → List Bytes
  | [] => []
  | effect :: more =>
    accepted generation more
      ++ if number more = generation then effect.accepted?.toList else []

section

variable {generation : Nat} {effect : Effect ρ} {history : List (Effect ρ)}

theorem accepted_cons_of_none (h : effect.accepted? = none) :
    accepted generation (effect :: history) = accepted generation history := by
  simp [accepted, h]

theorem accepted_cons_of_some {frame : Bytes} (h : effect.accepted? = some frame) :
    accepted generation (effect :: history)
      = accepted generation history ++ if number history = generation then [frame] else [] := by
  simp [accepted, h]

/-- No frame was taken under a number that the link has not reached. -/
theorem accepted_eq_nil (h : number history < generation) : accepted generation history = [] := by
  induction history with
  | nil => rfl
  | cons effect more ih =>
    rw [number_cons] at h
    have hmore : number more < generation := by omega
    rw [accepted, ih hmore, if_neg (Nat.ne_of_lt hmore)]
    rfl

end

/-! ## A faithful network -/

namespace Beside

/-- Whether a step is one of a helper, or the network leaves alone what was written from this
end. -/
def IsFaithful (link : SocketLink) : Beside → Prop
  | helper .. => True
  | network generation stream => ∀ a ∈ link.attempts, a.generation = generation →
    stream.outbound.sent = a.stream.outbound.sent

instance (link : SocketLink) : (step : Beside) → Decidable (step.IsFaithful link)
  | .helper .. => .isTrue trivial
  | .network generation stream =>
    inferInstanceAs (Decidable (∀ a ∈ link.attempts, a.generation = generation →
      stream.outbound.sent = a.stream.outbound.sent))

/-- What the peer does with a stream is faithful. -/
theorem isFaithful_of_met {link : SocketLink} (hsound : link.Sound) {a : Attempt}
    (ha : a ∈ link.attempts) {stream : Stream} (hmet : a.stream.Met stream) :
    (network a.generation stream).IsFaithful link := by
  intro b hb hnumber
  rw [hsound.eq_of_generation_eq hb ha hnumber]
  exact hmet.sent_eq

end Beside

/-! ## Links -/

namespace SocketLink

/-- What the attempts of a link have written, with the history that has led to it. -/
structure Bears (history : List (Effect ρ)) (link : SocketLink) : Prop where
  sound : link.Sound
  generation_eq : link.generation = number history
  inscribed : ∀ a ∈ link.attempts, a.Inscribed
  given : ∀ a ∈ link.attempts, a.outbox.sent = accepted a.generation history

/-- What is written stays. -/
def Carries (link link' : SocketLink) : Prop :=
  ∀ a ∈ link.attempts, ∃ a' ∈ link'.attempts, a.Carried a'

theorem Carries.refl (link : SocketLink) : Carries link link :=
  fun a ha => ⟨a, ha, .refl a⟩

theorem Carries.trans {link link' link'' : SocketLink} (h : Carries link link')
    (h' : Carries link' link'') : Carries link link'' := by
  intro a ha
  obtain ⟨a', ha', hcarried⟩ := h a ha
  obtain ⟨a'', ha'', hcarried'⟩ := h' a' ha'
  exact ⟨a'', ha'', hcarried.trans hcarried'⟩

variable {history history' : List (Effect ρ)} {link link' : SocketLink}

/-- Each attempt changes as it may, and new ones may begin. -/
theorem Bears.map (h : Bears history link) {change : Attempt → Attempt} {begun : List Attempt}
    (hattempts : link'.attempts = link.attempts.map change ++ begun) (hsound : link'.Sound)
    (hgeneration : link'.generation = number history')
    (hchange : ∀ a ∈ link.attempts, a.Passes (change a)
      ∧ (change a).outbox.sent = accepted a.generation history')
    (hbegun : ∀ a ∈ begun, a.Inscribed ∧ a.outbox.sent = accepted a.generation history') :
    Bears history' link' ∧ Carries link link' := by
  -- each attempt of before is looked at by itself, and those that were begun are new
  have hpasses (a : Attempt) (ha : a ∈ link.attempts) :
      (change a).Inscribed ∧ a.Carried (change a) := (hchange a ha).1 (h.inscribed a ha)
  refine ⟨⟨hsound, hgeneration, ?_, ?_⟩, ?_⟩
  · rw [hattempts]
    refine List.forall_mem_append.2 ⟨?_, fun a ha => (hbegun a ha).1⟩
    exact List.forall_mem_map.2 fun a ha => (hpasses a ha).1
  · rw [hattempts]
    refine List.forall_mem_append.2 ⟨?_, fun a ha => (hbegun a ha).2⟩
    refine List.forall_mem_map.2 fun a ha => ?_
    rw [(hpasses a ha).2.generation_eq]
    exact (hchange a ha).2
  · intro a ha
    rw [hattempts]
    exact ⟨change a, List.mem_append_left _ (List.mem_map_of_mem ha), (hpasses a ha).2⟩

/-- A change to the attempts that are there, with none begun. -/
theorem Bears.change (h : Bears history link) {change : Attempt → Attempt}
    (hattempts : link'.attempts = link.attempts.map change) (hsound : link'.Sound)
    (hgeneration : link'.generation = number history')
    (hchange : ∀ a ∈ link.attempts, a.Passes (change a)
      ∧ (change a).outbox.sent = accepted a.generation history') :
    Bears history' link' ∧ Carries link link' := by
  have hall : link'.attempts = link.attempts.map change ++ [] := by
    rw [hattempts, List.append_nil]
  exact h.map hall hsound hgeneration hchange (List.forall_mem_nil _)

/-! ### Changes that are nothing to the writing helpers -/

/-- A change that is nothing to the writing helper and to what it was given. -/
structure Quiet (a a' : Attempt) : Prop where
  generation_eq : a'.generation = a.generation
  writer_eq : a'.writer = a.writer
  outbox_eq : a'.outbox = a.outbox
  written_eq : a'.written = a.written

/-- Each attempt of a link has changed quietly. -/
def Quietly (link link' : SocketLink) : Prop :=
  ∃ change, link'.attempts = link.attempts.map change ∧ ∀ a ∈ link.attempts, Quiet a (change a)

/-- A quiet change passes for the writing helper. -/
theorem Quiet.passes {a a' : Attempt} (h : Quiet a a') : a.Passes a' :=
  .of_same h.generation_eq h.writer_eq (by rw [Attempt.taken, h.outbox_eq, Attempt.taken])
    h.written_eq

/-- Attempts that are the same have changed quietly. -/
theorem Quietly.of_eq (h : link'.attempts = link.attempts) : Quietly link link' :=
  ⟨id, by rw [h, List.map_id], fun _ _ => ⟨rfl, rfl, rfl, rfl⟩⟩

theorem quietly_modify {generation : Nat} {f : Attempt → Attempt}
    (hf : ∀ a ∈ link.attempts, a.generation = generation → Quiet a (f a)) :
    Quietly link (link.modify generation f) := by
  refine ⟨_, rfl, fun a ha => ?_⟩
  by_cases h : a.generation = generation
  · rw [if_pos h]
    exact hf a ha h
  · rw [if_neg h]
    exact ⟨rfl, rfl, rfl, rfl⟩

theorem quietly_close (link : SocketLink) : Quietly link link.close := by
  unfold close
  simp only
  split
  · exact quietly_modify (fun a _ _ => ⟨rfl, rfl, rfl, rfl⟩)
  · exact .of_eq rfl

/-- A look is quiet. -/
theorem quietly_poll (link : SocketLink) :
    Quietly link link.poll.2 ∧ link.poll.2.generation = link.generation := by
  unfold poll
  cases hreceive : link.receive? with
  | none => exact ⟨.of_eq rfl, rfl⟩
  | some taken =>
    obtain ⟨signal, received⟩ := taken
    obtain ⟨_, -, heq⟩ := Option.map_eq_some_iff.1 hreceive
    cases heq
    simp only [accept]
    split
    · split
      · exact ⟨.of_eq rfl, rfl⟩
      · exact ⟨.of_eq rfl, rfl⟩
      · exact ⟨quietly_modify fun a _ _ => ⟨rfl, rfl, rfl, rfl⟩, rfl⟩
      · exact ⟨quietly_modify fun a _ _ => ⟨rfl, rfl, rfl, rfl⟩, rfl⟩
      · exact ⟨.of_eq rfl, rfl⟩
    · split
      · exact ⟨quietly_modify fun a _ _ => ⟨rfl, rfl, rfl, rfl⟩, rfl⟩
      · exact ⟨.of_eq rfl, rfl⟩

/-- After a quiet change, the attempts bear the history if no frame was taken since. -/
theorem Bears.quietly (h : Bears history link) (hquiet : Quietly link link')
    (hsound : link'.Sound) (hgeneration : link'.generation = number history')
    (haccepted : ∀ generation, accepted generation history' = accepted generation history) :
    Bears history' link' ∧ Carries link link' := by
  obtain ⟨change, hattempts, hchange⟩ := hquiet
  refine h.change hattempts hsound hgeneration fun a ha => ?_
  refine ⟨(hchange a ha).passes, ?_⟩
  rw [(hchange a ha).outbox_eq, haccepted]
  exact h.given a ha

/-! ### Calls of the session -/

/-- An attempt that is begun has been given no frames. -/
theorem bears_startConnect (h : Bears history link) (endpoint : Endpoint) :
    Bears (.connect endpoint :: history) (link.startConnect endpoint)
      ∧ Carries link (link.startConnect endpoint) := by
  obtain ⟨change, hattempts, hchange⟩ := quietly_close link
  obtain ⟨hgeneration, -, -⟩ := close_spec link
  have haccepted (generation : Nat) : accepted generation (.connect endpoint :: history)
      = accepted generation history := accepted_cons_of_none rfl
  have hall : (link.startConnect endpoint).attempts
      = link.attempts.map change ++ [.new (link.generation + 1) endpoint] := by
    rw [← hattempts, ← hgeneration]
    rfl
  refine h.map hall (next_startConnect link endpoint h.sound).1 ?_ (fun a ha => ?_) ?_
  · rw [(startConnect_spec link endpoint).1, h.generation_eq, number_cons]
    rfl
  · refine ⟨(hchange a ha).passes, ?_⟩
    rw [(hchange a ha).outbox_eq, haccepted]
    exact h.given a ha
  · refine List.forall_mem_singleton.2 ⟨Attempt.inscribed_new _ _, ?_⟩
    -- nothing was given under a number that is only reached now
    rw [haccepted, accepted_eq_nil]
    · rfl
    · exact h.generation_eq ▸ Nat.lt_succ_self _

/-- A close gives no frame to any attempt. -/
theorem bears_close (h : Bears history link) :
    Bears (.close :: history) link.close ∧ Carries link link.close := by
  refine h.quietly (quietly_close link) (next_close link h.sound).1 ?_
    fun _ => accepted_cons_of_none rfl
  rw [(close_spec link).1, h.generation_eq, number_cons]
  rfl

/-- A frame that the link takes goes into the outbox of the attempt that has its number. -/
theorem bears_send (h : Bears history link) {requester : Option ρ} {frame : Bytes}
    (hsend : link.send frame = (.ok (), link')) :
    Bears (@Effect.sent ρ requester frame :: history) link' ∧ Carries link link' := by
  have hsound := (next_send link frame h.sound).1
  obtain ⟨hgeneration, -, -⟩ := send_spec link frame
  rw [hsend] at hsound hgeneration
  have hsome : (@Effect.sent ρ requester frame).accepted? = some frame := rfl
  -- the frame goes into the outbox of the current attempt and of no other
  let give (a : Attempt) : Attempt :=
    if a.generation = link.generation then { a with outbox := a.outbox.send frame } else a
  have hattempts : link'.attempts = link.attempts.map give := by
    unfold send at hsend
    split at hsend <;> cases hsend
    rfl
  refine h.change hattempts hsound ?_ fun a ha => ?_
  · show link'.generation = _
    rw [hgeneration, h.generation_eq, number_cons]
    rfl
  · rw [accepted_cons_of_some hsome, ← h.given a ha, ← h.generation_eq]
    by_cases hcurrent : a.generation = link.generation
    · have hgive : give a = { a with outbox := a.outbox.send frame } := if_pos hcurrent
      rw [hgive, if_pos hcurrent.symm]
      exact ⟨.of_same rfl rfl rfl rfl, Channel.sent_send ..⟩
    · have hgive : give a = a := if_neg hcurrent
      rw [hgive, if_neg (Ne.symm hcurrent), List.append_nil]
      exact ⟨.of_same rfl rfl rfl rfl, rfl⟩

/-! ### Steps beside the session -/

/-- Nor does a look. -/
theorem bears_poll (h : Bears history link) :
    Bears history link.poll.2 ∧ Carries link link.poll.2 := by
  obtain ⟨hquiet, hgeneration⟩ := quietly_poll link
  exact h.quietly hquiet ((poll_spec link).2 h.sound).1 (hgeneration.trans h.generation_eq)
    fun _ => rfl

/-- A helper writes what it was given, in order. -/
theorem bears_step (h : Bears history link) (generation : Nat) (step : Step) :
    Bears history (link.step generation step) ∧ Carries link (link.step generation step) := by
  have hsound := (next_step link generation step h.sound).1
  have hgeneration := (step_spec link generation step).1.trans h.generation_eq
  have hstepped := step_stepped link generation step
  generalize link.step generation step = link' at hsound hgeneration hstepped ⊢
  cases hstepped with
  | idle => exact ⟨h, .refl link⟩
  | @advanced a f reports hfound hadvances =>
    obtain ⟨ha, hnumber⟩ := attempt?_eq_some hfound
    refine h.change rfl hsound hgeneration fun b hb => ?_
    rw [← h.given b hb]
    -- a step is one of the helpers of a single attempt
    by_cases hb' : b.generation = generation
    · obtain rfl : b = a := h.sound.eq_of_generation_eq hb ha (hb'.trans hnumber.symm)
      rw [if_pos hb']
      exact hadvances.passes (h.sound.hasPosted b hb)
    · rw [if_neg hb']
      exact ⟨.of_same rfl rfl rfl rfl, rfl⟩

/-- What happens on a stream without being written from this end. -/
theorem bears_stream (h : Bears history link) {generation : Nat} {stream : Stream}
    (hsent : ∀ a ∈ link.attempts, a.generation = generation →
      stream.outbound.sent = a.stream.outbound.sent) :
    Bears history (link.modify generation ({ · with stream }))
      ∧ Carries link (link.modify generation ({ · with stream })) := by
  refine h.quietly (quietly_modify fun a ha hnumber => ?_) (next_stream link generation stream
    h.sound).1 h.generation_eq fun _ => rfl
  exact ⟨rfl, rfl, rfl, hsent a ha hnumber⟩

/-- A step beside the session writes what was given, or leaves what was written alone. -/
theorem bears_beside (h : Bears history link) {step : Beside} (hstep : step.IsFaithful link) :
    Bears history (step.apply link) ∧ Carries link (step.apply link) := by
  cases step with
  | helper generation step => exact bears_step h generation step
  | network generation stream => exact bears_stream h hstep

/-- An effect that gives no frame and keeps the number of the link. -/
theorem Bears.silent (h : Bears history link) {effect : Effect ρ}
    (hrenumbers : effect.renumbers = false) (hnone : effect.accepted? = none) :
    Bears (effect :: history) link := by
  refine (h.quietly (.of_eq rfl) h.sound ?_ fun _ => accepted_cons_of_none hnone).1
  rw [h.generation_eq, number_cons, hrenumbers]
  rfl

end SocketLink

/-! ## Connections -/

namespace Connection

open SocketLink (Bears Carries)

variable {history : List (Effect ρ)} {c c' : Connection SocketLink}

/-- Each effect keeps what is written in step with the history. -/
theorem bears_does {effect : Effect ρ} (h : Bears history c.link) (hdoes : Does effect c c') :
    Bears (effect :: history) c'.link ∧ Carries c.link c'.link := by
  cases hdoes with
  | connect hstate =>
    rw [(connect_spec hstate).1]
    exact SocketLink.bears_startConnect h c.endpoint
  | close => exact SocketLink.bears_close h
  | sent hsend =>
    obtain ⟨-, htaken⟩ | ⟨⟨_, hrefused⟩, -⟩ := link_cases_of_send hsend
    · exact SocketLink.bears_send h htaken
    · contradiction
  | refused hsend =>
    obtain ⟨htaken, -⟩ | ⟨-, hlink⟩ := link_cases_of_send hsend
    · contradiction
    · rw [hlink]
      exact ⟨h.silent rfl rfl, .refl _⟩
  | resolved => exact ⟨h.silent rfl rfl, .refl _⟩
  | notice => exact ⟨h.silent rfl rfl, .refl _⟩

/-- So does a call with faithful steps in it. -/
theorem bears_amid {effects : List (Effect ρ)} {found : List (SocketLink × Beside)}
    (h : Bears history c.link) (hfound : ∀ met ∈ found, met.2.IsFaithful met.1)
    (hamid : Amid effects found c c') :
    Bears (effects ++ history) c'.link ∧ Carries c.link c'.link := by
  induction hamid with
  | nil => exact ⟨h, .refl _⟩
  | does _ hdoes ih =>
    obtain ⟨hbears, hcarries⟩ := ih h hfound
    obtain ⟨hbears', hcarries'⟩ := bears_does hbears hdoes
    exact ⟨hbears', hcarries.trans hcarries'⟩
  | beside _ step ih =>
    obtain ⟨hstep, hmore⟩ := List.forall_mem_cons.1 hfound
    obtain ⟨hbears, hcarries⟩ := ih h hmore
    obtain ⟨hbears', hcarries'⟩ := SocketLink.bears_beside hbears hstep
    exact ⟨hbears', hcarries.trans hcarries'⟩

end Connection

/-! ## Runs -/

namespace Session

open SocketLink (Bears Carries)

/-- A run in which the network is faithful, between the calls of the owner and within them. -/
def Faithful : List (Move ρ) → Session ρ SocketLink → Prop
  | [], _ => True
  | move :: more, s =>
    (∀ met ∈ s.found move, met.2.IsFaithful met.1) ∧ Faithful more (s.move move)

instance decidableFaithful : (moves : List (Move ρ)) → (s : Session ρ SocketLink) →
    Decidable (s.Faithful moves)
  | [], _ => .isTrue trivial
  | move :: more, s =>
    have := decidableFaithful more (s.move move)
    inferInstanceAs (Decidable (_ ∧ _))

/-- A change of a session that fits what was written before. -/
def Passes (s s' : Session ρ SocketLink) : Prop :=
  Bears s.history s.connection.link →
    Bears s'.history s'.connection.link ∧ Carries s.connection.link s'.connection.link

theorem Passes.trans {s s' s'' : Session ρ SocketLink} (h : s.Passes s') (h' : s'.Passes s'') :
    s.Passes s'' := by
  intro hbears
  obtain ⟨hbears', hcarries⟩ := h hbears
  obtain ⟨hbears'', hcarries'⟩ := h' hbears'
  exact ⟨hbears'', hcarries.trans hcarries'⟩

section

variable {found : List (SocketLink × Beside)} {s s' : Session ρ SocketLink}

/-- Whatever a session goes through among faithful steps passes on what is written. -/
theorem Goes.passes (h : Goes found s s') (hfound : ∀ met ∈ found, met.2.IsFaithful met.1) :
    s.Passes s' := by
  intro hbears
  obtain ⟨effects, hhistory, hamid⟩ := h
  rw [hhistory]
  exact Connection.bears_amid hbears hfound hamid

/-- What arrives passes on what is written. -/
theorem Arrived.passes {around : Surroundings ρ} {arrival : Arrival}
    (h : Arrived around s found arrival s') (hfound : ∀ met ∈ found, met.2.IsFaithful met.1) :
    s.Passes s' := by
  have hnote (notice : Notice) : s.Passes (s.note notice) := fun h => ⟨h.silent rfl rfl, .refl _⟩
  cases h with
  | @event _ event _ hheard =>
    refine (hnote (.linkEvent event)).trans ?_
    -- marking the connection as connected is no matter of the link
    cases hheard with
    | up hgoes => exact fun h => hgoes.passes hfound h
    | received hgoes => exact hgoes.passes hfound
    | ended hgoes => exact hgoes.passes hfound
  | stale => exact hnote _
  | quiet => exact fun h => ⟨h, .refl _⟩

end

/-- **The step.** -/
theorem passes_move (s : Session ρ SocketLink) {move : Move ρ}
    (hmove : ∀ met ∈ s.found move, met.2.IsFaithful met.1) : s.Passes (s.move move) := by
  have hmade := move_made s move
  generalize s.found move = found at hmade hmove
  generalize s.move move = s' at hmade ⊢
  cases hmade with
  | called _ hgoes => exact hgoes.passes hmove
  | looked _ harrived hswept =>
    obtain ⟨hlater, hearlier⟩ := List.forall_mem_append.1 hmove
    have hlooked : s.Passes (s.withLink s.connection.link.poll.2) := SocketLink.bears_poll
    exact (hlooked.trans (harrived.passes hearlier)).trans (hswept.passes hlater)
  | beside step =>
    exact fun h => SocketLink.bears_beside h (hmove _ List.mem_cons_self)

/-- A faithful run passes on what is written. -/
theorem passes_follow {moves : List (Move ρ)} {s : Session ρ SocketLink} (h : s.Faithful moves) :
    s.Passes (s.follow moves) := by
  induction moves generalizing s with
  | nil => exact fun hbears => ⟨hbears, .refl _⟩
  | cons move more ih =>
    obtain ⟨hmove, hmore⟩ := h
    exact (passes_move s hmove).trans (ih hmore)

/-- A new session has no attempts, so nothing is written. -/
theorem bears_new {config : Config} {s : Session ρ SocketLink}
    (hnew : Session.new config (.ofConfig config) = .ok s) :
    Bears s.history s.connection.link := by
  have hs := (isInStep_new hnew).follows
  have hnone : s.connection.link.attempts = [] := by
    rw [link_of_new hnew]
    rfl
  exact ⟨hs.sound, hs.generation_eq, by simp [hnone], by simp [hnone]⟩

/-- Whatever the peer does with the stream of an attempt is a faithful run. -/
theorem faithful_of_met {s : Session ρ SocketLink} (hsound : s.connection.link.Sound) {a : Attempt}
    (ha : a ∈ s.connection.link.attempts) {stream : Stream} (hmet : a.stream.Met stream) :
    s.Faithful [.network a.generation stream] := by
  have hstep : (Beside.network a.generation stream).IsFaithful s.connection.link :=
    Beside.isFaithful_of_met hsound ha hmet
  exact ⟨List.forall_mem_singleton.2 hstep, trivial⟩

/-- **Sockets hold records.** Let the owner of a session, the helpers of its attempts and the
network do what they do, in any order, with writes that are cut short, interrupted or refused and
flushes that fail. Then the attempts have different numbers, and what was written to the stream of
each comes first in the records of the first frames that the link accepted while it had the number
of the attempt, in the order in which they were sent; each of these frames has a record. What is
written afterwards comes behind it. Where the helper has no rest of a record to write and the bytes
are not those of whole records, a record is cut short, and nothing is written any more. -/
theorem sockets_hold_records {config : Config} {start : Session ρ SocketLink}
    (hnew : Session.new config (.ofConfig config) = .ok start) {moves : List (Move ρ)}
    (hmoves : start.Faithful moves) :
    let s := start.follow moves
    let link := s.connection.link
    (link.attempts.map Attempt.generation).Nodup
      ∧ ∀ a ∈ link.attempts, let frames := accepted a.generation s.history
        (∃ begun, begun <+: frames
            ∧ (∀ frame ∈ begun, Record.encode frame = .ok (Record.form frame))
            ∧ a.written <+: begun.flatMap Record.form)
          ∧ ∀ more, s.Faithful more →
            ∃ a' ∈ (s.follow more).connection.link.attempts, a'.generation = a.generation
              ∧ a.written <+: a'.written
              ∧ ((∀ rest, a.writer ≠ .writing rest) →
                (∀ whole, whole <+: frames → a.written ≠ whole.flatMap Record.form) →
                a'.written = a.written) := by
  intro s link
  have hbears : Bears s.history link := (passes_follow hmoves (bears_new hnew)).1
  refine ⟨hbears.sound.distinct, fun a ha => ?_⟩
  intro frames
  have hinscribed := hbears.inscribed a ha
  have htaken : a.taken <+: frames := by
    show _ <+: accepted a.generation s.history
    rw [← hbears.given a ha]
    exact List.prefix_append ..
  constructor
  · obtain ⟨begun, hbegun, hencodable, hwritten⟩ := hinscribed.begun
    refine ⟨begun, hbegun.trans htaken, fun frame hframe => ?_, hwritten⟩
    exact Record.encode_eq_ok (hencodable frame hframe)
  · intro more hmore
    obtain ⟨a', ha', hcarried⟩ := (passes_follow hmore hbears).2 a ha
    refine ⟨a', ha', hcarried.generation_eq, hcarried.grows, fun hrest hcut => ?_⟩
    -- a record that is cut although nothing is being written was left by a helper at its end
    have hover : a.writer.isOver := hinscribed.isOver_of_cut hrest fun whole hwhole =>
      hcut whole (hwhole.trans htaken)
    exact (hcarried.stays hover).2

/-- Two lookups wait for a connection. When it is up the session sends them one after the other, and
before the second one the helper has written four bytes of the first record, the peer has read two
of them, the next write has failed, and the helper has reported it and is done. -/
def cutShort : List (Move Nat) :=
  let stream : Stream :=
    { Stream.established with outbound := Channel.empty.sendAll [76, 81, 0, 0] }
  [.submit ⟨0⟩ 0 "10.0.0.1" [], .submit ⟨0⟩ 0 "10.0.0.2" [], .helper 1 (.connect (.ok ())),
    .helper 1 .reportRead,
    .amid (.poll ⟨⟨0⟩, fun _ => true⟩) [[], [.helper 1 .takeFrame, .helper 1 (.write (.takes 4)),
      .network 1 (stream.peerRead 2).2, .helper 1 (.write (.failure .brokenPipe)),
      .helper 1 .reportWrite, .helper 1 .hangUp]]]

/-- The session connects again and resends the lookups, while the first attempt is still there. -/
def resent : List (Move Nat) :=
  [.helper 1 (.write (.takes 9)), .connect, .helper 3 (.connect (.ok ())), .helper 3 .reportRead,
    .poll ⟨⟨0⟩, fun _ => true⟩, .poll ⟨⟨0⟩, fun _ => true⟩, .helper 3 .takeFrame,
    .helper 3 (.write (.takes 20)), .helper 1 .hangUp, .helper 1 .takeFrame]

/-- The first record was cut short within the flush, and the second lookup was not sent. What was
written of the record stays as it is, whatever the peer does with the stream and while the session
resends the lookup; on the second stream its record is whole. -/
theorem cut_record_is_left_alone :
    let frame : Bytes := [1, 2, 10, 0, 0, 1, 0]
    let cut := socketed.follow cutShort
    socketed.Faithful cutShort ∧ cut.Faithful resent
      ∧ (∀ a ∈ cut.connection.link.attempts,
        accepted a.generation cut.history = [frame] ∧ a.written = [76, 81, 0, 0]
          ∧ (∃ a' ∈ (cut.follow resent).connection.link.attempts,
            a'.generation = a.generation ∧ a'.written = [76, 81, 0, 0])
          ∧ ∀ stream, a.stream.Met stream →
            ∃ a' ∈ (cut.follow [.network a.generation stream]).connection.link.attempts,
              a'.generation = a.generation ∧ a'.written = [76, 81, 0, 0])
      ∧ ∃ a ∈ (cut.follow resent).connection.link.attempts, a.written = Record.form frame := by
  intro frame cut
  have hfaithful : socketed.Faithful cutShort := by decide +kernel
  have hfaithful' : cut.Faithful resent := by decide +kernel
  have hcut : ∀ a ∈ cut.connection.link.attempts, accepted a.generation cut.history = [frame]
      ∧ a.written = [76, 81, 0, 0] ∧ a.writer.isOver := by decide +kernel
  have hnone : ∀ whole ∈ [frame].inits, [76, 81, 0, 0] ≠ whole.flatMap Record.form := by decide
  have hsound : cut.connection.link.Sound := (isInStep_follow new_socketed cutShort).follows.sound
  obtain ⟨-, hall⟩ := sockets_hold_records new_socketed hfaithful
  refine ⟨hfaithful, hfaithful', fun a ha => ?_, by decide +kernel⟩
  obtain ⟨hframes, hwritten, hover⟩ := hcut a ha
  -- nothing is written any more behind a record that is cut short
  have hstays (more : List (Move Nat)) (hmore : cut.Faithful more) :
      ∃ a' ∈ (cut.follow more).connection.link.attempts,
        a'.generation = a.generation ∧ a'.written = [76, 81, 0, 0] := by
    obtain ⟨a', ha', hgeneration, -, hsame⟩ := (hall a ha).2 more hmore
    refine ⟨a', ha', hgeneration, (hsame ?_ ?_).trans hwritten⟩
    · intro rest hwriting
      simp [hwriting, WriterPhase.isOver] at hover
    · intro whole hwhole
      rw [hframes] at hwhole
      rw [hwritten]
      exact hnone whole ((List.mem_inits ..).2 hwhole)
  refine ⟨hframes, hwritten, hstays resent hfaithful', fun stream hmet => ?_⟩
  exact hstays _ (faithful_of_met hsound ha hmet)

end Session

end CidrLookup
