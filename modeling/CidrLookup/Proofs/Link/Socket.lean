import CidrLookup.Link.Socket
import CidrLookup.Proofs.Link.Attempt
import Mathlib.Data.List.Nodup

/-!
# Signals and their attempts

The attempts of a link have different numbers, every signal carries the number of an attempt, and
what an attempt has posted, read off the channel by its number, fits what its helpers are about.
That is `Sound`. Whatever happens to a link keeps it, and leaves a link that is `Later`: more may
have been posted, attempts may have been added, and the number of the link may have grown, but no
attempt is ever added under a number that the link has reached.
-/

namespace CidrLookup

/-- What a report says to a session. -/
def Report.event : Report → Event
  | connected => .connected
  | received payload => .received payload
  | closed none => .disconnected
  | closed (some detail) => .failed ⟨.transport, detail⟩
  | connectFailed detail => .failed ⟨.connect, detail⟩

/-- Different reports say different things. -/
theorem Report.eq_of_event_eq {report report' : Report} (h : report.event = report'.event) :
    report = report' := by
  rcases report with _ | _ | ⟨_ | _⟩ | _ <;> rcases report' with _ | _ | ⟨_ | _⟩ | _ <;>
    cases h <;> rfl

namespace SocketLink

open Attempt (HasPosted Advances)

/-- Whether an attempt has a number. -/
def HasAttempt (generation : Nat) (link : SocketLink) : Prop :=
  ∃ a ∈ link.attempts, a.generation = generation

/-- The signals of the attempt of a number, as reports. -/
def reportsOf (generation : Nat) (signals : List Signal) : List Report :=
  (signals.filter (·.generation = generation)).map Signal.report

/-- What the attempt of a number has put into the channel, in order. -/
def posted (generation : Nat) (link : SocketLink) : List Report :=
  reportsOf generation link.signals.sent

theorem reportsOf_append (generation : Nat) (front back : List Signal) :
    reportsOf generation (front ++ back)
      = reportsOf generation front ++ reportsOf generation back := by
  simp [reportsOf]

/-- Signals that are all of one number have reports of that number alone. -/
theorem reportsOf_tagged (number generation : Nat) (reports : List Report) :
    reportsOf generation (reports.map (Signal.mk number))
      = if number = generation then reports else [] := by
  by_cases h : number = generation <;> simp [reportsOf, List.filter_map, Function.comp_def, h]

/-! ## Sound links -/

/-- What is true of a link whatever has happened to it. -/
structure Sound (link : SocketLink) : Prop where
  distinct : (link.attempts.map Attempt.generation).Nodup
  reached : ∀ a ∈ link.attempts, a.generation ≤ link.generation
  hasPosted : ∀ a ∈ link.attempts, HasPosted (link.posted a.generation) a
  tagged : ∀ signal ∈ link.signals.sent, link.HasAttempt signal.generation
  opened : link.isOpen → ⟨link.generation, .connected⟩ ∈ link.signals.received

/-- What is true of a link that was another one before. -/
structure Later (link link' : SocketLink) : Prop where
  generation_le : link.generation ≤ link'.generation
  posted_prefix : ∀ generation, link.posted generation <+: link'.posted generation
  kept : ∀ a ∈ link.attempts,
    ∃ a' ∈ link'.attempts, a'.generation = a.generation ∧ a'.endpoint = a.endpoint
  absent : ∀ a' ∈ link'.attempts, a'.generation ≤ link.generation → link.HasAttempt a'.generation

theorem Later.refl (link : SocketLink) : Later link link :=
  ⟨Nat.le_refl _, fun _ => List.prefix_rfl, fun a ha => ⟨a, ha, rfl, rfl⟩,
    fun a ha _ => ⟨a, ha, rfl⟩⟩

theorem Later.trans {link link' link'' : SocketLink} (h : Later link link')
    (h' : Later link' link'') : Later link link'' := by
  refine ⟨Nat.le_trans h.generation_le h'.generation_le, ?_, ?_, ?_⟩
  · exact fun generation => (h.posted_prefix generation).trans (h'.posted_prefix generation)
  · intro a ha
    obtain ⟨a', ha', hgeneration, hendpoint⟩ := h.kept a ha
    obtain ⟨a'', ha'', hgeneration', hendpoint'⟩ := h'.kept a' ha'
    exact ⟨a'', ha'', hgeneration'.trans hgeneration, hendpoint'.trans hendpoint⟩
  · intro a'' ha'' hle
    obtain ⟨a', ha', hgeneration⟩ := h'.absent a'' ha'' (Nat.le_trans hle h.generation_le)
    rw [← hgeneration] at hle ⊢
    exact h.absent a' ha' hle

/-- A change that keeps a link sound and leaves a later one. -/
def Next (link link' : SocketLink) : Prop :=
  link.Sound → link'.Sound ∧ Later link link'

theorem Next.refl (link : SocketLink) : Next link link :=
  fun h => ⟨h, .refl link⟩

theorem Next.trans {link link' link'' : SocketLink} (h : Next link link')
    (h' : Next link' link'') : Next link link'' := by
  intro hsound
  obtain ⟨hsound', hlater⟩ := h hsound
  obtain ⟨hsound'', hlater'⟩ := h' hsound'
  exact ⟨hsound'', hlater.trans hlater'⟩

section

variable {link : SocketLink} {generation : Nat}

/-- No two attempts of a sound link have one number. -/
theorem Sound.eq_of_generation_eq (hsound : link.Sound) {a b : Attempt} (ha : a ∈ link.attempts)
    (hb : b ∈ link.attempts) (h : a.generation = b.generation) : a = b :=
  List.inj_on_of_nodup_map hsound.distinct ha hb h

/-- The attempt that is found has the number. -/
theorem attempt?_eq_some {a : Attempt} (h : link.attempt? generation = some a) :
    a ∈ link.attempts ∧ a.generation = generation :=
  ⟨List.mem_of_find?_eq_some h, by simpa using List.find?_some h⟩

/-- A number without an attempt has no signals. -/
theorem Sound.posted_eq_nil (hsound : link.Sound) (hnone : ¬ link.HasAttempt generation) :
    link.posted generation = [] := by
  have hother : ∀ signal ∈ link.signals.sent, ¬ decide (signal.generation = generation) := by
    intro signal hsignal heq
    exact hnone (of_decide_eq_true heq ▸ hsound.tagged signal hsignal)
  rw [posted, reportsOf, List.filter_eq_nil_iff.2 hother, List.map_nil]

/-- No attempt has a number that the link has not reached. -/
theorem Sound.hasAttempt_le (hsound : link.Sound) (h : link.HasAttempt generation) :
    generation ≤ link.generation := by
  obtain ⟨a, ha, rfl⟩ := h
  exact hsound.reached a ha

/-- What was received of an attempt comes first in what it has posted. -/
theorem reportsOf_received_prefix (generation : Nat) (link : SocketLink) :
    (reportsOf generation link.signals.received).reverse <+: link.posted generation := by
  have hreverse : (reportsOf generation link.signals.received).reverse
      = reportsOf generation link.signals.received.reverse := by
    simp [reportsOf, List.filter_reverse, List.map_reverse]
  rw [hreverse, posted, Channel.sent, reportsOf_append]
  exact List.prefix_append _ _

/-- Nothing was received under a number that the link has not reached. -/
theorem Sound.received_eq_nil (hsound : link.Sound) (hlt : link.generation < generation) :
    reportsOf generation link.signals.received = [] := by
  have hnone : ¬ link.HasAttempt generation := fun h =>
    Nat.not_lt.2 (hsound.hasAttempt_le h) hlt
  have hposted := reportsOf_received_prefix generation link
  rwa [hsound.posted_eq_nil hnone, List.prefix_nil, List.reverse_eq_nil_iff] at hposted

/-- An open connection was reported. -/
theorem Sound.connected_mem_posted (hsound : link.Sound) (hopen : link.isOpen) :
    .connected ∈ link.posted link.generation := by
  refine List.mem_map.2 ⟨⟨link.generation, .connected⟩, List.mem_filter.2 ⟨?_, ?_⟩, rfl⟩
  · exact List.mem_append_left _ (List.mem_reverse.2 (hsound.opened hopen))
  · simp

/-! ## Changes -/

/-- One attempt changes, and may report something. -/
theorem next_change {f : Attempt → Attempt} {reports : List Report}
    (hsame : ∀ a ∈ link.attempts, a.generation = generation →
      (f a).generation = a.generation ∧ (f a).endpoint = a.endpoint)
    (hposted : link.Sound → ∀ a ∈ link.attempts, a.generation = generation →
      HasPosted (link.posted generation ++ reports) (f a))
    (hreports : reports ≠ [] → link.HasAttempt generation) :
    Next link { link.modify generation f with
      signals := link.signals.sendAll (reports.map (Signal.mk generation)) } := by
  intro hsound
  -- the change is made to each attempt by its number, and the reports are posted under that number
  let change (a : Attempt) : Attempt := if a.generation = generation then f a else a
  have hchange (a : Attempt) (ha : a ∈ link.attempts) :
      (change a).generation = a.generation ∧ (change a).endpoint = a.endpoint := by
    by_cases h : a.generation = generation
    · simpa [change, h] using hsame a ha h
    · simp [change, h]
  have hsent (number : Nat) : reportsOf number
      (link.signals.sendAll (reports.map (Signal.mk generation))).sent
      = link.posted number ++ if generation = number then reports else [] := by
    rw [Channel.sent_sendAll, reportsOf_append, reportsOf_tagged]
    rfl
  have hnumbers : (link.attempts.map change).map Attempt.generation
      = link.attempts.map Attempt.generation := by
    rw [List.map_map]
    exact List.map_congr_left fun a ha => (hchange a ha).1
  have hkept (number : Nat) (h : link.HasAttempt number) :
      ∃ a ∈ link.attempts.map change, a.generation = number := by
    obtain ⟨a, ha, rfl⟩ := h
    exact ⟨_, List.mem_map_of_mem ha, (hchange a ha).1⟩
  refine ⟨⟨?_, ?_, ?_, ?_, hsound.opened⟩, ⟨Nat.le_refl _, ?_, ?_, ?_⟩⟩
  · show ((link.attempts.map change).map Attempt.generation).Nodup
    rw [hnumbers]
    exact hsound.distinct
  · intro a' ha'
    obtain ⟨a, ha, rfl⟩ := List.mem_map.1 ha'
    show (change a).generation ≤ link.generation
    rw [(hchange a ha).1]
    exact hsound.reached a ha
  · intro a' ha'
    obtain ⟨a, ha, rfl⟩ := List.mem_map.1 ha'
    show HasPosted (reportsOf (change a).generation _) (change a)
    rw [hsent, (hchange a ha).1]
    by_cases h : a.generation = generation
    · have hf : change a = f a := if_pos h
      rw [hf, if_pos h.symm, h]
      exact hposted hsound a ha h
    · have hf : change a = a := if_neg h
      rw [hf, if_neg (Ne.symm h), List.append_nil]
      exact hsound.hasPosted a ha
  · intro signal hsignal
    rw [Channel.sent_sendAll] at hsignal
    rcases List.mem_append.1 hsignal with hold | hnew
    · exact hkept _ (hsound.tagged signal hold)
    · obtain ⟨report, hreport, rfl⟩ := List.mem_map.1 hnew
      exact hkept _ (hreports (List.ne_nil_of_mem hreport))
  · intro number
    show link.posted number <+: reportsOf number _
    rw [hsent]
    exact List.prefix_append _ _
  · intro a ha
    exact ⟨_, List.mem_map_of_mem ha, hchange a ha⟩
  · intro a' ha' _
    obtain ⟨a, ha, rfl⟩ := List.mem_map.1 ha'
    exact ⟨a, ha, (hchange a ha).1.symm⟩

/-- An attempt changes and reports nothing. -/
theorem next_modify {f : Attempt → Attempt}
    (hsame : ∀ a, (f a).generation = a.generation ∧ (f a).endpoint = a.endpoint)
    (hposted : link.Sound → ∀ a, HasPosted (link.posted generation) a →
      HasPosted (link.posted generation) (f a)) :
    Next link (link.modify generation f) := by
  have hsignals : link.modify generation f = { link.modify generation f with
      signals := link.signals.sendAll (([] : List Report).map (Signal.mk generation)) } := by
    simp [modify]
  rw [hsignals]
  refine next_change (fun a _ _ => hsame a) ?_ (fun h => absurd rfl h)
  rintro hsound a ha rfl
  rw [List.append_nil]
  exact hposted hsound a (hsound.hasPosted a ha)

/-- The link lets go of the open connection, and may move on to a later number. -/
theorem next_closed (hle : link.generation ≤ generation) :
    Next link { link with generation, isOpen := false } := by
  intro hsound
  refine ⟨⟨hsound.distinct, ?_, hsound.hasPosted, hsound.tagged, fun h => by contradiction⟩, hle,
    fun _ => List.prefix_rfl, fun a ha => ⟨a, ha, rfl, rfl⟩, fun a ha _ => ⟨a, ha, rfl⟩⟩
  exact fun a ha => Nat.le_trans (hsound.reached a ha) hle

/-- A signal is taken from the channel; the connection may be open afterwards if the signal says
so. -/
theorem next_received {signal : Signal} {signals : Channel Signal} {isOpen : Bool}
    (hreceive : link.signals.receive? = some (signal, signals))
    (hopen : isOpen → link.isOpen ∨ signal = ⟨link.generation, .connected⟩) :
    Next link { link with signals, isOpen } := by
  intro hsound
  have hsent := Channel.sent_of_receive? hreceive
  have hreceived := Channel.received_of_receive? hreceive
  -- to take a signal out of the channel posts nothing
  have hposted (number : Nat) : reportsOf number signals.sent = link.posted number := by
    rw [hsent]
    rfl
  refine ⟨⟨hsound.distinct, hsound.reached, ?_, ?_, ?_⟩, ⟨Nat.le_refl _, ?_, ?_, ?_⟩⟩
  · intro a ha
    show HasPosted (reportsOf a.generation signals.sent) a
    rw [hposted]
    exact hsound.hasPosted a ha
  · intro sent hmem
    exact hsound.tagged sent (hsent ▸ hmem)
  · intro h
    show _ ∈ signals.received
    rw [hreceived]
    rcases hopen h with hold | rfl
    · exact List.mem_cons_of_mem _ (hsound.opened hold)
    · exact List.mem_cons_self
  · intro number
    exact (hposted number).symm ▸ List.prefix_rfl
  · exact fun a ha => ⟨a, ha, rfl, rfl⟩
  · exact fun a ha _ => ⟨a, ha, rfl⟩

/-- A new attempt begins under a new number. -/
theorem next_begun (endpoint : Endpoint) :
    Next link { link with
      generation := link.generation + 1, isOpen := false
      attempts := link.attempts ++ [.new (link.generation + 1) endpoint] } := by
  intro hsound
  -- the new attempt has a number of its own, above all others, and has posted nothing
  have hnew : ¬ link.HasAttempt (link.generation + 1) := fun h =>
    Nat.not_succ_le_self _ (hsound.hasAttempt_le h)
  refine ⟨⟨?_, ?_, ?_, ?_, fun h => by contradiction⟩, ⟨Nat.le_succ _, ?_, ?_, ?_⟩⟩
  · rw [List.map_append]
    refine List.Nodup.append hsound.distinct (List.nodup_singleton _) ?_
    rw [List.map_singleton, List.disjoint_singleton]
    intro hmem
    obtain ⟨a, ha, hgeneration⟩ := List.mem_map.1 hmem
    exact hnew ⟨a, ha, hgeneration⟩
  · intro a ha
    rcases List.mem_append.1 ha with hold | hbegun
    · exact Nat.le_succ_of_le (hsound.reached a hold)
    · rw [List.mem_singleton.1 hbegun]
      exact Nat.le_refl _
  · intro a ha
    rcases List.mem_append.1 ha with hold | hbegun
    · exact hsound.hasPosted a hold
    · rw [List.mem_singleton.1 hbegun]
      show HasPosted (link.posted (link.generation + 1)) _
      rw [hsound.posted_eq_nil hnew]
      exact Attempt.hasPosted_new _ _
  · intro signal hsignal
    obtain ⟨a, ha, hgeneration⟩ := hsound.tagged signal hsignal
    exact ⟨a, List.mem_append_left _ ha, hgeneration⟩
  · exact fun _ => List.prefix_rfl
  · exact fun a ha => ⟨a, List.mem_append_left _ ha, rfl, rfl⟩
  · intro a ha hle
    rcases List.mem_append.1 ha with hold | hbegun
    · exact ⟨a, hold, rfl⟩
    · rw [List.mem_singleton.1 hbegun] at hle
      exact absurd hle (Nat.not_succ_le_self _)

end

/-! ## What happens to a link -/

variable (link : SocketLink)

/-! ### Calls of the session -/

theorem next_shutdown (generation : Nat) :
    Next link (link.modify generation Attempt.shutdown) :=
  next_modify (fun _ => ⟨rfl, rfl⟩) fun _ _ h => h.congr rfl rfl rfl

theorem next_close : Next link link.close := by
  have hclosed : Next link { link with generation := link.generation + 1, isOpen := false } :=
    next_closed (Nat.le_succ _)
  unfold close
  simp only
  split
  · exact hclosed.trans (next_shutdown _ _)
  · exact hclosed

/-- What a link looks like that has let go of what it had. -/
theorem close_spec :
    link.close.generation = link.generation + 1 ∧ link.close.isOpen = false
      ∧ link.close.signals = link.signals := by
  unfold close
  simp only
  split <;> exact ⟨rfl, rfl, rfl⟩

/-- Letting go begins no attempt. -/
theorem hasAttempt_close {generation : Nat} (h : link.close.HasAttempt generation) :
    link.HasAttempt generation := by
  unfold close HasAttempt at h
  simp only at h
  split at h
  · obtain ⟨a', ha', rfl⟩ := h
    obtain ⟨a, ha, rfl⟩ := List.mem_map.1 ha'
    refine ⟨a, ha, ?_⟩
    split <;> rfl
  · exact h

theorem next_startConnect (endpoint : Endpoint) : Next link (link.startConnect endpoint) := by
  unfold startConnect close
  simp only
  split
  · exact (next_shutdown link link.generation).trans (next_begun endpoint)
  · exact next_begun endpoint

/-- What a link looks like that has begun an attempt. -/
theorem startConnect_spec (endpoint : Endpoint) :
    (link.startConnect endpoint).generation = link.generation + 1
      ∧ (link.startConnect endpoint).isOpen = false
      ∧ (link.startConnect endpoint).signals = link.signals
      ∧ .new (link.generation + 1) endpoint ∈ (link.startConnect endpoint).attempts := by
  obtain ⟨hgeneration, hopen, hsignals⟩ := close_spec link
  refine ⟨hgeneration, hopen, hsignals, List.mem_append_right _ ?_⟩
  rw [hgeneration]
  exact List.mem_singleton_self _

theorem next_send (frame : Bytes) : Next link (link.send frame).2 := by
  unfold send
  split
  · rename_i htakes
    have hopen : link.isOpen := (Bool.and_eq_true _ _ ▸ htakes).1
    -- frames are taken only after the connection was reported, so they may wait in the outbox
    refine next_modify (fun _ => ⟨rfl, rfl⟩) fun hsound a h => ?_
    exact h.congr_of_connected (hsound.connected_mem_posted hopen) rfl
  · exact .refl link

/-- What a link looks like that was handed a frame. -/
theorem send_spec (frame : Bytes) :
    (link.send frame).2.generation = link.generation ∧ (link.send frame).2.isOpen = link.isOpen
      ∧ (link.send frame).2.signals = link.signals := by
  unfold send
  split <;> exact ⟨rfl, rfl, rfl⟩

/-! ### Looks -/

/-- Whether the connection of the current attempt is open after a report of it. -/
def opens (isOpen : Bool) : Report → Bool
  | .connected => true
  | .closed _ => false
  | .received _ | .connectFailed _ => isOpen

/-- What a look at a link can bring, with the link after it. -/
inductive Looked (link : SocketLink) : Arrival → SocketLink → Prop where
  | quiet : Looked link .quiet link
  | event {event : Event} {report : Report} {link' : SocketLink}
      (hgeneration : link'.generation = link.generation)
      (hreceived : link'.signals.received = ⟨link.generation, report⟩ :: link.signals.received)
      (hopen : link'.isOpen = opens link.isOpen report) (hevent : event = report.event) :
      Looked link (.event event) link'
  | stale {generation : Nat} {report : Report} {link' : SocketLink}
      (hstale : generation ≠ link.generation) (hgeneration : link'.generation = link.generation)
      (hreceived : link'.signals.received = ⟨generation, report⟩ :: link.signals.received)
      (hopen : link'.isOpen = link.isOpen) :
      Looked link (.stale generation link.generation) link'

/-- A signal that is accepted brings its event, if its number is the current one, and is stale
otherwise. -/
theorem accept_spec {signal : Signal} {signals : Channel Signal}
    (hreceive : link.signals.receive? = some (signal, signals)) :
    let after := { link with signals }.accept signal
    Looked link after.1 after.2 ∧ Next link after.2 := by
  have hreceived := Channel.received_of_receive? hreceive
  have hnext : Next link { link with signals } := next_received hreceive .inl
  obtain ⟨generation, report⟩ := signal
  unfold accept
  simp only
  by_cases hcurrent : generation = link.generation
  · subst hcurrent
    rw [if_pos rfl]
    -- an end of the connection lets go of the outbox as well
    have hdropped : Next link ({ link with signals, isOpen := false }.modify link.generation
        fun a => { a with outboxOpen := false }) :=
      (next_received hreceive fun h => by contradiction).trans
        (next_modify (fun _ => ⟨rfl, rfl⟩) fun _ _ h => h.congr rfl rfl rfl)
    cases report with
    | connected =>
      exact ⟨.event rfl hreceived rfl rfl, next_received hreceive fun _ => .inr rfl⟩
    | received payload => exact ⟨.event rfl hreceived rfl rfl, hnext⟩
    | closed detail =>
      cases detail with
      | none => exact ⟨.event rfl hreceived rfl rfl, hdropped⟩
      | some detail => exact ⟨.event rfl hreceived rfl rfl, hdropped⟩
    | connectFailed detail => exact ⟨.event rfl hreceived rfl rfl, hnext⟩
  · rw [if_neg hcurrent]
    simp only
    split
    · exact ⟨.stale hcurrent rfl hreceived rfl, hnext.trans (next_shutdown _ _)⟩
    · exact ⟨.stale hcurrent rfl hreceived rfl, hnext⟩

/-- A look brings what it may bring, and moves the link on. -/
theorem poll_spec : Looked link link.poll.1 link.poll.2 ∧ Next link link.poll.2 := by
  unfold poll receive?
  cases hreceive : link.signals.receive? with
  | none => exact ⟨.quiet, .refl link⟩
  | some taken => exact accept_spec link hreceive

/-! ### Steps of the helpers -/

/-- What a step of a helper of the attempt of a number makes of a link. -/
inductive Stepped (link : SocketLink) (generation : Nat) : SocketLink → Prop where
  | idle : Stepped link generation link
  | advanced {a : Attempt} {f : Attempt → Attempt} {reports : List Report}
      (hfound : link.attempt? generation = some a) (hadvances : Advances a reports (f a)) :
      Stepped link generation { link.modify generation f with
        signals := link.signals.sendAll (reports.map (Signal.mk generation)) }

/-- A step of a helper is one that its attempt is at, or nothing happens. -/
theorem step_stepped (generation : Nat) (step : Step) :
    Stepped link generation (link.step generation step) := by
  unfold SocketLink.step
  split
  · exact .idle
  · rename_i a hfound
    -- most steps report nothing; a report needs room in the channel, or the helper waits
    have silent {f : Attempt → Attempt} (hadvances : Advances a [] (f a)) :
        Stepped link generation (link.modify generation f) := by
      simpa [modify] using Stepped.advanced hfound hadvances
    have posts {f : Attempt → Attempt} {report : Report} (hadvances : Advances a [report] (f a)) :
        Stepped link generation
          (if link.hasRoom then (link.modify generation f).report generation report else link) := by
      split
      · exact .advanced hfound hadvances
      · exact .idle
    simp only
    split
    · exact silent (.dial ‹_› _ _)
    · exact silent (.split ‹_› _)
    · exact silent (.read ‹_› _ _)
    · exact silent (.readFails ‹_› _ _)
    · exact posts (.reportRead ‹_›)
    · exact silent (.takeFrame ‹_› _)
    · exact silent (.write ‹_› _)
    · exact silent (.flush ‹_› _)
    · exact posts (.reportWrite ‹_›)
    · exact silent (.hangUp ‹_›)
    · exact .idle

/-- A step of a helper moves the link on. -/
theorem next_step (generation : Nat) (step : Step) : Next link (link.step generation step) := by
  intro hsound
  have hstepped := step_stepped link generation step
  generalize link.step generation step = link' at hstepped ⊢
  cases hstepped with
  | idle => exact Next.refl link hsound
  | @advanced a f reports hfound hadvances =>
    obtain ⟨ha, hgeneration⟩ := attempt?_eq_some hfound
    -- the step is made by the one attempt that has the number
    have honly (b : Attempt) (hb : b ∈ link.attempts) (h : b.generation = generation) : b = a :=
      hsound.eq_of_generation_eq hb ha (h.trans hgeneration.symm)
    refine next_change ?_ ?_ (fun _ => ⟨a, ha, hgeneration⟩) hsound
    · intro b hb h
      rw [honly b hb h]
      exact hadvances.same
    · intro _ b hb h
      rw [honly b hb h, ← hgeneration]
      exact (hsound.hasPosted a ha).advance hadvances

/-- What a link looks like after a step of a helper. -/
theorem step_spec (generation : Nat) (step : Step) :
    (link.step generation step).generation = link.generation
      ∧ (link.step generation step).isOpen = link.isOpen
      ∧ (link.step generation step).signals.received = link.signals.received := by
  have hstepped := step_stepped link generation step
  generalize link.step generation step = link' at hstepped ⊢
  cases hstepped <;> exact ⟨rfl, rfl, rfl⟩

/-- What happens on the stream of an attempt is no report. -/
theorem next_stream (generation : Nat) (stream : Stream) :
    Next link (link.modify generation ({ · with stream })) :=
  next_modify (fun _ => ⟨rfl, rfl⟩) fun _ _ h => h.congr rfl rfl rfl

end SocketLink

/-! ## Steps beside the session -/

/-- A step beside a session. -/
inductive Beside where
  /-- A helper of the attempt of a number makes a step. -/
  | helper (generation : Nat) (step : SocketLink.Step)
  /-- The stream of an attempt is found in another state: the peer has written, read or ended. -/
  | network (generation : Nat) (stream : Stream)

/-- What a step makes of the link. -/
def Beside.apply : Beside → SocketLink → SocketLink
  | helper generation step, link => link.step generation step
  | network generation stream, link => link.modify generation ({ · with stream })

namespace Beside

/-- A step beside the session moves the link on. -/
theorem next_apply (step : Beside) (link : SocketLink) :
    SocketLink.Next link (step.apply link) := by
  cases step with
  | helper generation step => exact SocketLink.next_step link generation step
  | network generation stream => exact SocketLink.next_stream link generation stream

/-- A step is no call and no look: the link keeps its number, is as open as it was, and nothing is
taken from the channel. -/
theorem apply_spec (step : Beside) (link : SocketLink) :
    (step.apply link).generation = link.generation ∧ (step.apply link).isOpen = link.isOpen
      ∧ (step.apply link).signals.received = link.signals.received := by
  cases step with
  | helper generation step => exact SocketLink.step_spec link generation step
  | network => exact ⟨rfl, rfl, rfl⟩

end Beside

end CidrLookup
