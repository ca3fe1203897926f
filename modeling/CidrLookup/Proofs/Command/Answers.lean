import CidrLookup.Command.Lookup
import CidrLookup.Proofs.Address
import CidrLookup.Proofs.Session.Moves
import CidrLookup.Proofs.Session.Reason
import Mathlib.Data.List.Nodup

/-!
# The answers of a command

A lookup command submits its addresses under their places on the command line and reads the answers
off the history, by place. `Ledger` says what that comes to at each moment: a place has an answer if
it was submitted and its lookup waits for nothing, each answer was brought by a record for the
address at the place, and a session that lost its connection with lookups waiting knows why. Every
turn of a command keeps the ledger, as does every line for the log.
-/

namespace CidrLookup

/-! ## Why a connection ended -/

namespace Session

variable {ρ σ : Type}

/-- A session that has not given up, and that is disconnected with lookups waiting, knows why. -/
def Explains (s : Session ρ σ) : Prop :=
  s.halted = none → s.connection.state = .disconnected → 0 < s.queue.outstanding →
    s.lastError.isSome

/-- A session goes on having an explanation, whatever a turn comes to, unless it was asked to
disconnect. -/
theorem Outcome.explains [Link σ] {turn : Turn ρ σ} {s s' : Session ρ σ} {reply : Reply}
    (h : Outcome turn s reply s') (hs : s.Explains) (hphase : s.InPhase)
    (hasked : turn.call ≠ .disconnect) : s'.Explains := by
  intro hhalted hstate hout
  rcases h.explained hphase hasked hstate hout with hsome | ⟨hbefore, hout', hsame, heq⟩
  · exact hsome
  · rw [heq]
    exact hs (hsame ▸ hhalted) hbefore hout'

/-- A lookup of the requester waits for something. -/
def Awaits (requester : ρ) (s : Session ρ σ) : Prop :=
  ∃ e ∈ s.queue.entries, e.requester = requester ∧ e.isOutstanding

end Session

namespace Command

open Session (Moves perform_moves perform_outcome)

/-! ## Reading answers off the history -/

/-- The answer of a requester is its latest one. -/
theorem answerOf_eq (effects : List (Effect Nat)) (i : Nat) :
    answerOf effects i = ((answers effects).find? fun answer => answer.1 = i).map Prod.snd := by
  induction effects with
  | nil => rfl
  | cons effect more ih =>
    rw [answerOf] at ih ⊢
    cases effect with
    | resolved r resolution =>
      by_cases hr : r = i <;> simp [hr, ih]
    | _ => simpa using ih

theorem answerOf_append (front back : List (Effect Nat)) (i : Nat) :
    answerOf (front ++ back) i = (answerOf front i).or (answerOf back i) :=
  List.findSome?_append

/-- The answer of a requester was given. -/
theorem mem_answers_of_answerOf {effects : List (Effect Nat)} {i : Nat} {resolution : Resolution}
    (h : answerOf effects i = some resolution) : (i, resolution) ∈ answers effects := by
  rw [answerOf_eq] at h
  obtain ⟨answer, hfind, rfl⟩ := Option.map_eq_some_iff.1 h
  have hrequester := List.find?_some hfind
  obtain rfl : answer.1 = i := of_decide_eq_true hrequester
  exact List.mem_of_find?_eq_some hfind

/-- A requester has an answer if it was given one. -/
theorem isSome_answerOf_iff (effects : List (Effect Nat)) (i : Nat) :
    (answerOf effects i).isSome ↔ ∃ resolution, (i, resolution) ∈ answers effects := by
  constructor
  · intro h
    obtain ⟨resolution, hanswer⟩ := Option.isSome_iff_exists.1 h
    exact ⟨resolution, mem_answers_of_answerOf hanswer⟩
  · rintro ⟨resolution, hmem⟩
    rw [answerOf_eq, Option.isSome_map, List.find?_isSome]
    exact ⟨_, hmem, by simp⟩

/-! ## The ledger -/

/-- A record that was brought tells the resolution, and it is for the address that the text
spells. -/
structure Reported (brought : List Arrival) (text : String) (resolution : Resolution) : Prop where
  address : Address.parse text = .ok resolution.address
  record : ∃ frame, .event (.received frame) ∈ brought
    ∧ Message.decode Record.defaultMaxPayload frame = .ok resolution.message

/-- What holds of a session of a command that has submitted the first `count` of its addresses and
was brought what is listed. -/
structure Ledger {σ : Type} (addresses : List String) (brought : List Arrival) (count : Nat)
    (s : Session Nat σ) : Prop where
  max_frame : s.config.maxFrame = Record.defaultMaxPayload
  in_phase : s.InPhase
  explained : s.Explains
  well_formed : ∀ e ∈ s.queue.entries, e.WellFormed
  ordered : (s.queue.entries.map Entry.requester).Pairwise (· < ·)
  submitted : ∀ e ∈ s.queue.entries, e.requester < count
    ∧ ∃ text, addresses[e.requester]? = some text ∧ Address.parse text = .ok e.address
  settled : ∀ i, (answerOf s.history i).isSome ↔ i < count ∧ ¬ s.Awaits i
  reported : ∀ i resolution, answerOf s.history i = some resolution →
    ∃ text, addresses[i]? = some text ∧ Reported brought text resolution

/-- A turn that a command makes: everyone waits for the answer, it submits its addresses in their
order, and what it passes on was brought. -/
structure Plays {σ : Type} (addresses : List String) (brought : List Arrival) (count : Nat)
    (turn : Turn Nat σ) : Prop where
  reachable : ∀ i, turn.around.reachable i
  not_asked : turn.call ≠ .disconnect
  submits : ∀ i text metadata, turn.call = .submit i text metadata →
    i = count ∧ addresses[i]? = some text
  brings : ∀ frame, turn.call = .event (.received frame) → .event (.received frame) ∈ brought

section Ledger

variable {σ : Type} {addresses : List String} {brought : List Arrival} {count : Nat}
  {s : Session Nat σ}

theorem Reported.mono {brought' : List Arrival} {text : String} {resolution : Resolution}
    (h : Reported brought text resolution) (hsub : brought ⊆ brought') :
    Reported brought' text resolution := by
  obtain ⟨frame, hmem, hdecode⟩ := h.record
  exact ⟨h.address, frame, hsub hmem, hdecode⟩

theorem Ledger.mono {brought' : List Arrival} (h : Ledger addresses brought count s)
    (hsub : brought ⊆ brought') : Ledger addresses brought' count s := by
  refine { h with reported := fun i resolution hanswer => ?_ }
  obtain ⟨text, htext, hreported⟩ := h.reported i resolution hanswer
  exact ⟨text, htext, hreported.mono hsub⟩

/-- A line in the log changes no ledger. -/
theorem Ledger.note (h : Ledger addresses brought count s) (notice : Notice) :
    Ledger addresses brought count (s.note notice) :=
  ⟨h.max_frame, ⟨h.in_phase.none_pending, h.in_phase.none_sent, h.in_phase.disconnected_of_halted⟩,
    h.explained, h.well_formed, h.ordered, h.submitted, h.settled, h.reported⟩

/-- In a queue in the order of the requesters, each has one lookup. -/
theorem eq_of_requester_eq {entries : List (Entry Nat)}
    (hordered : (entries.map Entry.requester).Pairwise (· < ·)) {e e' : Entry Nat}
    (he : e ∈ entries) (he' : e' ∈ entries) (h : e.requester = e'.requester) : e = e' :=
  List.inj_on_of_nodup_map (hordered.imp Nat.ne_of_lt) he he' h

/-! ### What a turn changes -/

section Moves

variable {turn : Turn Nat σ} {s' : Session Nat σ} {reply : Reply} {given : List (Nat × Resolution)}

/-- A turn takes no lookup back. -/
theorem le_count_next (reply : Reply) (count : Nat) :
    count ≤ if reply.accepted then count + 1 else count := by
  split <;> omega

/-- After a turn, a place waits if it waited before and is not answered now, or if it has just been
submitted. -/
theorem awaits_next (hplays : Plays addresses brought count turn)
    (hmoves : Moves turn s reply s'.queue.entries given)
    (hordered : (s'.queue.entries.map Entry.requester).Pairwise (· < ·)) (i : Nat) :
    s'.Awaits i ↔ (s.Awaits i ∧ ∀ resolution, (i, resolution) ∉ given)
      ∨ reply.accepted ∧ i = count := by
  -- who waits afterwards waited before and was not answered, or has just been taken
  constructor
  · rintro ⟨e', he', rfl, hout⟩
    obtain ⟨e, he, hlater⟩ | ⟨haccepted, _, _, entry, state, hadmits, rfl⟩ := hmoves.origin he'
    · refine .inl ⟨?_, fun resolution hgiven => ?_⟩
      · obtain ⟨state, rfl, hbefore⟩ := hlater
        exact ⟨e, he, rfl, hbefore hout⟩
      · -- whoever is given an answer has a complete lookup, and no other
        obtain ⟨_, answered, -, -, hrequester, -, hcomplete⟩ := hmoves.mem_given hgiven
        have heq := eq_of_requester_eq hordered he' hcomplete hrequester.symm
        rw [heq] at hout
        contradiction
    · exact .inr ⟨haccepted, (hplays.submits _ _ _ hadmits.hcall).1⟩
  · rintro (⟨⟨e, he, rfl, hout⟩, hnone⟩ | ⟨haccepted, rfl⟩)
    · obtain ⟨state, hmem, hstill⟩ | ⟨resolution, hgiven, -⟩ | ⟨-, -, hgone, -⟩ :=
        hmoves.outstanding_cases he hout
      · exact ⟨_, hmem, rfl, hstill⟩
      · exact absurd (hgiven ▸ List.mem_singleton_self _) (hnone resolution)
      · rw [hplays.reachable] at hgone
        contradiction
    · obtain ⟨-, _, _, entry, state, hadmits, hmem, hout⟩ := hmoves.joins haccepted
      exact ⟨_, hmem, (hplays.submits _ _ _ hadmits.hcall).1, hout⟩

variable (h : Ledger addresses brought count s) (hplays : Plays addresses brought count turn)
  (hmoves : Moves turn s reply s'.queue.entries given)
include h hmoves

/-- A place that is answered in a turn was waiting before. -/
theorem Ledger.awaited_of_given {i : Nat} {resolution : Resolution}
    (hanswer : (i, resolution) ∈ given) : i < count ∧ s.Awaits i := by
  obtain ⟨_, e, -, he, hrequester, hsent, -⟩ := hmoves.mem_given hanswer
  obtain rfl : e.requester = i := hrequester
  exact ⟨(h.submitted e he).1, e, he, rfl, by simp [Entry.isOutstanding, hsent]⟩

include hplays

/-- The requesters stay in order, since a new one has the next number. -/
theorem Ledger.ordered_next : (s'.queue.entries.map Entry.requester).Pairwise (· < ·) := by
  obtain hsub | ⟨_, _, entry, hadmits, heq⟩ := hmoves.requesters
  · exact h.ordered.sublist hsub
  · rw [heq, (hplays.submits _ _ _ hadmits.hcall).1]
    refine pairwise_snoc h.ordered fun n hn => ?_
    obtain ⟨e, he, rfl⟩ := List.mem_map.1 hn
    exact (h.submitted e he).1

/-- Every lookup of the queue was submitted, with the address of its text. -/
theorem Ledger.submitted_next {e' : Entry Nat} (he' : e' ∈ s'.queue.entries) :
    e'.requester < (if reply.accepted then count + 1 else count)
      ∧ ∃ text, addresses[e'.requester]? = some text ∧ Address.parse text = .ok e'.address := by
  obtain ⟨e, he, hlater⟩ | ⟨haccepted, text, _, entry, state, hadmits, rfl⟩ := hmoves.origin he'
  · obtain ⟨state, rfl, -⟩ := hlater
    obtain ⟨hlt, hknown⟩ := h.submitted e he
    exact ⟨Nat.lt_of_lt_of_le hlt (le_count_next reply count), hknown⟩
  · obtain ⟨hi, htext⟩ := hplays.submits _ _ _ hadmits.hcall
    rw [if_pos haccepted]
    exact ⟨hi ▸ Nat.lt_succ_self _, text, htext, hadmits.hparse⟩

/-- A place has an answer, from this turn or from before, if its lookup waits for nothing. -/
theorem Ledger.settled_next (i : Nat) :
    (∃ resolution, (i, resolution) ∈ given) ∨ (answerOf s.history i).isSome
      ↔ i < (if reply.accepted then count + 1 else count) ∧ ¬ s'.Awaits i := by
  rw [awaits_next hplays hmoves (h.ordered_next hplays hmoves), h.settled]
  by_cases haccepted : reply.accepted
  · -- the turn submits, and then it gives no answer
    rw [(hmoves.joins haccepted).1, if_pos haccepted]
    by_cases hwaits : s.Awaits i <;> simp [hwaits, haccepted]
    omega
  · rw [if_neg haccepted]
    -- who is answered now was waiting, and so was submitted and had no answer
    by_cases hnow : ∃ resolution, (i, resolution) ∈ given
    · obtain ⟨resolution, hanswer⟩ := hnow
      have hbefore := (h.awaited_of_given hmoves hanswer).1
      grind
    · grind

/-- What a turn answers was reported by the service, for the address of the text. -/
theorem Ledger.reported_given {i : Nat} {resolution : Resolution}
    (hanswer : (i, resolution) ∈ given) :
    ∃ text, addresses[i]? = some text ∧ Reported brought text resolution := by
  obtain ⟨record, e, hcall, hdecode, he, hrequester, htext⟩ := hmoves.brings hanswer
  obtain rfl : e.requester = i := hrequester
  obtain ⟨-, text, hget, hparse⟩ := h.submitted e he
  have haddress : e.address = resolution.address :=
    Address.format_injective ((h.well_formed e he).htext.symm.trans htext)
  rw [haddress] at hparse
  rw [h.max_frame] at hdecode
  exact ⟨text, hget, hparse, record, hplays.brings record hcall, hdecode⟩

end Moves

/-! ### Turns -/

variable [Link σ]

/-- **The step.** A turn of the command keeps the ledger, and a submission that is taken adds a
place. -/
theorem Ledger.next (h : Ledger addresses brought count s) {turn : Turn Nat σ}
    (hplays : Plays addresses brought count turn) :
    Ledger addresses brought (if (s.perform turn).1.accepted then count + 1 else count)
      (s.next turn) := by
  have houtcome := perform_outcome turn s
  obtain ⟨added, hhistory, hmoves⟩ := perform_moves turn h.well_formed
  -- each part of the ledger by the lemma that says how lookups move
  refine ⟨?_, h.in_phase.outcome houtcome,
    houtcome.explains h.explained h.in_phase hplays.not_asked,
    hmoves.wellFormed h.well_formed, h.ordered_next hplays hmoves,
    fun _ he => h.submitted_next hplays hmoves he, ?_, ?_⟩
  · rw [show (s.next turn).config = s.config from houtcome.config_eq]
    exact h.max_frame
  · intro i
    rw [hhistory, answerOf_append, Option.isSome_or, Bool.or_eq_true, isSome_answerOf_iff]
    exact h.settled_next hplays hmoves i
  · intro i resolution hanswer
    rw [hhistory, answerOf_append] at hanswer
    -- the answer is one of this turn, or the one of before
    cases hnow : answerOf added i with
    | none =>
      rw [hnow, Option.none_or] at hanswer
      exact h.reported i resolution hanswer
    | some now =>
      rw [hnow, Option.some_or] at hanswer
      obtain rfl : now = resolution := Option.some.inj hanswer
      exact h.reported_given hplays hmoves (mem_answers_of_answerOf hnow)

/-- A turn that takes no lookup leaves the count as it is. -/
theorem Ledger.next_of_refused (h : Ledger addresses brought count s) (turn : Turn Nat σ)
    (hplays : Plays addresses brought count turn) (hreply : (s.perform turn).1.accepted = false) :
    Ledger addresses brought count (s.next turn) := by
  have hnext := h.next hplays
  rwa [hreply] at hnext

/-- A look at the link keeps the ledger, whatever it brings. -/
theorem Ledger.arrive (h : Ledger addresses brought count s) (link : σ) (now : Instant)
    (arrival : Arrival) :
    Ledger addresses (arrival :: brought) count
      ((s.withLink link).arrive ⟨now, fun _ => true⟩ arrival).2 := by
  let around : Surroundings Nat := ⟨now, fun _ => true⟩
  have hrelinked : Ledger addresses (arrival :: brought) count (s.withLink link) :=
    (h.mono (List.subset_cons_self ..)).next_of_refused ⟨around, .relink link⟩
      ⟨fun _ => rfl, by simp, by simp, by simp⟩ rfl
  -- the sweep comes after whatever was brought has been passed on
  have hsweep {s : Session Nat σ} (h : Ledger addresses (arrival :: brought) count s) :
      Ledger addresses (arrival :: brought) count (s.sweepIdle now).2 :=
    h.next_of_refused ⟨around, .sweepIdle⟩
      ⟨fun _ => rfl, by simp, by simp, by simp⟩ rfl
  cases arrival with
  | quiet => exact hsweep hrelinked
  | stale generation current => exact hsweep (hrelinked.note _)
  | event event =>
    refine hsweep ((hrelinked.note (.linkEvent event)).next_of_refused
      ⟨around, .event event⟩ ⟨fun _ => rfl, by simp, by simp, ?_⟩ rfl)
    intro frame hcall
    rw [Call.event.inj hcall]
    exact List.mem_cons_self

omit [Link σ] in
/-- A new session has the empty ledger. -/
theorem Ledger.start {config : Config} {link : σ} {s : Session Nat σ}
    (hnew : Session.new config link = .ok s)
    (hframe : config.maxFrame = Record.defaultMaxPayload) : Ledger addresses [] 0 s := by
  obtain ⟨-, hqueue, -, hhistory⟩ := Session.new_spec hnew
  refine ⟨by rw [Session.config_of_new hnew, hframe], Session.inPhase_new hnew, ?_, ?_, ?_, ?_, ?_,
    ?_⟩
  · intro _ _ hout
    simp [Queue.outstanding, hqueue] at hout
  · simp [hqueue]
  · simp [hqueue]
  · simp [hqueue]
  · simp [hhistory, answerOf]
  · simp [hhistory, answerOf]

/-- Once every address is submitted, each place has its lookup. -/
theorem Ledger.submitAll {now : Instant} {metadata : Metadata} {front texts : List String}
    {s' : Session Nat σ} (h : Ledger (front ++ texts) brought front.length s)
    (hsubmit : Lookup.submitAll now metadata front.length texts s = (.ok (), s')) :
    Ledger (front ++ texts) brought (front ++ texts).length s' := by
  -- text by text: those in front have been taken, and their number is that of the next requester
  induction texts generalizing front s with
  | nil =>
    cases hsubmit
    simpa using h
  | cons text more ih =>
    rw [Lookup.submitAll] at hsubmit
    rcases hcase : s.submit now front.length text metadata with ⟨_ | outcome, taken⟩
    · rw [hcase] at hsubmit
      cases hsubmit
    · rw [hcase] at hsubmit
      let turn : Turn Nat σ := ⟨⟨now, fun _ => true⟩, .submit front.length text metadata⟩
      have hperform : s.perform turn = (.submitted (.ok outcome), taken) := by
        show Prod.map _ _ (s.submit now front.length text metadata) = _
        rw [hcase]
        rfl
      have hplays : Plays (front ++ text :: more) brought front.length turn := by
        refine ⟨fun _ => rfl, by simp [turn], ?_, by simp [turn]⟩
        intro i text' metadata' hcall
        obtain ⟨rfl, rfl, rfl⟩ := Call.submit.inj hcall
        simp
      have htaken := h.next hplays
      rw [Session.next, hperform] at htaken
      have hnoted := htaken.note (.submitted text outcome)
      have hlength : (front ++ [text]).length = front.length + 1 := by simp
      rw [List.append_cons] at hnoted ⊢
      refine @ih (taken.note (.submitted text outcome)) (front ++ [text]) ?_ ?_
      · rw [hlength]
        exact hnoted
      · rw [hlength]
        exact hsubmit

end Ledger

end Command

end CidrLookup
