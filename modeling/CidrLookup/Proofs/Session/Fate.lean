import CidrLookup.Proofs.Session.Moves
import CidrLookup.Proofs.Session.Relabel
import Mathlib.Data.List.Induction
import Mathlib.Data.List.Nodup

/-!
# What becomes of a lookup

Requesters are not unique, so a run is followed by numbering its turns: in `traced` every requester
carries the number of the turn that submitted its lookup, and taking the numbers away gives back
the run itself. A lookup that was taken has exactly one fate at each moment: it waits in the queue,
it was given one answer, or a flush dropped it when its requester was gone.
-/

namespace CidrLookup

variable {ρ σ : Type}

/-! ## Numbered turns -/

/-- A requester with the number of a turn. -/
structure Ticket (ρ : Type) where
  number : Nat
  requester : ρ
deriving DecidableEq, Repr

/-- The turn with its number on the requester; who is reachable does not depend on numbers. -/
def Turn.numbered (number : Nat) (turn : Turn ρ σ) : Turn (Ticket ρ) σ :=
  ⟨⟨turn.around.now, turn.around.reachable ∘ Ticket.requester⟩, turn.call.map (Ticket.mk number)⟩

namespace Session

/-- Requesters may be replaced in one step or in two. -/
theorem map_map {α β γ : Type} (f : α → β) (g : β → γ) (s : Session α σ) :
    (s.map f).map g = s.map (g ∘ f) := by
  have heffect (effect : Effect α) : (effect.map f).map g = effect.map (g ∘ f) := by
    cases effect <;> simp [Effect.map]
  simp only [map, Queue.map, List.map_map]
  congr 1
  exact List.map_congr_left fun effect _ => heffect effect

/-- Requesters may be replaced by themselves. -/
theorem map_id (s : Session ρ σ) : s.map id = s := by
  have heffect (effect : Effect ρ) : effect.map id = effect := by
    cases effect <;> simp [Effect.map]
  have hentry (e : Entry ρ) : e.map id = e := rfl
  simp [map, Queue.map, heffect, hentry]

variable [Link σ]

/-- The session after turns, with the numbers of the turns on the requesters. -/
def traced (start : Session ρ σ) (turns : List (Turn ρ σ)) : Session (Ticket ρ) σ :=
  (start.map (Ticket.mk 0)).run (turns.mapIdx Turn.numbered)

theorem traced_concat (start : Session ρ σ) (turns : List (Turn ρ σ)) (turn : Turn ρ σ) :
    start.traced (turns ++ [turn]) = (start.traced turns).next (turn.numbered turns.length) := by
  rw [traced, List.mapIdx_concat, run_concat]
  rfl

omit [Link σ] in
/-- Without its number, a turn is the turn it was. -/
theorem numbered_relabels (number : Nat) (turn : Turn ρ σ) :
    Turn.Relabels Ticket.requester (turn.numbered number) turn := by
  refine ⟨rfl, rfl, ?_⟩
  obtain ⟨around, call⟩ := turn
  cases call <;> rfl

omit [Link σ] in
/-- Without their numbers, the turns are the turns they were. -/
theorem numbered_relabels_all (turns : List (Turn ρ σ)) :
    List.Forall₂ (Turn.Relabels Ticket.requester) (turns.mapIdx Turn.numbered) turns := by
  rw [List.forall₂_iff_get]
  refine ⟨by simp, fun i h _ => ?_⟩
  simpa using numbered_relabels i _

/-- Without the numbers, the numbered run is the run. -/
theorem map_requester_traced (start : Session ρ σ) (turns : List (Turn ρ σ)) :
    (start.traced turns).map Ticket.requester = start.run turns := by
  rw [traced, run_map Ticket.requester _ (numbered_relabels_all turns), map_map]
  exact congrArg (run turns) (map_id start)

/-- A numbered turn gets the reply of the turn. -/
theorem reply_traced (start : Session ρ σ) (turns : List (Turn ρ σ)) (turn : Turn ρ σ) :
    ((start.traced turns).perform (turn.numbered turns.length)).1
      = ((start.run turns).perform turn).1 := by
  rw [← map_requester_traced,
    perform_map Ticket.requester _ (numbered_relabels turns.length turn)]
  rfl

omit [Link σ] in
/-- A submission with a number was one without. -/
theorem submit_of_numbered {number : Nat} {turn : Turn ρ σ} {ticket : Ticket ρ} {text : String}
    {metadata : Metadata} (h : (turn.numbered number).call = .submit ticket text metadata) :
    ticket.number = number ∧ turn.call = .submit ticket.requester text metadata := by
  obtain ⟨around, call⟩ := turn
  cases call <;> cases h
  exact ⟨rfl, rfl⟩

omit [Link σ] in
/-- An event is the same with a number. -/
theorem event_of_numbered {number : Nat} {turn : Turn ρ σ} {event : Event}
    (h : (turn.numbered number).call = .event event) : turn.call = .event event := by
  obtain ⟨around, call⟩ := turn
  cases call <;> cases h
  rfl

/-! ## Fates -/

/-- The numbers of the lookups in the queue. -/
def numbers (s : Session (Ticket ρ) σ) : List Nat :=
  (s.queue.entries.map Entry.requester).map Ticket.number

/-- The answers given to the lookup of a turn. -/
def answersTo (number : Nat) (s : Session (Ticket ρ) σ) : List (Ticket ρ × Resolution) :=
  (answers s.history).filter (·.1.number = number)

/-- The lookup of a turn is in the queue and waits for something. -/
def Holds (number : Nat) (s : Session (Ticket ρ) σ) : Prop :=
  ∃ e ∈ s.queue.entries, e.requester.number = number ∧ e.isOutstanding

/-- A turn in which a connection comes up drops a lookup that was waiting and whose requester was
not reachable then. -/
structure Drops (turn : Turn ρ σ) (number : Nat) (s s' : Session (Ticket ρ) σ) : Prop where
  hcall : turn.call = .event .connected
  hpending : ∃ e ∈ s.queue.entries, e.requester.number = number ∧ e.state = .pending
    ∧ turn.around.reachable e.requester.requester = false
  hcomplete : ∃ e ∈ s'.queue.entries, e.requester.number = number ∧ e.state = .complete

/-- One of the turns dropped the lookup. -/
def WasDropped (start : Session ρ σ) (turns : List (Turn ρ σ)) (number : Nat) : Prop :=
  ∃ before turn after, turns = before ++ turn :: after
    ∧ Drops turn number (start.traced before) (start.traced (before ++ [turn]))

/-- What has become of a lookup that was taken. -/
inductive Fate (start : Session ρ σ) (turns : List (Turn ρ σ)) (ticket : Ticket ρ)
    (text : String) : Prop where
  /-- It is in the queue and waits, and nothing has come of it. -/
  | waiting {e : Entry (Ticket ρ)} (hmem : e ∈ (start.traced turns).queue.entries)
      (hrequester : e.requester = ticket) (houtstanding : e.isOutstanding)
      (htext : Address.normalize text = .ok e.text)
      (hanswers : (start.traced turns).answersTo ticket.number = [])
      (hdropped : ¬ WasDropped start turns ticket.number)
  /-- It was given one answer, for its address and to its requester. -/
  | answered {resolution : Resolution}
      (hanswers : (start.traced turns).answersTo ticket.number = [(ticket, resolution)])
      (haddress : Address.normalize text = .ok resolution.address.format)
      (hqueue : ¬ (start.traced turns).Holds ticket.number)
      (hdropped : ¬ WasDropped start turns ticket.number)
  /-- A flush dropped it, and it was given no answer. -/
  | dropped (hdropped : WasDropped start turns ticket.number)
      (hqueue : ¬ (start.traced turns).Holds ticket.number)
      (hanswers : (start.traced turns).answersTo ticket.number = [])

/-- A lookup was dropped earlier or in the last turn. -/
theorem wasDropped_concat (start : Session ρ σ) (turns : List (Turn ρ σ)) (turn : Turn ρ σ)
    (number : Nat) :
    WasDropped start (turns ++ [turn]) number ↔ WasDropped start turns number
      ∨ Drops turn number (start.traced turns) (start.traced (turns ++ [turn])) := by
  constructor
  · rintro ⟨before, turn', after, hsplit, hdrops⟩
    -- the turn that drops it is the last one, or has turns behind it
    rcases List.eq_nil_or_concat after with rfl | ⟨front, last, rfl⟩
    · obtain ⟨rfl, hlast⟩ := List.append_inj' hsplit rfl
      cases hlast
      exact .inr hdrops
    · rw [List.concat_eq_append, ← List.cons_append, ← List.append_assoc] at hsplit
      obtain ⟨rfl, -⟩ := List.append_inj' hsplit rfl
      exact .inl ⟨before, turn', front, rfl, hdrops⟩
  · rintro (⟨before, turn', after, rfl, hdrops⟩ | hdrops)
    · exact ⟨before, turn', after ++ [turn], by simp, hdrops⟩
    · exact ⟨turns, turn, [], rfl, hdrops⟩

/-! ## Numbered lookups in a run -/

omit [Link σ] in
/-- A session may be made with other requesters, since there are none yet. -/
theorem new_map {config : Config} {link : σ} {start : Session ρ σ}
    (hnew : Session.new config link = .ok start) {β : Type} (f : ρ → β) :
    Session.new config link = .ok (start.map f) := by
  unfold Session.new at hnew ⊢
  split at hnew <;> cases hnew
  simp_all
  rfl

section Run

variable {config : Config} {link : σ} {start : Session ρ σ}
  (hnew : Session.new config link = .ok start)
include hnew

/-- One more turn moves the numbered lookups. -/
theorem traced_moves (turns : List (Turn ρ σ)) (turn : Turn ρ σ) :
    ∃ added, (start.traced (turns ++ [turn])).history = added ++ (start.traced turns).history
      ∧ Moves (turn.numbered turns.length) (start.traced turns)
        ((start.run turns).perform turn).1 (start.traced (turns ++ [turn])).queue.entries
        (answers added) := by
  have hqueue : ∀ e ∈ (start.traced turns).queue.entries, e.WellFormed :=
    wellFormed_run (new_map hnew _) _
  rw [traced_concat, ← reply_traced]
  exact perform_moves _ hqueue

/-- The queue holds lookups of past turns, in the order of the turns. -/
theorem numbers_traced (turns : List (Turn ρ σ)) :
    (start.traced turns).numbers.Pairwise (· < ·)
      ∧ ∀ n ∈ (start.traced turns).numbers, n < turns.length := by
  induction turns using List.reverseRecOn with
  | nil =>
    have hempty : (start.traced []).numbers = [] := by
      simp [numbers, traced, Queue.map, (new_spec hnew).none_queued]
    simp [hempty]
  | append_singleton turns turn ih =>
    obtain ⟨hordered, hlt⟩ := ih
    obtain ⟨added, -, hmoves⟩ := traced_moves hnew turns turn
    rw [List.length_append, List.length_singleton]
    -- a lookup that joins carries the number of this turn, which is above all others
    obtain hold | ⟨text, frame, entry, hadmits, hnew⟩ := hmoves.requesters
    · have hsub : List.Sublist (start.traced (turns ++ [turn])).numbers
          (start.traced turns).numbers := hold.map Ticket.number
      exact ⟨hordered.sublist hsub, fun n hn => Nat.lt_succ_of_lt (hlt n (hsub.subset hn))⟩
    · have hnumber := (submit_of_numbered hadmits.hcall).1
      have hnumbers : (start.traced (turns ++ [turn])).numbers
          = (start.traced turns).numbers ++ [turns.length] := by
        rw [numbers, hnew, List.map_append, List.map_singleton, hnumber]
        rfl
      rw [hnumbers]
      refine ⟨pairwise_snoc hordered hlt, fun n hn => ?_⟩
      rcases List.mem_append.1 hn with hold | hlast
      · exact Nat.lt_succ_of_lt (hlt n hold)
      · rw [List.mem_singleton.1 hlast]
        exact Nat.lt_succ_self _

/-- The lookup of a turn is in the queue at most once. -/
theorem eq_of_number_eq (turns : List (Turn ρ σ)) {e e' : Entry (Ticket ρ)}
    (he : e ∈ (start.traced turns).queue.entries) (he' : e' ∈ (start.traced turns).queue.entries)
    (h : e.requester.number = e'.requester.number) : e = e' := by
  have hordered := (numbers_traced hnew turns).1
  rw [numbers, List.map_map] at hordered
  exact List.inj_on_of_nodup_map (hordered.imp Nat.ne_of_lt) he he' h

/-- A lookup in the queue has the number of a turn that was made. -/
theorem number_lt (turns : List (Turn ρ σ)) {e : Entry (Ticket ρ)}
    (he : e ∈ (start.traced turns).queue.entries) : e.requester.number < turns.length :=
  (numbers_traced hnew turns).2 _ (List.mem_map_of_mem (List.mem_map_of_mem he))

/-- An answer is for a lookup with the number of a turn that was made. -/
theorem answered_lt (turns : List (Turn ρ σ)) :
    ∀ a ∈ answers (start.traced turns).history, a.1.number < turns.length := by
  induction turns using List.reverseRecOn with
  | nil =>
    have hempty : (start.traced []).history = [] := by
      simp [traced, map, (new_spec hnew).nothing_done]
    simp [hempty]
  -- who is answered now had a lookup in the queue, so its number is one of before
  | append_singleton turns turn ih =>
    obtain ⟨added, hhistory, hmoves⟩ := traced_moves hnew turns turn
    intro a ha
    rw [hhistory, answers_append] at ha
    rw [List.length_append, List.length_singleton]
    rcases List.mem_append.1 ha with ha | ha
    · obtain ⟨_, e, -, he, hrequester, -⟩ := hmoves.mem_given ha
      rw [← hrequester]
      exact Nat.lt_succ_of_lt (number_lt hnew turns he)
    · exact Nat.lt_succ_of_lt (ih a ha)

/-- There are no answers to a lookup that is yet to be made. -/
theorem answersTo_eq_nil (turns : List (Turn ρ σ)) {number : Nat} (h : turns.length ≤ number) :
    (start.traced turns).answersTo number = [] := by
  refine List.filter_eq_nil_iff.2 fun a ha => ?_
  have hlt := answered_lt hnew turns a ha
  simp only [decide_eq_true_eq]
  omega

/-- A lookup that is yet to be made was not dropped. -/
theorem not_wasDropped (turns : List (Turn ρ σ)) {number : Nat} (h : turns.length ≤ number) :
    ¬ WasDropped start turns number := by
  rintro ⟨before, turn, after, rfl, hdrops⟩
  obtain ⟨e, he, hnumber, -⟩ := hdrops.hpending
  have hlt := number_lt hnew before he
  simp only [List.length_append] at h
  omega

/-! ## One turn -/

/-- A lookup that is complete holds nothing under its number, since no other has it. -/
theorem not_holds_of_complete {turns : List (Turn ρ σ)} {e : Entry (Ticket ρ)}
    (he : e ∈ (start.traced turns).queue.entries) (hstate : e.state = .complete) :
    ¬ (start.traced turns).Holds e.requester.number := by
  rintro ⟨e', he', hnumber, hout⟩
  rw [eq_of_number_eq hnew turns he' he hnumber, Entry.isOutstanding, hstate] at hout
  contradiction

omit hnew in
theorem answersTo_concat {turns : List (Turn ρ σ)} {turn : Turn ρ σ}
    {added : List (Effect (Ticket ρ))}
    (hhistory : (start.traced (turns ++ [turn])).history
      = added ++ (start.traced turns).history) (number : Nat) :
    (start.traced (turns ++ [turn])).answersTo number
      = (answers added).filter (·.1.number = number) ++ (start.traced turns).answersTo number := by
  rw [answersTo, hhistory, answers_append, List.filter_append]
  rfl

/-- A lookup that does not wait never waits again, is given nothing more and is not dropped. -/
theorem settled_stays (turns : List (Turn ρ σ)) (turn : Turn ρ σ) {number : Nat}
    (hlt : number < turns.length) (hsettled : ¬ (start.traced turns).Holds number) :
    ¬ (start.traced (turns ++ [turn])).Holds number
      ∧ (start.traced (turns ++ [turn])).answersTo number = (start.traced turns).answersTo number
      ∧ (WasDropped start (turns ++ [turn]) number → WasDropped start turns number) := by
  obtain ⟨added, hhistory, hmoves⟩ := traced_moves hnew turns turn
  -- a lookup that holds nothing can neither be answered nor dropped, for either needs it in the
  -- queue
  refine ⟨?_, ?_, ?_⟩
  · -- what waits now was waiting before, or was submitted only now
    rintro ⟨e', he', hnumber, houtstanding⟩
    obtain ⟨e, he, hlater⟩ | ⟨-, _, _, entry, _, hadmits, rfl⟩ := hmoves.origin he'
    · rw [hlater.requester_eq] at hnumber
      obtain ⟨state, rfl, hout⟩ := hlater
      exact hsettled ⟨e, he, hnumber, hout houtstanding⟩
    · have hjoined := (submit_of_numbered hadmits.hcall).1
      rw [Entry.requester_withState] at hnumber
      omega
  · rw [answersTo_concat hhistory]
    have hnone : (answers added).filter (·.1.number = number) = [] := by
      refine List.filter_eq_nil_iff.2 fun a ha hnumber => ?_
      obtain ⟨_, e, -, he, hrequester, hstate, -⟩ := hmoves.mem_given ha
      have hnumber' : e.requester.number = number := by
        rw [hrequester]
        exact of_decide_eq_true hnumber
      exact hsettled ⟨e, he, hnumber', by simp [Entry.isOutstanding, hstate]⟩
    rw [hnone, List.nil_append]
  · intro hdropped
    rcases (wasDropped_concat ..).1 hdropped with hbefore | hdrops
    · exact hbefore
    · obtain ⟨e, he, hnumber, hstate, -⟩ := hdrops.hpending
      exact absurd ⟨e, he, hnumber, by simp [Entry.isOutstanding, hstate]⟩ hsettled

/-- A turn after which a lookup waits gives it nothing and does not drop it. -/
theorem waiting_stays (turns : List (Turn ρ σ)) (turn : Turn ρ σ) {number : Nat}
    (hholds : (start.traced (turns ++ [turn])).Holds number) :
    (start.traced (turns ++ [turn])).answersTo number = (start.traced turns).answersTo number
      ∧ (WasDropped start (turns ++ [turn]) number → WasDropped start turns number) := by
  obtain ⟨added, hhistory, hmoves⟩ := traced_moves hnew turns turn
  -- whatever is complete after the turn is another lookup
  have hother {e : Entry (Ticket ρ)} (he : e ∈ (start.traced (turns ++ [turn])).queue.entries)
      (hcomplete : e.state = .complete) : e.requester.number ≠ number := by
    rintro rfl
    exact not_holds_of_complete hnew he hcomplete hholds
  constructor
  · rw [answersTo_concat hhistory]
    have hnone : (answers added).filter (·.1.number = number) = [] := by
      refine List.filter_eq_nil_iff.2 fun a ha hnumber => ?_
      obtain ⟨_, e, -, -, hrequester, -, hcomplete⟩ := hmoves.mem_given ha
      have hnumber' : e.requester.number = number := by
        rw [hrequester]
        exact of_decide_eq_true hnumber
      exact hother hcomplete rfl hnumber'
    rw [hnone, List.nil_append]
  · intro hdropped
    rcases (wasDropped_concat ..).1 hdropped with hbefore | hdrops
    · exact hbefore
    · obtain ⟨e, he, hnumber, hcomplete⟩ := hdrops.hcomplete
      exact absurd hnumber (hother he hcomplete)

/-- **One turn.** A lookup that was taken has a fate after every further turn. -/
theorem fate_step (turns : List (Turn ρ σ)) (turn : Turn ρ σ) {ticket : Ticket ρ} {text : String}
    (hlt : ticket.number < turns.length) (h : Fate start turns ticket text) :
    Fate start (turns ++ [turn]) ticket text := by
  cases h with
  | answered hanswers haddress hqueue hdropped =>
    obtain ⟨hqueue', hanswers', hdropped'⟩ := settled_stays hnew turns turn hlt hqueue
    exact .answered (hanswers'.trans hanswers) haddress hqueue' (mt hdropped' hdropped)
  | dropped hdropped hqueue hanswers =>
    obtain ⟨hqueue', hanswers', -⟩ := settled_stays hnew turns turn hlt hqueue
    exact .dropped ((wasDropped_concat ..).2 (.inl hdropped)) hqueue' (hanswers'.trans hanswers)
  | @waiting e hmem hrequester houtstanding htext hanswers hdropped =>
    subst hrequester
    obtain ⟨added, hhistory, hmoves⟩ := traced_moves hnew turns turn
    obtain ⟨state, hmem', hout⟩ | ⟨resolution, hgiven, haddress⟩ | ⟨hcall, hstate, hgone, hmem'⟩ :=
      hmoves.outstanding_cases hmem houtstanding
    · -- it still waits
      obtain ⟨hanswers', hdropped'⟩ := waiting_stays hnew turns turn ⟨_, hmem', rfl, hout⟩
      exact .waiting hmem' rfl hout htext (hanswers'.trans hanswers) (mt hdropped' hdropped)
    · -- it is answered by a record, which drops nothing
      have hanswer : (e.requester, resolution) ∈ answers added := by simp [hgiven]
      obtain ⟨record, e₀, hreceived, -, hrequester, -, hcomplete⟩ := hmoves.mem_given hanswer
      have hanswers' : (start.traced (turns ++ [turn])).answersTo e.requester.number
          = [(e.requester, resolution)] := by
        rw [answersTo_concat hhistory, hgiven, hanswers]
        simp
      refine .answered hanswers' (htext.trans (by rw [haddress])) ?_ ?_
      · have hqueue := not_holds_of_complete hnew hcomplete rfl
        rwa [Entry.requester_withState, hrequester] at hqueue
      · intro hdropped'
        rcases (wasDropped_concat ..).1 hdropped' with hbefore | hdrops
        · exact hdropped hbefore
        · cases (event_of_numbered hreceived).symm.trans hdrops.hcall
    · -- a flush drops it, which answers nobody
      have hnone : answers added = [] := by
        obtain hnone | ⟨record, _, _, hreceived, -⟩ := hmoves.given_cases
        · exact hnone
        · cases hreceived.symm.trans hcall
      refine .dropped ((wasDropped_concat ..).2 (.inr ⟨event_of_numbered hcall, ?_, ?_⟩)) ?_ ?_
      · exact ⟨e, hmem, rfl, hstate, hgone⟩
      · exact ⟨_, hmem', rfl, rfl⟩
      · have hqueue := not_holds_of_complete hnew hmem' rfl
        rwa [Entry.requester_withState] at hqueue
      · rw [answersTo_concat hhistory, hnone, hanswers]
        rfl

/-- **The start.** A lookup that has just been taken waits in the queue. -/
theorem fate_start (turns : List (Turn ρ σ)) {turn : Turn ρ σ} {requester : ρ} {text : String}
    {metadata : Metadata} (hcall : turn.call = .submit requester text metadata)
    (haccepted : ((start.run turns).perform turn).1.accepted) :
    Fate start (turns ++ [turn]) ⟨turns.length, requester⟩ text := by
  obtain ⟨added, hhistory, hmoves⟩ := traced_moves hnew turns turn
  obtain ⟨hgiven, text', frame, entry, state, hadmits, hmem, hout⟩ := hmoves.joins haccepted
  obtain ⟨hnumber, hcall'⟩ := submit_of_numbered hadmits.hcall
  obtain ⟨rfl, rfl, -⟩ := Call.submit.inj (hcall.symm.trans hcall')
  have hticket : entry.requester = ⟨turns.length, entry.requester.requester⟩ := by
    rw [← hnumber]
  -- the number of the turn is a new one: no answer has it, and no lookup that was dropped
  refine .waiting hmem hticket hout hadmits.normalize_eq ?_ ?_
  · rw [answersTo_concat hhistory, hgiven, answersTo_eq_nil hnew turns (Nat.le_refl _)]
    rfl
  · intro hdropped
    rcases (wasDropped_concat ..).1 hdropped with hbefore | hdrops
    · exact not_wasDropped hnew turns (Nat.le_refl _) hbefore
    · obtain ⟨e, he, heq, -⟩ := hdrops.hpending
      have hlt := number_lt hnew turns he
      rw [heq] at hlt
      exact Nat.lt_irrefl _ hlt

/-! ## Runs -/

/-- A lookup that was taken has a fate ever after. -/
theorem has_fate (turns : List (Turn ρ σ)) {number : Nat} {turn : Turn ρ σ} {requester : ρ}
    {text : String} {metadata : Metadata} (hturn : turns[number]? = some turn)
    (hcall : turn.call = .submit requester text metadata)
    (haccepted : ((start.run (turns.take number)).perform turn).1.accepted) :
    Fate start turns ⟨number, requester⟩ text := by
  induction turns using List.reverseRecOn with
  | nil => contradiction
  | append_singleton turns last ih =>
    have hlt : number < turns.length + 1 := by
      simpa using (List.getElem?_eq_some_iff.1 hturn).1
    -- the submission was an earlier turn, or is the last one
    rcases Nat.lt_succ_iff_lt_or_eq.1 hlt with hold | rfl
    · rw [List.getElem?_append_left hold] at hturn
      rw [List.take_append_of_le_length (Nat.le_of_lt hold)] at haccepted
      exact fate_step hnew turns last hold (ih hturn haccepted)
    · rw [List.getElem?_concat_length] at hturn
      cases hturn
      rw [List.take_left] at haccepted
      exact fate_start hnew turns hcall haccepted

/-- **No lookup is lost and none is answered twice.** Numbering the turns changes nothing about a
run of a session. The queue holds lookups in the order they were submitted in, and each one that
was taken waits in the queue, or was given one answer, for its address and to its requester, or was
dropped by a flush that found its requester gone; the cases of `Fate` exclude each other. An event
gives at most one answer. -/
theorem every_lookup_has_one_fate (turns : List (Turn ρ σ)) :
    (start.traced turns).map Ticket.requester = start.run turns
      ∧ (start.traced turns).numbers.Pairwise (· < ·)
      ∧ (∀ number turn requester text metadata, turns[number]? = some turn →
          turn.call = .submit requester text metadata →
          ((start.run (turns.take number)).perform turn).1.accepted →
          Fate start turns ⟨number, requester⟩ text)
      ∧ ∀ around event,
          (answers (since (start.run turns) ((start.run turns).handleEvent around event))).length
            ≤ 1 := by
  refine ⟨map_requester_traced start turns, (numbers_traced hnew turns).1, ?_, ?_⟩
  · intro number turn requester text metadata hturn hcall haccepted
    exact has_fate hnew turns hturn hcall haccepted
  · intro around event
    obtain ⟨added, hhistory, hmoves⟩ :=
      perform_moves ⟨around, .event event⟩ (wellFormed_run hnew turns)
    have hsince : since (start.run turns) ((start.run turns).handleEvent around event)
        = added.reverse := since_of_history_eq (by rw [List.reverse_reverse]; exact hhistory)
    rw [hsince, answers_reverse, List.length_reverse]
    obtain hnone | ⟨_, _, _, -, hgiven, -⟩ := hmoves.given_cases
    · simp [hnone]
    · simp [hgiven]

end Run

/-- One requester asks for one address twice and one answer comes: it belongs to the first lookup,
and the second still waits. -/
theorem first_of_two_lookups_is_answered :
    let turns := [.submit 7 "10.0.0.1" [], .submit 7 "10.0.0.01" [], .event .connected,
      .event (.received [1, 4, 10, 0, 0, 1])].map Turn.plain
    Fate recorded turns ⟨0, 7⟩ "10.0.0.1" ∧ Fate recorded turns ⟨1, 7⟩ "10.0.0.01"
      ∧ ((recorded.traced turns).answersTo 0).length = 1
      ∧ (recorded.traced turns).answersTo 1 = [] := by
  intro turns
  obtain ⟨-, -, hfate, -⟩ := every_lookup_has_one_fate new_recorded turns
  refine ⟨?_, ?_, by decide +kernel, by decide +kernel⟩
  · exact hfate 0 (.plain (.submit 7 "10.0.0.1" [])) 7 "10.0.0.1" [] rfl rfl (by decide +kernel)
  · exact hfate 1 (.plain (.submit 7 "10.0.0.01" [])) 7 "10.0.0.01" [] rfl rfl (by decide +kernel)

end Session

end CidrLookup
