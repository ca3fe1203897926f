import CidrLookup.Proofs.Session.Relabel
import Mathlib.Data.List.DropRight
import Mathlib.Data.List.Induction

/-!
# The timeline of a run

The history of a session has what it did, and not when a connection came up. The timeline of a run
has both, in order. It falls into stretches, each of which ends where the session closes its link;
`sinceClose` is the stretch that is open at the end.

`Discipline` is what a link may rely on: no attempt to connect before the last one was given up, no
frame without a connection, and on a connection a sequence of frames that is speech, whatever that
is. `Clean` says the same moment by moment, which is the form in which it is carried along a run.
-/

namespace CidrLookup

variable {α β ρ σ : Type}

/-! ## Moments -/

/-- Whether a frame was handed to the link, which took it or not. -/
def Effect.isHandover : Effect ρ → Bool
  | sent _ | refused .. => true
  | _ => false

/-- A connection comes up, or the session does something. -/
inductive Moment (ρ : Type) where
  | up
  | deed (effect : Effect ρ)
deriving DecidableEq, Repr

namespace Moment

/-- A moment with another requester in it, where it has one. -/
def map (f : α → β) : Moment α → Moment β
  | up => up
  | deed effect => deed (effect.map f)

/-- Whether a moment is the coming up of a connection. -/
def isUp : Moment ρ → Bool
  | up => true
  | _ => false

/-- Whether a moment is the start of an attempt. -/
def isConnect : Moment ρ → Bool
  | deed (.connect _) => true
  | _ => false

/-- Whether a moment is a close. -/
def isClose : Moment ρ → Bool
  | deed .close => true
  | _ => false

/-- The frame that was handed to the link, if one was. -/
def handed? : Moment ρ → Option (Effect ρ)
  | deed effect => if effect.isHandover then some effect else none
  | up => none

/-- There is one moment that is a close. -/
theorem eq_close {m : Moment ρ} (h : m.isClose) : m = .deed .close := by
  unfold isClose at h
  split at h
  · rfl
  · contradiction

end Moment

/-- What is taken from the end is taken whole if all of it may be taken. -/
theorem rtakeWhile_append_of_all {p : α → Bool} (front : List α) {back : List α}
    (h : ∀ a ∈ back, p a) : (front ++ back).rtakeWhile p = front.rtakeWhile p ++ back := by
  have hback : ∀ a ∈ back.reverse, p a := fun a ha => h a (List.mem_reverse.1 ha)
  rw [List.rtakeWhile, List.reverse_append, List.takeWhile_append_of_pos hback,
    List.reverse_append, List.reverse_reverse]
  rfl

/-- How often a connection came up. -/
def ups (moments : List (Moment ρ)) : Nat :=
  moments.countP Moment.isUp

/-- How many attempts to connect were started. -/
def attempts (moments : List (Moment ρ)) : Nat :=
  moments.countP Moment.isConnect

/-- The frames that were handed to the link. -/
def handed (moments : List (Moment ρ)) : List (Effect ρ) :=
  moments.filterMap Moment.handed?

/-- What there has been since the link was closed last. -/
def sinceClose (moments : List (Moment ρ)) : List (Moment ρ) :=
  moments.rtakeWhile fun m => ! m.isClose

section

variable (front back : List (Moment ρ))

/-- Connections that come up are counted in both parts. -/
@[simp] theorem ups_append : ups (front ++ back) = ups front + ups back :=
  List.countP_append

/-- So are the attempts. -/
@[simp] theorem attempts_append : attempts (front ++ back) = attempts front + attempts back :=
  List.countP_append

/-- Frames that are handed over are picked from both parts, in their order. -/
@[simp] theorem handed_append : handed (front ++ back) = handed front ++ handed back :=
  List.filterMap_append ..

/-- Before anything happens, nothing has been counted. -/
@[simp] theorem ups_nil : ups ([] : List (Moment ρ)) = 0 := rfl

@[simp] theorem attempts_nil : attempts ([] : List (Moment ρ)) = 0 := rfl

@[simp] theorem handed_nil : handed ([] : List (Moment ρ)) = [] := rfl

@[simp] theorem sinceClose_nil : sinceClose ([] : List (Moment ρ)) = [] := rfl

/-- Nothing comes behind a close that is the last. -/
@[simp] theorem sinceClose_close : sinceClose (front ++ [.deed .close]) = [] :=
  List.rtakeWhile_concat_neg _ _ _ (by simp [Moment.isClose])

/-- Any other moment comes behind the same close as the moments before it. -/
theorem sinceClose_concat {m : Moment ρ} (h : m.isClose = false) :
    sinceClose (front ++ [m]) = sinceClose front ++ [m] :=
  List.rtakeWhile_concat_pos _ _ _ (by simp [h])

/-- Moments without a close go on with the open stretch. -/
theorem sinceClose_append (h : ∀ m ∈ back, m.isClose = false) :
    sinceClose (front ++ back) = sinceClose front ++ back :=
  rtakeWhile_append_of_all front fun m hm => by simp [h m hm]

/-- What comes behind the last close is the end of all of it. -/
theorem sinceClose_suffix : sinceClose front <:+ front :=
  List.rtakeWhile_suffix ..

/-- No close comes behind the last one. -/
theorem close_not_mem_sinceClose : .deed .close ∉ sinceClose front := by
  intro hmem
  have hopen := List.mem_rtakeWhile_imp hmem
  simp [Moment.isClose] at hopen

end

/-- A stretch without a close has none at any place. -/
theorem isClose_eq_false {moments : List (Moment ρ)} (h : .deed .close ∉ moments) :
    ∀ m ∈ moments, m.isClose = false := by
  intro m hm
  by_contra hclose
  have heq : m = .deed .close := Moment.eq_close (by simpa using hclose)
  exact h (heq ▸ hm)

/-- A stretch without a close, at the start or behind a close, is what comes behind the last one. -/
theorem sinceClose_stretch {front stretch : List (Moment ρ)}
    (hfront : front = [] ∨ ∃ more, front = more ++ [.deed .close])
    (hstretch : .deed .close ∉ stretch) : sinceClose (front ++ stretch) = stretch := by
  rw [sinceClose_append _ _ (isClose_eq_false hstretch)]
  rcases hfront with rfl | ⟨more, rfl⟩ <;> simp

/-- A connection that came up in the open stretch came up with no close since. -/
theorem exists_up {front : List (Moment ρ)} (h : 0 < ups (sinceClose front)) :
    ∃ before after, front = before ++ .up :: after ∧ .deed .close ∉ after := by
  -- a connection came up since the last close, so it can be pointed at
  obtain ⟨m, hmem, hisUp⟩ := List.countP_pos_iff.1 h
  obtain rfl : m = .up := by
    cases m with
    | up => rfl
    | deed => contradiction
  obtain ⟨before, hbefore⟩ := sinceClose_suffix front
  obtain ⟨first, after, hsplit⟩ := List.append_of_mem hmem
  refine ⟨before ++ first, after, ?_, fun hclose => close_not_mem_sinceClose front ?_⟩
  · rw [List.append_assoc, ← hsplit, hbefore]
  · rw [hsplit]
    exact List.mem_append_right _ (List.mem_cons_of_mem _ hclose)

/-! ## Frames handed to the link -/

section Handovers

variable {calls : List (Effect ρ)}

/-- No deed is the coming up of a connection. -/
theorem ups_deeds : ups (calls.map .deed) = 0 := by
  rw [ups, List.countP_map, List.countP_eq_zero]
  intro e _
  exact Bool.false_ne_true

variable (hcalls : ∀ e ∈ calls, e.isHandover)
include hcalls

/-- Handing over frames starts no attempt. -/
theorem attempts_deeds : attempts (calls.map .deed) = 0 := by
  rw [attempts, List.countP_map, List.countP_eq_zero]
  intro e he
  have hhand := hcalls e he
  cases e <;> simp_all [Effect.isHandover, Moment.isConnect]

/-- The frames handed over are all there is. -/
theorem handed_deeds : handed (calls.map .deed) = calls := by
  unfold handed
  rw [List.filterMap_map]
  refine (List.filterMap_congr fun e he => ?_).trans List.filterMap_some
  exact if_pos (hcalls e he)

/-- Handing over frames goes on behind the same close. -/
theorem sinceClose_deeds (moments : List (Moment ρ)) :
    sinceClose (moments ++ calls.map .deed) = sinceClose moments ++ calls.map .deed := by
  refine sinceClose_append _ _ fun m hm => ?_
  obtain ⟨e, he, rfl⟩ := List.mem_map.1 hm
  have hhand := hcalls e he
  cases e <;> simp_all [Effect.isHandover, Moment.isClose]

end Handovers

/-! ## Discipline -/

/-- What a link may rely on along a timeline. -/
structure Discipline (speech : List (Effect ρ) → Prop) (moments : List (Moment ρ)) : Prop where
  /-- Between two attempts to connect, the link is closed. -/
  attempts_apart : ∀ front between back endpoint endpoint',
    moments = front ++ .deed (.connect endpoint) :: between ++ .deed (.connect endpoint') :: back →
    .deed .close ∈ between
  /-- A frame is handed over after a connection came up, with no close in between. -/
  hands_while_up : ∀ front back effect, moments = front ++ .deed effect :: back →
    effect.isHandover → ∃ before after, front = before ++ .up :: after ∧ .deed .close ∉ after
  /-- In a stretch from the start or a close on without a further close, in which one connection
  comes up, no frames are handed over or the frames are speech. -/
  stretches_speak : ∀ front stretch back, moments = front ++ stretch ++ back →
    (front = [] ∨ ∃ more, front = more ++ [.deed .close]) → .deed .close ∉ stretch →
    ups stretch = 1 → handed stretch = [] ∨ speech (handed stretch)

/-- What discipline asks of a stretch. -/
structure Proper (speech : List (Effect ρ) → Prop) (stretch : List (Moment ρ)) : Prop where
  one_attempt : attempts stretch ≤ 1
  up_first : handed stretch ≠ [] → 0 < ups stretch
  speaks : ups stretch = 1 → handed stretch = [] ∨ speech (handed stretch)

/-- Where no connection has come up nothing is handed over. -/
theorem Proper.handed_eq_nil {speech : List (Effect ρ) → Prop} {stretch : List (Moment ρ)}
    (h : Proper speech stretch) (hups : ups stretch = 0) : handed stretch = [] := by
  by_contra hne
  have hpos := h.up_first hne
  omega

/-- The beginnings of speech are speech, if something is said. -/
def PrefixClosed (speech : List (Effect ρ) → Prop) : Prop :=
  ∀ calls front, speech calls → front <+: calls → front = [] ∨ speech front

/-- At each moment, the open stretch is proper. -/
def Clean (speech : List (Effect ρ) → Prop) (moments : List (Moment ρ)) : Prop :=
  ∀ front, front <+: moments → Proper speech (sinceClose front)

namespace Clean

variable {speech : List (Effect ρ) → Prop} {moments : List (Moment ρ)}

/-- Without a close between them, two attempts would stand in one stretch. -/
theorem close_mem (h : Clean speech moments) {front between back : List (Moment ρ)}
    {endpoint endpoint' : Endpoint}
    (hmoments : moments = front ++ .deed (.connect endpoint) :: between
      ++ .deed (.connect endpoint') :: back) : .deed .close ∈ between := by
  -- without a close, both attempts would be of one stretch, which has at most one
  by_contra hclose
  let stretch : List (Moment ρ) :=
    .deed (.connect endpoint) :: (between ++ [.deed (.connect endpoint')])
  have hopen : ∀ m ∈ stretch, m.isClose = false := by
    refine List.forall_mem_cons.2 ⟨rfl, List.forall_mem_append.2 ⟨isClose_eq_false hclose, ?_⟩⟩
    simp [Moment.isClose]
  have hproper : Proper speech (sinceClose (front ++ stretch)) :=
    h _ ⟨back, by simp [hmoments, stretch]⟩
  have hone := hproper.one_attempt
  rw [sinceClose_append _ _ hopen, attempts_append] at hone
  simp only [stretch, attempts, List.countP_cons, List.countP_append, List.countP_nil,
    Moment.isConnect, if_true] at hone
  omega

/-- A frame is handed over behind a connection that came up, with no close in between. -/
theorem up_before (h : Clean speech moments) {front back : List (Moment ρ)} {effect : Effect ρ}
    (hmoments : moments = front ++ .deed effect :: back) (hhand : effect.isHandover) :
    ∃ before after, front = before ++ .up :: after ∧ .deed .close ∉ after := by
  have hopen : (Moment.deed effect).isClose = false := by
    cases effect <;> simp_all [Effect.isHandover, Moment.isClose]
  have hproper : Proper speech (sinceClose (front ++ [.deed effect])) :=
    h _ ⟨back, by simp [hmoments]⟩
  have hhanded : handed [Moment.deed effect] = [effect] := by
    simp [handed, Moment.handed?, hhand]
  have hzero : ups [Moment.deed effect] = 0 := rfl
  rw [sinceClose_concat _ hopen] at hproper
  have hpos := hproper.up_first (by simp [hhanded])
  rw [ups_append, hzero] at hpos
  exact exists_up hpos

/-- A clean timeline keeps the discipline. -/
theorem discipline (h : Clean speech moments) : Discipline speech moments := by
  refine ⟨fun _ _ _ _ _ => h.close_mem, fun _ _ _ => h.up_before, ?_⟩
  intro front stretch back hmoments hfront hstretch hup
  have hproper : Proper speech (sinceClose (front ++ stretch)) := h _ ⟨back, hmoments.symm⟩
  rw [sinceClose_stretch hfront hstretch] at hproper
  exact hproper.speaks hup

/-- What may be said in a narrower sense may be said in a wider one. -/
theorem mono {speech' : List (Effect ρ) → Prop} (h : Clean speech moments)
    (hspeech : ∀ calls, speech calls → speech' calls) : Clean speech' moments := by
  intro front hfront
  obtain ⟨hattempts, hup, hspeaks⟩ := h front hfront
  exact ⟨hattempts, hup, fun hone => (hspeaks hone).imp_right (hspeech _)⟩

/-- The stretch behind the last close is proper. -/
theorem last (h : Clean speech moments) : Proper speech (sinceClose moments) :=
  h moments (List.prefix_refl moments)

/-- Nothing has happened yet. -/
theorem nil : Clean speech [] := by
  intro front hfront
  rw [List.prefix_nil.1 hfront]
  exact ⟨by simp, by simp, by simp⟩

/-- One moment more is clean if the stretch it belongs to still is proper. -/
theorem concat (h : Clean speech moments) {m : Moment ρ}
    (hm : Proper speech (sinceClose (moments ++ [m]))) : Clean speech (moments ++ [m]) := by
  intro front hfront
  rcases List.prefix_concat_iff.1 hfront with heq | hbefore
  · rw [heq]
    exact hm
  · exact h front hbefore

/-- A close may come at any time, and begins a new stretch. -/
theorem close (h : Clean speech moments) : Clean speech (moments ++ [.deed .close]) := by
  refine h.concat ?_
  rw [sinceClose_close]
  exact ⟨by simp, by simp, by simp⟩

/-- A moment in which no connection comes up and no frame is handed over. -/
theorem pass (h : Clean speech moments) {m : Moment ρ} (hclose : m.isClose = false)
    (hup : ups [m] = 0) (hhanded : handed [m] = [])
    (hattempts : attempts (sinceClose moments) + attempts [m] ≤ 1) :
    Clean speech (moments ++ [m]) := by
  refine h.concat ?_
  obtain ⟨-, hfirst, hspeaks⟩ := h.last
  rw [sinceClose_concat _ hclose]
  refine ⟨?_, ?_, ?_⟩
  · rwa [attempts_append]
  · simpa [hup, hhanded] using hfirst
  · simpa [hup, hhanded] using hspeaks

/-- An attempt may be started in a stretch that has none. -/
theorem connect (h : Clean speech moments) (hnone : attempts (sinceClose moments) = 0)
    (endpoint : Endpoint) : Clean speech (moments ++ [.deed (.connect endpoint)]) := by
  refine h.pass rfl rfl rfl ?_
  rw [hnone]
  exact Nat.le_refl 1

/-- An answer may come at any time. -/
theorem answer (h : Clean speech moments) (requester : ρ) (resolution : Resolution) :
    Clean speech (moments ++ [.deed (.resolved requester resolution)]) :=
  h.pass rfl rfl rfl h.last.one_attempt

/-- On a connection that has just come up, nothing was said yet. -/
theorem silent_up (h : Clean speech moments) :
    0 < ups (sinceClose (moments ++ [.up])) ∧ (ups (sinceClose (moments ++ [.up])) = 1 →
      handed (sinceClose (moments ++ [.up])) = []) := by
  have hone : ups [@Moment.up ρ] = 1 := rfl
  rw [sinceClose_concat _ rfl, ups_append, hone, handed_append]
  refine ⟨by omega, fun hups => ?_⟩
  rw [h.last.handed_eq_nil (by omega)]
  rfl

/-- A connection may come up at any time; what was handed over counts for the first only. -/
theorem up (h : Clean speech moments) : Clean speech (moments ++ [.up]) := by
  obtain ⟨hpos, hsilent⟩ := h.silent_up
  have hnone : attempts [@Moment.up ρ] = 0 := rfl
  refine h.concat ⟨?_, fun _ => hpos, fun hups => .inl (hsilent hups)⟩
  rw [sinceClose_concat _ rfl, attempts_append, hnone]
  exact h.last.one_attempt

/-- Frames may be handed over one after the other if they make speech together. -/
theorem hand (hclosed : PrefixClosed speech) (h : Clean speech moments) {calls : List (Effect ρ)}
    (hcalls : ∀ e ∈ calls, e.isHandover) (hup : 0 < ups (sinceClose moments))
    (hspeech : ups (sinceClose moments) = 1 →
      handed (sinceClose moments) ++ calls = [] ∨ speech (handed (sinceClose moments) ++ calls)) :
    Clean speech (moments ++ calls.map .deed) := by
  -- frame by frame: each is allowed where those before it are, since speech may be cut short
  -- anywhere
  induction calls using List.reverseRecOn with
  | nil => simpa using h
  | append_singleton calls call ih =>
    have hbefore : ∀ e ∈ calls, e.isHandover := (List.forall_mem_append.1 hcalls).1
    have hclean := ih hbefore fun hone => by
      rcases hspeech hone with hnil | hsaid
      · simp at hnil
      · exact hclosed _ _ hsaid ⟨[call], List.append_assoc ..⟩
    rw [List.map_append, ← List.append_assoc]
    refine hclean.concat ?_
    rw [List.append_assoc, ← List.map_singleton, ← List.map_append, sinceClose_deeds hcalls]
    refine ⟨?_, ?_, ?_⟩
    · rw [attempts_append, attempts_deeds hcalls]
      exact h.last.one_attempt
    · intro _
      rw [ups_append]
      omega
    · rw [ups_append, ups_deeds, handed_append, handed_deeds hcalls]
      exact hspeech

end Clean

/-- What a timeline says of a session whose connection is in the given state. -/
structure Conforms (speech : List (Effect ρ) → Prop) (state : SocketState)
    (moments : List (Moment ρ)) : Prop where
  clean : Clean speech moments
  none_tried : state = .disconnected → attempts (sinceClose moments) = 0
  has_come_up : state = .connected → 0 < ups (sinceClose moments)
  speaks : state = .connected → ups (sinceClose moments) = 1 → speech (handed (sinceClose moments))

namespace Conforms

variable {speech : List (Effect ρ) → Prop} {state : SocketState} {moments : List (Moment ρ)}

/-- What may be said in a narrower sense may be said in a wider one. -/
theorem mono {speech' : List (Effect ρ) → Prop} (h : Conforms speech state moments)
    (hspeech : ∀ calls, speech calls → speech' calls) : Conforms speech' state moments :=
  ⟨h.clean.mono hspeech, h.none_tried, h.has_come_up,
    fun hstate hone => hspeech _ (h.speaks hstate hone)⟩

/-- A session that has closed is disconnected. -/
theorem close (h : Clean speech moments) :
    Conforms speech .disconnected (moments ++ [.deed .close]) :=
  ⟨h.close, fun _ => by simp, fun hstate => by contradiction, fun hstate => by contradiction⟩

/-- A session that is disconnected may start an attempt. -/
theorem connect (h : Conforms speech .disconnected moments) (endpoint : Endpoint) :
    Conforms speech .connecting (moments ++ [.deed (.connect endpoint)]) :=
  ⟨h.clean.connect (h.none_tried rfl) endpoint, fun hstate => by contradiction,
    fun hstate => by contradiction, fun hstate => by contradiction⟩

/-- An attempt is started unless there is one already. -/
theorem retry (h : Conforms speech state moments) (endpoint : Endpoint) :
    Conforms speech (if state = .disconnected then .connecting else state) (moments
      ++ (if state = .disconnected then [Effect.connect endpoint] else []).reverse.map .deed) := by
  by_cases hdisconnected : state = .disconnected
  · subst hdisconnected
    exact h.connect endpoint
  · rw [if_neg hdisconnected, if_neg hdisconnected]
    simpa using h

/-- An answer changes nothing for the connection. -/
theorem answer (h : Conforms speech state moments) (requester : ρ) (resolution : Resolution) :
    Conforms speech state (moments ++ [.deed (.resolved requester resolution)]) := by
  have hopen : sinceClose (moments ++ [.deed (.resolved requester resolution)])
      = sinceClose moments ++ [.deed (.resolved requester resolution)] := sinceClose_concat _ rfl
  have hups : ups [@Moment.deed ρ (.resolved requester resolution)] = 0 := rfl
  have hattempts : attempts [@Moment.deed ρ (.resolved requester resolution)] = 0 := rfl
  have hhanded : handed [@Moment.deed ρ (.resolved requester resolution)] = [] := rfl
  refine ⟨h.clean.answer requester resolution, ?_, ?_, ?_⟩
  · rw [hopen, attempts_append, hattempts]
    exact h.none_tried
  · rw [hopen, ups_append, hups]
    exact h.has_come_up
  · rw [hopen, ups_append, hups, handed_append, hhanded, List.append_nil]
    exact h.speaks

/-- A connected session may hand over frames that go on as what was said may. -/
theorem hand (hclosed : PrefixClosed speech) (h : Clean speech moments) {calls : List (Effect ρ)}
    (hcalls : ∀ e ∈ calls, e.isHandover) (hup : 0 < ups (sinceClose moments))
    (hspeech : ups (sinceClose moments) = 1 → speech (handed (sinceClose moments) ++ calls)) :
    Conforms speech .connected (moments ++ calls.map .deed) := by
  refine ⟨h.hand hclosed hcalls hup fun hone => .inr (hspeech hone), ?_, ?_, ?_⟩
  · intro hstate
    contradiction
  · intro _
    rw [sinceClose_deeds hcalls, ups_append]
    omega
  · rw [sinceClose_deeds hcalls, ups_append, ups_deeds, handed_append, handed_deeds hcalls]
    exact fun _ => hspeech

end Conforms

/-! ## The timeline -/

/-- The connection that comes up in a turn, if one does. -/
def Turn.arrival (turn : Turn ρ σ) : List (Moment ρ) :=
  match turn.call with
  | .event .connected => [.up]
  | _ => []

/-- A turn that brings a connection up has that moment in front. -/
theorem Turn.arrival_of_connected {turn : Turn ρ σ} (h : turn.call = .event .connected) :
    turn.arrival = [.up] := by
  rw [arrival, h]

/-- Any other turn has nothing in front of its deeds. -/
theorem Turn.arrival_of_ne {turn : Turn ρ σ} (h : turn.call ≠ .event .connected) :
    turn.arrival = [] := by
  unfold arrival
  split
  · contradiction
  · rfl

namespace Session

variable [Link σ]

/-- The moments of a turn. -/
def moments (s : Session ρ σ) (turn : Turn ρ σ) : List (Moment ρ) :=
  turn.arrival ++ (deeds (since s (s.next turn))).map .deed

/-- The moments of several turns, in order. -/
def timeline (s : Session ρ σ) : List (Turn ρ σ) → List (Moment ρ)
  | [] => []
  | turn :: more => s.moments turn ++ (s.next turn).timeline more

/-- A turn adds its moments to the timeline. -/
theorem timeline_concat (s : Session ρ σ) (turns : List (Turn ρ σ)) (turn : Turn ρ σ) :
    s.timeline (turns ++ [turn]) = s.timeline turns ++ (s.run turns).moments turn := by
  induction turns generalizing s with
  | nil => simp [timeline]
  | cons first more ih =>
    rw [List.cons_append, timeline, ih, timeline, List.append_assoc]
    rfl

/-- The moments of a turn are told by what it added to the history. -/
theorem moments_of_history {s s' : Session ρ σ} {turn : Turn ρ σ} {effects : List (Effect ρ)}
    (hnext : s.next turn = s') (h : s'.history = effects ++ s.history) :
    s.moments turn = turn.arrival ++ (deeds effects).reverse.map .deed := by
  rw [moments, hnext, since_eq_reverse h, deeds_reverse]

omit [Link σ] in
/-- Renaming the requesters renames them in what was done. -/
theorem deeds_since_map (f : α → β) (s s' : Session α σ) :
    deeds (since (s.map f) (s'.map f)) = (deeds (since s s')).map (·.map f) := by
  have hdeed : Effect.isDeed ∘ Effect.map f = (Effect.isDeed : Effect α → Bool) := by
    funext e
    cases e <;> rfl
  simp only [since, map, List.length_map, ← List.map_take, ← List.map_reverse]
  rw [deeds, List.filter_map, hdeed]
  rfl

/-- The timeline is the same whatever the requesters are. -/
theorem timeline_map (f : α → β) (s : Session α σ) {turns : List (Turn α σ)}
    {turns' : List (Turn β σ)} (h : List.Forall₂ (Turn.Relabels f) turns turns') :
    (s.timeline turns).map (·.map f) = (s.map f).timeline turns' := by
  -- turn by turn: what arrives and what is done are the same but for the requesters
  induction h generalizing s with
  | nil => rfl
  | @cons turn turn' _ _ hturn _ ih =>
    have hnext : (s.map f).next turn' = (s.next turn).map f := by
      rw [next, perform_map f s hturn]
      rfl
    have harrival : turn'.arrival = turn.arrival.map (·.map f) := by
      rw [Turn.arrival, hturn.hcall, Turn.arrival]
      cases turn.call with
      | event event => cases event <;> rfl
      | _ => rfl
    rw [timeline, timeline, List.map_append, ih, ← hnext, moments, moments, hnext, harrival,
      deeds_since_map, List.map_append, List.map_map, List.map_map]
    rfl

end Session

end CidrLookup
