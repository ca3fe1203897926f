import CidrLookup.Client
import CidrLookup.Link.Recording

/-!
# Runs of a session

The calls on a session as data, and sequences of them. A turn is one call with its surroundings, so
the clock and the wishes of the requesters may change from turn to turn; between calls the link may
move on by itself. A run is any finite sequence of turns: what holds after every run holds at each
moment of every run, since what was done up to a moment is a run.

The history of a session only grows. `since` reads off what was added to it, and the effects that
later modules count are picked from it: the frames the link took and the answers given.
-/

namespace CidrLookup

/-! ## Effects -/

namespace Effect

variable {ρ : Type}

/-- Whether an effect is more than a line for the log. -/
def isDeed : Effect ρ → Bool
  | notice _ => false
  | _ => true

/-- A frame that the link took, with the requester it was sent for. -/
def sent? : Effect ρ → Option (Option ρ × Bytes)
  | @sent _ requester frame => some (requester, frame)
  | _ => none

/-- The requester that was given an answer, with the answer. -/
def answered? : Effect ρ → Option (ρ × Resolution)
  | resolved requester resolution => some (requester, resolution)
  | _ => none

/-- A lookup that a flush drops since its request has no written form, with the error. -/
def unwritten? : Effect ρ → Option (String × SessionError)
  | .notice (.unencodable text e) => some (text, e)
  | _ => none

end Effect

section Effects

variable {ρ : Type}

/-- The effects that are more than lines for the log. -/
def deeds (effects : List (Effect ρ)) : List (Effect ρ) :=
  effects.filter Effect.isDeed

/-- The frames that the link took. -/
def sends (effects : List (Effect ρ)) : List (Option ρ × Bytes) :=
  effects.filterMap Effect.sent?

/-- The answers that were given. -/
def answers (effects : List (Effect ρ)) : List (ρ × Resolution) :=
  effects.filterMap Effect.answered?

/-- The lookups that were dropped since their requests have no written form. -/
def dropped (effects : List (Effect ρ)) : List (String × SessionError) :=
  effects.filterMap Effect.unwritten?

@[simp] theorem deeds_nil : deeds ([] : List (Effect ρ)) = [] := rfl

@[simp] theorem deeds_notice (notice : Notice) (effects : List (Effect ρ)) :
    deeds (.notice notice :: effects) = deeds effects := rfl

/-- Deeds are picked from the parts of a history. -/
@[simp] theorem deeds_append (front back : List (Effect ρ)) :
    deeds (front ++ back) = deeds front ++ deeds back :=
  List.filter_append ..

/-- The order is kept, so it may be turned round before or after. -/
@[simp] theorem deeds_reverse (effects : List (Effect ρ)) :
    deeds effects.reverse = (deeds effects).reverse :=
  List.filter_reverse ..

/-- So are the frames that were taken. -/
@[simp] theorem sends_append (front back : List (Effect ρ)) :
    sends (front ++ back) = sends front ++ sends back :=
  List.filterMap_append ..

/-- So are the answers. -/
@[simp] theorem answers_append (front back : List (Effect ρ)) :
    answers (front ++ back) = answers front ++ answers back :=
  List.filterMap_append ..

/-- So are the lookups that were dropped. -/
@[simp] theorem dropped_append (front back : List (Effect ρ)) :
    dropped (front ++ back) = dropped front ++ dropped back :=
  List.filterMap_append ..

/-- Frames taken, the oldest first, from a history that has the newest first. -/
@[simp] theorem sends_reverse (effects : List (Effect ρ)) :
    sends effects.reverse = (sends effects).reverse :=
  List.filterMap_reverse ..

/-- Answers, the oldest first, from a history that has the newest first. -/
@[simp] theorem answers_reverse (effects : List (Effect ρ)) :
    answers effects.reverse = (answers effects).reverse :=
  List.filterMap_reverse ..

@[simp] theorem sends_nil : sends ([] : List (Effect ρ)) = [] := rfl

@[simp] theorem answers_nil : answers ([] : List (Effect ρ)) = [] := rfl

/-- What one effect adds to the frames that were taken. -/
@[simp] theorem sends_cons (e : Effect ρ) (effects : List (Effect ρ)) :
    sends (e :: effects) = e.sent?.toList ++ sends effects := by
  unfold sends
  cases h : e.sent? <;> simp [h]

/-- What one effect adds to the answers. -/
@[simp] theorem answers_cons (e : Effect ρ) (effects : List (Effect ρ)) :
    answers (e :: effects) = e.answered?.toList ++ answers effects := by
  unfold answers
  cases h : e.answered? <;> simp [h]

attribute [simp] Effect.sent? Effect.answered?

/-- A frame that was taken is a deed, so nothing is lost among the deeds. -/
theorem sends_deeds (effects : List (Effect ρ)) : sends (deeds effects) = sends effects := by
  rw [sends, deeds, List.filterMap_filter]
  congr 1
  funext e
  cases e <;> rfl

/-- An answer is a deed, so nothing is lost among the deeds. -/
theorem answers_deeds (effects : List (Effect ρ)) : answers (deeds effects) = answers effects := by
  rw [answers, deeds, List.filterMap_filter]
  congr 1
  funext e
  cases e <;> rfl

/-- Deeds that are known tell the frames that were taken. -/
theorem sends_of_deeds {effects done : List (Effect ρ)} (h : deeds effects = done) :
    sends effects = sends done := by
  rw [← sends_deeds, h]

/-- Deeds that are known tell the answers. -/
theorem answers_of_deeds {effects done : List (Effect ρ)} (h : deeds effects = done) :
    answers effects = answers done := by
  rw [← answers_deeds, h]

end Effects

/-! ## Calls -/

/-- A call on a session, or what happens between two calls. -/
inductive Call (ρ σ : Type) where
  | submit (requester : ρ) (text : String) (metadata : Metadata)
  | event (event : Event)
  | connect
  | disconnect
  | purge
  | sweepIdle
  /-- The link is found in another state. -/
  | relink (link : σ)

/-- A call with its surroundings. -/
structure Turn (ρ σ : Type) where
  around : Surroundings ρ
  call : Call ρ σ

/-- What a call returns. -/
inductive Reply where
  | submitted (outcome : Except SessionError SubmitOutcome)
  | started (started : Bool)
  | purged (count : Nat)
  | swept (closed : Bool)
  | done
deriving Repr

/-- Whether a call was a submission that was taken. -/
def Reply.accepted : Reply → Bool
  | submitted (.ok _) => true
  | _ => false

namespace Session

variable {ρ σ : Type} [Link σ]

/-- What a turn returns, and the session after it. -/
def perform (turn : Turn ρ σ) (s : Session ρ σ) : Reply × Session ρ σ :=
  match turn.call with
  | .submit requester text metadata =>
    (s.submit turn.around.now requester text metadata).map .submitted id
  | .event event => (.done, s.handleEvent turn.around event)
  | .connect => s.connect.map .started id
  | .disconnect => (.done, s.disconnect)
  | .purge => s.purge.map .purged id
  | .sweepIdle => (s.sweepIdle turn.around.now).map .swept id
  | .relink link => (.done, s.withLink link)

/-- The session after a turn. -/
def next (s : Session ρ σ) (turn : Turn ρ σ) : Session ρ σ :=
  (s.perform turn).2

/-- The session after several calls. -/
def run (turns : List (Turn ρ σ)) (s : Session ρ σ) : Session ρ σ :=
  turns.foldl next s

@[simp] theorem run_nil (s : Session ρ σ) : s.run [] = s := rfl

/-- A run may be cut anywhere. -/
@[simp] theorem run_append (front back : List (Turn ρ σ)) (s : Session ρ σ) :
    s.run (front ++ back) = (s.run front).run back :=
  List.foldl_append ..

/-- The last turn of a run is made by the session that the others have left. -/
theorem run_concat (turns : List (Turn ρ σ)) (turn : Turn ρ σ) (s : Session ρ σ) :
    s.run (turns ++ [turn]) = (s.run turns).next turn := by
  rw [run_append]; rfl

/-- What holds at the start and is kept by every call holds after every run. -/
theorem run_induction {motive : Session ρ σ → Prop} {s : Session ρ σ} (hstart : motive s)
    (hnext : ∀ s turn, motive s → motive (s.next turn)) (turns : List (Turn ρ σ)) :
    motive (s.run turns) := by
  induction turns generalizing s with
  | nil => exact hstart
  | cons turn more ih => exact ih (hnext s turn hstart)

/-- What was added to the history of a session, in order. -/
def since (earlier later : Session ρ σ) : List (Effect ρ) :=
  (later.history.take (later.history.length - earlier.history.length)).reverse

omit [Link σ] in
/-- What was added to a history, told in its own order, is what was done since. -/
theorem since_of_history_eq {earlier later : Session ρ σ} {effects : List (Effect ρ)}
    (h : later.history = effects.reverse ++ earlier.history) : since earlier later = effects := by
  simp [since, h]

omit [Link σ] in
/-- What was added to a history is the newest first; what was done since, the oldest first. -/
theorem since_eq_reverse {earlier later : Session ρ σ} {effects : List (Effect ρ)}
    (h : later.history = effects ++ earlier.history) : since earlier later = effects.reverse := by
  simp [since, h]

/-! ## A session over a recording link -/

/-- A session of the default configuration over a recording link, before its first call. -/
def recorded : Session Nat RecordingLink :=
  ⟨.default, .new .new ⟨"127.0.0.1", 9595⟩, .empty 1024, none, none, none, []⟩

/-- A session with a token, or without one, is made over the recording link. -/
theorem new_recorded_naming (token : Option String) :
    Session.new { Config.default with identify := token } RecordingLink.new
      = .ok { recorded with config := { Config.default with identify := token } } := by
  have hhost : Endpoint.make "127.0.0.1" 9595 = .ok ⟨"127.0.0.1", 9595⟩ := by rfl
  simp only [Session.new, Config.default, Config.defaultPort, hhost]
  rfl

/-- The session of the default configuration over a recording link. -/
theorem new_recorded : Session.new Config.default RecordingLink.new = .ok recorded :=
  new_recorded_naming none

end Session

/-- A turn at the start of the clock, with every requester waiting for its answer. -/
def Turn.plain (call : Call Nat RecordingLink) : Turn Nat RecordingLink :=
  ⟨⟨⟨0⟩, fun _ => true⟩, call⟩

end CidrLookup
