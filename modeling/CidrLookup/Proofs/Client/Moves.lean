import CidrLookup.Proofs.Client.Stretch

/-!
# A session among its helpers

A session over a socket link is one party of several. Its owner calls it and looks at the link; the
helpers of each attempt make their steps beside it, and so does the network, between two calls of
the owner as well as within one, before any of the calls that the session makes on its link
meanwhile. A run is any finite sequence of what they do, in whatever order they get to it:
`isInStep_follow` says that between two calls of every run the history of the session and its link
belong together, and `next_follow` that the link at the end of a run is a later one.

What a move comes to is said once, by `move_made`; every invariant of runs is proved by cases on it.
-/

namespace CidrLookup

/-- What the owner of a session does. -/
inductive Act (ρ : Type) where
  | submit (now : Instant) (requester : ρ) (text : String) (metadata : Metadata)
  | connect
  | disconnect
  | purge
  /-- The owner looks at the link once. -/
  | poll (around : Surroundings ρ)

/-- What one of the parties does. -/
inductive Move (ρ : Type) where
  /-- The owner acts, and nothing falls in between. -/
  | act (act : Act ρ)
  /-- The owner acts, and before each call that the session makes on its link there are steps of the
  helpers and the network. -/
  | amid (act : Act ρ) (ahead : List (List Beside))
  /-- A helper makes a step, or the network does, between two acts of the owner. -/
  | beside (step : Beside)

namespace Act

variable {ρ : Type}

/-- The surroundings of a look. -/
def around? : Act ρ → Option (Surroundings ρ)
  | poll around => some around
  | _ => none

end Act

namespace Move

variable {ρ : Type}

/-- A submission that nothing falls into. -/
def submit (now : Instant) (requester : ρ) (text : String) (metadata : Metadata) : Move ρ :=
  .act (.submit now requester text metadata)

/-- The wish to connect, and nothing falls in between. -/
def connect : Move ρ := .act .connect

/-- The end of a connection on request, and nothing falls in between. -/
def disconnect : Move ρ := .act .disconnect

/-- A look at the link that nothing falls into. -/
def poll (around : Surroundings ρ) : Move ρ := .act (.poll around)

/-- A helper of the attempt of a number makes a step. -/
def helper (generation : Nat) (step : SocketLink.Step) : Move ρ := .beside (.helper generation step)

/-- The stream of an attempt is found in another state. -/
def network (generation : Nat) (stream : Stream) : Move ρ := .beside (.network generation stream)

/-- The surroundings of a look at the link. -/
def around? : Move ρ → Option (Surroundings ρ)
  | act a | amid a _ => a.around?
  | beside _ => none

end Move

namespace Session

variable {ρ σ : Type}

open SocketLink (Later Next Looked)
open Connection (Amid)

/-! ## Acts -/

section Acts

variable [Link σ] (look : σ → Arrival × σ)

/-- A world in which a look takes what waits, and no time passes. -/
def still (now : Instant) : World Id σ :=
  ⟨now, "", fun _ link => look link⟩

/-- The session after its owner has acted. -/
def act (s : Session ρ σ) : Act ρ → Session ρ σ
  | .submit now requester text metadata => (s.submit now requester text metadata).2
  | .connect => s.connect.2
  | .disconnect => s.disconnect
  | .purge => s.purge.2
  | .poll around => (s.poll (still look around.now) around.reachable ⟨0⟩).2

/-- The session after a look has been noted, and an event passed on. -/
def noteArrival (around : Surroundings ρ) (arrival : Arrival) (s : Session ρ σ) : Session ρ σ :=
  match arrival with
  | .event event => (s.note (.linkEvent event)).handleEvent around event
  | .stale generation current => s.note (.staleSignal generation current)
  | .quiet => s

/-- Every act but a look is a call that extends the session. -/
theorem extends_act {a : Act ρ} (h : a.around? = none) (s : Session ρ σ) :
    Extends s (s.act look a) := by
  cases a with
  | submit now requester text metadata => exact extends_submit now requester text metadata s
  | connect => exact extends_connect s
  | disconnect => exact extends_linkLost s
  | purge => exact extends_purge s
  | poll around => contradiction

/-- After a look has been noted, an idle connection may be swept. -/
theorem extends_poll (around : Surroundings ρ) (s : Session ρ σ) :
    Extends ((s.withLink (look s.connection.link).2).noteArrival around (look s.connection.link).1)
      (s.act look (.poll around)) := by
  show Extends _ ((s.withLink (look s.connection.link).2).arrive around
    (look s.connection.link).1).2
  cases (look s.connection.link).1 <;> exact extends_sweepIdle around.now _

end Acts

/-! ## Moves -/

/-- The session after a move. -/
def move (s : Session ρ SocketLink) : Move ρ → Session ρ SocketLink
  | .act a => s.act SocketLink.poll a
  | .amid a ahead => ((s.amid ahead).act BusyLink.poll a).alone
  | .beside step => s.withLink (step.apply s.connection.link)

/-- The steps beside the session that a move has brought, each with the link that it came upon, the
newest first. -/
def found (s : Session ρ SocketLink) : Move ρ → List (SocketLink × Beside)
  | .act _ => []
  | .amid a ahead => ((s.amid ahead).act BusyLink.poll a).connection.link.found
  | .beside step => [(s.connection.link, step)]

/-- The session after several moves. -/
def follow (moves : List (Move ρ)) (s : Session ρ SocketLink) : Session ρ SocketLink :=
  moves.foldl move s

/-- What holds at the start and is kept by every move holds after every run. -/
theorem follow_induction {motive : Session ρ SocketLink → Prop} {s : Session ρ SocketLink}
    (hstart : motive s) (hmove : ∀ s move, motive s → motive (s.move move))
    (moves : List (Move ρ)) : motive (s.follow moves) := by
  induction moves generalizing s with
  | nil => exact hstart
  | cons move more ih => exact ih (hmove s move hstart)

/-! ## What a move does -/

/-- What a session makes of a look among helpers. -/
inductive Arrived (around : Surroundings ρ) (s : Session ρ SocketLink) :
    List (SocketLink × Beside) → Arrival → Session ρ SocketLink → Prop where
  | event {found : List (SocketLink × Beside)} {event : Event} {s' : Session ρ SocketLink}
      (hheard : Heard around found (s.note (.linkEvent event)) event s') :
      Arrived around s found (.event event) s'
  | stale (generation current : Nat) :
      Arrived around s [] (.stale generation current) (s.note (.staleSignal generation current))
  | quiet : Arrived around s [] .quiet s

/-- What a move makes of a session, with the steps beside it. -/
inductive Made (s : Session ρ SocketLink) :
    Move ρ → List (SocketLink × Beside) → Session ρ SocketLink → Prop where
  /-- The owner has called the session. -/
  | called {move : Move ρ} {found : List (SocketLink × Beside)} {s' : Session ρ SocketLink}
      (hmove : move.around? = none) (hgoes : Goes found s s') : Made s move found s'
  /-- The owner has taken a signal and passed on what it says; an idle connection is swept. -/
  | looked {move : Move ρ} {around : Surroundings ρ} {found found' : List (SocketLink × Beside)}
      {mid s' : Session ρ SocketLink} (hmove : move.around? = some around)
      (harrived : Arrived around (s.withLink s.connection.link.poll.2) found
        s.connection.link.poll.1 mid)
      (hswept : Goes found' mid s') : Made s move (found' ++ found) s'
  | beside (step : Beside) : Made s (.beside step) [(s.connection.link, step)]
      (s.withLink (step.apply s.connection.link))

/-- A look that nothing falls into. -/
theorem arrived_noteArrival (around : Surroundings ρ) (arrival : Arrival)
    (s : Session ρ SocketLink) : Arrived around s [] arrival (s.noteArrival around arrival) := by
  cases arrival with
  | event event => exact .event (.of_handled (handleEvent_handled around event _))
  | stale generation current => exact .stale generation current
  | quiet => exact .quiet

/-- A look over a busy link. -/
theorem arrived_busy (around : Surroundings ρ) (arrival : Arrival) (s : Session ρ BusyLink) :
    ∃ found, (s.noteArrival around arrival).connection.link.found
        = found ++ s.connection.link.found
      ∧ Arrived around s.alone found arrival (s.noteArrival around arrival).alone := by
  cases arrival with
  | event event =>
    obtain ⟨found, hfound, hheard⟩ :=
      Heard.of_busy (handleEvent_handled around event (s.note (.linkEvent event)))
    exact ⟨found, hfound, .event hheard⟩
  | stale generation current => exact ⟨[], rfl, .stale generation current⟩
  | quiet => exact ⟨[], rfl, .quiet⟩

/-- **What a move does**, whoever makes it and whatever falls into it. -/
theorem move_made (s : Session ρ SocketLink) (move : Move ρ) :
    Made s move (s.found move) (s.move move) := by
  cases move with
  | act a =>
    cases hlook : a.around? with
    | none => exact .called hlook (.of_extends (extends_act SocketLink.poll hlook s))
    | some around =>
      obtain rfl : a = .poll around := by
        cases a with
        | poll around' => exact congrArg Act.poll (Option.some.inj hlook)
        | _ => contradiction
      exact .looked rfl (arrived_noteArrival around _ _)
        (.of_extends (extends_poll SocketLink.poll around s))
  -- the busy link lists the steps that it comes upon, and it started with an empty list
  | amid a ahead =>
    let busy := s.amid ahead
    have hbusy : busy.connection.link.found = [] := rfl
    cases hlook : a.around? with
    | none =>
      obtain ⟨found, hfound, hgoes⟩ := Goes.of_busy (extends_act BusyLink.poll hlook busy)
      rw [hbusy, List.append_nil] at hfound
      rw [← hfound] at hgoes
      exact .called hlook hgoes
    | some around =>
      obtain rfl : a = .poll around := by
        cases a with
        | poll around' => exact congrArg Act.poll (Option.some.inj hlook)
        | _ => contradiction
      let looked := busy.withLink busy.connection.link.poll.2
      obtain ⟨found, hfound, harrived⟩ := arrived_busy around busy.connection.link.poll.1 looked
      obtain ⟨found', hfound', hswept⟩ := Goes.of_busy (extends_poll BusyLink.poll around busy)
      have hall : s.found (.amid (.poll around) ahead) = found' ++ found := by
        show ((s.amid ahead).act BusyLink.poll (.poll around)).connection.link.found = _
        rw [hfound', hfound]
        exact congrArg (found' ++ ·) (List.append_nil found)
      rw [hall]
      exact .looked rfl harrived hswept
  | beside step => exact .beside step

/-! ## The link along a run -/

/-- Each effect moves the link on. -/
theorem next_of_does {effect : Effect ρ} {c c' : Connection SocketLink}
    (h : Connection.Does effect c c') : Next c.link c'.link := by
  cases h with
  | connect hstate =>
    rw [(connect_spec hstate).1]
    exact SocketLink.next_startConnect c.link c.endpoint
  | close => exact SocketLink.next_close c.link
  | sent hsend => exact (link_of_send hsend).1
  | refused hsend => exact (link_of_send hsend).1
  | resolved => exact .refl _
  | notice => exact .refl _

/-- A call with steps in it moves the link on. -/
theorem next_of_amid {effects : List (Effect ρ)} {found : List (SocketLink × Beside)}
    {c c' : Connection SocketLink} (h : Amid effects found c c') : Next c.link c'.link := by
  induction h with
  | nil => exact .refl _
  | does _ hdoes ih => exact ih.trans (next_of_does hdoes)
  | beside _ step ih => exact ih.trans (step.next_apply _)

section

variable {found : List (SocketLink × Beside)} {s s' : Session ρ SocketLink}

/-- Whatever a session goes through moves its link on. -/
theorem Goes.next (h : Goes found s s') : Next s.connection.link s'.connection.link := by
  obtain ⟨effects, -, hamid⟩ := h
  exact next_of_amid hamid

/-- What arrives moves the link on. -/
theorem Arrived.next {around : Surroundings ρ} {arrival : Arrival}
    (h : Arrived around s found arrival s') : Next s.connection.link s'.connection.link := by
  cases h with
  | event hheard =>
    -- marking the connection as connected leaves the link alone
    cases hheard with
    | up hgoes => exact hgoes.next
    | received hgoes => exact hgoes.next
    | ended hgoes => exact hgoes.next
  | stale => exact .refl _
  | quiet => exact .refl _

end

/-- Every move moves the link on. -/
theorem next_move (s : Session ρ SocketLink) (move : Move ρ) :
    Next s.connection.link (s.move move).connection.link := by
  have hmade := move_made s move
  generalize s.found move = found at hmade
  generalize s.move move = s' at hmade ⊢
  cases hmade with
  | called _ hgoes => exact hgoes.next
  | looked _ harrived hswept =>
    obtain ⟨-, hlooked⟩ := SocketLink.poll_spec s.connection.link
    exact (hlooked.trans harrived.next).trans hswept.next
  | beside step => exact step.next_apply s.connection.link

/-- Every run moves the link on. -/
theorem next_follow (s : Session ρ SocketLink) (moves : List (Move ρ)) :
    Next s.connection.link (s.follow moves).connection.link :=
  follow_induction (motive := fun s' => Next s.connection.link s'.connection.link) (.refl _)
    (fun s' move h => h.trans (next_move s' move)) moves

/-! ## The history along a run -/

/-- The history of a session belongs to its connection, as it does between two calls. -/
def IsInStep (s : Session ρ SocketLink) : Prop :=
  InStep s.history s.connection

section

variable {found : List (SocketLink × Beside)} {s s' : Session ρ SocketLink}

/-- A session goes on in keeping with its history. -/
theorem Goes.follows (h : Goes found s s') (hs : Follows s.history s.connection) :
    Follows s'.history s'.connection := by
  obtain ⟨effects, hhistory, hamid⟩ := h
  rw [hhistory]
  exact hs.amid hamid

/-- A session goes on in step with its history. -/
theorem Goes.isInStep (h : Goes found s s') (hs : s.IsInStep) : s'.IsInStep := by
  obtain ⟨effects, hhistory, hamid⟩ := h
  rw [IsInStep, hhistory]
  exact InStep.amid hs hamid

end

/-- The start: nothing was done and no attempt was begun. -/
theorem isInStep_new {config : Config} {s : Session ρ SocketLink}
    (h : Session.new config (.ofConfig config) = .ok s) : s.IsInStep := by
  obtain ⟨hstate, -, -, hhistory⟩ := new_spec h
  have hlink : s.connection.link = .ofConfig config := link_of_new h
  rw [IsInStep, hhistory]
  -- there are no attempts and no history yet, so each part holds of nothing
  refine ⟨⟨?_, ?_, ?_, ?_, ?_, ?_, ?_, ?_⟩, ?_, ?_⟩
  · rw [hlink]
    exact ⟨List.nodup_nil, by simp [SocketLink.ofConfig, SocketLink.new],
      by simp [SocketLink.ofConfig, SocketLink.new],
      by simp [SocketLink.ofConfig, SocketLink.new], fun h => by contradiction⟩
  · rw [hlink]; rfl
  · exact ⟨fun _ _ _ _ => not_stretch_nil, fun _ => hstate⟩
  · rw [hlink]
    rintro - ⟨a, ha, -⟩
    contradiction
  · exact fun hstretch => absurd hstretch not_stretch_nil
  · intro moment _ _ _ hmoment hstretch
    rw [List.suffix_nil.1 hmoment] at hstretch
    exact absurd hstretch not_stretch_nil
  · intro _ _ hmoment
    simp at hmoment
  · rw [hlink]
    exact .nil
  · exact fun _ _ _ hstretch => absurd hstretch not_stretch_nil
  · rw [hlink, hstate]
    simp [SocketLink.ofConfig, SocketLink.new]

/-- **A look.** Whatever a signal says, the session and its link come to terms about it before the
next call. -/
theorem Arrived.isInStep {s mid : Session ρ SocketLink} (hs : s.IsInStep)
    {around : Surroundings ρ} {found : List (SocketLink × Beside)}
    (h : Arrived around (s.withLink s.connection.link.poll.2) found s.connection.link.poll.1 mid) :
    mid.IsInStep := by
  obtain ⟨hlooked, hnext⟩ := SocketLink.poll_spec s.connection.link
  generalize s.connection.link.poll.1 = arrival at hlooked h
  generalize s.connection.link.poll.2 = link at hlooked hnext h
  cases hlooked with
  | quiet =>
    cases h
    exact hs
  | stale hstale hgeneration hreceived hopen =>
    cases h
    exact hs.cons_stale hnext hstale hgeneration hreceived hopen
  | @event event report _ hgeneration hreceived hopen hevent =>
    subst hevent
    have hnoted := InStep.cons_event hs hnext hgeneration hreceived
    have hlive (hend : ¬ report.event.isEnd) :
        Live (.notice (.linkEvent report.event) :: s.history) := by
      refine hs.live.cons fun event hheard => ?_
      cases hheard
      exact hend
    cases h with
    | event hheard =>
      generalize hevent : report.event = event at hheard hlive
      cases hheard with
      | up hgoes =>
        -- the report opened the link, and the session is marked as connected
        have hreport : report = .connected := Report.eq_of_event_eq hevent
        have hup : link.isOpen := by
          rw [hopen, hreport]
          rfl
        rw [hevent] at hnoted
        refine hgoes.isInStep ⟨?_, hlive (by simp [Event.isEnd]), ?_⟩
        · have hstate := hs.follows.state_of_received hnext hgeneration hreceived
          refine hnoted.relink (.refl _) rfl rfl ⟨fun h => ?_, fun h => absurd h hstate⟩
          contradiction
        · exact ⟨fun _ => rfl, fun _ => hup⟩
      | @received frame _ hgoes =>
        have hreport : report = .received frame := Report.eq_of_event_eq hevent
        have hsame : link.isOpen = s.connection.link.isOpen := by
          rw [hopen, hreport]
          rfl
        rw [hevent] at hnoted
        refine hgoes.isInStep ⟨hnoted, hlive (by simp [Event.isEnd]), ?_⟩
        show link.isOpen ↔ s.connection.state = .connected
        rw [hsame]
        exact hs.isOpen_iff
      | ended hgoes _ hconnection =>
        rw [hevent] at hnoted
        have hfollows := hgoes.follows hnoted
        rw [IsInStep, hconnection]
        rw [hconnection] at hfollows
        exact .of_disconnect hfollows

/-- **The step.** Whatever one of the parties does, the session and its link are in step. -/
theorem isInStep_move {s : Session ρ SocketLink} (hs : s.IsInStep) (move : Move ρ) :
    (s.move move).IsInStep := by
  have hmade := move_made s move
  generalize s.found move = found at hmade
  generalize s.move move = s' at hmade ⊢
  cases hmade with
  | called _ hgoes => exact hgoes.isInStep hs
  | looked _ harrived hswept => exact hswept.isInStep (harrived.isInStep hs)
  | beside step => exact InStep.beside hs step

/-- After every run, a session is in step with its history. -/
theorem isInStep_follow {config : Config} {start : Session ρ SocketLink}
    (hnew : Session.new config (.ofConfig config) = .ok start) (moves : List (Move ρ)) :
    (start.follow moves).IsInStep :=
  follow_induction (isInStep_new hnew) (fun _ move hs => isInStep_move hs move) moves

end Session

end CidrLookup
