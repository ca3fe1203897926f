import CidrLookup.Client
import CidrLookup.Proofs.Link.Socket
import CidrLookup.Proofs.Session.Account

/-!
# Calls among helpers

A session that is called makes calls on its link one after another: a flush sends a frame for every
lookup that waits. The helpers and the network do not wait for it to be done, so the socket link
that the next of these calls comes upon need not be the one that the last call left.

`BusyLink` is a socket link that gets on before each call by the steps it was told in advance, and
keeps a record of them. A session over it runs the code of every session. `Amid` says what such a
call comes to on the socket link itself, effect by effect and step by step, and the lemmas below it
take everything that is known of calls over any link (`Extends`, `Handled`) to that form.
-/

namespace CidrLookup

variable {ρ : Type}

open Connection (Does Accounts)

/-! ## Busy links -/

/-- A socket link on which the helpers and the network get on between the calls of its session. -/
structure BusyLink where
  link : SocketLink
  /-- The steps before each of the calls to come. -/
  ahead : List (List Beside)
  /-- The steps that were made, each with the link that it came upon, the newest first. -/
  found : List (SocketLink × Beside)

namespace BusyLink

/-- One step is made. -/
def meet (b : BusyLink) (step : Beside) : BusyLink :=
  { b with link := step.apply b.link, found := (b.link, step) :: b.found }

/-- The steps before the next call are made. -/
def getOn (b : BusyLink) : BusyLink :=
  (b.ahead.headD []).foldl meet { b with ahead := b.ahead.tail }

instance : Link BusyLink where
  startConnect endpoint b := { b.getOn with link := b.getOn.link.startConnect endpoint }
  send frame b :=
    let (result, link) := b.getOn.link.send frame
    (result, { b.getOn with link })
  close b := { b.getOn with link := b.getOn.link.close }

/-- The helpers and the network do not move the link to another number. -/
theorem generation_getOn (b : BusyLink) : b.getOn.link.generation = b.link.generation := by
  have hsteps (steps : List Beside) (b : BusyLink) :
      (steps.foldl meet b).link.generation = b.link.generation := by
    induction steps generalizing b with
    | nil => rfl
    | cons step more ih =>
      rw [List.foldl_cons, ih]
      exact (step.apply_spec b.link).1
  exact hsteps _ _

/-- A look takes what waits in the channel at once. -/
def poll (b : BusyLink) : Arrival × BusyLink :=
  let (arrival, link) := b.link.poll
  (arrival, { b with link })

end BusyLink

/-! ## Connections -/

namespace Connection

/-- The connection over the socket link itself. -/
def alone (c : Connection BusyLink) : Connection SocketLink :=
  ⟨c.link.link, c.endpoint, c.state, c.connectedAt, c.lastSendAt⟩

/-- The same connection with another link. -/
def relink (link : SocketLink) (c : Connection SocketLink) : Connection SocketLink :=
  { c with link }

/-- What a call comes to among helpers: effects of the session and steps beside it, both with the
newest first, each on the connection that the one before has left. -/
inductive Amid : List (Effect ρ) → List (SocketLink × Beside) → Connection SocketLink →
    Connection SocketLink → Prop where
  | nil (c : Connection SocketLink) : Amid [] [] c c
  | does {effect : Effect ρ} {effects : List (Effect ρ)} {found : List (SocketLink × Beside)}
      {c c' c'' : Connection SocketLink} (hmore : Amid effects found c c')
      (hdoes : Does effect c' c'') : Amid (effect :: effects) found c c''
  | beside {effects : List (Effect ρ)} {found : List (SocketLink × Beside)}
      {c c' : Connection SocketLink} (hmore : Amid effects found c c') (step : Beside) :
      Amid effects ((c'.link, step) :: found) c (c'.relink (step.apply c'.link))

namespace Amid

/-- One call after another, with the steps in both of them. -/
theorem append {back front : List (Effect ρ)} {found found' : List (SocketLink × Beside)}
    {c c' c'' : Connection SocketLink} (hback : Amid back found c c')
    (hfront : Amid front found' c' c'') : Amid (front ++ back) (found' ++ found) c c'' := by
  induction hfront with
  | nil => exact hback
  | does _ hdoes ih => exact .does (ih hback) hdoes
  | beside _ step ih => exact .beside (ih hback) step

/-- A call that nothing falls into. -/
theorem of_accounts {effects : List (Effect ρ)} {c c' : Connection SocketLink}
    (h : Accounts effects c c') : Amid effects [] c c' := by
  induction h with
  | nil => exact .nil _
  | cons _ hdoes ih => exact .does ih hdoes

/-- The steps before a call. -/
theorem of_getOn (c : Connection BusyLink) :
    ∃ found, c.link.getOn.found = found ++ c.link.found
      ∧ Amid ([] : List (Effect ρ)) found c.alone (c.alone.relink c.link.getOn.link) := by
  -- along the steps that fall here, for every link that they may find
  have hsteps (steps : List Beside) (b : BusyLink) (c : Connection SocketLink)
      (hlink : c.link = b.link) : ∃ found, (steps.foldl BusyLink.meet b).found = found ++ b.found
        ∧ Amid ([] : List (Effect ρ)) found c (c.relink (steps.foldl BusyLink.meet b).link) := by
    induction steps generalizing b c with
    | nil => exact ⟨[], rfl, hlink ▸ .nil c⟩
    | cons step more ih =>
      obtain ⟨found, hfound, hmore⟩ := ih (b.meet step) (c.relink (step.apply b.link)) rfl
      have hfirst : Amid ([] : List (Effect ρ)) [(b.link, step)] c
          (c.relink (step.apply b.link)) := hlink ▸ .beside (.nil c) step
      refine ⟨found ++ [(b.link, step)], ?_, hfirst.append hmore⟩
      rw [List.foldl_cons, hfound, List.append_assoc]
      rfl
  exact hsteps _ _ _ rfl

/-- On an open connection, a frame is handed to the link as it is after the steps before. -/
theorem send_alone {c : Connection BusyLink} (now : Instant) (frame : Bytes)
    (hstate : c.state = .connected) :
    (c.alone.relink c.link.getOn.link).send now frame
        = ((c.send now frame).1, (c.send now frame).2.alone)
      ∧ (c.send now frame).2.link.found = c.link.getOn.found := by
  have hstate' : (c.alone.relink c.link.getOn.link).state = .connected := hstate
  unfold send
  rw [if_pos hstate, if_pos hstate']
  -- the busy link lets the steps happen first, and then sends as the link alone would
  have hlink : Link.send frame c.link = ((c.link.getOn.link.send frame).1,
      { c.link.getOn with link := (c.link.getOn.link.send frame).2 }) := rfl
  have hlink' : Link.send frame (c.alone.relink c.link.getOn.link).link
      = c.link.getOn.link.send frame := rfl
  rw [hlink, hlink']
  rcases c.link.getOn.link.send frame with ⟨e | ⟨⟨⟩⟩, link⟩
  · exact ⟨rfl, rfl⟩
  · exact ⟨rfl, rfl⟩

/-- **The step.** What an effect makes of a connection over a busy link is what the steps before it
and the effect make of the connection over the socket link. -/
theorem of_does {effect : Effect ρ} {c c' : Connection BusyLink} (h : Does effect c c') :
    ∃ found, c'.link.found = found ++ c.link.found ∧ Amid [effect] found c.alone c'.alone := by
  obtain ⟨found, hfound, hbefore⟩ := of_getOn (ρ := ρ) c
  -- the effects that are no calls on the link let no step come before them
  have hnone {c : Connection BusyLink} (hdoes : Does effect c.alone c.alone) :
      ∃ found, c.link.found = found ++ c.link.found ∧ Amid [effect] found c.alone c.alone :=
    ⟨[], rfl, .does (.nil _) hdoes⟩
  cases h with
  | connect hstate =>
    let met := c.alone.relink c.link.getOn.link
    have hstate' : met.state = .disconnected := hstate
    have hconnect : c.connect.2.alone = met.connect.2 := by
      rw [connect, if_pos hstate, connect, if_pos hstate']
      rfl
    have hsame : c.connect.2.link.found = c.link.getOn.found := by
      rw [connect, if_pos hstate]
      rfl
    have hdoes : Does (.connect met.endpoint : Effect ρ) met met.connect.2 := .connect hstate'
    rw [hconnect, hsame]
    exact ⟨found, hfound, .does hbefore hdoes⟩
  | close => exact ⟨found, hfound, .does hbefore (.close _)⟩
  | @sent _ c' now requester frame hsend =>
    have hstate : c.state = .connected := Decidable.byContradiction fun hstate => by
      simp [send, hstate] at hsend
    obtain ⟨halone, hsame⟩ := send_alone now frame hstate
    rw [hsend] at halone hsame
    exact ⟨found, hsame.trans hfound, .does hbefore (.sent halone)⟩
  | @refused _ c' now frame e hsend =>
    by_cases hstate : c.state = .connected
    · obtain ⟨halone, hsame⟩ := send_alone now frame hstate
      rw [hsend] at halone hsame
      exact ⟨found, hsame.trans hfound, .does hbefore (.refused halone)⟩
    · rw [send, if_neg hstate] at hsend
      cases hsend
      have hsend' : c.alone.send now frame = (.error .notConnected, c.alone) := if_neg hstate
      exact hnone (.refused hsend')
  | resolved _ requester resolution => exact hnone (.resolved _ requester resolution)
  | notice _ hlook => exact hnone (.notice _ hlook)

/-- **The call.** -/
theorem of_busy {effects : List (Effect ρ)} {c c' : Connection BusyLink}
    (h : Accounts effects c c') :
    ∃ found, c'.link.found = found ++ c.link.found ∧ Amid effects found c.alone c'.alone := by
  induction h with
  | nil => exact ⟨[], rfl, .nil _⟩
  | cons _ hdoes ih =>
    obtain ⟨found, hfound, hmore⟩ := ih
    obtain ⟨found', hfound', hlast⟩ := of_does hdoes
    refine ⟨found' ++ found, ?_, hmore.append hlast⟩
    rw [hfound', hfound, List.append_assoc]

end Amid

end Connection

/-! ## Sessions -/

namespace Session

open Connection (Amid)

/-- The session over the socket link itself. -/
def alone (s : Session ρ BusyLink) : Session ρ SocketLink :=
  ⟨s.config, s.connection.alone, s.queue, s.info, s.halted, s.lastError, s.history⟩

/-- The session over a link on which steps come before each of the calls to come. -/
def amid (ahead : List (List Beside)) (s : Session ρ SocketLink) : Session ρ BusyLink :=
  let c := s.connection
  ⟨s.config, ⟨⟨c.link, ahead, []⟩, c.endpoint, c.state, c.connectedAt, c.lastSendAt⟩, s.queue,
    s.info, s.halted, s.lastError, s.history⟩

/-- The history of a session has grown by effects that, with the steps beside them, account for its
connection. -/
def Goes (found : List (SocketLink × Beside)) (s s' : Session ρ SocketLink) : Prop :=
  ∃ effects, s'.history = effects ++ s.history ∧ Amid effects found s.connection s'.connection

namespace Goes

theorem trans {found found' : List (SocketLink × Beside)} {s s' s'' : Session ρ SocketLink}
    (h : Goes found s s') (h' : Goes found' s' s'') : Goes (found' ++ found) s s'' := by
  obtain ⟨back, hback, hfirst⟩ := h
  obtain ⟨front, hfront, hthen⟩ := h'
  refine ⟨front ++ back, ?_, hfirst.append hthen⟩
  rw [hfront, hback, List.append_assoc]

/-- A call that nothing falls into. -/
theorem of_extends {s s' : Session ρ SocketLink} (h : Extends s s') : Goes [] s s' := by
  obtain ⟨effects, hhistory, haccounts⟩ := h
  exact ⟨effects, hhistory, .of_accounts haccounts⟩

/-- A call over a busy link. -/
theorem of_busy {s s' : Session ρ BusyLink} (h : Extends s s') :
    ∃ found, s'.connection.link.found = found ++ s.connection.link.found
      ∧ Goes found s.alone s'.alone := by
  obtain ⟨effects, hhistory, haccounts⟩ := h
  obtain ⟨found, hfound, hamid⟩ := Amid.of_busy haccounts
  exact ⟨found, hfound, effects, hhistory, hamid⟩

end Goes

/-- What a session makes of an event among helpers. -/
inductive Heard (around : Surroundings ρ) (found : List (SocketLink × Beside))
    (s : Session ρ SocketLink) : Event → Session ρ SocketLink → Prop where
  /-- The connection is marked as connected, and the session goes on from there. -/
  | up {s' : Session ρ SocketLink} (hgoes : Goes found (s.markUp around.now) s') :
      Heard around found s .connected s'
  | received {frame : Bytes} {s' : Session ρ SocketLink} (hgoes : Goes found s s') :
      Heard around found s (.received frame) s'
  /-- The connection is over, or the session does not want it; steps may come before the close. -/
  | ended {event : Event} {s' : Session ρ SocketLink} {c : Connection SocketLink}
      (hgoes : Goes found s s') (hgeneration : c.link.generation = s.connection.link.generation)
      (hconnection : s'.connection = c.disconnect) : Heard around found s event s'

namespace Heard

variable {around : Surroundings ρ} {event : Event}

/-- An event that is heard with no steps in between. -/
theorem of_handled {s s' : Session ρ SocketLink} (h : Handled around s event s') :
    Heard around [] s event s' := by
  cases h with
  | up hextends => exact .up (.of_extends hextends)
  | received hextends => exact .received (.of_extends hextends)
  | ended hextends hconnection => exact .ended (.of_extends hextends) rfl hconnection

/-- An event that is heard over a busy link, with the steps that it found. -/
theorem of_busy {s s' : Session ρ BusyLink} (h : Handled around s event s') :
    ∃ found, s'.connection.link.found = found ++ s.connection.link.found
      ∧ Heard around found s.alone event s'.alone := by
  cases h with
  | up hextends =>
    obtain ⟨found, hfound, hgoes⟩ := Goes.of_busy hextends
    exact ⟨found, hfound, .up hgoes⟩
  | received hextends =>
    obtain ⟨found, hfound, hgoes⟩ := Goes.of_busy hextends
    exact ⟨found, hfound, .received hgoes⟩
  | ended hextends hconnection =>
    obtain ⟨found, hfound, hgoes⟩ := Goes.of_busy hextends
    have hclosed : s'.alone.connection
        = (s.connection.alone.relink s.connection.link.getOn.link).disconnect :=
      congrArg Connection.alone hconnection
    exact ⟨found, hfound, .ended hgoes s.connection.link.generation_getOn hclosed⟩

end Heard

end Session

end CidrLookup
