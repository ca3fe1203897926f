import CidrLookup.Client

/-!
# Worlds that remember

What a look at the link brings is up to the world, and a session is driven by whatever comes. A
world that remembers keeps a list of it, so that one can say of a session what it was brought.
Remembering changes nothing else, and `runUntil_spec` is the way to prove something of every
session that was driven, in every world.
-/

namespace CidrLookup

variable {ρ σ W : Type}

/-- The same world, which keeps what looks at the link have brought, the newest first. -/
def World.remembering (world : World (StateM W) σ) : World (StateM (W × List Arrival)) σ where
  now state := ((world.now state.1).1, ((world.now state.1).2, state.2))
  timestamp state := ((world.timestamp state.1).1, ((world.timestamp state.1).2, state.2))
  wait timeout link state :=
    let looked := world.wait timeout link state.1
    (looked.1, (looked.2, looked.1.1 :: state.2))

/-- A world that remembers tells the same time, and remembers nothing of being asked. -/
theorem World.now_remembering (world : World (StateM W) σ) (w : W) (brought : List Arrival) :
    world.remembering.now (w, brought) = ((world.now w).1, ((world.now w).2, brought)) := rfl

namespace Session

open World (now_remembering)

variable [Link σ] (world : World (StateM W) σ) (reachable : ρ → Bool) (deadline : Instant)
  (done : Session ρ σ → Bool)

/-- One look and the rest of the wait. -/
theorem runUntil_succ (polls : Nat) (s : Session ρ σ) (w : W) :
    runUntil world reachable deadline done (polls + 1) s w
      = if done s then ((true, s), w)
        else if deadline.nanos ≤ (world.now w).1.nanos then ((false, s), (world.now w).2)
        else
          let slice := min (deadline.since (world.now w).1).nanos pollSlice.nanos
          let looked := s.poll world reachable ⟨slice⟩ (world.now w).2
          runUntil world reachable deadline done polls looked.1.2 looked.2 := by
  -- the loop as it is, one `if` after the other, with the time read once
  rw [runUntil]
  by_cases hdone : done s
  · rw [if_pos hdone, if_pos hdone]
    rfl
  · rw [if_neg hdone, if_neg hdone]
    by_cases hlate : deadline.nanos ≤ (world.now w).1.nanos
    · rw [if_pos hlate]
      show (if deadline.nanos ≤ (world.now w).1.nanos then _ else _ : StateM W _) _ = _
      rw [if_pos hlate]
      rfl
    · rw [if_neg hlate]
      show (if deadline.nanos ≤ (world.now w).1.nanos then _ else _ : StateM W _) _ = _
      rw [if_neg hlate]
      rfl

/-- **Driving a session.** Remembering changes nothing about what a wait comes to. What holds of a
session and of what it was brought, and is kept by every look, holds after the wait; and a wait that
says its condition holds is right. -/
theorem runUntil_spec {motive : List Arrival → Session ρ σ → Prop}
    (harrive : ∀ brought s link now arrival, motive brought s →
      motive (arrival :: brought) ((s.withLink link).arrive ⟨now, reachable⟩ arrival).2)
    (polls : Nat) {s : Session ρ σ} {brought : List Arrival} (w : W) (hstart : motive brought s) :
    ∃ settled s' w' brought',
      runUntil world reachable deadline done polls s w = ((settled, s'), w')
        ∧ runUntil world.remembering reachable deadline done polls s (w, brought)
          = ((settled, s'), (w', brought'))
        ∧ motive brought' s' ∧ (settled → done s') := by
  -- look by look; both worlds tell the same time, so both loops take the same way
  induction polls generalizing s w brought with
  | zero => exact ⟨done s, s, w, brought, rfl, rfl, hstart, id⟩
  | succ polls ih =>
    rw [runUntil_succ, runUntil_succ, now_remembering]
    by_cases hdone : done s
    · rw [if_pos hdone, if_pos hdone]
      exact ⟨true, s, w, brought, rfl, rfl, hstart, fun _ => hdone⟩
    · rw [if_neg hdone, if_neg hdone]
      by_cases hlate : deadline.nanos ≤ (world.now w).1.nanos
      · rw [if_pos hlate, if_pos hlate]
        exact ⟨false, s, (world.now w).2, brought, rfl, rfl, hstart, fun h => by contradiction⟩
      · rw [if_neg hlate, if_neg hlate]
        exact ih _ (harrive _ _ _ _ _ hstart)

end Session

end CidrLookup
