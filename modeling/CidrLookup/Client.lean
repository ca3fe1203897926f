import CidrLookup.Session

/-!
# Driving a session

A session waits for nothing, so somebody has to look for what happens on its link and to pass it
on. Each look is followed by a sweep of an idle connection. The world says what time it is and what
a look brings.
-/

namespace CidrLookup

/-- What a session is driven by: a clock, and a look at the link that waits for an event no longer
than it is told to. -/
structure World (m : Type → Type) (σ : Type) where
  now : m Instant
  /-- The time of day in whole seconds, as text. -/
  timestamp : m String
  wait : Duration → σ → m (Arrival × σ)

namespace Session

variable {ρ σ : Type} [Link σ]

/-- Passes on what a look at the link has brought, and sweeps an idle connection. Says whether an
event reached the session. -/
def arrive (around : Surroundings ρ) (arrival : Arrival) (s : Session ρ σ) :
    Bool × Session ρ σ :=
  let (applied, next) := match arrival with
    | .event event => (true, (s.note (.linkEvent event)).handleEvent around event)
    | .stale generation current => (false, s.note (.staleSignal generation current))
    | .quiet => (false, s)
  (applied, (next.sweepIdle around.now).2)

/-- The same session with another link. -/
def withLink (link : σ) (s : Session ρ σ) : Session ρ σ :=
  { s with connection := { s.connection with link } }

variable {m : Type → Type} [Monad m]

/-- Looks at the link once. -/
def poll (world : World m σ) (reachable : ρ → Bool) (timeout : Duration) (s : Session ρ σ) :
    m (Bool × Session ρ σ) := do
  let (arrival, link) ← world.wait timeout s.connection.link
  let now ← world.now
  return (s.withLink link).arrive ⟨now, reachable⟩ arrival

/-- The longest single wait, so that an idle connection is swept while nothing arrives. -/
def pollSlice : Duration := .ofMillis 100

/-- Looks at the link at most `polls` times, until a condition holds or the deadline has passed;
says whether the condition held. -/
def runUntil (world : World m σ) (reachable : ρ → Bool) (deadline : Instant)
    (done : Session ρ σ → Bool) : (polls : Nat) → Session ρ σ → m (Bool × Session ρ σ)
  | 0, s => return (done s, s)
  | polls + 1, s => do
    if done s then return (true, s)
    let now ← world.now
    if deadline.nanos ≤ now.nanos then return (false, s)
    let timeout := min (deadline.since now).nanos pollSlice.nanos
    let (_, s) ← s.poll world reachable ⟨timeout⟩
    runUntil world reachable deadline done polls s

/-- Looks at the link at most `polls` times until an event reaches the session; says whether one
did. -/
def awaitEvent (world : World m σ) (reachable : ρ → Bool) :
    (polls : Nat) → Session ρ σ → m (Bool × Session ρ σ)
  | 0, s => return (false, s)
  | polls + 1, s => do
    match ← s.poll world reachable pollSlice with
    | (true, s) => return (true, s)
    | (false, s) => awaitEvent world reachable polls s

/-- More looks than a clock counts nanoseconds. -/
def maxPolls : Nat := Numeral.maxLong

end Session

end CidrLookup
