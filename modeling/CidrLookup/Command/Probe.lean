import CidrLookup.Client
import CidrLookup.Command.Ending
import CidrLookup.Command.Timeout

/-!
# The probe command

Connects and waits for the service to announce itself. What it announces is printed.
-/

namespace CidrLookup.Command.Probe

variable {σ : Type}

/-- Whether there is nothing to wait for any more. -/
def isSettled (s : Session Unit σ) : Bool :=
  s.info.isSome || s.halted.isSome || s.connection.state = .disconnected

variable [Link σ]

/-- What is made of the session after the wait, which was `settled` or ran out of time. -/
def conclude (target : Target) (format : OutputFormat) (timeout : Duration) (time : String)
    (settled : Bool) (s : Session Unit σ) : Ending σ :=
  let endpoint := target.endpoint
  match s.info, s.halted with
  | some info, _ =>
    .ofSession (Output.service format endpoint info time) (.finished .success) s.disconnect
  | none, some reason => .ofSession "" (.failed ⟨.failure, "probe halted: " ++ reason⟩) s
  | none, none =>
    if settled then
      let reason := s.lastError.getD "connection closed by service"
      .ofSession "" (.failed ⟨.transport, "probe " ++ endpoint ++ ": " ++ reason⟩) s
    else
      .ofSession "" (.failed ⟨.timeout,
        "no greeting from " ++ endpoint ++ " within " ++ timeout.format⟩) s

variable {m : Type → Type} [Monad m]

/-- Drives a session that is connecting. -/
def drive (world : World m σ) (target : Target) (format : OutputFormat) (timeout : Duration)
    (s : Session Unit σ) : m (Ending σ) := do
  match (← world.now).after? timeout with
  | none => return .ofSession "" (.aborted "the deadline lies beyond the end of the clock") s
  | some deadline =>
    let (settled, s) ← s.runUntil world (fun _ => true) deadline isSettled Session.maxPolls
    return conclude target format timeout (← world.timestamp) settled s

/-- Connects and prints what the service announces. -/
def run (world : World m σ) (makeLink : Config → σ) (target : Target) (format : OutputFormat)
    (timeout : String) : m (Ending σ) := do
  match Timeout.parse timeout with
  | .error failure => return .early (.failed failure) ""
  | .ok timeout =>
    let config := target.config timeout
    match Session.new config (makeLink config) with
    | .error e => return .early (.failed (.ofSession "probe" e)) ""
    | .ok s => drive world target format timeout s.connect.2

end CidrLookup.Command.Probe
