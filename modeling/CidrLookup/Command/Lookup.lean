import CidrLookup.Client
import CidrLookup.Command.Ending
import CidrLookup.Command.Timeout

/-!
# The lookup command

Every address is checked before anything else is done. All are then submitted, each under its place
on the command line, and the session is driven until no lookup is outstanding, the session has
halted or lost its connection, or the time is up. What is printed is one row an address, in the
order of the command line; a command that fails prints none.
-/

namespace CidrLookup.Command

/-- The answer that the requester of a number was given last. -/
def answerOf (history : List (Effect Nat)) (requester : Nat) : Option Resolution :=
  history.findSome? fun
    | .resolved r resolution => if r = requester then some resolution else none
    | _ => none

/-- A row for each address. -/
def rows {σ : Type} (addresses : List String) (s : Session Nat σ) : List Output.Row :=
  addresses.mapIdx fun i text => ⟨text, answerOf s.history i⟩

namespace Lookup

/-- Refuses texts that are no addresses; the first one counts. -/
def check : List String → Except Failure Unit
  | [] => .ok ()
  | text :: more =>
    match Address.parse text with
    | .ok _ => check more
    | .error e =>
      .error ⟨.invalidData, "invalid address " ++ Text.quoted text ++ ": " ++ e.message⟩

variable {σ : Type}

/-- Whether there is nothing to wait for any more. -/
def isSettled (s : Session Nat σ) : Bool :=
  s.queue.outstanding = 0 || s.halted.isSome || s.connection.state = .disconnected

variable [Link σ]

/-- Submits addresses under the numbers from `first` on, until one is refused. -/
def submitAll (now : Instant) (metadata : Metadata) :
    (first : Nat) → List String → Session Nat σ → Except SessionError Unit × Session Nat σ
  | _, [], s => (.ok (), s)
  | i, text :: more, s =>
    match s.submit now i text metadata with
    | (.error e, s) => (.error e, s)
    | (.ok outcome, s) => submitAll now metadata (i + 1) more (s.note (.submitted text outcome))

/-- What is made of the session after the wait, which was `settled` or ran out of time. -/
def conclude (target : Target) (format : OutputFormat) (addresses : List String) (settled : Bool)
    (s : Session Nat σ) : Ending σ :=
  let printed := Output.lookups format (rows addresses s)
  match s.halted with
  | some reason => .ofSession "" (.failed ⟨.failure, "lookup halted: " ++ reason⟩) s
  | none =>
    if s.queue.outstanding > 0 then
      if settled then
        let reason := s.lastError.getD "connection closed by service"
        .ofSession "" (.failed ⟨.transport,
          "lookup service " ++ target.endpoint ++ ": " ++ reason⟩) s
      else
        .ofSession printed (.finished .timeout) (s.note (.unresolved s.queue.outstanding))
    else .ofSession printed (.finished .success) s.disconnect

variable {m : Type → Type} [Monad m]

/-- Drives a session with its lookups. -/
def drive (world : World m σ) (target : Target) (format : OutputFormat) (addresses : List String)
    (timeout : Duration) (s : Session Nat σ) : m (Ending σ) := do
  match (← world.now).after? timeout with
  | none => return .ofSession "" (.aborted "the deadline lies beyond the end of the clock") s
  | some deadline =>
    let (settled, s) ← s.runUntil world (fun _ => true) deadline isSettled Session.maxPolls
    return conclude target format addresses settled s

/-- Looks addresses up. -/
def run (world : World m σ) (makeLink : Config → σ) (target : Target) (format : OutputFormat)
    (addresses : List String) (timeout : String) (metadata : Metadata) : m (Ending σ) := do
  match Timeout.parse timeout with
  | .error failure => return .early (.failed failure) ""
  | .ok timeout =>
    match check addresses with
    | .error failure => return .early (.failed failure) ""
    | .ok () =>
      let config := target.config timeout
      match Session.new config (makeLink config) with
      | .error e => return .early (.failed (.ofSession "lookup" e)) ""
      | .ok s =>
        match submitAll (← world.now) metadata 0 addresses s with
        | (.error e, s) => return .ofSession "" (.failed (.ofSession "lookup" e)) s
        | (.ok (), s) => drive world target format addresses timeout s

end Lookup

end CidrLookup.Command
