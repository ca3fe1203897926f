import CidrLookup.Command
import CidrLookup.Command.Failure
import CidrLookup.Session

/-!
# How commands end

What a command leaves behind: what it printed, its exit code or its error, and the log of the
session it had.
-/

namespace CidrLookup.Command

/-- How a command ends. -/
inductive Outcome where
  | finished (code : ExitCode)
  | failed (failure : Failure)
  /-- The program stops in the middle of its work. -/
  | aborted (reason : String)
deriving DecidableEq, Repr

namespace Outcome

/-- The exit code of a program that stops in the middle of its work. -/
def abortCode : Nat := 101

/-- The exit code of an outcome. -/
def code : Outcome → Nat
  | finished code => code.number
  | failed failure => failure.code.number
  | aborted _ => abortCode

/-- What is said about an outcome that is no success. -/
def errorText : Outcome → String
  | finished _ => ""
  | failed failure => "error: " ++ failure.message ++ "\n"
  | aborted reason => reason ++ "\n"

end Outcome

/-- What a command leaves behind. -/
structure Ending (σ : Type) where
  output : String
  outcome : Outcome
  log : List Log.Event
  /-- The link of the session, which is closed, if there was a session. -/
  link : Option σ

namespace Ending

variable {ρ σ : Type}

/-- The end of a command that had no session. -/
def early (outcome : Outcome) (output : String) : Ending σ :=
  ⟨output, outcome, [], none⟩

/-- The end of a command with its session; the session's link is closed. -/
def ofSession [Link σ] (output : String) (outcome : Outcome) (s : Session ρ σ) : Ending σ where
  output := output
  outcome := outcome
  log := s.takeHistory.1.filterMap fun
    | .notice notice => some notice.toEvent
    | _ => none
  link := some (Link.close s.connection.link)

/-- What goes to the second output: the events that pass the filter, then the error. -/
def errorOutput (format : Log.Format) (filter : Log.Filter) (ending : Ending σ) : String :=
  Output.lines ((ending.log.filter (filter.admits ·.level)).map (Log.Event.line format)) ++
    ending.outcome.errorText

end Ending

end CidrLookup.Command
