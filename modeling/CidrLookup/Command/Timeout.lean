import CidrLookup.Command.Failure
import CidrLookup.Duration
import CidrLookup.Text.Blank

/-!
# Timeouts of commands

How long a command may take, as it is given on the command line: a whole number of seconds, or of
the unit that is named after it, and not zero. White space around it does not matter.
-/

namespace CidrLookup.Command.Timeout

/-- A unit of time. -/
inductive TimeUnit where
  | seconds
  | millis
deriving DecidableEq, Repr

/-- A number of units. -/
def TimeUnit.duration : TimeUnit → Nat → Duration
  | seconds => .ofSeconds
  | millis => .ofMillis

/-- A text without its last characters, if these are the given ones. -/
def stripSuffix? (ending text : List Char) : Option (List Char) :=
  if text.drop (text.length - ending.length) = ending then
    some (text.take (text.length - ending.length))
  else none

/-- Takes the unit off the end of a text; it is seconds if none is named. -/
def splitUnit (text : List Char) : List Char × TimeUnit :=
  match stripSuffix? ['m', 's'] text with
  | some number => (number, .millis)
  | none =>
    match stripSuffix? ['s'] text with
    | some number => (number, .seconds)
    | none => (text, .seconds)

/-- The duration that a text spells. -/
def parse (input : String) : Except Failure Duration :=
  match Text.trim input.toList with
  | [] => .error ⟨.usage, "timeout must not be empty"⟩
  | text =>
    let (number, unit) := splitUnit text
    match Numeral.parse Numeral.maxLong number with
    | .error _ => .error ⟨.usage, "invalid timeout value: " ++ .ofList text⟩
    | .ok 0 => .error ⟨.usage, "timeout must be greater than zero"⟩
    | .ok n => .ok (unit.duration n)

end CidrLookup.Command.Timeout
