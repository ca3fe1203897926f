import CidrLookup.Text.Json

/-!
# Log events

What the library writes about its work: a level, a text and named values, in the order in which
they are shown. A filter picks the events from a level on, and each is written as a line of text or
as a JSON object.
-/

namespace CidrLookup.Log

/-- How much an event matters, the least first. -/
inductive Level where
  | trace
  | debug
  | info
  | warn
  | error
deriving DecidableEq, Repr

namespace Level

/-- The place of a level in the order. -/
def rank : Level → Nat
  | trace => 0
  | debug => 1
  | info => 2
  | warn => 3
  | error => 4

/-- The name of a level in capitals. -/
def name : Level → String
  | trace => "TRACE"
  | debug => "DEBUG"
  | info => "INFO"
  | warn => "WARN"
  | error => "ERROR"

end Level

/-- Which events are written: none, or those from a level on. -/
inductive Filter where
  | off
  | atLeast (level : Level)
deriving DecidableEq, Repr

namespace Filter

/-- The name of a filter. -/
def name : Filter → String
  | off => "off"
  | atLeast .error => "error"
  | atLeast .warn => "warn"
  | atLeast .info => "info"
  | atLeast .debug => "debug"
  | atLeast .trace => "trace"

/-- Every filter. -/
def all : List Filter :=
  [off, atLeast .error, atLeast .warn, atLeast .info, atLeast .debug, atLeast .trace]

/-- The filter of a name. -/
def ofName? (name : String) : Option Filter :=
  all.find? (·.name = name)

/-- Whether events of a level are written. -/
def admits (filter : Filter) (level : Level) : Bool :=
  match filter with
  | off => false
  | atLeast least => least.rank ≤ level.rank

end Filter

/-- A value that goes with an event. -/
inductive Value where
  | text (value : String)
  | number (value : Nat)
deriving DecidableEq, Repr

/-- Something that happened. -/
structure Event where
  level : Level
  text : String
  fields : List (String × Value)
deriving DecidableEq, Repr

/-! ## Lines -/

/-- How an event is written. -/
inductive Format where
  | text
  | json
deriving DecidableEq, Repr

namespace Event

/-- The level, the text, then each value after its name. -/
def textLine (event : Event) : String :=
  let value : Value → String
    | .text t => t
    | .number n => toString n
  let level := event.level.name
  let margin := String.ofList (List.replicate (5 - level.length) ' ')
  margin ++ level ++ " " ++ event.text ++
    String.join (event.fields.map fun (name, v) => " " ++ name ++ "=" ++ value v)

/-- An object with the level, and an object of the text and the values. -/
def jsonLine (event : Event) : String :=
  let value : Value → List Char
    | .text t => Text.Json.string t
    | .number n => Text.Json.number n
  .ofList (Text.Json.object [("level", Text.Json.string event.level.name),
    ("fields", Text.Json.object (("message", Text.Json.string event.text) ::
      event.fields.map fun (name, v) => (name, value v)))])

/-- An event as a line. -/
def line (format : Format) (event : Event) : String :=
  match format with
  | .text => event.textLine
  | .json => event.jsonLine

end Event

end CidrLookup.Log
