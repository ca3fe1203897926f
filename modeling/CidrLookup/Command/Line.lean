import CidrLookup.Command

/-!
# The command line

A command line is read word by word, first by the program and, from the name of a subcommand on,
by the subcommand. Settings of the program may stand before or after the subcommand, and what
stands after it counts; next come the variables of the environment, then the defaults.

* An option has two hyphens; its value follows after an equals sign or as the next word, which
  must not look like an option. After two hyphens alone every word is an address.
* A value is looked at when the next option or address is taken, or at the end, so of several
  faults the first is reported, unless a word that is no option at all comes before that.
* The end of a subcommand's words comes before the end of the program's own: its faults win.
-/

namespace CidrLookup.Command

/-! ## Faults -/

/-- Why a command line is not carried out as a command. -/
inductive LineFault where
  /-- The help is asked for. -/
  | help
  /-- The version is asked for. -/
  | version
  /-- There is neither a word nor a variable. -/
  | nothing
  | missingSubcommand
  | unknownSubcommand
  /-- A word that the subcommand does not take. -/
  | unknownArgument
  /-- An option is given twice. -/
  | repeatedOption
  /-- An option without its value. -/
  | missingValue
  /-- A value that is none of those to choose from. -/
  | unknownChoice
  /-- A value that cannot be read, and why. -/
  | invalidValue (message : String)
  /-- A value for an option that takes none. -/
  | unexpectedValue
  /-- A lookup of nothing. -/
  | missingAddress
deriving DecidableEq, Repr

/-! ## Words -/

/-- The part of the program that reads a word. -/
inductive Scope where
  | program
  | lookup
  | probe
  | version
deriving DecidableEq, Repr

/-- An option. -/
inductive Opt where
  | format
  | logFormat
  | logLevel
  | host
  | port
  | identify
  | timeout
  | metadata
  | extended
  | help
  | version
deriving DecidableEq, Repr

namespace Opt

/-- Every option. -/
def all : List Opt :=
  [format, logFormat, logLevel, host, port, identify, timeout, metadata, extended, help, version]

/-- The name of an option, without its hyphens. -/
def name : Opt → String
  | format => "format"
  | logFormat => "log-format"
  | logLevel => "log-level"
  | host => "host"
  | port => "port"
  | identify => "identify"
  | timeout => "timeout"
  | metadata => "meta"
  | extended => "extended"
  | help => "help"
  | version => "version"

/-- Whether an option has a value. -/
def takesValue : Opt → Bool
  | extended | help | version => false
  | _ => true

/-- Whether a scope has an option. -/
def isIn (option : Opt) (scope : Scope) : Bool :=
  match option with
  | format | logFormat | logLevel | host | port | identify | help => true
  | timeout => scope = .lookup ∨ scope = .probe
  | metadata => scope = .lookup
  | extended => scope = .version
  | version => scope = .program

/-- The option of a scope that has a name. -/
def ofName? (scope : Scope) (name : List Char) : Option Opt :=
  all.find? fun option => option.isIn scope && option.name.toList = name

/-- The option of a scope that has a name of one letter. -/
def ofLetter? (scope : Scope) (letter : Char) : Option Opt :=
  match letter with
  | 'h' => some help
  | 'V' => if version.isIn scope then some version else none
  | _ => none

end Opt

/-- The scope that a subcommand's name opens. -/
def Scope.ofName? : String → Option Scope
  | "lookup" => some .lookup
  | "probe" => some .probe
  | "version" => some .version
  | _ => none

/-- Whether a word is the name of a subcommand, the one that shows the help among them. -/
def isSubcommand (word : String) : Bool :=
  word = "help" || (Scope.ofName? word).isSome

/-- How a word looks. -/
inductive Shape where
  /-- Two hyphens alone. -/
  | separator
  /-- An option by its name, perhaps with a value. -/
  | long (name : List Char) (value : Option String)
  /-- A hyphen and a letter, perhaps with more after it. -/
  | short (letter : Char)
  | plain
deriving DecidableEq, Repr

/-- The shape of a word. A hyphen alone is a plain word. -/
def Shape.of (word : String) : Shape :=
  match word.toList with
  | ['-', '-'] => .separator
  | '-' :: '-' :: text =>
    match text.span (· ≠ '=') with
    | (name, _ :: value) => .long name (some (.ofList value))
    | (name, []) => .long name none
  | '-' :: letter :: _ => .short letter
  | _ => .plain

/-! ## Values -/

/-- What a scope was given. -/
structure Given where
  format : Option OutputFormat
  logFormat : Option Log.Format
  logFilter : Option Log.Filter
  host : Option String
  port : Option UInt16
  identify : Option String
  timeout : Option String
  metadata : Metadata
  extended : Bool
  addresses : List String
deriving DecidableEq, Repr

/-- Nothing was given. -/
def Given.none : Given :=
  ⟨.none, .none, .none, .none, .none, .none, .none, [], false, []⟩

/-- A port: an integer, and then one of sixteen bits. -/
def port (text : String) : Except LineFault UInt16 :=
  match Numeral.parseSigned Numeral.maxSigned text.toList with
  | .error fault => .error (.invalidValue fault.message)
  | .ok n =>
    if 0 ≤ n ∧ n ≤ 65535 then .ok (.ofNat n.toNat)
    else .error (.invalidValue s!"{n} is not in 0..=65535")

/-- A pair of metadata: a key, an equals sign, a value. -/
def metadataPair (text : String) : Except LineFault (String × String) :=
  match text.toList.span (· ≠ '=') with
  | (_, []) => .error (.invalidValue ("expected KEY=VALUE, got " ++ Text.quoted text))
  | ([], _) => .error (.invalidValue "metadata key must not be empty")
  | (key, _ :: value) =>
    if '\x00' ∈ text.toList then .error (.invalidValue "metadata must not contain NUL bytes")
    else .ok (.ofList key, .ofList value)

/-- A format of results. -/
def outputFormat : String → Except LineFault OutputFormat
  | "json" => .ok .json
  | "table" => .ok .table
  | "pretty" => .ok .pretty
  | "raw" => .ok .raw
  | _ => .error .unknownChoice

/-- A format of the log. -/
def logFormat : String → Except LineFault Log.Format
  | "text" => .ok .text
  | "json" => .ok .json
  | _ => .error .unknownChoice

/-- A filter of the log. -/
def logFilter (text : String) : Except LineFault Log.Filter :=
  match Log.Filter.ofName? text with
  | some filter => .ok filter
  | none => .error .unknownChoice

/-- A value for something that must not have one yet. -/
def once (old : Option α) (value : Except LineFault α) : Except LineFault (Option α) :=
  match old with
  | some _ => .error .repeatedOption
  | none => value.map some

/-- Adds an option with its value. -/
def Given.set (given : Given) (option : Opt) (value : String) : Except LineFault Given :=
  match option with
  | .format => return { given with format := ← once given.format (Command.outputFormat value) }
  | .logFormat =>
    return { given with logFormat := ← once given.logFormat (Command.logFormat value) }
  | .logLevel =>
    return { given with logFilter := ← once given.logFilter (Command.logFilter value) }
  | .host => return { given with host := ← once given.host (.ok value) }
  | .port => return { given with port := ← once given.port (Command.port value) }
  | .identify => return { given with identify := ← once given.identify (.ok value) }
  | .timeout => return { given with timeout := ← once given.timeout (.ok value) }
  | .metadata => return { given with metadata := given.metadata ++ [← metadataPair value] }
  | .extended =>
    if given.extended then .error .repeatedOption else .ok { given with extended := true }
  | .help => .error .help
  | .version => .error .version

/-! ## Reading words -/

/-- A scope in the middle of its words: what it was given so far, and the last option, with its
value if that has come, which is not looked at yet. -/
structure Reading where
  given : Given
  last : Option (Opt × Option String)
deriving DecidableEq, Repr

namespace Reading

/-- Nothing is read. -/
def start : Reading := ⟨.none, .none⟩

/-- Whether the next word is a value. -/
def wantsValue (reading : Reading) : Bool :=
  reading.last matches some (_, none)

/-- Looks at the value of the last option. -/
def settle (reading : Reading) : Except LineFault Given :=
  match reading.last with
  | none => .ok reading.given
  | some (_, none) => .error .missingValue
  | some (option, some value) => reading.given.set option value

/-- Takes an option, with the value that is written in the same word. -/
def takeOption (reading : Reading) (option : Opt) (value : Option String) :
    Except LineFault Reading :=
  match option.takesValue, value with
  | true, some value => return ⟨← (← reading.settle).set option value, none⟩
  | true, none => return ⟨← reading.settle, some (option, none)⟩
  | false, none => return ⟨← (← reading.settle).set option "", none⟩
  | false, some _ => .error .unexpectedValue

/-- Takes a word that is no option and no value. -/
def takePlain (reading : Reading) (scope : Scope) (afterSeparator : Bool) (word : String) :
    Except LineFault Reading :=
  match scope with
  | .lookup => do
    let given ← reading.settle
    return ⟨{ given with addresses := given.addresses ++ [word] }, none⟩
  | .probe | .version => .error .unknownArgument
  | .program =>
    .error (if afterSeparator && isSubcommand word then .unknownArgument else .unknownSubcommand)

/-- Takes a word. -/
def take (reading : Reading) (scope : Scope) (word : String) : Except LineFault Reading :=
  match Shape.of word with
  | .long name value =>
    match Opt.ofName? scope name with
    | some option => reading.takeOption option value
    | none => .error .unknownArgument
  | .short letter =>
    match Opt.ofLetter? scope letter with
    | some option => reading.takeOption option none
    | none => .error .unknownArgument
  | .plain | .separator =>
    match reading.last with
    | some (option, none) => .ok { reading with last := some (option, some word) }
    | _ => reading.takePlain scope false word

/-- Reads words to the end of a scope, or up to a subcommand, which is returned with the words
after it. -/
def words (scope : Scope) (reading : Reading) (afterSeparator : Bool) :
    List String → Except LineFault (Reading × Option (String × List String))
  | [] => .ok (reading, none)
  | word :: more =>
    if afterSeparator then do words scope (← reading.takePlain scope true word) true more
    else if scope = .program ∧ isSubcommand word ∧ ¬ reading.wantsValue then
      .ok (reading, some (word, more))
    else if Shape.of word = .separator then words scope reading true more
    else do words scope (← reading.take scope word) false more

end Reading

/-! ## Whole lines -/

/-- The variables of the environment that stand for options. -/
structure Variables where
  host : Option String
  port : Option String
  identify : Option String
deriving DecidableEq, Repr

namespace Variables

/-- The variables that an environment gives a value. -/
def ofEnvironment (value? : String → Option String) : Variables :=
  ⟨value? "CIDRQ_HOST", value? "CIDRQ_PORT", value? "CIDRQ_IDENTIFY"⟩

/-- Whether one of the variables has a value. -/
def any (environment : Variables) : Bool :=
  environment.host.isSome || environment.port.isSome || environment.identify.isSome

/-- The port among the variables. -/
def port? (environment : Variables) : Except LineFault (Option UInt16) :=
  match environment.port with
  | none => .ok none
  | some text => (Command.port text).map some

end Variables

/-- Looks at the last value of a scope, and at the variable for the port unless the scope was given
one. -/
def finish (environment : Variables) (reading : Reading) : Except LineFault Given := do
  let given ← reading.settle
  if given.port.isNone then let _ ← environment.port?
  return given

/-- What the help is asked about. -/
def helpFault : List String → LineFault
  | [] => .help
  | [topic] => if isSubcommand topic then .help else .unknownSubcommand
  | _ => .unknownSubcommand

/-- The command of a subcommand's words. -/
def ofGiven (scope : Scope) (given : Given) : Except LineFault Command :=
  match scope with
  | .lookup =>
    if given.addresses = [] then .error .missingAddress
    else .ok (.lookup given.addresses (given.timeout.getD defaultTimeout) given.metadata)
  | .probe => .ok (.probe (given.timeout.getD defaultTimeout))
  | .version | .program => .ok (.version given.extended)

/-- A command with the settings that the subcommand was given, else the program, else a variable,
else the default. -/
def assemble (command : Command) (inner outer : Given) (environment : Variables) :
    Except LineFault Invocation := do
  let port ← match inner.port.or outer.port with
    | some port => .ok (some port)
    | none => environment.port?
  return {
    command
    target := {
      host := ((inner.host.or outer.host).or environment.host).getD Config.default.host
      port := port.getD Config.defaultPort
      identify := (inner.identify.or outer.identify).or environment.identify }
    format := inner.format.or outer.format
    logFormat := (inner.logFormat.or outer.logFormat).getD .text
    logFilter := (inner.logFilter.or outer.logFilter).getD (.atLeast .warn) }

/-- Reads a command line, without the program's name. -/
def parseLine (environment : Variables) (line : List String) : Except LineFault Invocation := do
  let (program, subcommand) ← Reading.words .program .start false line
  match subcommand with
  | none =>
    let given ← finish environment program
    .error (if given = .none ∧ ¬ environment.any then .nothing else .missingSubcommand)
  | some (name, words) =>
    match Scope.ofName? name with
    | none => .error (helpFault words)
    | some scope =>
      let (reading, _) ← Reading.words scope .start false words
      let inner ← finish environment reading
      let command ← ofGiven scope inner
      let outer ← finish environment program
      assemble command inner outer environment

end CidrLookup.Command
