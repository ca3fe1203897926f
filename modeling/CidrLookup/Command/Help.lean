import CidrLookup.Command.Line

/-!
# Help

What the program says about its command line, and about a command line that it cannot carry out.
-/

namespace CidrLookup.Command

/-- The help. -/
def helpText : String :=
  Output.lines ["CIDR lookup service client", "",
    "Usage: cidrq [OPTIONS] <COMMAND>", "",
    "Commands:",
    "  lookup [--timeout <TIME>] [--meta <KEY=VALUE>]... <IP>...",
    "  probe [--timeout <TIME>]",
    "  version [--extended]",
    "  help", "",
    "Options:",
    "  --format <json|table|pretty|raw>",
    "  --log-format <text|json>",
    "  --log-level <off|error|warn|info|debug|trace>",
    "  --host <HOST>          CIDRQ_HOST",
    "  --port <PORT>          CIDRQ_PORT",
    "  --identify <TOKEN>     CIDRQ_IDENTIFY",
    "  -h, --help",
    "  -V, --version"]

/-- The wording of a fault. -/
def LineFault.message : LineFault → String
  | help | nothing => "see --help"
  | version => "see --version"
  | missingSubcommand => "a command is missing; see --help"
  | unknownSubcommand => "unknown command; see --help"
  | unknownArgument => "unexpected argument; see --help"
  | repeatedOption => "an option cannot be used twice"
  | missingValue => "an option lacks its value"
  | unknownChoice => "a value is none of those to choose from; see --help"
  | invalidValue message => "invalid value: " ++ message
  | unexpectedValue => "an option takes no value"
  | missingAddress => "no address to look up"

end CidrLookup.Command
