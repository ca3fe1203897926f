import CidrLookup.Command.Lookup
import CidrLookup.Command.Probe

/-!
# Running commands

The program: reads its command line and carries the command out.
-/

namespace CidrLookup.Command

/-- The name of the program. -/
def programName : String := "cidrq"

/-- The version of the program. -/
def programVersion : String := "0.1.0"

/-- The version in one line. -/
def versionLine : String :=
  Output.line (programName ++ " " ++ programVersion)

/-- The version with what the program was made to do. -/
def versionReport : String :=
  Output.lines ["name: " ++ programName, "version: " ++ programVersion,
    s!"protocol_version: {protocolVersion}", "features: session=true, async=true, cli=true"]

variable {m : Type → Type} [Monad m] {σ : Type} [Link σ]

/-- Carries a command out, in the format that is wanted or else the given one. -/
def Invocation.run (otherwise : OutputFormat) (world : World m σ) (makeLink : Config → σ)
    (invocation : Invocation) : m (Ending σ) :=
  let format := invocation.format.getD otherwise
  match invocation.command with
  | .lookup addresses timeout metadata =>
    Lookup.run world makeLink invocation.target format addresses timeout metadata
  | .probe timeout => Probe.run world makeLink invocation.target format timeout
  | .version extended =>
    return .early (.finished .success) (if extended then versionReport else versionLine)

end CidrLookup.Command
