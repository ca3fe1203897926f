import CidrLookup.Endpoint
import CidrLookup.Log
import CidrLookup.Output
import CidrLookup.Session.Config

/-!
# Commands

What the program can be asked to do, and with which settings: one command, the service it talks
to, how results are printed and which events are logged.
-/

namespace CidrLookup

/-- A command of the program. Timeouts are kept as they were given. -/
inductive Command where
  /-- Look up addresses, with the same metadata for each. -/
  | lookup (addresses : List String) (timeout : String) (metadata : Metadata)
  /-- Connect, and print what the service announces. -/
  | probe (timeout : String)
  /-- Print the version, at length if wanted. -/
  | version (extended : Bool)
deriving DecidableEq, Repr

namespace Command

/-- The timeout of a command unless another is given. -/
def defaultTimeout : String := "5s"

/-- The service that a command talks to. -/
structure Target where
  host : String
  port : UInt16
  identify : Option String
deriving DecidableEq, Repr

namespace Target

/-- The address of the service as messages show it; the host may still be blank. -/
def endpoint (target : Target) : String :=
  (Endpoint.mk target.host target.port).format

/-- The configuration of a session with the service. An attempt to connect takes no longer than
the command may. -/
def config (target : Target) (timeout : Duration) : Config :=
  { Config.default with
    host := target.host
    port := target.port
    identify := target.identify
    connectTimeout := timeout }

end Target

/-- A command with its settings. -/
structure Invocation where
  command : Command
  target : Target
  /-- How results are printed, if it was said. -/
  format : Option OutputFormat
  logFormat : Log.Format
  logFilter : Log.Filter
deriving DecidableEq, Repr

end Command

end CidrLookup
