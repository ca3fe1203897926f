import CidrLookup.Command.Help
import CidrLookup.Command.Run
import CidrLookup.Live

/-!
# The program

Reads the command line and the environment, carries the command out in the world outside, and
prints what it leaves behind.
-/

namespace CidrLookup.Program

/-- The variables of the environment that stand for options. -/
def environment : IO Command.Variables := do
  let host ← IO.getEnv "CIDRQ_HOST"
  let port ← IO.getEnv "CIDRQ_PORT"
  let identify ← IO.getEnv "CIDRQ_IDENTIFY"
  return ⟨host, port, identify⟩

/-- Answers a command line that is no command. -/
def answerFault (fault : Command.LineFault) : IO UInt32 := do
  match fault with
  | .help => IO.print Command.helpText; return 0
  | .version => IO.print Command.versionLine; return 0
  | .nothing => IO.eprint Command.helpText
  | fault => IO.eprint (Output.line ("error: " ++ fault.message))
  return .ofNat Command.ExitCode.misuse.number

/-- Carries out a command line. -/
def run (line : List String) : IO UInt32 := do
  match Command.parseLine (← environment) line with
  | .error fault => answerFault fault
  | .ok invocation =>
    let world ← Live.world
    let terminal ← (← IO.getStdout).isTty
    let ending ← invocation.run (.default terminal) world SocketLink.ofConfig
    IO.print ending.output
    IO.eprint (ending.errorOutput invocation.logFormat invocation.logFilter)
    if let some link := ending.link then Live.windUp world link
    return .ofNat ending.outcome.code

end CidrLookup.Program

def main (line : List String) : IO UInt32 :=
  CidrLookup.Program.run line
