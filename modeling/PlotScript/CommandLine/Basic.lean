import PlotScript.CommandLine.Plan
import PlotScript.Execution.Program

/-!
# Running a command line

The calls of a command line run in order in an execution context. The bare
tokens that no command takes are handed back.
-/

namespace PlotScript

/-- Runs one call: the context learns where it is before it runs the command. -/
def Call.execute (call : Call) : Run Unit := do
  match call.undeclared with
  | some option => Run.warn (.notAnOption option call.command.name)
  | none => pure ()
  Run.setLocation call.location
  Run.runCommand call.command call.arguments call.options

/-- Runs the steps of a command line up to the first failure. -/
def Step.execute : List Step → Run (List String)
  | [] => pure []
  | .bare token :: rest => return token :: (← Step.execute rest)
  | .call c :: rest => do
      c.execute
      Step.execute rest
  | .fault d :: _ => throw d

namespace CommandLine

/-- Reads and runs a command line. Returns the bare tokens. -/
def interpret (line : CommandLine) (tokens : List String) : Run (List String) :=
  Step.execute (line.plan 0 tokens)

end CommandLine

end PlotScript
