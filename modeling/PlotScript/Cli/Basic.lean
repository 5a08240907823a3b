import PlotScript.Cli.Arguments
import PlotScript.Coercion.Builtin
import PlotScript.Command.Standard
import PlotScript.Output.Listing
import PlotScript.Session.Basic

/-!
# Running the program

The standard commands, the built-in types and a session that prints to the
console.
-/

namespace PlotScript.Cli

/-- What a run ends with. -/
structure Outcome where
  result : Except Diagnostic Unit
  output : String
  /-- The paths that were read from. -/
  opened : List String := []

/-- The command that bare tokens belong to. -/
def defaultCommand : String := "plot"

/-- The standard commands and the built-in types over some programs and files. -/
def setup (programs : Programs) (files : FileSource) (a : Arguments) : Setup where
  table := CommandTable.standard
  types := Registry.standard
  host := some (ScriptHost.process programs a.scriptInterpreter [])
  files := files
  reader := { detectsLegacy := a.legacy }

/-- A new session that prints to the console. -/
def session (a : Arguments) : Session where
  transcript := Transcript.empty a.format .console

/-- The reader of the command line. -/
def commandLine (defaultPlot : Bool) : Except Cause CommandLine := do
  let line ← CommandLine.ofTable CommandTable.standard
  if defaultPlot then line.withDefault defaultCommand else return line

/-- Runs the calls of a command line and warns of bare tokens. -/
def exec (line : CommandLine) (tokens : List String) : Run Unit := do
  let stray ← line.interpret tokens
  stray.forM fun token => Run.warn (.strayArgument token)

/-- Runs command files one after another in one session. -/
def runFiles (setup : Setup) : List String → Session.Act
  | [] => fun s => (.ok (), s)
  | path :: rest => fun s =>
      match Session.runFile setup path s with
      | (.ok (), s) => runFiles setup rest s
      | (.error d, s) => (.error d, s)

/-- The outcome of what has been done in a session. -/
def Outcome.ofSession (result : Except Diagnostic Unit × Session) : Outcome :=
  ⟨result.1, result.2.transcript.output.text, result.2.opened⟩

/-- Does what the arguments ask for. -/
def run (programs : Programs) (files : FileSource) (a : Arguments) : Outcome :=
  let setup := setup programs files a
  match a.task with
  | .exec defaultPlot tokens =>
      match commandLine defaultPlot with
      | .error cause => ⟨.error cause.unplaced, "", []⟩
      | .ok line => .ofSession (Session.run setup (exec line tokens) (session a))
  | .run paths => .ofSession (runFiles setup paths (session a))
  | .listCommands => ⟨.ok (), Listing.commands false CommandTable.standard, []⟩
  | .listTypes => ⟨.ok (), Listing.types false Registry.standard, []⟩

end PlotScript.Cli
