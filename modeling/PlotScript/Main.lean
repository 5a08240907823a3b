import PlotScript.Cli.Basic
import PlotScript.Session.Shell

/-!
# The program

Reads the arguments and the files, and prints what a run comes to. A run is a
function of the files that it reads; when it asks for one that has not been read
yet, the file is read and the run starts over.
-/

namespace PlotScript.Main

/-- How the program is called. -/
def usage : String :=
  "usage: plotscript [--log-level LEVEL] [--script-interpreter PROGRAM] [--no-legacy]\n" ++
  "                  [--format text|json] TASK\n\n" ++
  "tasks:\n" ++
  "  exec [--no-default-plot] [-- TOKEN...]\n" ++
  "  run FILE...\n" ++
  "  list-commands\n" ++
  "  list-types"

/-- What has been read of the files so far. -/
abbrev Known := List (String × Except FileFault ByteArray)

/-- The files that are known. A file that is not counts as absent until it is read. -/
def Known.source (known : Known) : FileSource := fun path =>
  (known.lookup path).getD (.error .notFound)

/-- Reads a file. -/
def readBytes (path : String) : IO (Except FileFault ByteArray) := do
  try
    return .ok (← IO.FS.readBinFile path)
  catch e =>
    match e with
    | .inappropriateType _ _ _ => return .error .isDirectory
    | _ => return .error .notFound

/-- Runs again until every file that the run asks for is known. -/
partial def settle (known : Known) (a : Cli.Arguments) : IO Cli.Outcome := do
  let outcome := Cli.run Shell.programs known.source a
  match outcome.opened.find? fun path => (known.lookup path).isNone with
  | none => return outcome
  | some path => settle ((path, ← readBytes path) :: known) a

/-- Prints an outcome and gives the exit status. -/
def report (outcome : Cli.Outcome) : IO UInt32 := do
  (← IO.getStdout).putStr outcome.output
  match outcome.result with
  | .ok () => return 0
  | .error d =>
      IO.eprintln d.display
      match d.advice with
      | some advice => IO.eprintln advice
      | none => pure ()
      return 1

end PlotScript.Main

def main (arguments : List String) : IO UInt32 := do
  match PlotScript.Cli.Arguments.read arguments with
  | .ok a => PlotScript.Main.report (← PlotScript.Main.settle [] a)
  | .error stop =>
      if stop.exitStatus = 0 then IO.println PlotScript.Main.usage
      else IO.eprintln (stop.name ++ "\n\n" ++ PlotScript.Main.usage)
      return stop.exitStatus.toUInt32
