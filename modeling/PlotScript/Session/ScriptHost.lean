import PlotScript.Diagnostic.Cause
import PlotScript.Text.Blank

/-!
# Script hosts

A script host runs the blocks of a command file that are written in another
language. The host of this module gives each block to a program on its standard
input and looks at how the program exits.
-/

namespace PlotScript

/-- What came of a script block. -/
structure ScriptOutcome where
  /-- what the script printed itself -/
  printed : String
  result : Except Cause Unit

/-- Runs one block after another. -/
structure ScriptHost where
  run : String → ScriptOutcome

/-- How a program ended. -/
structure Exit where
  status : Nat
  printed : String
  /-- what it wrote to its standard error -/
  complaint : String

/-- The programs that can be started: what each does with its arguments and its
standard input. -/
abbrev Programs := String → Option (List String → String → Exit)

/-- Runs every block in a new process of a program. -/
def ScriptHost.process (programs : Programs) (program : String) (arguments : List String) :
    ScriptHost where
  run code :=
    match programs program with
    | none => ⟨"", .error (.scriptNotStarted program FileFault.notFound.message)⟩
    | some start =>
        let exit := start arguments code
        ⟨exit.printed,
          if exit.status = 0 then .ok ()
          else .error (.scriptExited program ("exit status: " ++ writeNat exit.status)
            (Text.trimmed exit.complaint))⟩

/-- A host for which every block succeeds, or every block fails in the same
way. -/
def ScriptHost.constant (result : Except Cause Unit) : ScriptHost where
  run _ := ⟨"", result⟩

end PlotScript
