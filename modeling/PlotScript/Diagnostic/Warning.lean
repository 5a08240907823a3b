import PlotScript.Diagnostic.Basic

/-!
# Warnings

Problems that are reported without ending a run.
-/

namespace PlotScript

/-- What to warn of. -/
inductive Warning where
  | notAnOption (option command : String)
  | legacySyntax (stream : String) (line : Nat)
  | scriptFailed (location : Location) (cause : Cause)
  | strayArgument (token : String)
  /-- A warning that a collaborator words itself. -/
  | note (text : String)
  deriving DecidableEq

/-- The wording of a warning. -/
def Warning.message : Warning → String
  | notAnOption option command =>
      s!"'/{option}' is not an option of command '{command}'; treating it as an argument"
  | legacySyntax stream line =>
      s!"{stream}:" ++ writeNat line ++ ": legacy call syntax detected, " ++
        "handing the whole file to the legacy parser"
  | scriptFailed location cause => location.display ++ ": " ++ cause.display
  | strayArgument token => s!"ignoring stray argument '{token}'"
  | note text => text

end PlotScript
