import PlotScript.Command.Table
import PlotScript.Execution.Program

/-!
# The recording context

A context that runs no command. It keeps every call as the front end made it,
with the location that was current, and every warning, script block and legacy
file that it was given.
-/

namespace PlotScript

/-- A call as a front end made it. -/
structure RecordedCall where
  command : String
  arguments : List String
  options : RawOptions
  location : Location
  deriving DecidableEq

/-- What a recording context has been asked for so far. -/
structure Recorder where
  table : CommandTable
  /-- When given, every script block fails with this message. -/
  scriptFailure : Option String := none
  location : Location := Location.none
  scope : Scope := NameMap.empty
  calls : List RecordedCall := []
  warnings : List Warning := []
  scripts : List String := []
  legacy : List String := []

namespace Recorder

/-- Answers requests by taking note of them. -/
def context : Context Recorder
  | .runCommand c arguments options, s =>
      (.ok (), { s with calls := s.calls ++ [⟨c.name, arguments, options, s.location⟩] })
  | .setLocation location, s => ((), { s with location })
  | .location, s => (s.location, s)
  | .lookupCommand name, s => (s.table.get? name, s)
  | .define name binding override, s =>
      let (scope, stored) := s.scope.define name binding override
      (stored, { s with scope })
  | .scope, s => (s.scope, s)
  | .isBoolean tag, s => (Registry.isBoolean tag, s)
  | .warn warning, s => ((), { s with warnings := s.warnings ++ [warning] })
  | .runScript code, s =>
      (match s.scriptFailure with
        | some message => .error (Cause.reported .script message).unplaced
        | none => .ok (),
        { s with scripts := s.scripts ++ [code] })
  | .runLegacy text, s => (.ok (), { s with legacy := s.legacy ++ [text] })

/-- Runs a front end into a recorder. -/
def record {α : Type} (s : Recorder) (program : Run α) : Except Diagnostic α × Recorder :=
  program.run.run context s

end Recorder

end PlotScript
