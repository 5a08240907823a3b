import PlotScript.Command.Basic

/-!
# Invocations

A call of a command whose arguments and options have been read as values.
-/

namespace PlotScript

/-- The raw options of a call. -/
abbrev RawOptions := NameMap String

/-- A call with values in the place of texts. -/
structure Invocation where
  command : String
  arguments : List Value
  options : NameMap Value
  deriving DecidableEq

namespace Invocation

/-- The text of the argument at a position counted from zero. -/
def textArgument (i : Invocation) (position : Nat) : Except Cause String :=
  match i.arguments[position]?.bind Value.text? with
  | some s => .ok s
  | none => .error (.expectedText i.command (position + 1))

end Invocation

namespace Command

/-- Reads the arguments and options of a call under the types that the command
declares: the arguments in order, then the options in the order of their
names. -/
def invocation (c : Command) (types : Registry) (arguments : List String)
    (options : RawOptions) : Except Diagnostic Invocation := do
  if arguments.length ≠ c.parameters.length then
    throw ((Cause.argumentCount c.name c.parameters.length arguments.length).unplaced.withHelp
      ("usage: " ++ c.synopsis))
  let values ← (c.parameters.zip arguments).mapM fun (p, text) =>
    (types.coerce p.typeTag text).mapError Cause.unplaced
  let named ← options.mapExcept fun name text =>
    match c.options.get? name with
    | some tag => (types.coerce tag text).mapError Cause.unplaced
    | none => .error (Cause.undeclaredOption c.name name).unplaced
  return ⟨c.name, values, named⟩

end Command

end PlotScript
