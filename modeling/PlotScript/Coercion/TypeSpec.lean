import PlotScript.Coercion.Coder
import PlotScript.Diagnostic.Basic
import PlotScript.Text.Pattern

/-!
# Types

A type reads a text in five stages, and the first one that applies decides:
texts that pass through as they are, fixed literals, patterns, named constants,
and last its coder.
-/

namespace PlotScript

/-- A type: its tag, its coder, and what is tried before the coder. -/
structure TypeSpec where
  tag : String
  coder : Coder
  displayName : Option String := none
  description : Option String := none
  default : Option Value := none
  shortcuts : List (String × Value) := []
  patterns : List ((String → Bool) × Value) := []
  /-- Named constants, in the order in which they were given. -/
  constants : List (String × Value) := []
  passthrough : String → Bool := fun _ => false

namespace TypeSpec

/-- The display name, or else the tag. -/
def name (spec : TypeSpec) : String :=
  spec.displayName.getD spec.tag

/-- Adds a value for every text that a regular expression occurs in, behind the
patterns that are there already. -/
def withPattern (spec : TypeSpec) (expression : String) (v : Value) : Except Cause TypeSpec :=
  match Text.Pattern.read? expression with
  | none => .error (.invalidPattern expression spec.tag)
  | some p =>
      .ok { spec with
        patterns := spec.patterns ++ [(fun text => p.occursIn text.toList, v)] }

/-- The value of the first shortcut that is the text itself. -/
def shortcut? (spec : TypeSpec) (text : String) : Option Value :=
  (spec.shortcuts.find? (·.1 = text)).map (·.2)

/-- The value of the first pattern that the text matches. -/
def pattern? (spec : TypeSpec) (text : String) : Option Value :=
  (spec.patterns.find? (·.1 text)).map (·.2)

/-- The value of the last constant of that name, up to case. -/
def constant? (spec : TypeSpec) (text : String) : Option Value :=
  let key := Text.toLower text.toList
  (spec.constants.reverse.find? fun c => Text.toLower c.1.toList == key).map (·.2)

/-- The value that is fixed for a text before the coder is asked. -/
def fixed? (spec : TypeSpec) (text : String) : Option Value :=
  if spec.passthrough text then some (.text text)
  else (spec.shortcut? text).or ((spec.pattern? text).or (spec.constant? text))

/-- Reads a text. The coder is asked only when nothing else applies. -/
def coerce (spec : TypeSpec) (text : String) : Except Cause Value :=
  match spec.fixed? text with
  | some v => .ok v
  | none => (spec.coder.decode text).mapError (.invalidLiteral text spec.tag)

/-- Writes a value as the coder does. -/
def render (spec : TypeSpec) (v : Value) : String :=
  spec.coder.encode v

end TypeSpec

end PlotScript
