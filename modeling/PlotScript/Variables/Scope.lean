import PlotScript.NameMap
import PlotScript.Variables.Piece

/-!
# Variables

A scope binds names to texts or to expressions. An expression is expanded anew
at every use, so it may refer to other expressions, down to a fixed depth.
-/

namespace PlotScript

/-- What a name stands for. -/
inductive Binding where
  /-- a text that was expanded when the variable was defined -/
  | eager (text : String)
  /-- an expression to expand at every use -/
  | deferred (expression : String)
  deriving DecidableEq

/-- The variables that are defined, by name. -/
abbrev Scope := NameMap Binding

namespace Scope

/-- How many expressions may be under expansion, one inside the other. -/
def maxDepth : Nat := 64

/-- Binds a name, unless it is bound already and must not be overridden. Tells
whether it did. -/
def define (scope : Scope) (name : String) (binding : Binding) (override : Bool) :
    Scope × Bool :=
  if !override && scope.contains name then (scope, false)
  else (scope.insert name binding, true)

/-- The value of a variable that has to be bound. -/
def required (resolve : String → Except Cause (Option String)) (name : String) :
    Except Cause String := do
  match ← resolve name with
  | some value => return value
  | none => throw (.undefinedVariable name)

/-- The text of a variable, if it is bound, when `room` more expressions may be
expanded one inside the other. -/
def resolveWithin (scope : Scope) (room : Nat) (name : String) :
    Except Cause (Option String) :=
  match scope.get? name with
  | none => .ok none
  | some (.eager text) => .ok (some text)
  | some (.deferred expression) =>
      match room with
      | 0 => .error (.recursiveVariable name maxDepth)
      | room + 1 =>
          (Piece.concat (Piece.expand (required (scope.resolveWithin room)))
            (Piece.ofExpression expression.toList)).map (some <| String.ofList ·)

/-- The text of a variable, if it is bound. -/
def resolve (scope : Scope) (name : String) : Except Cause (Option String) :=
  scope.resolveWithin maxDepth name

/-- The text of a variable that has to be bound. -/
def lookup (scope : Scope) (name : String) : Except Cause String :=
  required scope.resolve name

/-- A text with all references in it expanded, inside `depth` expressions. -/
def expandAt (scope : Scope) (depth : Nat) (text : List Char) : Except Cause (List Char) :=
  Piece.concat (Piece.expand (required (scope.resolveWithin (maxDepth - depth))))
    (Piece.ofExpression text)

/-- A text with all references in it expanded. -/
def expand (scope : Scope) (text : List Char) : Except Cause (List Char) :=
  scope.expandAt 0 text

end Scope

end PlotScript
