import PlotScript.Number.Notation

/-!
# Reasons against a literal

Why a text cannot be read as a value of some family.
-/

namespace PlotScript

/-- What is wrong with a literal. -/
inductive Misread where
  | notNumber (text : String)
  | notInteger
  | numberCount (expected found : Nat)
  | marginCount
  | noColon
  | openBound
  | notChoice (choices : List String)
  | notHexadecimal (digits : String)
  | hexLength
  | colorBounds
  | notDimension
  | unknownUnit (suffix : String)
  | notAlignedPoint
  | emptyExpression
  /-- The reason of a coder from outside this library. -/
  | other (reason : String)
  deriving DecidableEq

/-- The wording of a reason. -/
def Misread.reason : Misread → String
  | notNumber text => s!"'{text}' is not a number"
  | notInteger => "not an integer"
  | numberCount expected found =>
      "expected " ++ writeNat expected ++ " comma-separated numbers, found " ++ writeNat found
  | marginCount => "expected 1, 2 or 4 comma-separated numbers"
  | noColon => "expected 'low:high'"
  | openBound => "both bounds are required"
  | notChoice choices => "expected one of: " ++ ", ".intercalate choices
  | notHexadecimal digits => s!"'{digits}' is not hexadecimal"
  | hexLength => "hex colors need 3 or 6 digits"
  | colorBounds => "color components must lie between 0 and 1"
  | notDimension => "expected a number with an optional unit"
  | unknownUnit suffix => s!"unknown unit '{suffix}'"
  | notAlignedPoint => "expected '[VH:]x,y'"
  | emptyExpression => "empty expression"
  | other reason => reason

end PlotScript
