import PlotScript.Number.Notation
import PlotScript.Text.Json

/-!
# Values

What the arguments and options of a command become once they are read under
their types.
-/

namespace PlotScript

/-- What the number of a dimension counts. -/
inductive LengthUnit where
  /-- fractions of the enclosing frame -/
  | frame
  | point
  | bigPoint
  | millimeter
  | centimeter
  | inch
  /-- multiples of the current text height -/
  | textHeight
  deriving DecidableEq

namespace LengthUnit

/-- All units. -/
def all : List LengthUnit :=
  [frame, point, bigPoint, millimeter, centimeter, inch, textHeight]

/-- How the unit is written behind a number. -/
def suffix : LengthUnit → String
  | frame => ""
  | point => "pt"
  | bigPoint => "bp"
  | millimeter => "mm"
  | centimeter => "cm"
  | inch => "in"
  | textHeight => "dy"

/-- The name of a unit in the JSON form. -/
def name : LengthUnit → String
  | frame => "frame"
  | point => "point"
  | bigPoint => "big-point"
  | millimeter => "millimeter"
  | centimeter => "centimeter"
  | inch => "inch"
  | textHeight => "text-height"

/-- The unit of a suffix. -/
def ofSuffix? (s : String) : Option LengthUnit :=
  all.find? (·.suffix = s)

theorem ofSuffix?_suffix (u : LengthUnit) : ofSuffix? u.suffix = some u := by
  cases u <;> decide

end LengthUnit

/-- A value of any type. -/
inductive Value where
  | bool (b : Bool)
  | integer (n : Int64)
  | float (x : Binary64)
  | text (s : String)
  /-- An absent bound leaves its side open. -/
  | range (low high : Option Binary64)
  /-- A member of an enumerated type in its canonical spelling. -/
  | symbol (s : String)
  | color (r g b : Binary64)
  | dimension (value : Binary64) (unit : LengthUnit)
  | point (x y : Binary64)
  | alignedPoint (x y : Binary64) (halign valign : String)
  | box (x1 y1 x2 y2 : Binary64)
  | margins (left right top bottom : Binary64)
  /-- A map of the axis and, if given, its inverse, both as expressions. -/
  | bijection (forward : String) (backward : Option String)
  deriving DecidableEq

namespace Value

/-- The name of the family that a value belongs to. -/
def kindName : Value → String
  | bool _ => "boolean"
  | integer _ => "integer"
  | float _ => "float"
  | text _ => "text"
  | range _ _ => "range"
  | symbol _ => "symbol"
  | color _ _ _ => "color"
  | dimension _ _ => "dimension"
  | point _ _ => "point"
  | alignedPoint _ _ _ _ => "aligned-point"
  | box _ _ _ _ => "box"
  | margins _ _ _ _ => "margins"
  | bijection _ _ => "bijection"

def bool? : Value → Option Bool
  | bool b => some b
  | _ => none

/-- Whole and floating-point numbers as a floating-point number. -/
def number? : Value → Option Binary64
  | float x => some x
  | integer n => some (Binary64.ofInt n.toInt)
  | _ => none

/-- The characters of a text or a symbol. -/
def text? : Value → Option String
  | text s => some s
  | symbol s => some s
  | _ => none

/-! ## The display form -/

def plainBound : Option Binary64 → String
  | some x => x.plain
  | none => ""

def plainList (xs : List Binary64) : String :=
  ",".intercalate (xs.map Binary64.plain)

/-- The letter that stands for an alignment. -/
def alignmentLetter (alignment : String) : Char :=
  alignment.toList.headD 'c'

/-- The form that most coders write a value in. -/
def display : Value → String
  | bool b => if b then "true" else "false"
  | integer n => writeInt n.toInt
  | float x => x.plain
  | text s => s
  | symbol s => s
  | range low high => plainBound low ++ ":" ++ plainBound high
  | color r g b => plainList [r, g, b]
  | dimension value unit => value.plain ++ unit.suffix
  | point x y => plainList [x, y]
  | alignedPoint x y halign valign =>
      String.ofList [alignmentLetter valign, alignmentLetter halign, ':'] ++ plainList [x, y]
  | box x1 y1 x2 y2 => plainList [x1, y1, x2, y2]
  | margins left right top bottom => plainList [left, right, top, bottom]
  | bijection forward none => forward
  | bijection forward (some backward) => forward ++ "::" ++ backward

/-! ## The JSON form -/

def jsonBound : Option Binary64 → String
  | some x => x.json
  | none => Text.Json.null

/-- The name of the case and its content. -/
def jsonParts : Value → String × String
  | bool b => ("bool", Text.Json.bool b)
  | integer n => ("integer", writeInt n.toInt)
  | float x => ("float", x.json)
  | text s => ("text", Text.Json.string s)
  | range low high =>
      ("range", Text.Json.object [("low", jsonBound low), ("high", jsonBound high)])
  | symbol s => ("symbol", Text.Json.string s)
  | color r g b => ("color", Text.Json.object [("r", r.json), ("g", g.json), ("b", b.json)])
  | dimension value unit =>
      ("dimension", Text.Json.object [("value", value.json), ("unit", Text.Json.string unit.name)])
  | point x y => ("point", Text.Json.object [("x", x.json), ("y", y.json)])
  | alignedPoint x y halign valign =>
      ("aligned-point", Text.Json.object
        [("x", x.json), ("y", y.json), ("halign", Text.Json.string halign),
          ("valign", Text.Json.string valign)])
  | box x1 y1 x2 y2 =>
      ("box", Text.Json.object [("x1", x1.json), ("y1", y1.json), ("x2", x2.json), ("y2", y2.json)])
  | margins left right top bottom =>
      ("margins", Text.Json.object
        [("left", left.json), ("right", right.json), ("top", top.json),
          ("bottom", bottom.json)])
  | bijection forward backward =>
      ("bijection", Text.Json.object
        [("forward", Text.Json.string forward), ("backward", Text.Json.optString backward)])

/-- The JSON form, which names the case. -/
def json (v : Value) : String :=
  Text.Json.object [("type", Text.Json.string v.jsonParts.1), ("value", v.jsonParts.2)]

end Value

end PlotScript
