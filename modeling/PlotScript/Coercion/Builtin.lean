import PlotScript.Coercion.Geometry
import PlotScript.Coercion.Registry

/-!
# The built-in types
-/

namespace PlotScript.Builtin

def boolean : TypeSpec where
  tag := "boolean"
  coder := Coder.boolean
  displayName := some "Boolean"
  description := some "true, yes or on (any case); anything else is false"
  default := some (.bool false)

def integer : TypeSpec where
  tag := "integer"
  coder := Coder.integer
  displayName := some "Integer"
  description := some "a whole number"

def float : TypeSpec where
  tag := "float"
  coder := Coder.float
  displayName := some "Number"
  description := some "a floating-point number"

def text : TypeSpec where
  tag := "text"
  coder := Coder.text
  displayName := some "Text"
  description := some "arbitrary text, taken as-is"
  passthrough := fun _ => true

def range : TypeSpec where
  tag := "range"
  coder := Coder.range false
  displayName := some "Range"
  description := some "low:high"

/-- Nothing at all, or the word `auto` in any case, between blanks. -/
def isAuto (text : String) : Bool :=
  let word := Text.trim text.toList
  word.isEmpty || Text.eqFolded word "auto".toList

def partialRange : TypeSpec where
  tag := "partial-range"
  coder := Coder.range true
  displayName := some "Partial range"
  description :=
    some "low:high where either side may be left empty; 'auto' leaves both open"
  patterns := [(isAuto, .range none none)]

def alignment : TypeSpec where
  tag := "alignment"
  coder := Coder.choice ["left", "center", "right"] false
  displayName := some "Horizontal alignment"
  description := some "left, center or right (l, c, r)"
  shortcuts := [("l", .symbol "left"), ("c", .symbol "center"), ("r", .symbol "right")]

def valignment : TypeSpec where
  tag := "valignment"
  coder := Coder.choice ["top", "center", "bottom"] false
  displayName := some "Vertical alignment"
  description := some "top, center or bottom (t, c, b)"
  shortcuts := [("t", .symbol "top"), ("c", .symbol "center"), ("b", .symbol "bottom")]

def lineStyle : TypeSpec where
  tag := "line-style"
  coder := Coder.choice ["solid", "dashes", "dots", "dash-dot", "none"] false
  displayName := some "Line style"
  description := some "solid, dashes, dots, dash-dot or none; also -, --, : and -."
  shortcuts :=
    [("-", .symbol "solid"), ("--", .symbol "dashes"), (":", .symbol "dots"),
      ("-.", .symbol "dash-dot")]

/-- The words `no` and `off` in any case. -/
def isNone (text : String) : Bool :=
  Text.eqFolded text.toList "no".toList || Text.eqFolded text.toList "off".toList

def marker : TypeSpec where
  tag := "marker"
  coder := Coder.choice ["circle", "square", "triangle", "cross", "plus", "none"] false
  displayName := some "Marker"
  description := some "circle, square, triangle, cross, plus or none"
  patterns := [(isNone, .symbol "none")]

/-- The colors that have a name, in shares of 255. -/
def namedColors : List (String × Value) :=
  [("black", Coder.rgb 0 0 0), ("white", Coder.rgb 255 255 255), ("red", Coder.rgb 255 0 0),
    ("green", Coder.rgb 0 128 0), ("blue", Coder.rgb 0 0 255),
    ("yellow", Coder.rgb 255 255 0), ("cyan", Coder.rgb 0 255 255),
    ("magenta", Coder.rgb 255 0 255), ("orange", Coder.rgb 255 165 0),
    ("purple", Coder.rgb 128 0 128), ("brown", Coder.rgb 165 42 42),
    ("pink", Coder.rgb 255 192 203), ("gray", Coder.rgb 128 128 128),
    ("grey", Coder.rgb 128 128 128), ("navy", Coder.rgb 0 0 128),
    ("darkgreen", Coder.rgb 0 100 0)]

def color : TypeSpec where
  tag := "color"
  coder := Coder.color
  displayName := some "Color"
  description := some "a color name, #RRGGBB, or r,g,b with components between 0 and 1"
  constants := namedColors

def dimension : TypeSpec where
  tag := "dimension"
  coder := Coder.dimension
  displayName := some "Dimension"
  description := some "a number with an optional unit: pt, bp, mm, cm, in or dy"

def point : TypeSpec where
  tag := "point"
  coder := Coder.point
  displayName := some "Point"
  description := some "x,y"

def alignedPoint : TypeSpec where
  tag := "aligned-point"
  coder := Coder.alignedPoint
  displayName := some "Aligned point"
  description := some "[VH:]x,y where V is t, c or b and H is l, c or r"

def box : TypeSpec where
  tag := "box"
  coder := Coder.box
  displayName := some "Box"
  description := some "x1,y1,x2,y2 or x1,y1:x2,y2"

def margins : TypeSpec where
  tag := "margins"
  coder := Coder.margins
  displayName := some "Margins"
  description := some "all, or horizontal,vertical, or left,right,top,bottom"

def bijection : TypeSpec where
  tag := "bijection"
  coder := Coder.bijection
  displayName := some "Bijection"
  description := some "forward or forward::backward expressions of x"
  shortcuts := [("identity", .bijection "x" (some "x"))]

/-- The built-in types in the order in which they are listed. -/
def all : List TypeSpec :=
  [boolean, integer, float, text, range, partialRange, alignment, valignment, lineStyle,
    marker, color, dimension, point, alignedPoint, box, margins, bijection]

end PlotScript.Builtin

namespace PlotScript.Registry

/-- The registry of the built-in types alone. -/
def standard : Registry where
  specs := Builtin.all
  distinct := by decide

end PlotScript.Registry
