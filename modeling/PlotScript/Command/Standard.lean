import PlotScript.Command.Table

/-!
# The standard commands

Drawing commands hand their call to the surface. `include`, `echo`, `set` and
`verbose` act on the session itself.
-/

namespace PlotScript.StandardCommands

/-- A parameter that takes any text. -/
def text (label : String) : Parameter :=
  ⟨"text", some label⟩

/-- A command with one parameter that sets a property of the figure. -/
def setting (name tag group description : String) : Command where
  name := name
  longFlag := some name
  parameters := [{ typeTag := tag }]
  group := group
  description := description
  action := .draw

/-- A command that writes one text into the figure. -/
def caption (name : String) (shortFlag : Char) (description : String) : Command where
  name := name
  shortFlag := some shortFlag
  longFlag := some name
  parameters := [text "label"]
  options := NameMap.ofList [("color", "color")]
  group := "decorations"
  description := description
  action := .draw

def plot : Command where
  name := "plot"
  parameters := [text "dataset"]
  options := NameMap.ofList
    [("with", "text"), ("color", "color"), ("line-style", "line-style"),
      ("line-width", "float"), ("marker", "marker"), ("legend", "text")]
  group := "plots"
  description := "Plots a dataset."
  action := .draw

def drawText : Command where
  name := "draw-text"
  longFlag := some "draw-text"
  parameters := [⟨"aligned-point", some "position"⟩, text "text"]
  options := NameMap.ofList [("color", "color"), ("scale", "float")]
  group := "decorations"
  description := "Writes text at a position given in frame coordinates."
  action := .draw

def pageSize : Command where
  name := "page-size"
  longFlag := some "page-size"
  parameters := [⟨"dimension", some "width"⟩, ⟨"dimension", some "height"⟩]
  group := "page"
  description := "Sets the page size."
  action := .draw

def color : Command :=
  { setting "color" "color" "style" "Sets the color of the next curves." with
    shortFlag := some 'c' }

def includeFile : Command where
  name := "include"
  shortFlag := some 'f'
  longFlag := some "file"
  parameters := [text "file"]
  group := "session"
  description := "Runs the commands of another file."
  action := .includeFile

def echo : Command where
  name := "echo"
  longFlag := some "echo"
  parameters := [text "text"]
  group := "session"
  description := "Prints text."
  action := .echo

def set : Command where
  name := "set"
  longFlag := some "set"
  parameters := [text "name", text "value"]
  group := "session"
  description := "Defines a variable for command files."
  action := .assign

def verbose : Command where
  name := "verbose"
  shortFlag := some 'v'
  longFlag := some "verbose"
  parameters := [{ typeTag := "boolean" }]
  group := "session"
  description := "Logs every command as it runs."
  action := .verbose

/-- The standard commands in the order in which they are listed. -/
def all : List Command :=
  [plot,
    caption "title" 't' "Sets the plot title.",
    caption "xlabel" 'x' "Sets the label of the X axis.",
    caption "ylabel" 'y' "Sets the label of the Y axis.",
    drawText,
    setting "xrange" "partial-range" "axes" "Sets the X range, either side may be left out.",
    setting "yrange" "partial-range" "axes" "Sets the Y range, either side may be left out.",
    setting "grid" "boolean" "axes" "Draws a background grid.",
    setting "xlog" "boolean" "axes" "Uses a logarithmic X axis.",
    setting "ylog" "boolean" "axes" "Uses a logarithmic Y axis.",
    setting "xtransform" "bijection" "axes"
      "Transforms X coordinates with forward[::backward] expressions.",
    pageSize,
    setting "margins" "margins" "page" "Sets the plot margins.",
    setting "inset" "box" "page" "Starts an inset in the given box.",
    color,
    setting "line-style" "line-style" "style" "Sets the line style of the next curves.",
    setting "marker" "marker" "style" "Sets the marker of the next curves.",
    setting "line-width" "float" "style" "Sets the line width of the next curves.",
    includeFile, echo, set, verbose]

end PlotScript.StandardCommands

namespace PlotScript.CommandTable

/-- The table of the standard commands. -/
def standard : CommandTable where
  commands := StandardCommands.all
  distinct := by decide

end PlotScript.CommandTable
