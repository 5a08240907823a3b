import PlotScript.Command.Table
import PlotScript.Coercion.Registry

/-!
# Listings

The commands under the headings of their groups, and the types. With color, a
heading is bold yellow and a synopsis or a tag is bold green.
-/

namespace PlotScript.Listing

/-- The two kinds of text that are colored. -/
inductive Ink where
  | heading
  | entry
  deriving DecidableEq

def reset : String := "\x1b[0m"

/-- The control sequence in front of a text. -/
def Ink.start : Ink → String
  | heading => reset ++ "\x1b[1m\x1b[33m"
  | entry => reset ++ "\x1b[1m\x1b[32m"

/-- A text in an ink, if there is color. -/
def painted (color : Bool) (ink : Ink) (text : String) : String :=
  if color then ink.start ++ text ++ reset else text

/-- The groups in the order in which they first occur. -/
def groups (commands : List Command) : List String :=
  commands.foldl (fun seen c => if c.group ∈ seen then seen else seen ++ [c.group]) []

/-- The flags that reach a command, short before long. -/
def flags (c : Command) : List String :=
  (c.shortFlag.map fun f => "-" ++ String.singleton f).toList ++
    (c.longFlag.map fun f => "--" ++ f).toList

/-- A synopsis with the flags behind it, and the description on a line of its own. -/
def command (color : Bool) (c : Command) : String :=
  let reach := if (flags c).isEmpty then "" else "  (" ++ ", ".intercalate (flags c) ++ ")"
  let description := if c.description.isEmpty then "" else "      " ++ c.description ++ "\n"
  painted color .entry ("  " ++ c.synopsis) ++ reach ++ "\n" ++ description

/-- A heading and the commands of its group in their order in the table. -/
def group (color : Bool) (commands : List Command) (name : String) : String :=
  painted color .heading ("[" ++ name ++ "]\n") ++
    String.join ((commands.filter (·.group = name)).map (command color))

/-- All groups with an empty line between each two. -/
def commands (color : Bool) (t : CommandTable) : String :=
  "\n".intercalate ((groups t.commands).map (group color t.commands))

/-- A tag padded to sixteen characters. -/
def padded (tag : String) : String :=
  tag ++ String.ofList (List.replicate (16 - tag.length) ' ')

/-- One line for every type. -/
def types (color : Bool) (r : Registry) : String :=
  String.join (r.describe.map fun (tag, name, description) =>
    painted color .entry (padded tag) ++ " " ++ name ++ ": " ++ description ++ "\n")

end PlotScript.Listing
