import PlotScript.Coercion.Registry
import PlotScript.NameMap

/-!
# Commands

The description of a command: how it is called, what it takes, and what it does
once its arguments are read.
-/

namespace PlotScript

/-- What a command does. -/
inductive Action where
  | nothing
  /-- hands the call to the drawing surface -/
  | draw
  /-- runs the commands of the file that the first argument names -/
  | includeFile
  /-- prints the first argument -/
  | echo
  /-- binds the variable that the first argument names to the second one -/
  | assign
  /-- sets the verbosity to the first argument -/
  | verbose
  /-- prints the text of the argument at a position counted from zero -/
  | printArgument (position : Nat)
  /-- prints the display form of an option, or a hyphen without it -/
  | printOption (name : String)
  deriving DecidableEq

/-- A positional parameter. -/
structure Parameter where
  typeTag : String
  name : Option String := none
  deriving DecidableEq

/-- The name of a parameter, or else its type tag. -/
def Parameter.label (p : Parameter) : String :=
  p.name.getD p.typeTag

/-- A command with its flags, parameters, options and action. -/
structure Command where
  name : String
  shortFlag : Option Char := none
  longFlag : Option String := none
  parameters : List Parameter := []
  /-- The type tag of every inline option. -/
  options : NameMap String := NameMap.empty
  description : String := ""
  group : String := ""
  action : Action := .nothing
  deriving DecidableEq

namespace Command

/-- A command whose only parameter is a switch. Its flags take no argument. -/
def isSwitch (c : Command) : Bool :=
  match c.parameters with
  | [p] => Registry.isBoolean p.typeTag
  | _ => false

def declaresOption (c : Command) (name : String) : Bool :=
  c.options.contains name

def upper (s : String) : String :=
  String.ofList (Text.toUpper s.toList)

/-- Name, parameters and options on one line. -/
def synopsis (c : Command) : String :=
  " ".intercalate (c.name :: c.parameters.map (fun p => upper p.label) ++
    c.options.entries.map fun o => "[/" ++ o.1 ++ "=" ++ upper o.2 ++ "]")

/-- The description of a command as one JSON object. -/
def json (c : Command) : String :=
  Text.Json.object
    [("name", Text.Json.string c.name),
      ("short_option", Text.Json.optString (c.shortFlag.map String.singleton)),
      ("long_option", Text.Json.optString c.longFlag),
      ("args", Text.Json.array (c.parameters.map fun p =>
        Text.Json.object
          [("type_tag", Text.Json.string p.typeTag), ("name", Text.Json.optString p.name)])),
      ("options", Text.Json.object
        (c.options.entries.map fun o => (o.1, Text.Json.string o.2))),
      ("description", Text.Json.string c.description),
      ("group", Text.Json.string c.group)]

end Command

end PlotScript
