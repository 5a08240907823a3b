import PlotScript.Number.Notation

/-!
# Source locations
-/

namespace PlotScript

/-- Where the command being run comes from. -/
structure Location where
  /-- The command name in a file, the flag on the command line. -/
  label : String
  stream : String
  /-- The physical line, counted from one; zero on the command line. -/
  line : Nat
  /-- The number of the command on the command line, counted from one; zero in
  a file. -/
  index : Nat
  deriving DecidableEq

namespace Location

/-- The location before anything has run. -/
def none : Location := ⟨"", "", 0, 0⟩

/-- The location of the command with a number on the command line. -/
def onCommandLine (flag : String) (index : Nat) : Location :=
  ⟨flag, "command line", 0, index⟩

/-- The location of a line of a file. -/
def inFile (label stream : String) (line : Nat) : Location :=
  ⟨label, stream, line, 0⟩

/-- Stream and label with the line or, on the command line, the number. -/
def display (l : Location) : String :=
  if 0 < l.line then l.stream ++ ":" ++ writeNat l.line ++ ": " ++ l.label
  else if 0 < l.index then l.stream ++ ", option #" ++ writeNat l.index ++ ": " ++ l.label
  else l.stream ++ ": " ++ l.label

end Location

end PlotScript
