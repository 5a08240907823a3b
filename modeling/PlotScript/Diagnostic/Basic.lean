import PlotScript.Diagnostic.Cause
import PlotScript.Diagnostic.Location

/-!
# Diagnostics

An error as it is reported: its cause, where it happened, and how to mend it.
-/

namespace PlotScript

/-- An error with what is known of its place. -/
structure Diagnostic where
  cause : Cause
  location : Option Location
  help : Option String
  deriving DecidableEq

namespace Cause

/-- An error whose place is not known yet. -/
def unplaced (c : Cause) : Diagnostic :=
  ⟨c, none, none⟩

/-- An error at a known place. -/
def placed (c : Cause) (l : Location) : Diagnostic :=
  ⟨c, some l, none⟩

end Cause

namespace Diagnostic

/-- Adds a place to an error that has none. The first place stays. -/
def withLocation (d : Diagnostic) (l : Location) : Diagnostic :=
  match d.location with
  | some _ => d
  | none => { d with location := some l }

/-- Sets the help. The last one stays. -/
def withHelp (d : Diagnostic) (help : String) : Diagnostic :=
  { d with help := some help }

def kind (d : Diagnostic) : Kind :=
  d.cause.kind

def message (d : Diagnostic) : String :=
  d.cause.message

def display (d : Diagnostic) : String :=
  d.cause.display

/-- The identifier of the class of an error. -/
def code (d : Diagnostic) : String :=
  "plotline::" ++ d.kind.name

/-- The place and the help, each on lines of its own. -/
def advice (d : Diagnostic) : Option String :=
  match d.location, d.help with
  | some l, some help => some ("at " ++ l.display ++ "\n" ++ help)
  | some l, none => some ("at " ++ l.display)
  | none, help => help

@[simp] theorem withLocation_location (d : Diagnostic) (l : Location) :
    (d.withLocation l).location = some (d.location.getD l) := by
  cases h : d.location <;> simp [withLocation, h]

@[simp] theorem withLocation_cause (d : Diagnostic) (l : Location) :
    (d.withLocation l).cause = d.cause := by
  cases h : d.location <;> simp [withLocation, h]

end Diagnostic

end PlotScript
