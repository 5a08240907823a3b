/-!
# Output

Where printed texts go. A buffer puts a newline between two texts; the console
ends each one with a newline.
-/

namespace PlotScript

/-- How texts are put one behind the other. -/
inductive Sink where
  | buffer
  | console
  deriving DecidableEq

/-- What has been printed into a sink. -/
structure Output where
  sink : Sink
  text : String
  deriving DecidableEq

namespace Output

def empty (sink : Sink) : Output :=
  ⟨sink, ""⟩

/-- Prints a text. A buffer that is still empty takes it without a newline in
front. -/
def emit (o : Output) (text : String) : Output :=
  match o.sink with
  | .buffer => { o with text := if o.text.isEmpty then text else o.text ++ "\n" ++ text }
  | .console => { o with text := o.text ++ text ++ "\n" }

/-- What a script prints itself reaches the console as it is and leaves a
buffer alone. -/
def pass (o : Output) (text : String) : Output :=
  match o.sink with
  | .buffer => o
  | .console => { o with text := o.text ++ text }

end Output

end PlotScript
