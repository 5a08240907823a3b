import PlotScript.Command.Invocation
import PlotScript.Output.Buffer
import PlotScript.Text.Quoted

/-!
# Transcripts

A surface that records every drawing operation as one line of text.
-/

namespace PlotScript

/-- The two forms of a line. -/
inductive TranscriptFormat where
  /-- name, arguments and options as on a command line -/
  | text
  /-- one JSON object per line -/
  | json
  deriving DecidableEq

namespace Transcript

/-- A text as it stands in a transcript: quoted if it is empty or holds white
space. -/
def word (s : String) : String :=
  if s.isEmpty || s.toList.any Text.isBlank then String.ofList (Text.quoted s.toList) else s

/-- Name, arguments and options, in the order of their names, on one line. -/
def textLine (i : Invocation) : String :=
  " ".intercalate (i.command :: i.arguments.map (fun v => word v.display) ++
    i.options.entries.map fun o => "/" ++ o.1 ++ "=" ++ word o.2.display)

/-- The operation as one JSON object. -/
def jsonLine (i : Invocation) : String :=
  Text.Json.object
    [("command", Text.Json.string i.command),
      ("args", Text.Json.array (i.arguments.map Value.json)),
      ("options", Text.Json.object (i.options.entries.map fun o => (o.1, o.2.json)))]

/-- The line of an operation. -/
def line (format : TranscriptFormat) (i : Invocation) : String :=
  match format with
  | .text => textLine i
  | .json => jsonLine i

end Transcript

/-- A transcript that is being written. -/
structure Transcript where
  format : TranscriptFormat
  /-- how many operations have been recorded -/
  operations : Nat
  output : Output

namespace Transcript

def empty (format : TranscriptFormat) (sink : Sink) : Transcript :=
  ⟨format, 0, Output.empty sink⟩

/-- Records an operation. -/
def apply (t : Transcript) (i : Invocation) : Transcript :=
  { t with operations := t.operations + 1, output := t.output.emit (line t.format i) }

end Transcript

end PlotScript
