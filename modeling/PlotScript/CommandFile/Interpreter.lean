import PlotScript.CommandFile.Block
import PlotScript.Execution.Program
import PlotScript.Variables.Words

/-!
# Interpreting command files

The lines of a file run one after another in an execution context. A loop
expands its list once, at its opening line, and runs its body for every word
with the variable bound to it. A script block goes to the script host, whose
failure is a warning. An error ends the run.
-/

namespace PlotScript

namespace CommandFile

/-- The first field of a line, which labels it before its words are known. -/
def firstField (line : Line) : String :=
  String.ofList ((Text.firstField line.text.toList).getD [])

/-- A call without arguments of a command that is a switch turns it on. -/
def completed (c : Command) (arguments : List String) : Run (List String) := do
  match arguments, c.parameters with
  | [], [p] => return if ← Run.isBoolean p.typeTag then ["true"] else []
  | _, _ => return arguments

/-- Runs a line that calls a command. -/
def runCommand (stream : String) (line : Line) : Run Unit := do
  let scope ← Run.scope
  let words ← Run.placed (Location.inFile (firstField line) stream line.number)
    (splitLine scope line.text.toList)
  match words with
  | [] => return
  | name :: words =>
      let location := Location.inFile name stream line.number
      match ← Run.lookupCommand name with
      | none => throw ((Cause.unknownCommand name).placed location)
      | some c =>
          Run.setLocation location
          let call ← Run.placed location (splitWords c words)
          match call.undeclared with
          | some option => Run.warn (.notAnOption option c.name)
          | none => pure ()
          let arguments ← completed c call.arguments
          Run.runCommand c arguments call.options

/-- Runs an assignment. -/
def assign (stream : String) (line : Line) (name : String) (soft deferred : Bool)
    (rest : String) : Run Unit := do
  let location := Location.inFile name stream line.number
  let scope ← Run.scope
  let binding ← Run.placed location
    (if deferred then (deferredValue rest.toList).map .deferred
    else (eagerValue scope rest.toList).map .eager)
  let _ ← Run.define name binding (!soft)

/-- Hands a script block to the host. -/
def runScript (stream : String) (opened : Nat) (code : String) : Run Unit := do
  let location := Location.inFile BlockKind.script.opener stream opened
  Run.setLocation location
  match ← Run.runScript code with
  | .ok () => return
  | .error d => Run.warn (.scriptFailed location d.cause)

/-- The words that a loop runs over. -/
def loopWords (stream : String) (line : Line) (list : String) : Run (List String) := do
  let scope ← Run.scope
  Run.placed (Location.inFile BlockKind.loop.opener stream line.number)
    (splitLine scope list.toList)

/-- A block that is open at the end of the file. -/
def unterminated {α : Type} (stream : String) (block : BlockKind) (opened : Nat) : Run α :=
  throw ((Cause.unterminatedBlock block opened).placed
    (Location.inFile block.opener stream opened))

/-- A closing line of a block that is not open. -/
def stray {α : Type} (stream : String) (block : BlockKind) (line : Line) : Run α :=
  throw ((Cause.strayBlockEnd block).placed (Location.inFile block.closer stream line.number))

/-- Runs a body for each word with the variable bound to it. -/
def replay (name : String) (words : List String) (body : Run Unit) : Run Unit :=
  match words with
  | [] => pure ()
  | word :: rest => do
      let _ ← Run.define name (.eager word) true
      body
      replay name rest body

/-- Runs logical lines. -/
def runLines (stream : String) (lines : List Line) : Run Unit :=
  match lines with
  | [] => pure ()
  | line :: rest =>
      match line.statement with
      | .blank => runLines stream rest
      | .scriptOpen =>
          match h : Block.takeScript rest with
          | none => unterminated stream .script line.number
          | some (code, behind) => do
              have := Block.length_of_takeScript h
              runScript stream line.number (Block.code code)
              runLines stream behind
      | .scriptClose => stray stream .script line
      | .loopOpen name list => do
          let words ← loopWords stream line list
          match h : Block.takeLoop {} rest with
          | none => unterminated stream .loop line.number
          | some (body, behind) =>
              have := Block.length_of_takeLoop h
              replay name words (runLines stream body)
              runLines stream behind
      | .loopClose => stray stream .loop line
      | .assignment name soft deferred value => do
          assign stream line name soft deferred value
          runLines stream rest
      | .command => do
          runCommand stream line
          runLines stream rest
termination_by lines.length
decreasing_by all_goals (simp_wf; try omega)

end CommandFile

/-- How command files are read. -/
structure FileReader where
  /-- Whether files in the legacy syntax go to the legacy parser. -/
  detectsLegacy : Bool := true
  deriving DecidableEq

namespace FileReader

/-- Interprets the text of a command file, or hands all of it to the legacy
parser. -/
def interpret (reader : FileReader) (stream text : String) : Run Unit := do
  match if reader.detectsLegacy then Legacy.line? text.toList else none with
  | some number =>
      Run.warn (.legacySyntax stream number)
      Run.runLegacy text
  | none => CommandFile.runLines stream (Line.ofText text.toList)

/-- Interprets bytes that should be the text of a command file. -/
def interpretBytes (reader : FileReader) (stream : String) (bytes : ByteArray) : Run Unit :=
  match String.fromUTF8? bytes with
  | some text => reader.interpret stream text
  | none => throw (Cause.unreadable .notText).unplaced

end FileReader

end PlotScript
