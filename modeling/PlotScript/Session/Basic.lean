import PlotScript.CommandFile.Interpreter
import PlotScript.CommandLine.Basic
import PlotScript.Output.Transcript
import PlotScript.Session.Files
import PlotScript.Session.ScriptHost

/-!
# Sessions

A session is the execution context that acts: it reads the arguments of a
command under their types and carries the command out. It owns the variables,
the location, the transcript, and the legacy parser, which is out of reach while
it runs. Files may include files, down to a fixed depth; the contexts of the
nested files are built from the innermost one outwards.
-/

namespace PlotScript

/-- Reads a file in the legacy syntax by asking the context for whatever it
needs. -/
structure LegacyParser where
  parse : String → Run Unit

/-- What stays the same during a session. -/
structure Setup where
  table : CommandTable := CommandTable.empty
  types : Registry := Registry.empty
  host : Option ScriptHost := none
  files : FileSource := fun _ => .error .notFound
  reader : FileReader := {}

/-- What changes during a session. -/
structure Session where
  transcript : Transcript
  legacyParser : Option LegacyParser := none
  scope : Scope := NameMap.empty
  location : Location := Location.none
  warnings : List Warning := []
  verbose : Bool := false
  /-- How many included files are being read. -/
  includeDepth : Nat := 0
  /-- The blocks that went to the script host. -/
  scripts : List String := []
  /-- The paths that were read from, in order. -/
  opened : List String := []

/-- Something a session does, which may fail. -/
abbrev Session.Act := Session → Except Diagnostic Unit × Session

namespace Session

/-- How many included files may be read one inside the other. -/
def maxIncludeDepth : Nat := 32

/-- Prints a text. -/
def emit (s : Session) (text : String) : Session :=
  { s with transcript := { s.transcript with output := s.transcript.output.emit text } }

/-- Records a drawing operation. -/
def draw (s : Session) (i : Invocation) : Session :=
  { s with transcript := s.transcript.apply i }

/-- Binds a variable. Tells whether it did. -/
def define (s : Session) (name : String) (binding : Binding) (override : Bool) :
    Bool × Session :=
  let (scope, stored) := s.scope.define name binding override
  (stored, { s with scope })

/-- Goes on with the text of an argument. -/
def withText (i : Invocation) (position : Nat) (next : String → Act) : Act := fun s =>
  match i.textArgument position with
  | .ok text => next text s
  | .error cause => (.error cause.unplaced, s)

/-- Carries out what a command does. -/
def perform (includeFile : String → Act) (i : Invocation) : Action → Act
  | .nothing => fun s => (.ok (), s)
  | .draw => fun s => (.ok (), s.draw i)
  | .includeFile => withText i 0 includeFile
  | .echo => withText i 0 fun text s => (.ok (), s.emit text)
  | .assign =>
      withText i 0 fun name => withText i 1 fun value s =>
        (.ok (), (s.define name (.eager value) true).2)
  | .verbose => fun s =>
      (.ok (), { s with verbose := (i.arguments[0]?.bind Value.bool?).getD false })
  | .printArgument position => withText i position fun text s => (.ok (), s.emit text)
  | .printOption name => fun s =>
      (.ok (), s.emit (((i.options.get? name).map Value.display).getD "-"))

/-- Runs a command at the current location. An error from inside it that has no
place of its own is placed there. -/
def runCommand (setup : Setup) (includeFile : String → Act) (c : Command)
    (arguments : List String) (options : RawOptions) : Act := fun s =>
  match c.invocation setup.types arguments options with
  | .error d => (.error (d.withLocation s.location), s)
  | .ok i =>
      let (result, s') := perform includeFile i c.action s
      (result.mapError (·.withLocation s.location), s')

/-- Hands a script block to the host, if there is one. -/
def runScript (setup : Setup) (code : String) : Act := fun s =>
  match setup.host with
  | none => (.error Cause.noScriptHost.unplaced, s)
  | some host =>
      let outcome := host.run code
      (outcome.result.mapError Cause.unplaced,
        { s with
          scripts := s.scripts ++ [code]
          transcript :=
            { s.transcript with output := s.transcript.output.pass outcome.printed } })

/-- Without a legacy parser a legacy file cannot be read. -/
def refuseLegacy : Act := fun s =>
  (.error ((Cause.noLegacyParser.placed s.location).withHelp
    "rerun with --no-legacy to read it as a modern command file"), s)

/-- Runs the legacy parser, which is taken out of the session meanwhile and put
back however it ends. -/
def runLegacy (start : LegacyParser → String → Act) (text : String) : Act := fun s =>
  match s.legacyParser with
  | none => refuseLegacy s
  | some parser =>
      let (result, s') := start parser text { s with legacyParser := none }
      (result, { s' with legacyParser := some parser })

/-- Answers requests, given how a file is included and how the legacy parser is
started. -/
def respond (setup : Setup) (includeFile : String → Act)
    (startLegacy : LegacyParser → String → Act) : Context Session
  | .runCommand c arguments options, s => runCommand setup includeFile c arguments options s
  | .setLocation location, s => ((), { s with location })
  | .location, s => (s.location, s)
  | .lookupCommand name, s => (setup.table.get? name, s)
  | .define name binding override, s => s.define name binding override
  | .scope, s => (s.scope, s)
  | .isBoolean tag, s => (Registry.isBoolean tag, s)
  | .warn warning, s => ((), { s with warnings := s.warnings ++ [warning] })
  | .runScript code, s => runScript setup code s
  | .runLegacy text, s => runLegacy startLegacy text s

/-- Runs a program in a session. -/
def follow {α : Type} (context : Context Session) (program : Run α) (s : Session) :
    Except Diagnostic α × Session :=
  program.run.run context s

/-- Interprets the file at a path. -/
def readFile (setup : Setup) (context : Context Session) (path : String) : Act := fun s =>
  let s := { s with opened := s.opened ++ [path] }
  match setup.files.text path with
  | .error fault =>
      (.error ((Cause.unreadable fault).unplaced.withHelp ("while reading " ++ path)), s)
  | .ok text => follow context (setup.reader.interpret path text) s

/-- An include that would nest too deep. The file is not read. -/
def includeTooDeep (path : String) : Act := fun s =>
  (.error ((Cause.includeTooDeep maxIncludeDepth path).placed s.location), s)

/-- Interprets an included file, and then is back at the location before. -/
def nest (setup : Setup) (context : Context Session) (path : String) : Act := fun s =>
  let (result, s') := readFile setup context path { s with includeDepth := s.includeDepth + 1 }
  (result, { s' with includeDepth := s'.includeDepth - 1, location := s.location })

/-- The context while the legacy parser runs, when `room` more files may be
included one inside the other. -/
def legacyContext (setup : Setup) : Nat → Context Session
  | 0 => respond setup includeTooDeep fun _ _ => refuseLegacy
  | room + 1 =>
      respond setup (nest setup (legacyContext setup room)) fun _ _ => refuseLegacy

/-- Starts the legacy parser in a context of its own. -/
def startLegacy (setup : Setup) (room : Nat) (parser : LegacyParser) (text : String) : Act :=
  follow (legacyContext setup room) (parser.parse text)

/-- The context of a session when `room` more files may be included one inside
the other. -/
def contextWithin (setup : Setup) : Nat → Context Session
  | 0 => respond setup includeTooDeep (startLegacy setup 0)
  | room + 1 =>
      respond setup (nest setup (contextWithin setup room)) (startLegacy setup (room + 1))

/-- The context of a session in which no file is being included. -/
def context (setup : Setup) : Context Session :=
  contextWithin setup maxIncludeDepth

/-- Runs a front end in a session. -/
def run {α : Type} (setup : Setup) (program : Run α) (s : Session) :
    Except Diagnostic α × Session :=
  follow (context setup) program s

/-- Interprets the file at a path as a command file. -/
def runFile (setup : Setup) (path : String) : Act :=
  readFile setup (context setup) path

/-- Interprets the file at a path as an included file. -/
def includeFile (setup : Setup) (path : String) : Act :=
  nest setup (contextWithin setup (maxIncludeDepth - 1)) path

end Session

end PlotScript
