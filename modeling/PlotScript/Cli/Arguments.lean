import PlotScript.Output.Transcript

/-!
# Arguments of the program

The program takes global options and one subcommand. Global options may stand
before or behind the subcommand, and those behind it prevail. What stands behind
`--` is no option and no subcommand.
-/

namespace PlotScript.Cli

/-- Why the arguments of the program cannot be followed, or what they ask for
instead of a run. -/
inductive Stop where
  | unknownArgument
  | invalidValue
  | invalidSubcommand
  | missingSubcommand
  | missingRequiredArgument
  | argumentConflict
  | tooManyValues
  | displayHelp
  | displayVersion
  | displayHelpOnMissing
  deriving DecidableEq

namespace Stop

def name : Stop → String
  | unknownArgument => "UnknownArgument"
  | invalidValue => "InvalidValue"
  | invalidSubcommand => "InvalidSubcommand"
  | missingSubcommand => "MissingSubcommand"
  | missingRequiredArgument => "MissingRequiredArgument"
  | argumentConflict => "ArgumentConflict"
  | tooManyValues => "TooManyValues"
  | displayHelp => "DisplayHelp"
  | displayVersion => "DisplayVersion"
  | displayHelpOnMissing => "DisplayHelpOnMissingArgumentOrSubcommand"

/-- The status that the program exits with. Help and version are no errors. -/
def exitStatus : Stop → Nat
  | displayHelp => 0
  | displayVersion => 0
  | _ => 2

end Stop

/-- What to do. -/
inductive Task where
  | exec (defaultPlot : Bool) (tokens : List String)
  | run (files : List String)
  | listCommands
  | listTypes
  deriving DecidableEq

/-- What the arguments of the program come to. -/
structure Arguments where
  logLevel : String := "warn"
  scriptInterpreter : String := "ruby"
  legacy : Bool := true
  format : TranscriptFormat := .text
  task : Task
  deriving DecidableEq

/-- Options with a value. -/
inductive Setting where
  | logLevel
  | scriptInterpreter
  | format
  deriving DecidableEq

/-- Options without a value. -/
inductive Switch where
  | noLegacy
  | noDefaultPlot
  | help
  | version
  deriving DecidableEq

/-- Where in the arguments an option stands: before the subcommand or behind
it. -/
inductive Level where
  | top
  | exec
  | run
  | listCommands
  | listTypes
  deriving DecidableEq

namespace Level

/-- The subcommands by name. -/
def subcommands : List (String × Level) :=
  [("exec", exec), ("run", run), ("list-commands", listCommands), ("list-types", listTypes)]

/-- The option with a value of a long name. These stand on every level. -/
def setting? (name : String) : Option Setting :=
  if name = "log-level" then some .logLevel
  else if name = "script-interpreter" then some .scriptInterpreter
  else if name = "format" then some .format
  else none

/-- The option without a value that a long name has on a level. -/
def switch? (level : Level) (name : String) : Option Switch :=
  if name = "no-legacy" then some .noLegacy
  else if name = "help" then some .help
  else if name = "no-default-plot" ∧ level = exec then some .noDefaultPlot
  else if name = "version" ∧ level = top then some .version
  else none

end Level

/-- What has been given on one level. -/
structure Given where
  settings : List (Setting × String) := []
  switches : List Switch := []
  positionals : List String := []

/-- An option or a list of files that is noted but not accepted yet. -/
inductive Pending where
  | nothing
  /-- an option whose value comes next -/
  | awaiting (setting : Setting)
  | setting (setting : Setting) (value : String)
  | files (files : List String)

/-- The transcript format of a name. -/
def formatOf? (value : String) : Option TranscriptFormat :=
  if value = "text" then some .text else if value = "json" then some .json else none

namespace Given

/-- Accepts the value of an option that has none yet. -/
def set (g : Given) (s : Setting) (value : String) : Except Stop Given :=
  if g.settings.any (·.1 = s) then .error .argumentConflict
  else if s = .format ∧ (formatOf? value).isNone then .error .invalidValue
  else .ok { g with settings := g.settings ++ [(s, value)] }

/-- Accepts an option without a value. Help and version end the reading at once. -/
def turn (g : Given) (s : Switch) : Except Stop Given :=
  match s with
  | .help => .error .displayHelp
  | .version => .error .displayVersion
  | s =>
      if s ∈ g.switches then .error .argumentConflict
      else .ok { g with switches := g.switches ++ [s] }

/-- Accepts what was pending. -/
def settle (g : Given) : Pending → Except Stop Given
  | .nothing => .ok g
  | .awaiting _ => .error .invalidValue
  | .setting s value => g.set s value
  | .files files =>
      if "" ∈ files then .error .invalidValue
      else .ok { g with positionals := g.positionals ++ files }

/-- Whether no option has been accepted. -/
def isEmpty (g : Given) : Bool :=
  g.settings.isEmpty && g.switches.isEmpty

end Given

/-- What the arguments of a level come to: the end of the arguments, or a
subcommand with more arguments behind it. -/
structure Ending where
  given : Given
  pending : Pending
  subcommand : Option (String × List String)

/-- A positional argument of a level. -/
def positional (level : Level) (trailing : Bool) (g : Given) (p : Pending) (token : String) :
    Except Stop (Given × Pending) :=
  match level with
  | .top =>
      if trailing ∧ (token = "help" ∨ (Level.subcommands.lookup token).isSome) then
        .error .unknownArgument
      else .error .invalidSubcommand
  | .exec =>
      if trailing then
        (g.settle p).map fun g => ({ g with positionals := g.positionals ++ [token] }, .nothing)
      else .error .unknownArgument
  | .run =>
      match p with
      | .files files => .ok (g, .files (files ++ [token]))
      | p => (g.settle p).map fun g => (g, .files [token])
  | _ => .error .unknownArgument

/-- A token by its shape. -/
inductive ArgumentShape where
  | escape
  | long (name : String) (value : Option String)
  | short (letter : Char)
  | plain

/-- Two hyphens alone end the options. A long name may have its value attached with an
equals sign, and of short letters only the first one counts. -/
def ArgumentShape.ofToken (token : String) : ArgumentShape :=
  match token.toList with
  | ['-', '-'] => .escape
  | '-' :: '-' :: rest =>
      .long (String.ofList (rest.takeWhile (· != '=')))
        (match rest.dropWhile (· != '=') with
          | [] => none
          | _ :: value => some (String.ofList value))
  | '-' :: letter :: _ => .short letter
  | _ => .plain

/-- Takes an option in long form. -/
def takeLong (level : Level) (g : Given) (p : Pending) (name : String)
    (value : Option String) : Except Stop (Given × Pending) :=
  match Level.setting? name, level.switch? name, value with
  | some s, _, some value => do
      let g ← g.settle p
      return (← g.set s value, .nothing)
  | some s, _, none => (g.settle p).map fun g => (g, .awaiting s)
  | none, some _, some _ => .error .tooManyValues
  | none, some s, none => do
      let g ← g.settle p
      return (← g.turn s, .nothing)
  | none, none, _ => .error .unknownArgument

/-- Takes an option in short form. -/
def takeShort (level : Level) (g : Given) (p : Pending) (letter : Char) :
    Except Stop (Given × Pending) :=
  if letter = 'h' ∨ (letter = 'V' ∧ level = .top) then do
    let g ← g.settle p
    return (← g.turn (if letter = 'h' then .help else .version), .nothing)
  else .error .unknownArgument

/-- Reads the arguments of a level up to a subcommand. -/
def readLevel (level : Level) (trailing : Bool) (g : Given) (p : Pending) :
    List String → Except Stop Ending
  | [] => .ok ⟨g, p, none⟩
  | token :: rest =>
      let onward (trailing : Bool) (next : Except Stop (Given × Pending)) :
          Except Stop Ending :=
        match next with
        | .error stop => .error stop
        | .ok (g, p) => readLevel level trailing g p rest
      if trailing then onward true (positional level true g p token)
      else
        match p, ArgumentShape.ofToken token with
        | p, .escape => onward true (.ok (g, p))
        | p, .long name value => onward false (takeLong level g p name value)
        | p, .short letter => onward false (takeShort level g p letter)
        | .awaiting s, .plain => onward false (.ok (g, .setting s token))
        | p, .plain =>
            if level = .top ∧ (token = "help" ∨ (Level.subcommands.lookup token).isSome) then
              .ok ⟨g, p, some (token, rest)⟩
            else onward false (positional level false g p token)

/-- The task that a subcommand and its positional arguments set. -/
def Level.task (level : Level) (g : Given) : Except Stop Task :=
  match level with
  | .exec => .ok (.exec (!g.switches.contains .noDefaultPlot) g.positionals)
  | .run =>
      if g.positionals.isEmpty then .error .missingRequiredArgument
      else .ok (.run g.positionals)
  | .listCommands => .ok .listCommands
  | .listTypes => .ok .listTypes
  | .top => .error .missingSubcommand

/-- The value of an option, behind the subcommand or else before it. -/
def value (s : Setting) (top sub : Given) (absent : String) : String :=
  ((sub.settings.lookup s).or (top.settings.lookup s)).getD absent

/-- Reads the arguments of the program. The arguments of the subcommand are
settled before those in front of it. -/
def Arguments.read (tokens : List String) : Except Stop Arguments := do
  let top ← readLevel .top false {} .nothing tokens
  match top.subcommand with
  | none => do
      let g ← top.given.settle top.pending
      throw (if g.isEmpty then .displayHelpOnMissing else .missingSubcommand)
  | some (name, rest) =>
      match Level.subcommands.lookup name with
      | none =>
          match rest with
          | [] => throw .displayHelp
          | [topic] =>
              throw (if topic = "help" ∨ (Level.subcommands.lookup topic).isSome then
                .displayHelp else .invalidSubcommand)
          | _ => throw .invalidSubcommand
      | some level => do
          let sub ← readLevel level false {} .nothing rest
          let subGiven ← sub.given.settle sub.pending
          let task ← level.task subGiven
          let topGiven ← top.given.settle top.pending
          return {
            logLevel := value .logLevel topGiven subGiven "warn"
            scriptInterpreter := value .scriptInterpreter topGiven subGiven "ruby"
            legacy :=
              !(topGiven.switches.contains .noLegacy || subGiven.switches.contains .noLegacy)
            format := (formatOf? (value .format topGiven subGiven "text")).getD .text
            task }

end PlotScript.Cli
