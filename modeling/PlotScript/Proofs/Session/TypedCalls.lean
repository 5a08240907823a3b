import PlotScript.Proofs.Coercion.Values
import PlotScript.Proofs.Execution.Failures
import PlotScript.Proofs.Session.Requests

/-!
# Typed calls

A session carries out a call with the values that the texts of the call are read as, each under
its declared type, or it does nothing. The standard commands declare a text wherever their action
takes one, and a Boolean for the switch of `verbose`. So whatever a front end is given, no action
is ever at a loss for a value.
-/

namespace PlotScript

/-! ## What a call is read as -/

/-- An invocation made of the texts of a call, each one read under the type that the command
declares for it. -/
structure Command.WellTyped (c : Command) (types : Registry) (arguments : List String)
    (options : RawOptions) (i : Invocation) : Prop where
  command : i.command = c.name
  count : arguments.length = c.parameters.length
  /-- the values of the arguments, position by position -/
  arguments : List.Forall₂ (fun given v => types.coerce given.1.typeTag given.2 = .ok v)
    (c.parameters.zip arguments) i.arguments
  /-- the values of the options, under their own names -/
  options : List.Forall₂ (fun given v => given.1 = v.1 ∧
      ∃ tag, c.options.get? given.1 = some tag ∧ types.coerce tag given.2 = .ok v.2)
    options.entries i.options.entries

/-- An action has a text wherever it takes one, and nothing but a Boolean where it sets a
switch. -/
structure Action.IsServed (action : Action) (i : Invocation) : Prop where
  texts : ∀ position ∈ action.textPositions, ∃ text, i.textArgument position = .ok text
  switch : action = .verbose → ∃ b, i.arguments = [.bool b]

/-- A text is not read because its type is not known or because it is no text of the type. -/
theorem Registry.cases_of_coerce_eq_error {types : Registry} {tag text : String} {cause : Cause}
    (h : types.coerce tag text = .error cause) :
    cause = .unknownType tag ∨ ∃ tag reason, cause = .invalidLiteral text tag reason := by
  unfold coerce at h
  split at h
  · rename_i spec found
    unfold TypeSpec.coerce at h
    split at h
    · cases h
    · cases read : spec.coder.decode text with
      | error reason =>
          rw [read] at h
          exact .inr ⟨spec.tag, reason, (Except.error.inj h).symm⟩
      | ok v =>
          rw [read] at h
          cases h
  · exact .inl (Except.error.inj h).symm

namespace Command

variable {c : Command} {types : Registry} {arguments : List String} {options : RawOptions}
  {i : Invocation}

theorem readOption_eq_ok_iff {name text : String} {v : Value} :
    c.readOption types name text = .ok v ↔
      ∃ tag, c.options.get? name = some tag ∧ types.coerce tag text = .ok v := by
  unfold readOption
  cases c.options.get? name with
  | none =>
      constructor
      · rintro ⟨⟩
      · rintro ⟨tag, ⟨⟩, -⟩
  | some tag =>
      constructor
      · exact fun read => ⟨tag, rfl, mapError_eq_ok_iff.1 read⟩
      · rintro ⟨_, ⟨⟩, read⟩
        exact mapError_eq_ok_iff.2 read

/-- The invocation of a call is the well-typed one. -/
theorem wellTyped_iff :
    c.WellTyped types arguments options i ↔ c.invocation types arguments options = .ok i := by
  rw [invocation_eq_ok_iff]
  constructor
  · rintro ⟨command, count, positional, named⟩
    exact ⟨command, count, positional, named.imp fun _ _ h => ⟨h.1, readOption_eq_ok_iff.2 h.2⟩⟩
  · rintro ⟨command, count, positional, named⟩
    exact ⟨command, count, positional, named.imp fun _ _ h => ⟨h.1, readOption_eq_ok_iff.1 h.2⟩⟩

/-- The value at a position is what the text there is read as. -/
theorem WellTyped.exists_argument (typed : c.WellTyped types arguments options i) {position : Nat}
    {p : Parameter} (declared : c.parameters[position]? = some p) :
    ∃ text v, types.coerce p.typeTag text = .ok v ∧ i.arguments[position]? = some v := by
  obtain ⟨isDeclared, same⟩ := List.getElem?_eq_some_iff.1 declared
  have given : position < (c.parameters.zip arguments).length := by
    rw [List.length_zip, typed.count, Nat.min_self]
    exact isDeclared
  have valued : position < i.arguments.length := typed.arguments.length_eq ▸ given
  have read := typed.arguments.get given valued
  rw [List.get_eq_getElem, List.getElem_zip, List.get_eq_getElem, same] at read
  exact ⟨_, _, read, List.getElem?_eq_getElem valued⟩

/-- A call is never refused because an action lacks a text. -/
theorem lacksText_of_invocation_eq_error {d : Diagnostic}
    (h : c.invocation types arguments options = .error d) : d.cause.lacksText = false := by
  rcases cases_of_invocation_eq_error h with rfl | ⟨tag, text, cause, failed, rfl⟩ | ⟨name, rfl⟩
  · rfl
  · rcases Registry.cases_of_coerce_eq_error failed with rfl | ⟨tag, reason, rfl⟩
    · rfl
    · rfl
  · rfl

end Command

/-! ## The standard commands -/

theorem Registry.exists_of_coerce_boolean {text : String} {v : Value}
    (read : standard.coerce "boolean" text = .ok v) : ∃ b, v = .bool b := by
  have member : Builtin.boolean ∈ standard.specs := by simp [standard, Builtin.all]
  have itself : standard.coerce "boolean" text = Builtin.boolean.coerce text :=
    coerce_of_mem member text
  have decoded : Builtin.boolean.coerce text = .ok (.bool _) :=
    TypeSpec.coerce_by_coder rfl rfl rfl ⟨rfl, rfl, rfl⟩
  rw [itself, decoded] at read
  exact ⟨_, (Except.ok.inj read).symm⟩

/-- The actions of all commands of a table are served by whatever is read for them. -/
def Setup.Serves (setup : Setup) : Prop :=
  ∀ c ∈ setup.table.commands, ∀ arguments options i,
    c.WellTyped setup.types arguments options i → c.action.IsServed i

namespace StandardCommands

/-- The standard commands declare the types that their actions rely on. -/
theorem declared_types : ∀ c ∈ all,
    (∀ position ∈ c.action.textPositions,
      (c.parameters[position]?).map (·.typeTag) = some "text") ∧
    (c.action = .verbose → c.parameters.map (·.typeTag) = ["boolean"]) := by
  decide

theorem serves {setup : Setup} (standardTable : setup.table = CommandTable.standard)
    (standardTypes : setup.types = Registry.standard) : setup.Serves := by
  intro c member arguments options i typed
  rw [standardTable] at member
  rw [standardTypes] at typed
  obtain ⟨texts, switch⟩ := declared_types c member
  constructor
  · intro position taken
    obtain ⟨p, declared, isText⟩ := Option.map_eq_some_iff.1 (texts position taken)
    obtain ⟨text, v, read, here⟩ := typed.exists_argument declared
    rw [isText, Registry.coerce_text] at read
    obtain rfl := Except.ok.inj read
    exact ⟨text, by rw [Invocation.textArgument, here]; rfl⟩
  · intro isVerbose
    obtain ⟨p, alone, isBoolean⟩ := List.map_eq_singleton_iff.1 (switch isVerbose)
    have declared : c.parameters[0]? = some p := by rw [alone]; rfl
    obtain ⟨text, v, read, here⟩ := typed.exists_argument declared
    rw [isBoolean] at read
    obtain ⟨b, rfl⟩ := Registry.exists_of_coerce_boolean read
    have single : i.arguments.length = 1 := by
      rw [← typed.arguments.length_eq, List.length_zip, typed.count, Nat.min_self, alone]
      rfl
    obtain ⟨w, isSingle⟩ := List.length_eq_one_iff.1 single
    rw [isSingle] at here ⊢
    obtain rfl := Option.some.inj here
    exact ⟨b, rfl⟩

end StandardCommands

/-! ## Runs -/

namespace Session

variable {setup : Setup} {start : Nat → LegacyParser → String → Act} {room : Nat} {s : Session}
  {may : Cause → Prop}

/-- A look-up finds commands of the table. -/
theorem mayAnswer_contextStarting (r : Request) (s : Session) :
    r.MayAnswer setup.table (contextStarting setup start room r s).1 := by
  rw [contextStarting_eq]
  cases r with
  | lookupCommand name =>
      rw [respond]
      cases found : setup.table.get? name with
      | none => trivial
      | some c => exact List.mem_of_find?_eq_some found
  | _ => trivial

/-- The legacy parser of a session, if it has one, fails with permitted causes only. -/
def ParserFailsWithin (start : Nat → LegacyParser → String → Act) (may : Cause → Prop)
    (s : Session) : Prop :=
  ∀ parser, s.legacyParser = some parser →
    ∀ room text u, FailsWithin may (start room parser text u).1

/-- A call of a command that is served fails with permitted causes if its includes do. -/
theorem failsWithin_runCommand (own : PermitsOwn may) (serves : setup.Serves) {c : Command}
    (member : c ∈ setup.table.commands) {includeFile : String → Act}
    (includes : ∀ path, FailsWithin may (includeFile path s).1) (arguments : List String)
    (options : RawOptions) :
    FailsWithin may (runCommand setup includeFile c arguments options s).1 := by
  rcases call_cases setup c arguments options with
    ⟨cause, help, refuses⟩ | ⟨path, included⟩ | succeeds
  · rw [runCommand_of_refuses refuses]
    refine .error ?_
    cases refuses with
    | unread failed =>
        have otherwise := Command.lacksText_of_invocation_eq_error failed
        exact own _ otherwise
    | noText read lacks =>
        obtain ⟨position, taken, absent⟩ := exists_mem_of_mapM_eq_error lacks
        obtain ⟨text, found⟩ :=
          (serves c member _ _ _ (Command.wellTyped_iff.2 read)).texts position taken
        rw [absent] at found
        cases found
  · rw [runCommand_of_included included]
    cases result : (includeFile path s).1 with
    | error d =>
        refine .error ?_
        rw [Diagnostic.withLocation_cause]
        exact includes path d result
    | ok done => exact .ok done
  · rw [succeeds]
    exact .ok ()

theorem failsWithin_respond (own : PermitsOwn may) (serves : setup.Serves)
    {includeFile : String → Act} (includes : ∀ path, FailsWithin may (includeFile path s).1)
    (parser : ParserFailsWithin start may s) {r : Request} (runs : r.RunsFrom setup.table) :
    r.FailsWithin may (respond setup includeFile (start room) r s).1 := by
  cases r with
  | runCommand c arguments options =>
      exact failsWithin_runCommand own serves runs includes arguments options
  | runLegacy text =>
      rw [respond, runLegacy]
      cases installed : s.legacyParser with
      | none => exact .error (own _ rfl)
      | some found => exact parser found installed room text _
  | _ => trivial

/-- The files of a setup are read by a front end. -/
theorem respects_fileProgram (own : PermitsOwn may) (path : String) :
    (setup.fileProgram path).Respects setup.table may := by
  unfold Setup.fileProgram
  cases setup.files.text path with
  | error fault => exact .done (.error (own _ rfl))
  | ok text => exact setup.reader.respects_interpret own path text

/-- A program whose requests do not fail otherwise does not do so itself. -/
theorem failsWithin_run {α : Type} {p : Program (Except Diagnostic α)}
    (respects : p.Respects setup.table may)
    (answers : ∀ (r : Request) s, ParserFailsWithin start may s → r.RunsFrom setup.table →
      r.FailsWithin may (contextStarting setup start room r s).1)
    (parser : ParserFailsWithin start may s) :
    FailsWithin may (p.run (contextStarting setup start room) s).1 := by
  induction respects generalizing s with
  | done permitted => exact permitted
  | @ask r next runs _ ih =>
      refine ih _ (mayAnswer_contextStarting r s) (answers r s parser runs) ?_
      rwa [ParserFailsWithin, legacyParser_contextStarting]

/-- Where the commands of the table are served no request fails but with permitted causes. -/
theorem failsWithin_contextStarting (own : PermitsOwn may) (serves : setup.Serves) (r : Request)
    (s : Session) (parser : ParserFailsWithin start may s) (runs : r.RunsFrom setup.table) :
    r.FailsWithin may (contextStarting setup start room r s).1 := by
  induction room generalizing r s with
  | zero => exact failsWithin_respond own serves (fun _ => .error (own _ rfl)) parser runs
  | succ room ih =>
      -- an included file is a front end itself, and it is read with less room
      refine failsWithin_respond own serves (fun path => ?_) parser runs
      rw [nest_eq]
      exact failsWithin_run (s := s.descended path) (respects_fileProgram own path) ih parser

/-- A front end runs commands of its table only, at every depth of the files that it includes. -/
theorem Asks.runsFrom {α : Type} {p : Program (Except Diagnostic α)} {m : Moment}
    (asks : Asks setup start room p s m)
    (respects : p.Respects setup.table fun _ => True) : m.request.RunsFrom setup.table := by
  induction asks with
  | here =>
      cases respects with
      | ask runs _ => exact runs
  | @later α room r next s m _ ih =>
      cases respects with
      | ask _ onward =>
          refine ih (onward _ (mayAnswer_contextStarting r s) ?_)
          cases r with
          | runCommand | runLegacy => exact fun _ _ => trivial
          | _ => trivial
  | inside _ _ ih => exact ih (respects_fileProgram (fun _ _ => trivial) _)

/-- Every action gets what it works with. A session either carries out the action of a call with
the well-typed invocation of its texts, or there is none, and then the call fails and leaves the
session as it was. With the standard commands and types, no action that is carried out in a run of
a front end, at whatever depth of included files, lacks a text or takes something else for a
switch, so neither a call nor the run ends in an error for the lack of a text, unless the legacy
parser reports one. -/
theorem actions_are_served (setup : Setup) :
    (∀ (includeFile : String → Act) (c : Command) (arguments : List String)
        (options : RawOptions) (s : Session),
      let answered := runCommand setup includeFile c arguments options s
      (∃ i, c.WellTyped setup.types arguments options i ∧
        let done := perform includeFile i c.action s
        answered = (done.1.mapError (·.withLocation s.location), done.2)) ∨
      (∀ i, ¬ c.WellTyped setup.types arguments options i) ∧ ∃ d, answered = (.error d, s)) ∧
    (setup.table = CommandTable.standard → setup.types = Registry.standard →
      ∀ (α : Type) (program : Run α), IsFrontEnd CommandTable.standard program →
      ∀ (start : Nat → LegacyParser → String → Act) (room : Nat) (s : Session),
        (∀ within c arguments options u,
          Asks setup start room program.run s ⟨within, .runCommand c arguments options, u⟩ →
          ∀ i, c.WellTyped setup.types arguments options i → c.action.IsServed i) ∧
        (ParserFailsWithin start (·.lacksText = false) s →
          (∀ within c arguments options u,
            Asks setup start room program.run s ⟨within, .runCommand c arguments options, u⟩ →
            FailsWithin (·.lacksText = false)
              (contextStarting setup start within (.runCommand c arguments options) u).1) ∧
          FailsWithin (·.lacksText = false)
            (program.run.run (contextStarting setup start room) s).1)) := by
  refine ⟨fun includeFile c arguments options s => ?_, ?_⟩
  · intro answered
    cases read : c.invocation setup.types arguments options with
    | error d =>
        refine .inr ⟨fun i typed => ?_, d.withLocation s.location, ?_⟩
        · rw [Command.wellTyped_iff, read] at typed
          cases typed
        · show runCommand setup includeFile c arguments options s = _
          rw [runCommand, read]
    | ok i =>
        refine .inl ⟨i, Command.wellTyped_iff.2 read, ?_⟩
        show runCommand setup includeFile c arguments options s = _
        rw [runCommand, read]
  · intro standardTable standardTypes α program frontEnd start room s
    have serves := StandardCommands.serves standardTable standardTypes
    rw [← standardTable] at frontEnd
    have runs : ∀ m, Asks setup start room program.run s m → m.request.RunsFrom setup.table :=
      fun m asks => asks.runsFrom (frontEnd.respects fun _ _ => trivial)
    refine ⟨fun within c arguments options u asks i typed => ?_, fun parser => ⟨?_, ?_⟩⟩
    · exact serves c (runs _ asks) arguments options i typed
    · intro within c arguments options u asks
      have parserThen : ParserFailsWithin start (·.lacksText = false) u := by
        have same := asks.legacyParser
        rwa [ParserFailsWithin, same]
      exact failsWithin_contextStarting (fun _ => id) serves _ u parserThen (runs _ asks)
    · exact failsWithin_run (frontEnd.respects fun _ => id)
        (failsWithin_contextStarting (fun _ => id) serves) parser

/-- A switch is set on a command line that then includes a file which the legacy parser cannot
read. -/
theorem actions_are_served_of_verbose_and_include :
    let setup : Setup :=
      { table := CommandTable.standard
        types := Registry.standard
        files := fun path =>
          if path = "old.plt" then .ok "title(x)\n".toUTF8 else .error .notFound }
    let parser : LegacyParser := ⟨fun _ => throw (Cause.reported .grammar "too old").unplaced⟩
    let s : Session :=
      { transcript := Transcript.empty .text .console, legacyParser := some parser }
    let line : CommandLine :=
      { table := CommandTable.standard
        index := ⟨CommandTable.standard.commands.flatMap Command.flagEntries⟩ }
    let program := line.interpret ["--verbose", "--file", "old.plt"]
    let ran := program.run.run (contextStarting setup (startLegacy setup) maxIncludeDepth) s
    let i : Invocation := ⟨"verbose", [.bool true], NameMap.empty⟩
    setup.table = CommandTable.standard ∧ setup.types = Registry.standard ∧
      IsFrontEnd CommandTable.standard program ∧
      Asks setup (startLegacy setup) maxIncludeDepth program.run s
        ⟨maxIncludeDepth, .runCommand StandardCommands.verbose ["true"] NameMap.empty,
          { s with location := Location.onCommandLine "--verbose" 1 }⟩ ∧
      StandardCommands.verbose.WellTyped setup.types ["true"] NameMap.empty i ∧
      StandardCommands.verbose.action.IsServed i ∧
      ParserFailsWithin (startLegacy setup) (·.lacksText = false) s ∧
      ran.1 = .error ⟨.reported .grammar "too old",
        some (Location.onCommandLine "--file" 2), none⟩ ∧
      ran.2.verbose = true ∧ FailsWithin (·.lacksText = false) ran.1 := by
  intro setup parser s line program ran i
  have made : CommandLine.ofTable CommandTable.standard = .ok line := rfl
  have frontEnd : IsFrontEnd CommandTable.standard program := .tokens (.ofTable made) rfl _
  have asks : Asks setup (startLegacy setup) maxIncludeDepth program.run s
      ⟨maxIncludeDepth, .runCommand StandardCommands.verbose ["true"] NameMap.empty,
        { s with location := Location.onCommandLine "--verbose" 1 }⟩ := by
    have member : StandardCommands.verbose ∈ CommandTable.standard.commands := by
      simp [CommandTable.standard, StandardCommands.all]
    have harvested : harvestOptions StandardCommands.verbose ["--file", "old.plt"] =
        .ok ⟨NameMap.empty, ["--file", "old.plt"], none⟩ := by
      rw [harvestOptions, harvest]
      rfl
    have planned := CommandLine.plan_longFlag (by decide)
      (CommandLine.get?_longFlag made member rfl) rfl harvested
    show Asks setup (startLegacy setup) maxIncludeDepth
      (Step.execute (line.plan 0 (("--" ++ "verbose") :: ["--file", "old.plt"]))).run s _
    rw [planned]
    exact .later .here
  have typed : StandardCommands.verbose.WellTyped setup.types ["true"] NameMap.empty i := by
    rw [Command.wellTyped_iff]
    decide +kernel
  have parserFails : ParserFailsWithin (startLegacy setup) (·.lacksText = false) s := by
    rintro _ ⟨⟩ room text u
    exact .error rfl
  obtain ⟨-, served⟩ := actions_are_served setup
  obtain ⟨here, fails⟩ := served rfl rfl _ program frontEnd (startLegacy setup) maxIncludeDepth s
  exact ⟨rfl, rfl, frontEnd, asks, typed, here _ _ _ _ _ asks i typed, parserFails,
    by decide +kernel, by decide +kernel, (fails parserFails).2⟩

end Session

end PlotScript
