import PlotScript.Command.Standard
import PlotScript.Proofs.CommandFile.PhysicalLines
import PlotScript.Proofs.CommandFile.Sequence
import PlotScript.Proofs.Session.Calls

/-!
# Where an error comes from

Every error of a command file has one origin: a statement of the file, or of a file that was
being included when it failed. `Line.Raises` tells what can be wrong with a statement by
itself, and `Fails` how a run of lines comes to the statement that fails, through loops and
includes. Neither knows of places that are attached to errors on their way out.
`run_interpret_error_iff` says that the error that a session returns is that of the origin,
with the place of the origin, whatever it has passed through.
-/

namespace PlotScript

open CommandFile

/-! ## Statements that fail -/

/-- What is wrong with a statement, and what a report calls the statement. -/
structure Complaint where
  label : String
  cause : Cause
  help : Option String := none

/-- A statement that fails, in the file that goes by a path. -/
structure Origin where
  stream : String
  line : Line
  complaint : Complaint

/-- The error that is reported of a statement. -/
def Origin.diagnostic (o : Origin) : Diagnostic where
  cause := o.complaint.cause
  location := some (Location.inFile o.complaint.label o.stream o.line.number)
  help := o.complaint.help

/-- A line that calls a command, with the arguments and options among its words. -/
structure Line.Invokes (setup : Setup) (scope : Scope) (line : Line) (c : Command)
    (parted : CallWords) : Prop where
  isCommand : line.statement = .command
  found : setup.table.get? c.name = some c
  words : ∃ words, splitLine scope line.text.toList = .ok (c.name :: words) ∧
    splitWords c words = .ok parted

/-- What can be wrong with a statement by itself, with the given lines behind it. -/
inductive Line.Raises (setup : Setup) (scope : Scope) (line : Line) (behind : List Line) :
    Complaint → Prop
  | words {cause : Cause} (isCommand : line.statement = .command)
      (split : splitLine scope line.text.toList = .error cause) :
      Raises setup scope line behind ⟨firstField line, cause, none⟩
  | unknown {name : String} {words : List String} (isCommand : line.statement = .command)
      (split : splitLine scope line.text.toList = .ok (name :: words))
      (missing : setup.table.get? name = none) :
      Raises setup scope line behind ⟨name, .unknownCommand name, none⟩
  | option {c : Command} {words : List String} {cause : Cause}
      (isCommand : line.statement = .command)
      (split : splitLine scope line.text.toList = .ok (c.name :: words))
      (found : setup.table.get? c.name = some c) (lacks : splitWords c words = .error cause) :
      Raises setup scope line behind ⟨c.name, cause, none⟩
  | call {c : Command} {parted : CallWords} {cause : Cause} {help : Option String}
      (invokes : line.Invokes setup scope c parted)
      (refuses : setup.Refuses c (c.completed parted.arguments) parted.options cause help) :
      Raises setup scope line behind ⟨c.name, cause, help⟩
  | value {name value : String} {soft deferred : Bool} {cause : Cause}
      (assigns : line.statement = .assignment name soft deferred value)
      (failed : assigned scope deferred value = .error cause) :
      Raises setup scope line behind ⟨name, cause, none⟩
  | list {name list : String} {cause : Cause} (opens : line.statement = .loopOpen name list)
      (split : splitLine scope list.toList = .error cause) :
      Raises setup scope line behind ⟨BlockKind.loop.opener, cause, none⟩
  | openLoop {name list : String} {words : List String}
      (opens : line.statement = .loopOpen name list)
      (split : splitLine scope list.toList = .ok words)
      (missing : Block.takeLoop {} behind = none) :
      Raises setup scope line behind
        ⟨BlockKind.loop.opener, .unterminatedBlock .loop line.number, none⟩
  | openScript (opens : line.statement = .scriptOpen)
      (missing : Block.takeScript behind = none) :
      Raises setup scope line behind
        ⟨BlockKind.script.opener, .unterminatedBlock .script line.number, none⟩
  | strayLoop (closes : line.statement = .loopClose) :
      Raises setup scope line behind ⟨BlockKind.loop.closer, .strayBlockEnd .loop, none⟩
  | strayScript (closes : line.statement = .scriptClose) :
      Raises setup scope line behind ⟨BlockKind.script.closer, .strayBlockEnd .script, none⟩

/-! ## Runs that fail -/

namespace Session

/-- A program that a session carries out to its end, when `room` more files may be included
one inside the other. -/
def Runs (setup : Setup) (room : Nat) (program : Run Unit) (s t : Session) : Prop :=
  follow (contextWithin setup room) program s = (.ok (), t)

/-- A session that has begun to read an included file. -/
def descended (s : Session) (path : String) : Session :=
  { s with includeDepth := s.includeDepth + 1, opened := s.opened ++ [path] }

end Session

/-- A line that includes the file at a path. -/
structure Line.Includes (setup : Setup) (scope : Scope) (line : Line) (c : Command)
    (parted : CallWords) (path : String) : Prop where
  invokes : line.Invokes setup scope c parted
  included : setup.included? c (c.completed parted.arguments) parted.options = some path

/-- A run of lines of a file that fails, and the statement that it fails at. -/
inductive Fails (setup : Setup) : Nat → String → List Line → Session → Origin → Prop
  /-- the first statement is wrong -/
  | here {room : Nat} {stream : String} {line : Line} {behind : List Line} {s : Session}
      {complaint : Complaint} (raises : line.Raises setup s.scope behind complaint) :
      Fails setup room stream (line :: behind) s ⟨stream, line, complaint⟩
  /-- the first statement includes a file for which there is no room -/
  | tooDeep {stream : String} {line : Line} {behind : List Line} {s : Session} {c : Command}
      {parted : CallWords} {path : String} (includes : line.Includes setup s.scope c parted path) :
      Fails setup 0 stream (line :: behind) s
        ⟨stream, line, c.name, .includeTooDeep Session.maxIncludeDepth path, none⟩
  /-- the first statement includes a file that cannot be read -/
  | unreadable {room : Nat} {stream : String} {line : Line} {behind : List Line} {s : Session}
      {c : Command} {parted : CallWords} {path : String} {fault : FileFault}
      (includes : line.Includes setup s.scope c parted path)
      (missing : setup.files.text path = .error fault) :
      Fails setup (room + 1) stream (line :: behind) s
        ⟨stream, line, c.name, .unreadable fault, some ("while reading " ++ path)⟩
  /-- the first statement includes a file that fails -/
  | included {room : Nat} {stream : String} {line : Line} {behind : List Line} {s : Session}
      {c : Command} {parted : CallWords} {path text : String} {o : Origin}
      (includes : line.Includes setup s.scope c parted path)
      (read : setup.files.text path = .ok text)
      (inside : Fails setup room path (Line.ofText text.toList)
        ((s.brought (Location.inFile c.name stream line.number) c parted.undeclared).descended
          path) o) :
      Fails setup (room + 1) stream (line :: behind) s o
  /-- the first statement opens a loop, and the body fails for one of the words -/
  | looped {room : Nat} {stream : String} {line : Line} {behind body rest : List Line}
      {s t : Session} {name list word : String} {done todo : List String} {o : Origin}
      (opens : line.statement = .loopOpen name list)
      (split : splitLine s.scope list.toList = .ok (done ++ word :: todo))
      (closed : Block.takeLoop {} behind = some (body, rest))
      (ran : Session.Runs setup room (replay name done (runLines stream body)) s t)
      (inside : Fails setup room stream body (t.define name (.eager word) true).2 o) :
      Fails setup room stream (line :: behind) s o
  /-- some lines go through, and those behind them fail -/
  | onward {room : Nat} {stream : String} {front behind : List Line} {s t : Session} {o : Origin}
      (ran : Session.Runs setup room (runLines stream front) s t)
      (later : Fails setup room stream behind t o) :
      Fails setup room stream (front ++ behind) s o

namespace Session

variable {setup : Setup} {room : Nat} {stream : String} {line : Line} {s : Session}

/-! ## Calls that fail -/

/-- A line that calls a command has the session run it at the place of the line. -/
theorem run_invoking {c : Command} {parted : CallWords}
    (invokes : line.Invokes setup s.scope c parted) :
    follow (contextWithin setup room) (CommandFile.runCommand stream line) s =
      runCommand setup (includes setup room) c (c.completed parted.arguments) parted.options
        (s.brought (Location.inFile c.name stream line.number) c parted.undeclared) := by
  obtain ⟨words, split, partedWords⟩ := invokes.words
  rw [follow, run_runCommand_line tells, split]
  dsimp only
  rw [invokes.found]
  dsimp only
  rw [Context.call, partedWords]
  dsimp only
  rw [context_brought, context_runCommand]

/-- A file that is included is run in a session that knows that it is inside, and an error from
inside it that has its place keeps it. -/
theorem run_including {c : Command} {parted : CallWords} {path : String}
    (includes : line.Includes setup s.scope c parted path) :
    let place := Location.inFile c.name stream line.number
    let called := s.brought place c parted.undeclared
    follow (contextWithin setup room) (CommandFile.runCommand stream line) s =
      ((Session.includes setup room path called).1.mapError (·.withLocation place),
        (Session.includes setup room path called).2) := by
  intro place called
  rw [run_invoking includes.invokes, runCommand_of_included includes.included]
  rfl

/-- What comes of a file that is included when there is room for it. -/
theorem includes_succ (path : String) :
    (includes setup (room + 1) path s).1 =
      match setup.files.text path with
      | .error fault =>
          .error ((Cause.unreadable fault).unplaced.withHelp ("while reading " ++ path))
      | .ok text =>
          (follow (contextWithin setup room) (setup.reader.interpret path text)
            (s.descended path)).1 := by
  show (nest setup (contextWithin setup room) path s).1 = _
  rw [nest, readFile]
  cases setup.files.text path with
  | error fault => rfl
  | ok text => rfl

end Session

/-! ## From the origin to the error -/

section

variable {setup : Setup} {room : Nat} {stream : String} {line : Line} {behind : List Line}
  {s : Session}

open Session

/-- A statement that is wrong by itself ends the run with the error of its complaint. -/
theorem Line.Raises.run {complaint : Complaint}
    (raises : line.Raises setup s.scope behind complaint) :
    (follow (contextWithin setup room) (runLines stream (line :: behind)) s).1 =
      .error (Origin.diagnostic ⟨stream, line, complaint⟩) := by
  have calling : ∀ {d : Diagnostic}, line.statement = .command →
      (follow (contextWithin setup room) (CommandFile.runCommand stream line) s).1 = .error d →
      (follow (contextWithin setup room) (runLines stream (line :: behind)) s).1 = .error d := by
    intro d isCommand failed
    rw [runLines_command isCommand]
    exact Run.run_bind_of_error failed _
  cases raises with
  | words isCommand split =>
      refine calling isCommand ?_
      rw [follow, run_runCommand_line tells, split]
      rfl
  | unknown isCommand split missing =>
      refine calling isCommand ?_
      rw [follow, run_runCommand_line tells, split]
      dsimp only
      rw [missing]
      rfl
  | option isCommand split found lacks =>
      refine calling isCommand ?_
      rw [follow, run_runCommand_line tells, split]
      dsimp only
      rw [found]
      dsimp only
      rw [Context.call, lacks]
      rfl
  | call invokes refuses =>
      refine calling invokes.isCommand ?_
      rw [run_invoking invokes, runCommand_of_refuses refuses]
      rfl
  | value assigns failed =>
      rw [runLines_assignment assigns]
      refine Run.run_bind_of_error ?_ _
      rw [run_assign tells, failed]
      rfl
  | list opens split =>
      rw [runLines, opens]
      refine Run.run_bind_of_error ?_ _
      rw [run_loopWords tells, split]
      rfl
  | openLoop opens split missing =>
      rw [runLines_openLoop opens missing, follow, Run.run_bind, run_loopWords tells, split]
      rfl
  | openScript opens missing =>
      rw [runLines_openScript opens missing]
      rfl
  | strayLoop closes =>
      rw [runLines_loopClose closes]
      rfl
  | strayScript closes =>
      rw [runLines_scriptClose closes]
      rfl

/-- An include that fails ends the run with its error, at the place of the line if the error has
none of its own. -/
theorem Line.Includes.run {c : Command} {parted : CallWords} {path : String} {d : Diagnostic}
    (including : line.Includes setup s.scope c parted path)
    (failed : (includes setup room path
      (s.brought (Location.inFile c.name stream line.number) c parted.undeclared)).1 = .error d) :
    (follow (contextWithin setup room) (runLines stream (line :: behind)) s).1 =
      .error (d.withLocation (Location.inFile c.name stream line.number)) := by
  rw [runLines_command including.invokes.isCommand]
  refine Run.run_bind_of_error ?_ _
  show (follow (contextWithin setup room) (CommandFile.runCommand stream line) s).1 = _
  rw [run_including including, failed]
  rfl

/-- A loop variable is bound without fail. -/
theorem run_define (name : String) (binding : Binding) (override : Bool) :
    ∃ stored, (Run.define name binding override).run.run (contextWithin setup room) s =
      (.ok stored, (s.define name binding override).2) := by
  refine ⟨_, Prod.ext rfl ?_⟩
  exact context_define name binding override s

/-- A run that fails at a statement ends with the error of that statement: neither the loops nor
the includes that it comes out of change anything about it. -/
theorem Fails.run (modern : setup.reader.detectsLegacy = false) {lines : List Line} {o : Origin}
    (fails : Fails setup room stream lines s o) :
    (follow (contextWithin setup room) (runLines stream lines) s).1 = .error o.diagnostic := by
  induction fails with
  | here raises => exact raises.run
  | @tooDeep stream line behind s c parted path including =>
      have failed : (includes setup 0 path
          (s.brought (Location.inFile c.name stream line.number) c parted.undeclared)).1 =
          .error ((Cause.includeTooDeep maxIncludeDepth path).placed
            (Location.inFile c.name stream line.number)) := rfl
      exact including.run failed
  | @unreadable room stream line behind s c parted path fault including missing =>
      have failed : (includes setup (room + 1) path
          (s.brought (Location.inFile c.name stream line.number) c parted.undeclared)).1 =
          .error ((Cause.unreadable fault).unplaced.withHelp ("while reading " ++ path)) := by
        rw [includes_succ, missing]
      exact including.run failed
  | @included room stream line behind s c parted path text o including read inside ih =>
      have failed : (includes setup (room + 1) path
          (s.brought (Location.inFile c.name stream line.number) c parted.undeclared)).1 =
          .error o.diagnostic := by
        rw [includes_succ, read]
        dsimp only
        rw [FileReader.interpret_of_modern modern]
        exact ih
      -- the error has its place already
      exact including.run failed
  | @looped room stream line behind body rest s t name list word done todo o opens split closed
      ran inside ih =>
      obtain ⟨stored, bound⟩ := @run_define setup room t name (.eager word) true
      rw [runLines_loop stream opens closed, follow, Run.run_bind, run_loopWords tells, split]
      refine Run.run_bind_of_error ?_ _
      rw [replay_append, Run.run_bind_of_ok ran, replay, Run.run_bind_of_ok bound]
      exact Run.run_bind_of_error ih _
  | onward ran later ih =>
      rw [follow, run_runLines_append _ ran]
      exact ih

/-! ## From the error to the origin -/

/-- Every error of lines of a file is that of a statement that they fail at. -/
def Explained (setup : Setup) (room : Nat) : Prop :=
  ∀ (stream : String) (lines : List Line) (s : Session) (d : Diagnostic) (t : Session),
    follow (contextWithin setup room) (runLines stream lines) s = (.error d, t) →
      ∃ o, Fails setup room stream lines s o ∧ d = o.diagnostic

variable {d : Diagnostic} {t : Session}

/-- An include fails for want of room, or of the file, or because the file fails. -/
theorem exists_fails_of_include (modern : setup.reader.detectsLegacy = false)
    (nested : ∀ r, room = r + 1 → Explained setup r) {c : Command} {parted : CallWords}
    {path : String} (including : line.Includes setup s.scope c parted path)
    (failed : follow (contextWithin setup room) (CommandFile.runCommand stream line) s =
      (.error d, t)) :
    ∃ o, Fails setup room stream (line :: behind) s o ∧ d = o.diagnostic := by
  rw [run_including including] at failed
  obtain ⟨result, -⟩ := Prod.mk.inj failed
  cases room with
  | zero =>
      obtain rfl := Except.error.inj result
      exact ⟨_, .tooDeep including, rfl⟩
  | succ room =>
      rw [includes_succ] at result
      cases read : setup.files.text path with
      | error fault =>
          rw [read] at result
          obtain rfl := Except.error.inj result
          exact ⟨_, .unreadable including read, rfl⟩
      | ok text =>
          rw [read] at result
          dsimp only at result
          rw [FileReader.interpret_of_modern modern] at result
          rcases ran : follow (contextWithin setup room)
            (runLines path (Line.ofText text.toList))
            ((s.brought (Location.inFile c.name stream line.number) c parted.undeclared).descended
              path) with ⟨inner, u⟩
          rw [ran] at result
          cases inner with
          | ok => cases result
          | error d' =>
              obtain ⟨o, inside, rfl⟩ := nested room rfl _ _ _ _ _ ran
              obtain rfl := Except.error.inj result
              exact ⟨o, .included including read inside, rfl⟩

/-- A line that calls a command fails at the line itself or in a file that it includes. -/
theorem exists_fails_of_runCommand (modern : setup.reader.detectsLegacy = false)
    (nested : ∀ r, room = r + 1 → Explained setup r) (isCommand : line.statement = .command)
    (failed : follow (contextWithin setup room) (CommandFile.runCommand stream line) s =
      (.error d, t)) :
    ∃ o, Fails setup room stream (line :: behind) s o ∧ d = o.diagnostic := by
  have whole := failed
  rw [follow, run_runCommand_line tells] at failed
  cases split : splitLine s.scope line.text.toList with
  | error cause =>
      rw [split] at failed
      obtain rfl := Except.error.inj (Prod.mk.inj failed).1
      exact ⟨_, .here (.words isCommand split), rfl⟩
  | ok words =>
      rw [split] at failed
      rcases words with _ | ⟨name, words⟩
      · cases congrArg Prod.fst failed
      dsimp only at failed
      cases found : setup.table.get? name with
      | none =>
          rw [found] at failed
          obtain rfl := Except.error.inj (Prod.mk.inj failed).1
          exact ⟨_, .here (.unknown isCommand split found), rfl⟩
      | some c =>
          obtain rfl : c.name = name := by simpa using List.find?_some found
          rw [found] at failed
          dsimp only at failed
          cases partedWords : splitWords c words with
          | error cause =>
              rw [Context.call, partedWords] at failed
              obtain rfl := Except.error.inj (Prod.mk.inj failed).1
              exact ⟨_, .here (.option isCommand split found partedWords), rfl⟩
          | ok parted =>
              have invokes : line.Invokes setup s.scope c parted :=
                ⟨isCommand, found, words, split, partedWords⟩
              rw [run_invoking invokes] at whole
              rcases call_cases setup c (c.completed parted.arguments) parted.options with
                ⟨cause, help, refuses⟩ | ⟨path, included⟩ | succeeds
              · rw [runCommand_of_refuses refuses] at whole
                obtain rfl := Except.error.inj (Prod.mk.inj whole).1
                exact ⟨_, .here (.call invokes refuses), rfl⟩
              · rw [← run_invoking invokes] at whole
                exact exists_fails_of_include modern nested ⟨invokes, included⟩ whole
              · have fine := congrArg Prod.fst whole
                rw [succeeds] at fine
                cases fine

/-- Lines that do one thing and then come to their end. -/
theorem runs_of_eq_bind {front : List Line} {x : Run Unit}
    (alone : runLines stream front = (do x; runLines stream []))
    (ran : Runs setup room x s t) : Runs setup room (runLines stream front) s t := by
  rw [alone]
  show (do x; runLines stream [] : Run Unit).run.run _ s = _
  rw [Run.run_bind_of_ok ran, runLines]
  rfl

/-- In each run of lines the first statement fails, or it goes through and the others fail. -/
theorem explained_of_nested (modern : setup.reader.detectsLegacy = false)
    (nested : ∀ r, room = r + 1 → Explained setup r) : Explained setup room := by
  intro stream lines s d t failed
  fun_induction runLines stream lines generalizing s with
  | case1 => cases congrArg Prod.fst failed
  | case2 line rest isBlank ih =>
      obtain ⟨o, later, same⟩ := ih s failed
      have ran : Runs setup room (runLines stream [line]) s s := by
        rw [runLines_blank isBlank, runLines]
        rfl
      exact ⟨o, .onward ran later, same⟩
  | case3 line rest opens missing =>
      obtain rfl := Except.error.inj (Prod.mk.inj failed).1
      exact ⟨_, .here (.openScript opens missing), rfl⟩
  | case4 line rest opens code behind closed shorter ih =>
      obtain ⟨closing, rfl, closes, inside⟩ := Block.takeScript_eq_some_iff.1 closed
      rcases Run.of_run_bind_eq_error failed with failed | ⟨_, u, ran, failed⟩
      · rw [run_runScript] at failed
        cases congrArg Prod.fst failed
      · obtain ⟨o, later, same⟩ := ih u failed
        have alone : Block.takeScript (code ++ [closing]) = some (code, []) :=
          Block.takeScript_eq_some_iff.2 ⟨closing, rfl, closes, inside⟩
        have whole := runs_of_eq_bind (runLines_script opens alone) ran
        exact ⟨o, by simpa using Fails.onward whole later, same⟩
  | case5 line rest closes =>
      obtain rfl := Except.error.inj (Prod.mk.inj failed).1
      exact ⟨_, .here (.strayScript closes), rfl⟩
  | case6 line rest name list opens inBody behindBody =>
      rcases Run.of_run_bind_eq_error failed with failed | ⟨words, u, ran, failed⟩
      · rw [run_loopWords tells] at failed
        obtain ⟨result, -⟩ := Prod.mk.inj failed
        cases split : splitLine s.scope list.toList with
        | error cause =>
            rw [split] at result
            obtain rfl := Except.error.inj result
            exact ⟨_, .here (.list opens split), rfl⟩
        | ok words =>
            rw [split] at result
            cases result
      · have read := ran
        rw [run_loopWords tells] at read
        obtain ⟨result, rfl⟩ := Prod.mk.inj read
        have split := mapError_eq_ok_iff.1 result
        split at failed
        · rename_i missing
          obtain rfl := Except.error.inj (Prod.mk.inj failed).1
          exact ⟨_, .here (.openLoop opens split missing), rfl⟩
        · rename_i body behind closed
          rcases Run.of_run_bind_eq_error failed with failed | ⟨_, v, looped, failed⟩
          · obtain ⟨done, word, todo, w, rfl, went, failed⟩ := exists_of_replay_eq_error failed
            rw [context_define] at failed
            obtain ⟨o, inside, same⟩ := inBody body behind closed _ failed
            exact ⟨o, .looped opens split closed went inside, same⟩
          · obtain ⟨o, later, same⟩ := behindBody body behind closed v failed
            obtain ⟨closing, m, rfl, through, closes⟩ := Block.takeLoop_eq_some_iff.1 closed
            have alone : Block.takeLoop {} (body ++ [closing]) = some (body, []) :=
              Block.takeLoop_eq_some_iff.2 ⟨closing, m, rfl, through, closes⟩
            have whole : Runs setup room (runLines stream (line :: (body ++ [closing]))) s v := by
              rw [runLines_loop stream opens alone]
              show Program.run _ _ s = _
              rw [Run.run_bind_of_ok ran, Run.run_bind_of_ok looped, runLines]
              rfl
            exact ⟨o, by simpa using Fails.onward whole later, same⟩
  | case7 line rest closes =>
      obtain rfl := Except.error.inj (Prod.mk.inj failed).1
      exact ⟨_, .here (.strayLoop closes), rfl⟩
  | case8 line rest name soft deferred value assigns ih =>
      rcases Run.of_run_bind_eq_error failed with failed | ⟨_, u, ran, failed⟩
      · rw [run_assign tells] at failed
        cases result : assigned s.scope deferred value with
        | error cause =>
            rw [result] at failed
            obtain rfl := Except.error.inj (Prod.mk.inj failed).1
            exact ⟨_, .here (.value assigns result), rfl⟩
        | ok binding =>
            rw [result] at failed
            cases congrArg Prod.fst failed
      · obtain ⟨o, later, same⟩ := ih u failed
        have whole := runs_of_eq_bind (runLines_assignment assigns) ran
        exact ⟨o, .onward whole later, same⟩
  | case9 line rest calls ih =>
      rcases Run.of_run_bind_eq_error failed with failed | ⟨_, u, ran, failed⟩
      · exact exists_fails_of_runCommand modern nested calls failed
      · obtain ⟨o, later, same⟩ := ih u failed
        have whole := runs_of_eq_bind (runLines_command calls) ran
        exact ⟨o, .onward whole later, same⟩

/-- Files may be nested as deep as they like: the innermost ones are explained first. -/
theorem explained (modern : setup.reader.detectsLegacy = false) (room : Nat) :
    Explained setup room := by
  induction room with
  | zero => exact explained_of_nested modern nofun
  | succ room ih =>
      refine explained_of_nested modern fun r same => ?_
      obtain rfl := Nat.succ.inj same
      exact ih

/-! ## The place of an origin -/

theorem Fails.mem {lines : List Line} {o : Origin} (fails : Fails setup room stream lines s o) :
    (o.stream = stream ∧ o.line ∈ lines) ∨
      ∃ content, setup.files.text o.stream = .ok content ∧ o.line ∈ Line.ofText content.toList := by
  induction fails with
  | here => exact .inl ⟨rfl, List.mem_cons_self⟩
  | tooDeep => exact .inl ⟨rfl, List.mem_cons_self⟩
  | unreadable => exact .inl ⟨rfl, List.mem_cons_self⟩
  | included including read inside ih =>
      rcases ih with ⟨same, member⟩ | elsewhere
      · exact .inr ⟨_, same ▸ read, member⟩
      · exact .inr elsewhere
  | looped opens split closed ran inside ih =>
      have subset := (Block.subset_of_takeLoop closed).1
      exact ih.imp_left fun ⟨same, member⟩ => ⟨same, List.mem_cons_of_mem _ (subset member)⟩
  | onward ran later ih =>
      exact ih.imp_left fun ⟨same, member⟩ => ⟨same, List.mem_append_right _ member⟩

end

/-- The statement is a line of the text of its file, which is the given text or the content of a
file that can be included. Physical lines of the text make the line, and it carries the number of
the last of them. -/
def Origin.StandsIn (o : Origin) (files : FileSource) (stream text : String) : Prop :=
  ∃ content : String, (o.stream = stream ∧ content = text ∨ files.text o.stream = .ok content) ∧
    o.line ∈ Line.ofText content.toList ∧ Line.MadeOf (Text.lines content.toList) o.line

/-- A session returns an error for the text of a command file exactly when the file comes to a
statement that fails, in the text itself or in a file that is being included. The error is the one
of that statement: its cause and help are what is wrong with the statement, and its place is the
statement's own, whatever includes and loops the error has passed through. An include fails at its
own line if the file cannot be read or would nest too deep. -/
theorem run_interpret_error_iff {setup : Setup} {reader : FileReader}
    (modern : reader.detectsLegacy = false) (modernFiles : setup.reader.detectsLegacy = false)
    (stream text : String) (s : Session) :
    (∀ d, (Session.run setup (reader.interpret stream text) s).1 = .error d ↔
      ∃ o, Fails setup Session.maxIncludeDepth stream (Line.ofText text.toList) s o ∧
        d = o.diagnostic) ∧
    ∀ o, Fails setup Session.maxIncludeDepth stream (Line.ofText text.toList) s o →
      o.StandsIn setup.files stream text := by
  rw [FileReader.interpret_of_modern modern]
  refine ⟨fun d => ⟨fun failed => ?_, ?_⟩, fun o fails => ?_⟩
  · exact explained modernFiles _ _ _ _ _ _ (Prod.ext failed rfl)
  · rintro ⟨o, fails, rfl⟩
    exact fails.run modernFiles
  · rcases fails.mem with ⟨same, member⟩ | ⟨content, read, member⟩
    · exact ⟨text, .inl ⟨same, rfl⟩, member, Line.madeOf_of_mem_ofText member⟩
    · exact ⟨content, .inr read, member, Line.madeOf_of_mem_ofText member⟩

/-- A range that cannot be read, in the second file that a loop of an included file includes. -/
theorem run_interpret_error_of_nested_loop :
    let setup : Setup :=
      { table := CommandTable.standard
        types := Registry.standard
        files := fun path =>
          if path = "curves.plt" then .ok "for f in a b\n  include $(f).plt\nfor end\n".toUTF8
          else if path = "a.plt" then .ok "title fine\n".toUTF8
          else if path = "b.plt" then .ok "title \\\nfine\nxrange \\\nwide\n".toUTF8
          else .error .notFound
        reader := ⟨false⟩ }
    let s : Session := { transcript := Transcript.empty .text .console }
    let text := "# figure\ninclude curves.plt\n"
    let d : Diagnostic :=
      { cause := .invalidLiteral "wide" "partial-range" .noColon
        location := some (Location.inFile "xrange" "b.plt" 4)
        help := none }
    (Session.run setup (FileReader.interpret ⟨false⟩ "main.plt" text) s).1 = .error d ∧
      ∃ o, Fails setup Session.maxIncludeDepth "main.plt" (Line.ofText text.toList) s o ∧
        d = o.diagnostic ∧ o.StandsIn setup.files "main.plt" text := by
  intro setup s text d
  have failed : (Session.run setup (FileReader.interpret ⟨false⟩ "main.plt" text) s).1 =
      .error d := by
    decide +kernel
  have origins := @run_interpret_error_iff setup ⟨false⟩ rfl rfl "main.plt" text s
  obtain ⟨o, fails, same⟩ := (origins.1 d).1 failed
  exact ⟨failed, o, fails, same, origins.2 o fails⟩

end PlotScript
