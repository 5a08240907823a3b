import PlotScript.Coercion.Builtin
import PlotScript.Command.Standard
import PlotScript.Proofs.Command.Invocation
import PlotScript.Proofs.Execution.Confined
import PlotScript.Proofs.Execution.Recording
import PlotScript.Proofs.Tables
import PlotScript.Session.Basic

/-!
# Sessions refine recorders

A session that interprets a file does what a recorder takes note of. The two answer every
quiet request alike, so they go the same way until a call comes whose texts the session
cannot read. Up to this call the surface receives the operations of the recorded calls in
order. The session ends there with the error at the place of the call, and without such a
call it ends like the recorder.
-/

namespace PlotScript

/-! ## Calls and operations -/

/-- What the texts of a recorded call are read as under the types that its command
declares. -/
def Setup.coerced (setup : Setup) (call : RecordedCall) : Except Diagnostic Invocation :=
  match setup.table.get? call.command with
  | some c => c.invocation setup.types call.arguments call.options
  | none => .error (Cause.unknownCommand call.command).unplaced

/-- The operation that the surface receives for a call, if its command draws. -/
def Setup.operation? (setup : Setup) (call : RecordedCall) : Option Invocation :=
  match setup.table.get? call.command with
  | some c => if c.action = .draw then (setup.coerced call).toOption else none
  | none => none

/-- The operations of calls in order. -/
def Setup.operations (setup : Setup) (calls : List RecordedCall) : List Invocation :=
  calls.filterMap setup.operation?

theorem Setup.operations_cons (setup : Setup) (call : RecordedCall) (calls : List RecordedCall) :
    setup.operations (call :: calls) =
      (setup.operation? call).toList ++ setup.operations calls := by
  rw [operations, List.filterMap_cons]
  cases setup.operation? call with
  | none => rfl
  | some i => rfl

/-- The transcript receives operations one after the other, while what the blocks of a script
host print may pass between them. -/
inductive Transcript.Receives (host : ScriptHost) :
    Transcript → List Invocation → Transcript → Prop
  | done (t : Transcript) : Receives host t [] t
  | operation {t t' : Transcript} {i : Invocation} {operations : List Invocation}
      (others : Receives host (t.apply i) operations t') : Receives host t (i :: operations) t'
  | script {t t' : Transcript} {operations : List Invocation} (code : String)
      (others : Receives host { t with output := t.output.pass (host.run code).printed }
        operations t') : Receives host t operations t'

theorem Transcript.Receives.append {host : ScriptHost} {t t' t'' : Transcript}
    {operations others : List Invocation} (first : Receives host t operations t')
    (last : Receives host t' others t'') : Receives host t (operations ++ others) t'' := by
  induction first with
  | done => exact last
  | operation _ ih => exact .operation (ih last)
  | script code _ ih => exact .script code (ih last)

/-- Behind a host that prints nothing the transcript is made of its operations. -/
theorem Transcript.Receives.eq_foldl {host : ScriptHost}
    (silent : ∀ code, (host.run code).printed = "") {t t' : Transcript}
    {operations : List Invocation} (h : Receives host t operations t') :
    t' = operations.foldl apply t := by
  induction h with
  | done => rfl
  | operation _ ih => exact ih
  | @script t t' operations code _ ih =>
      have unchanged : t.output.pass (host.run code).printed = t.output := by
        rw [silent]
        obtain ⟨sink, text⟩ := t.output
        cases sink with
        | buffer => rfl
        | console => simp [Output.pass]
      rw [ih, unchanged]

/-- A script host answers blocks like a recorder. -/
def ScriptHost.AnswersLike (host : ScriptHost) (scriptFailure : Option String) : Prop :=
  ∀ code, (host.run code).result =
    match scriptFailure with
    | some message => .error (.reported .script message)
    | none => .ok ()

/-- Two elements of a list that each have none of the other in front are the same. -/
theorem eq_of_append_cons_eq {α : Type} {l l' r r' : List α} {a a' : α}
    (h : l ++ a :: r = l' ++ a' :: r') (first : a' ∉ l) (first' : a ∉ l') : l = l' ∧ a = a' := by
  rcases List.append_eq_append_iff.1 h with ⟨between, rfl, rest⟩ | ⟨between, rfl, rest⟩
  · cases between with
    | nil => exact ⟨(List.append_nil l).symm, (List.cons.inj rest).1⟩
    | cons b between =>
        obtain ⟨rfl, -⟩ := List.cons.inj rest
        exact absurd (by simp) first'
  · cases between with
    | nil => exact ⟨List.append_nil l', (List.cons.inj rest).1.symm⟩
    | cons b between =>
        obtain ⟨rfl, -⟩ := List.cons.inj rest
        exact absurd (by simp) first

namespace Session

/-- A recorder and a session that answer quiet requests alike. -/
structure Beside (setup : Setup) (host : ScriptHost) (s : Recorder) (u : Session) : Prop where
  table : s.table = setup.table
  hosted : setup.host = some host
  answers : host.AnswersLike s.scriptFailure
  scope : s.scope = u.scope
  location : s.location = u.location
  warnings : s.warnings = u.warnings

variable {setup : Setup} {host : ScriptHost} {s : Recorder} {u : Session}
  {includeFile : String → Act} {startLegacy : LegacyParser → String → Act}

/-- A quiet request gets the same answer, and keeps a recorder and a session side by side. -/
theorem Beside.quiet (beside : Beside setup host s u) {r : Request} (isQuiet : r.isQuiet = true) :
    let recorded := Recorder.context r s
    let ran := respond setup includeFile startLegacy r u
    ran.1 = recorded.1 ∧ r.MayAnswer setup.table recorded.1 ∧
      Beside setup host recorded.2 ran.2 ∧ recorded.2.calls = s.calls ∧
      Transcript.Receives host u.transcript [] ran.2.transcript := by
  obtain ⟨table, hosted, answers, scope, location, warnings⟩ := beside
  cases r with
  | runCommand => cases isQuiet
  | runLegacy => cases isQuiet
  | setLocation l =>
      exact ⟨rfl, trivial, ⟨table, hosted, answers, scope, rfl, warnings⟩, rfl, .done _⟩
  | location =>
      exact ⟨location.symm, trivial, ⟨table, hosted, answers, scope, location, warnings⟩, rfl,
        .done _⟩
  | lookupCommand name =>
      refine ⟨congrArg (·.get? name) table.symm, ?_,
        ⟨table, hosted, answers, scope, location, warnings⟩, rfl, .done _⟩
      rw [Recorder.context, table]
      cases found : setup.table.get? name with
      | none => trivial
      | some c => exact List.mem_of_find?_eq_some found
  | define name binding override =>
      have same : s.scope.define name binding override = u.scope.define name binding override :=
        congrArg (·.define name binding override) scope
      exact ⟨congrArg Prod.snd same.symm, trivial,
        ⟨table, hosted, answers, congrArg Prod.fst same, location, warnings⟩, rfl, .done _⟩
  | scope =>
      exact ⟨scope.symm, trivial, ⟨table, hosted, answers, scope, location, warnings⟩, rfl,
        .done _⟩
  | isBoolean tag =>
      exact ⟨rfl, trivial, ⟨table, hosted, answers, scope, location, warnings⟩, rfl, .done _⟩
  | warn warning =>
      exact ⟨rfl, trivial, ⟨table, hosted, answers, scope, location,
        congrArg (· ++ [warning]) warnings⟩, rfl, .done _⟩
  | runScript code =>
      have answer := answers code
      rw [respond, runScript, hosted]
      refine ⟨?_, trivial, ⟨table, hosted, answers, scope, location, warnings⟩, rfl,
        .script code (.done _)⟩
      dsimp only
      rw [answer, Recorder.context]
      cases s.scriptFailure with
      | none => rfl
      | some message => rfl

/-- How the run of a program in a session follows its run in a recorder: either all calls
that were added are read, or one of them ends the session. -/
inductive Follows {α : Type} (setup : Setup) (host : ScriptHost) (s : Recorder) (u : Session)
    (recorded : Except Diagnostic α × Recorder) (ran : Except Diagnostic α × Session) : Prop
  | through (calls : List RecordedCall) (added : recorded.2.calls = s.calls ++ calls)
      (coerced : ∀ call ∈ calls, ∃ i, setup.coerced call = .ok i) (result : ran.1 = recorded.1)
      (beside : Beside setup host recorded.2 ran.2)
      (receives : Transcript.Receives host u.transcript (setup.operations calls)
        ran.2.transcript)
  | stopped (before : List RecordedCall) (call : RecordedCall) (behind : List RecordedCall)
      (d : Diagnostic) (added : recorded.2.calls = s.calls ++ (before ++ call :: behind))
      (coerced : ∀ call ∈ before, ∃ i, setup.coerced call = .ok i)
      (failed : setup.coerced call = .error d)
      (result : ran.1 = .error { d with location := some call.location })
      (receives : Transcript.Receives host u.transcript (setup.operations before)
        ran.2.transcript)

section Follows

variable {α : Type} {recorded : Except Diagnostic α × Recorder}
  {ran : Except Diagnostic α × Session} {s' : Recorder} {u' : Session}

/-- A step that runs no command changes nothing about what follows. -/
theorem Follows.quiet (sameCalls : s'.calls = s.calls)
    (receives : Transcript.Receives host u.transcript [] u'.transcript)
    (h : Follows setup host s' u' recorded ran) : Follows setup host s u recorded ran := by
  cases h with
  | through calls added coerced result beside others =>
      exact .through calls (sameCalls ▸ added) coerced result beside (receives.append others)
  | stopped before call behind d added coerced failed result others =>
      exact .stopped before call behind d (sameCalls ▸ added) coerced failed result
        (receives.append others)

/-- A call that is read comes in front of the calls that follow. -/
theorem Follows.call {call : RecordedCall} {i : Invocation} (calls : s'.calls = s.calls ++ [call])
    (read : setup.coerced call = .ok i)
    (receives : Transcript.Receives host u.transcript (setup.operation? call).toList u'.transcript)
    (h : Follows setup host s' u' recorded ran) : Follows setup host s u recorded ran := by
  cases h with
  | through others added coerced result beside received =>
      refine .through (call :: others) ?_ (List.forall_mem_cons.2 ⟨⟨i, read⟩, coerced⟩) result
        beside ?_
      · rw [added, calls, List.append_assoc, List.singleton_append]
      · rw [Setup.operations_cons]
        exact receives.append received
  | stopped before last behind d added coerced failed result received =>
      refine .stopped (call :: before) last behind d ?_
        (List.forall_mem_cons.2 ⟨⟨i, read⟩, coerced⟩) failed result ?_
      · rw [added, calls, List.append_assoc, List.singleton_append, List.cons_append]
      · rw [Setup.operations_cons]
        exact receives.append received

end Follows

/-- A call of a command of the table as it is recorded. -/
theorem coerced_of_mem {c : Command} (member : c ∈ setup.table.commands) (arguments : List String)
    (options : RawOptions) (l : Location) :
    setup.coerced ⟨c.name, arguments, options, l⟩ =
      c.invocation setup.types arguments options := by
  rw [Setup.coerced, CommandTable.get?_of_mem member]

/-- A call that is read goes to the surface if its command draws. -/
theorem Beside.runCommand (beside : Beside setup host s u) {c : Command}
    (member : c ∈ setup.table.commands) (action : c.action = .draw ∨ c.action = .nothing)
    {arguments : List String} {options : RawOptions} {i : Invocation}
    (read : c.invocation setup.types arguments options = .ok i) :
    ∃ u', respond setup includeFile startLegacy (.runCommand c arguments options) u =
        (.ok (), u') ∧
      Beside setup host (Recorder.context (.runCommand c arguments options) s).2 u' ∧
      Transcript.Receives host u.transcript
        (setup.operation? ⟨c.name, arguments, options, s.location⟩).toList u'.transcript := by
  have coerced := coerced_of_mem member arguments options s.location
  have beside' : Beside setup host (Recorder.context (.runCommand c arguments options) s).2 u :=
    ⟨beside.table, beside.hosted, beside.answers, beside.scope, beside.location, beside.warnings⟩
  rw [respond, Session.runCommand, read, Setup.operation?, CommandTable.get?_of_mem member]
  rcases action with draws | idle
  · have drawn : Beside setup host (Recorder.context (.runCommand c arguments options) s).2
        (u.draw i) :=
      ⟨beside'.table, beside'.hosted, beside'.answers, beside'.scope, beside'.location,
        beside'.warnings⟩
    refine ⟨u.draw i, by rw [draws]; rfl, drawn, ?_⟩
    dsimp only
    rw [if_pos draws, coerced, read]
    exact .operation (.done _)
  · refine ⟨u, by rw [idle]; rfl, beside', ?_⟩
    dsimp only
    rw [if_neg (by rw [idle]; decide)]
    exact .done _

/-- A call that cannot be read fails at its place. -/
theorem Beside.runCommand_error (beside : Beside setup host s u) {c : Command}
    {arguments : List String} {options : RawOptions} {d : Diagnostic}
    (failed : c.invocation setup.types arguments options = .error d) :
    respond setup includeFile startLegacy (.runCommand c arguments options) u =
      (.error { d with location := some s.location }, u) := by
  rw [respond, Session.runCommand, failed, beside.location]
  dsimp only
  rw [Diagnostic.withLocation, Command.location_of_invocation_eq_error failed]

/-- The run of a confined program in a session follows its run in a recorder, if the commands
of the table draw or do nothing. -/
theorem follows_run (actions : ∀ c ∈ setup.table.commands, c.action = .draw ∨ c.action = .nothing)
    {α : Type} {p : Program (Except Diagnostic α)} (confined : p.Confined setup.table)
    (beside : Beside setup host s u) :
    Follows setup host s u (p.run Recorder.context s)
      (p.run (respond setup includeFile startLegacy) u) := by
  induction confined generalizing s u with
  | done result => exact .through [] (List.append_nil _).symm nofun rfl beside (.done _)
  | @call c arguments options next member fails _ ih =>
      have coerced := coerced_of_mem member arguments options s.location
      rw [Program.run_ask, Program.run_ask]
      cases read : c.invocation setup.types arguments options with
      | ok i =>
          obtain ⟨u', ran, beside', receives⟩ := beside.runCommand member (actions c member) read
          rw [ran]
          exact .call rfl (coerced.trans read) receives (ih beside')
      | error d =>
          -- the session is at its end, while the recorder goes on with more calls
          obtain ⟨behind, added⟩ := Recorder.exists_calls_append (next (.ok ()))
            (Recorder.context (.runCommand c arguments options) s).2
          rw [beside.runCommand_error read, fails]
          exact .stopped [] _ behind d (added.trans (List.append_assoc ..)) nofun
            (coerced.trans read) rfl (.done _)
  | ask isQuiet _ ih =>
      obtain ⟨answer, may, beside', sameCalls, receives⟩ := beside.quiet isQuiet
      rw [Program.run_ask, Program.run_ask, answer]
      exact .quiet sameCalls receives (ih _ may beside')

/-- A session refines a recorder. Let the commands of the table draw or do nothing, and let
the script host answer blocks like the recorder. If all calls that the interpretation of a
file makes are read under the declared types, the session comes to the same result with the
same warnings, and its surface receives the operations of these calls in order. Otherwise the
session fails with the error of the first call that is not read, at the place of this call,
and its surface has received the operations of the calls in front of it. -/
theorem run_refines_record {setup : Setup} {host : ScriptHost}
    (actions : ∀ c ∈ setup.table.commands, c.action = .draw ∨ c.action = .nothing)
    (hosted : setup.host = some host) {scriptFailure : Option String}
    (answers : host.AnswersLike scriptFailure) {u : Session}
    (noVariables : u.scope = NameMap.empty) (nowhere : u.location = Location.none)
    (noWarnings : u.warnings = []) (stream text : String) :
    let program := FileReader.interpret ⟨false⟩ stream text
    let recorded := Recorder.record { table := setup.table, scriptFailure } program
    let ran := run setup program u
    let calls := recorded.2.calls
    ((∀ call ∈ calls, ∃ i, setup.coerced call = .ok i) →
      ran.1 = recorded.1 ∧ ran.2.warnings = recorded.2.warnings ∧
        Transcript.Receives host u.transcript (setup.operations calls) ran.2.transcript) ∧
    ∀ before call behind d, calls = before ++ call :: behind →
      (∀ earlier ∈ before, ∃ i, setup.coerced earlier = .ok i) →
      setup.coerced call = .error d →
        ran.1 = .error { d with location := some call.location } ∧
          Transcript.Receives host u.transcript (setup.operations before) ran.2.transcript := by
  intro program recorded ran calls
  have beside : Beside setup host { table := setup.table, scriptFailure } u :=
    ⟨rfl, hosted, answers, noVariables.symm, nowhere.symm, noWarnings.symm⟩
  have follows : Follows setup host { table := setup.table, scriptFailure } u recorded ran :=
    follows_run actions (FileReader.confined_interpret rfl stream text) beside
  have readable : ∀ {l : List RecordedCall} {call : RecordedCall} {d : Diagnostic},
      (∀ earlier ∈ l, ∃ i, setup.coerced earlier = .ok i) → setup.coerced call = .error d →
      call ∉ l := by
    intro l call d coerced failed member
    obtain ⟨i, read⟩ := coerced call member
    rw [failed] at read
    cases read
  cases follows with
  | through all added coerced result after receives =>
      obtain rfl : calls = all := added
      refine ⟨fun _ => ⟨result, after.warnings.symm, receives⟩, ?_⟩
      intro before call behind d cut _ failed
      exact absurd (by simp [cut]) (readable coerced failed)
  | stopped first last others e added coerced failed result receives =>
      -- the call that stopped the session is the first one that is not read
      have cut : calls = first ++ last :: others := added
      refine ⟨fun all => absurd (by simp [cut]) (readable all failed), ?_⟩
      intro before call behind d again earlier notRead
      obtain ⟨rfl, rfl⟩ := eq_of_append_cons_eq (cut.symm.trans again) (readable coerced notRead)
        (readable earlier failed)
      obtain rfl : e = d := Except.error.inj (failed.symm.trans notRead)
      exact ⟨result, receives⟩

/-- A range that cannot be read ends a session at its line, when the title in front of it has
been drawn. -/
theorem run_title_and_xrange :
    let setup : Setup :=
      { table := ⟨[StandardCommands.caption "title" 't' "Sets the plot title.",
          StandardCommands.setting "xrange" "partial-range" "axes" "Sets the X range."], by decide⟩
        types := Registry.standard
        host := some (ScriptHost.constant (.ok ())) }
    let u : Session := { transcript := Transcript.empty .text .console }
    let ran := run setup (FileReader.interpret ⟨false⟩ "figure" "title A\nxrange 1:x\ntitle B") u
    ran.1 = .error ⟨.invalidLiteral "1:x" "partial-range" (.notNumber "x"),
        some (Location.inFile "xrange" "figure" 2), none⟩ ∧
      ran.2.transcript = u.transcript.apply ⟨"title", [.text "A"], NameMap.empty⟩ := by
  intro setup u ran
  have refined := @run_refines_record setup (ScriptHost.constant (.ok ())) (by decide) rfl none
    (fun _ => rfl) u rfl rfl rfl "figure" "title A\nxrange 1:x\ntitle B"
  let title : RecordedCall :=
    ⟨"title", ["A"], NameMap.empty, Location.inFile "title" "figure" 1⟩
  have titleRead : setup.coerced title = .ok ⟨"title", [.text "A"], NameMap.empty⟩ := by
    decide +kernel
  obtain ⟨result, receives⟩ := refined.2 [title]
    ⟨"xrange", ["1:x"], NameMap.empty, Location.inFile "xrange" "figure" 2⟩
    [⟨"title", ["B"], NameMap.empty, Location.inFile "title" "figure" 3⟩]
    ⟨.invalidLiteral "1:x" "partial-range" (.notNumber "x"), none, none⟩ (by decide +kernel)
    (by simpa using ⟨_, titleRead⟩) (by decide +kernel)
  refine ⟨result, ?_⟩
  rw [receives.eq_foldl fun _ => rfl]
  have operations : setup.operations [title] = [⟨"title", [.text "A"], NameMap.empty⟩] := by
    decide +kernel
  rw [operations]
  rfl

end Session

end PlotScript
