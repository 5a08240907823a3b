import PlotScript.Execution.Recorder
import PlotScript.Proofs.Execution.Statements

/-!
# What is recorded of a command file

The lines of a command file as the recorder sees them: for every step of the interpreter,
how the step ends and what has been recorded then.
-/

namespace PlotScript.Recorder

open CommandFile

variable (s : Recorder) (stream : String) (line : Line)

/-! ## Taking note -/

/-- The recorder once one more call has been made. -/
def called (s : Recorder) (call : RecordedCall) : Recorder :=
  { s with location := call.location, calls := s.calls ++ [call] }

/-- The recorder once the run has come to a place. -/
def reached (s : Recorder) (location : Location) : Recorder :=
  { s with location }

/-- The recorder once one more warning has been given. -/
def warned (s : Recorder) (warning : Warning) : Recorder :=
  { s with warnings := s.warnings ++ [warning] }

/-- The recorder once one more script block has been run. -/
def scripted (s : Recorder) (code : String) : Recorder :=
  { s with scripts := s.scripts ++ [code] }

/-- The recorder once a variable has been bound, if it may be. -/
def defined (s : Recorder) (name : String) (binding : Binding) (override : Bool) : Recorder :=
  { s with scope := (s.scope.define name binding override).1 }

/-- A recorder forgets no call. -/
theorem exists_calls_append {α : Type} (p : Program α) (s : Recorder) :
    ∃ calls, (p.run context s).2.calls = s.calls ++ calls := by
  induction p generalizing s with
  | done a => exact ⟨[], (List.append_nil _).symm⟩
  | ask r next ih =>
      obtain ⟨first, called⟩ : ∃ calls, (context r s).2.calls = s.calls ++ calls := by
        cases r with
        | runCommand c arguments options => exact ⟨_, rfl⟩
        | _ => exact ⟨[], (List.append_nil _).symm⟩
      obtain ⟨others, added⟩ := ih (context r s).1 (context r s).2
      exact ⟨first ++ others, by rw [Program.run_ask, added, called, List.append_assoc]⟩

/-! ## Calls -/

/-- What becomes of a call of a command at a place. An option that the command does not declare
is warned of. -/
def call (s : Recorder) (place : Location) (c : Command) (words : List String) :
    Except Diagnostic Unit × Recorder :=
  match splitWords c words with
  | .error cause => (.error (cause.placed place), s.reached place)
  | .ok parted =>
      let s :=
        match parted.undeclared with
        | some option => s.warned (.notAnOption option c.name)
        | none => s
      (.ok (), s.called ⟨c.name, c.completed parted.arguments, parted.options, place⟩)

/-- The recorder reads its answers about variables, commands and types off its state. -/
theorem tells : Recorder.context.Tells Recorder.table Recorder.scope where
  scope _ := rfl
  lookup _ _ := rfl
  isBoolean _ _ := rfl

theorem context_call (place : Location) (c : Command) (words : List String) :
    context.call place c words s = s.call place c words := by
  unfold Context.call call
  rcases splitWords c words with cause | ⟨arguments, options, _ | option⟩ <;> rfl

/-- A line that calls a command is read in the scope of the moment. The words behind the name
are read after the command is found. -/
theorem record_runCommand :
    s.record (runCommand stream line) =
      match splitLine s.scope line.text.toList with
      | .error cause =>
          (.error (cause.placed (Location.inFile (firstField line) stream line.number)), s)
      | .ok [] => (.ok (), s)
      | .ok (name :: words) =>
          match s.table.get? name with
          | none =>
              (.error ((Cause.unknownCommand name).placed
                (Location.inFile name stream line.number)), s)
          | some c => s.call (Location.inFile name stream line.number) c words := by
  rw [record, run_runCommand_line tells]
  rcases splitLine s.scope line.text.toList with cause | _ | ⟨name, words⟩
  · rfl
  · rfl
  · dsimp only
    cases s.table.get? name with
    | none => rfl
    | some c => exact s.context_call _ c words

/-! ## Assignments, loops and script blocks -/

theorem record_assign (name : String) (soft deferred : Bool) (rest : String) :
    s.record (assign stream line name soft deferred rest) =
      match assigned s.scope deferred rest with
      | .error cause => (.error (cause.placed (Location.inFile name stream line.number)), s)
      | .ok binding => (.ok (), s.defined name binding (!soft)) := by
  rw [record, run_assign tells]
  rfl

theorem record_loopWords (list : String) :
    s.record (loopWords stream line list) =
      ((splitLine s.scope list.toList).mapError
        (·.placed (Location.inFile BlockKind.loop.opener stream line.number)), s) := by
  rw [record, run_loopWords tells]

/-- A script block never ends the run. -/
theorem record_runScript (opened : Nat) (code : String) :
    let place := Location.inFile BlockKind.script.opener stream opened
    s.record (runScript stream opened code) =
      (.ok (),
        match s.scriptFailure with
        | some message =>
            ((s.reached place).scripted code).warned
              (.scriptFailed place (.reported .script message))
        | none => (s.reached place).scripted code) := by
  intro place
  obtain ⟨table, failure⟩ := s
  rw [record, run_runScript]
  cases failure with
  | none => rfl
  | some message => rfl

end PlotScript.Recorder
