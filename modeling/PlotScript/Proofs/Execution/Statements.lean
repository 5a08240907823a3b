import PlotScript.Proofs.CommandFile.CallLine
import PlotScript.Proofs.Tables

/-!
# What becomes of a statement

The questions about variables, commands and types that a statement of a command file asks
change nothing. So what becomes of the statement is told by the texts that it is made of, by
the answers to those questions, and by what the context does about its other requests.
-/

namespace PlotScript

variable {σ : Type}

/-- A context that reads its answers about variables, commands and types off its state and
leaves the state alone. -/
structure Context.Tells (context : Context σ) (table : σ → CommandTable) (scope : σ → Scope) :
    Prop where
  scope : ∀ s, context .scope s = (scope s, s)
  lookup : ∀ name s, context (.lookupCommand name) s = ((table s).get? name, s)
  isBoolean : ∀ tag s, context (.isBoolean tag) s = (Registry.isBoolean tag, s)

variable {context : Context σ} {table : σ → CommandTable} {scope : σ → Scope}

theorem Context.Tells.holds (tells : context.Tells table scope) {s : σ} {c : Command}
    (member : c ∈ (table s).commands) : context.Holds s c where
  scope := congrArg Prod.snd (tells.scope s)
  found := by rw [tells.lookup, CommandTable.get?_of_mem member]
  isBoolean := tells.isBoolean

/-- A context at the place of a call, once it has been warned of an undeclared option. -/
def Context.brought (context : Context σ) (place : Location) (c : Command)
    (undeclared : Option String) (s : σ) : σ :=
  let s := (context (.setLocation place) s).2
  match undeclared with
  | some option => (context (.warn (.notAnOption option c.name)) s).2
  | none => s

/-- What becomes of a call of a command at a place. An option that the command does not declare
is warned of. -/
def Context.call (context : Context σ) (place : Location) (c : Command) (words : List String)
    (s : σ) : Except Diagnostic Unit × σ :=
  match splitWords c words with
  | .error cause => (.error (cause.placed place), (context (.setLocation place) s).2)
  | .ok parted =>
      context (.runCommand c (c.completed parted.arguments) parted.options)
        (context.brought place c parted.undeclared s)

namespace CommandFile

/-- What an assignment binds its variable to. -/
def assigned (scope : Scope) (deferred : Bool) (rest : String) : Except Cause Binding :=
  if deferred then (deferredValue rest.toList).map .deferred
  else (eagerValue scope rest.toList).map .eager

/-- An assignment whose value does not depend on the variables binds its own one and does nothing
else. -/
theorem assign_of_assigned {deferred : Bool} {rest : String} {binding : Binding}
    (independent : ∀ scope, assigned scope deferred rest = .ok binding) (stream : String)
    (line : Line) (name : String) (soft : Bool) :
    assign stream line name soft deferred rest = (do
      let _ ← Run.scope
      let _ ← Run.define name binding (!soft)) := by
  unfold assigned at independent
  simp only [assign, independent]
  rfl

variable (tells : context.Tells table scope) (stream : String) (line : Line) (s : σ)
include tells

/-- A call of a command that was looked up, with the words behind its name. -/
theorem run_call {c : Command} (member : c ∈ (table s).commands) (place : Location)
    (words : List String) :
    (do
      Run.setLocation place
      let call ← Run.placed place (splitWords c words)
      match call.undeclared with
      | some option => Run.warn (.notAnOption option c.name)
      | none => pure ()
      let arguments ← completed c call.arguments
      Run.runCommand c arguments call.options : Run Unit).run.run context s =
      context.call place c words s := by
  have dispatched : ∀ (t : σ) (arguments : List String) (options : RawOptions),
      (do
        let arguments ← completed c arguments
        Run.runCommand c arguments options : Run Unit).run.run context t =
        context (.runCommand c (c.completed arguments) options) t := by
    intro t arguments options
    rw [Run.run_bind, run_completed (tells.holds member)]
    rfl
  rw [Run.run_bind, Run.run_setLocation]
  dsimp only
  rw [Run.run_bind]
  unfold Context.call
  rcases splitWords c words with cause | ⟨arguments, options, _ | option⟩
  · rfl
  · exact dispatched _ arguments options
  · exact dispatched _ arguments options

/-- A line that calls a command is read in the scope of the moment. The words behind the name
are read after the command is found. -/
theorem run_runCommand_line :
    (runCommand stream line).run.run context s =
      match splitLine (scope s) line.text.toList with
      | .error cause =>
          (.error (cause.placed (Location.inFile (firstField line) stream line.number)), s)
      | .ok [] => (.ok (), s)
      | .ok (name :: words) =>
          match (table s).get? name with
          | none =>
              (.error ((Cause.unknownCommand name).placed
                (Location.inFile name stream line.number)), s)
          | some c => context.call (Location.inFile name stream line.number) c words s := by
  rw [runCommand, Run.run_bind, Run.run_scope, tells.scope]
  dsimp only
  rw [Run.run_bind]
  rcases splitLine (scope s) line.text.toList with cause | words
  · rfl
  rw [Run.run_placed_ok]
  cases words with
  | nil => rfl
  | cons name words =>
      dsimp only
      rw [Run.run_bind, Run.run_lookupCommand, tells.lookup]
      dsimp only
      cases found : (table s).get? name with
      | none => rfl
      | some c => exact run_call tells s (List.mem_of_find?_eq_some found) _ words

theorem run_assign (name : String) (soft deferred : Bool) (rest : String) :
    (assign stream line name soft deferred rest).run.run context s =
      match assigned (scope s) deferred rest with
      | .error cause => (.error (cause.placed (Location.inFile name stream line.number)), s)
      | .ok binding => (.ok (), (context (.define name binding (!soft)) s).2) := by
  rw [assign, Run.run_bind, Run.run_scope, tells.scope]
  dsimp only
  rw [Run.run_bind, ← assigned]
  rcases assigned (scope s) deferred rest with cause | binding
  · rfl
  · rfl

theorem run_loopWords (list : String) :
    (loopWords stream line list).run.run context s =
      ((splitLine (scope s) list.toList).mapError
        (·.placed (Location.inFile BlockKind.loop.opener stream line.number)), s) := by
  rw [loopWords, Run.run_bind, Run.run_scope, tells.scope]
  rfl

omit tells in
/-- A script block never ends the run: its failure is warned of. -/
theorem run_runScript (opened : Nat) (code : String) :
    let place := Location.inFile BlockKind.script.opener stream opened
    let ran := context (.runScript code) (context (.setLocation place) s).2
    (runScript stream opened code).run.run context s =
      (.ok (),
        match ran.1 with
        | .ok () => ran.2
        | .error d => (context (.warn (.scriptFailed place d.cause)) ran.2).2) := by
  intro place ran
  rw [runScript, Run.run_bind, Run.run_setLocation]
  dsimp only
  rw [Run.run_bind, Run.run_runScript]
  dsimp only
  cases ran.1 with
  | ok => rfl
  | error d => rfl

end CommandFile

end PlotScript
