import PlotScript.CommandFile.Interpreter
import PlotScript.Command.Table

/-!
# Programs that are confined to a table

A confined program runs only commands that it has looked up, ends when one of them fails,
and hands no file to the legacy parser. What it does next depends on a context through the
answers to the other requests alone. Command files are interpreted by confined programs.
-/

namespace PlotScript

/-- Requests that run neither a command nor the legacy parser. -/
def Request.isQuiet : Request → Bool
  | runCommand _ _ _ => false
  | runLegacy _ => false
  | _ => true

/-- A look-up finds only commands of the table. -/
def Request.MayAnswer (t : CommandTable) : (r : Request) → r.Answer → Prop
  | .lookupCommand _, some c => c ∈ t.commands
  | _, _ => True

/-- Every command that a program runs is one of the table, and its failure is the result. -/
inductive Program.Confined (t : CommandTable) {α : Type} :
    Program (Except Diagnostic α) → Prop
  | done (result : Except Diagnostic α) : Confined t (.done result)
  | call {c : Command} {arguments : List String} {options : RawOptions}
      {next : Except Diagnostic Unit → Program (Except Diagnostic α)} (member : c ∈ t.commands)
      (fails : ∀ d, next (.error d) = .done (.error d)) (onward : Confined t (next (.ok ()))) :
      Confined t (.ask (.runCommand c arguments options) next)
  | ask {r : Request} {next : r.Answer → Program (Except Diagnostic α)}
      (isQuiet : r.isQuiet = true)
      (onward : ∀ answer, r.MayAnswer t answer → Confined t (next answer)) :
      Confined t (.ask r next)

namespace Run

variable {t : CommandTable} {α β : Type}

def Confined (t : CommandTable) (x : Run α) : Prop :=
  Program.Confined t x.run

theorem Confined.bind {x : Run α} {f : α → Run β} (first : Confined t x)
    (others : ∀ a, Confined t (f a)) : Confined t (x >>= f) := by
  have split : (x >>= f).run = x.run.bind (ExceptT.bindCont f) := rfl
  rw [Confined, split]
  rw [Confined] at first
  -- the induction follows the branches of the first program to their ends
  generalize x.run = program at first
  induction first with
  | done result =>
      cases result with
      | ok a => exact others a
      | error d => exact .done (.error d)
  | call member fails _ ih =>
      refine .call member (fun d => ?_) ih
      rw [fails]
      rfl
  | ask isQuiet _ ih => exact .ask isQuiet fun answer may => ih answer may

theorem confined_ofExcept (x : Except Diagnostic α) : Confined t (ofExcept x) :=
  .done x

theorem confined_pure (a : α) : Confined t (pure a) :=
  .done (.ok a)

theorem confined_throw (d : Diagnostic) : Confined t (throw d : Run α) :=
  .done (.error d)

theorem confined_request {r : Request} (isQuiet : r.isQuiet = true) : Confined t (request r) :=
  .ask isQuiet fun answer _ => .done (.ok answer)

theorem confined_runCommand {c : Command} (member : c ∈ t.commands) (arguments : List String)
    (options : RawOptions) : Confined t (runCommand c arguments options) :=
  .call member (fun _ => rfl) (.done (.ok ()))

/-- What is done with a command that was looked up may rely on the table. -/
theorem confined_lookupCommand_bind {name : String} {f : Option Command → Run α}
    (unknown : Confined t (f none)) (known : ∀ c ∈ t.commands, Confined t (f (some c))) :
    Confined t (lookupCommand name >>= f) := by
  refine .ask rfl fun answer may => ?_
  cases answer with
  | none => exact unknown
  | some c => exact known c may

end Run

/-! ## Command files -/

namespace CommandFile

open Run

variable {t : CommandTable} {stream : String}

theorem confined_completed (c : Command) (arguments : List String) :
    Confined t (completed c arguments) := by
  unfold completed
  split
  · exact (confined_request rfl).bind fun _ => confined_pure _
  · exact confined_pure _

theorem confined_runCommand (line : Line) : Confined t (runCommand stream line) := by
  unfold runCommand
  refine (confined_request rfl).bind fun scope => (confined_ofExcept _).bind fun words => ?_
  cases words with
  | nil => exact confined_pure ()
  | cons name words =>
      refine confined_lookupCommand_bind (confined_throw _) fun c member => ?_
      refine (confined_request rfl).bind fun _ => (confined_ofExcept _).bind fun call => ?_
      have dispatch : Confined t (do
          let arguments ← completed c call.arguments
          Run.runCommand c arguments call.options) :=
        (confined_completed c _).bind fun _ => Run.confined_runCommand member _ _
      dsimp only
      cases call.undeclared with
      | none => exact dispatch
      | some option => exact (confined_request rfl).bind fun _ => dispatch

theorem confined_assign (line : Line) (name : String) (soft deferred : Bool) (rest : String) :
    Confined t (assign stream line name soft deferred rest) :=
  (confined_request rfl).bind fun _ => (confined_ofExcept _).bind fun _ =>
    (confined_request rfl).bind fun _ => confined_pure ()

theorem confined_runScript (opened : Nat) (code : String) :
    Confined t (runScript stream opened code) := by
  refine (confined_request rfl).bind fun _ => (confined_request rfl).bind fun outcome => ?_
  cases outcome with
  | ok => exact confined_pure ()
  | error d => exact confined_request rfl

theorem confined_loopWords (line : Line) (list : String) :
    Confined t (loopWords stream line list) :=
  (confined_request rfl).bind fun _ => confined_ofExcept _

theorem confined_replay (name : String) (words : List String) {body : Run Unit}
    (confined : Confined t body) : Confined t (replay name words body) := by
  induction words with
  | nil => exact confined_pure ()
  | cons word rest ih =>
      exact (confined_request rfl).bind fun _ => confined.bind fun _ => ih

/-- The lines of a command file run commands of the table alone. -/
theorem confined_runLines (lines : List Line) : Confined t (runLines stream lines) := by
  fun_induction runLines stream lines with
  | case1 => exact confined_pure ()
  | case2 line rest blank ih => exact ih
  | case3 line rest opens unclosed => exact confined_throw _
  | case4 line rest opens code behind closed shorter ih =>
      exact (confined_runScript _ _).bind fun _ => ih
  | case5 line rest closes => exact confined_throw _
  | case6 line rest name list opens inBody behindBody =>
      refine (confined_loopWords line list).bind fun words => ?_
      split
      · exact confined_throw _
      · rename_i body behind closed
        exact (confined_replay name words (inBody body behind closed)).bind fun _ =>
          behindBody body behind closed
  | case7 line rest closes => exact confined_throw _
  | case8 line rest name soft deferred value assigns ih =>
      exact (confined_assign line name soft deferred value).bind fun _ => ih
  | case9 line rest calls ih => exact (confined_runCommand line).bind fun _ => ih

end CommandFile

/-- So does a whole file, unless it is looked at for the legacy syntax. -/
theorem FileReader.confined_interpret {t : CommandTable} {reader : FileReader}
    (modern : reader.detectsLegacy = false) (stream text : String) :
    Run.Confined t (reader.interpret stream text) := by
  rw [interpret, modern]
  exact CommandFile.confined_runLines _

end PlotScript
