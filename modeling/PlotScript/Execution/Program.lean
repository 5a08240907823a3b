import PlotScript.Command.Invocation
import PlotScript.Diagnostic.Warning
import PlotScript.Variables.Scope

/-!
# Programs

The two front ends do not act themselves: they ask an execution context to run
commands, to define variables, to report warnings, and so on. A program is a
finite tree of such requests, with a branch for every answer. A context is a way
to answer requests, and running a program in a context follows one branch.
Whatever holds of every program holds of both front ends, and of every parser of
legacy files.
-/

namespace PlotScript

/-- What may be asked of an execution context. -/
inductive Request where
  | runCommand (command : Command) (arguments : List String) (options : RawOptions)
  | setLocation (location : Location)
  | location
  | lookupCommand (name : String)
  | define (name : String) (binding : Binding) (override : Bool)
  | scope
  | isBoolean (tag : String)
  | warn (warning : Warning)
  | runScript (code : String)
  | runLegacy (text : String)

/-- What a request is answered with. -/
@[reducible] def Request.Answer : Request → Type
  | runCommand _ _ _ => Except Diagnostic Unit
  | setLocation _ => Unit
  | location => Location
  | lookupCommand _ => Option Command
  | define _ _ _ => Bool
  | scope => Scope
  | isBoolean _ => Bool
  | warn _ => Unit
  | runScript _ => Except Diagnostic Unit
  | runLegacy _ => Except Diagnostic Unit

/-- A tree of requests with a result at the end of every branch. -/
inductive Program (α : Type) where
  | done (a : α)
  | ask (r : Request) (next : r.Answer → Program α)

namespace Program

variable {α β γ : Type}

def bind : Program α → (α → Program β) → Program β
  | done a, f => f a
  | ask r next, f => ask r fun answer => (next answer).bind f

instance : Monad Program where
  pure := done
  bind := bind

theorem bind_done (p : Program α) : p.bind done = p := by
  induction p with
  | done a => rfl
  | ask r next ih => exact congrArg (ask r) (funext ih)

theorem bind_assoc (p : Program α) (f : α → Program β) (g : β → Program γ) :
    (p.bind f).bind g = p.bind fun a => (f a).bind g := by
  induction p with
  | done a => rfl
  | ask r next ih => exact congrArg (ask r) (funext ih)

instance : LawfulMonad Program :=
  LawfulMonad.mk' Program bind_done (fun _ _ => rfl) bind_assoc

end Program

/-- A way to answer requests that keeps a state. -/
def Context (σ : Type) : Type :=
  (r : Request) → σ → r.Answer × σ

namespace Program

variable {σ α β : Type}

/-- Follows a program through the answers of a context. -/
def run (context : Context σ) : Program α → σ → α × σ
  | done a, s => (a, s)
  | ask r next, s =>
      let (answer, s) := context r s
      (next answer).run context s

@[simp] theorem run_done (context : Context σ) (a : α) (s : σ) :
    (done a).run context s = (a, s) := rfl

theorem run_ask (context : Context σ) (r : Request) (next : r.Answer → Program α) (s : σ) :
    (ask r next).run context s = (next (context r s).1).run context (context r s).2 := rfl

theorem run_bind (context : Context σ) (p : Program α) (f : α → Program β) (s : σ) :
    (p.bind f).run context s = (f (p.run context s).1).run context (p.run context s).2 := by
  induction p generalizing s with
  | done a => rfl
  | ask r next ih => exact ih _ _

end Program

/-- A program that may end in an error. -/
abbrev Run := ExceptT Diagnostic Program

namespace Run

/-- A request whose answer is taken as it is. -/
def request (r : Request) : Run r.Answer :=
  ExceptT.lift (.ask r .done)

/-- A computation that asks for nothing. -/
def ofExcept {α : Type} (x : Except Diagnostic α) : Run α :=
  ExceptT.mk (.done x)

/-- The value of a computation, or an error at a place. -/
def placed {α : Type} (location : Location) (x : Except Cause α) : Run α :=
  ofExcept (x.mapError (·.placed location))

/-- Runs a command. Its failure ends the program. -/
def runCommand (command : Command) (arguments : List String) (options : RawOptions) :
    Run Unit :=
  ExceptT.mk (.ask (.runCommand command arguments options) .done)

def setLocation (location : Location) : Run Unit :=
  request (.setLocation location)

def lookupCommand (name : String) : Run (Option Command) :=
  request (.lookupCommand name)

def define (name : String) (binding : Binding) (override : Bool) : Run Bool :=
  request (.define name binding override)

def scope : Run Scope :=
  request .scope

def isBoolean (tag : String) : Run Bool :=
  request (.isBoolean tag)

def warn (warning : Warning) : Run Unit :=
  request (.warn warning)

/-- The outcome of a script block, whose failure does not end the program. -/
def runScript (code : String) : Run (Except Diagnostic Unit) :=
  request (.runScript code)

/-- Hands a file to the legacy parser. Its failure ends the program. -/
def runLegacy (text : String) : Run Unit :=
  ExceptT.mk (.ask (.runLegacy text) .done)

end Run

end PlotScript
