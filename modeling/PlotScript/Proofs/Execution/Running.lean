import PlotScript.Execution.Program

/-!
# Running programs that may fail

What a context makes of the steps of a program: one equation for each way to
build one.
-/

namespace PlotScript.Run

variable {σ α β : Type} (context : Context σ) (s : σ)

/-- The first failure ends a program. -/
theorem run_bind (x : Run α) (f : α → Run β) :
    (x >>= f).run.run context s =
      match x.run.run context s with
      | (.ok a, s') => (f a).run.run context s'
      | (.error d, s') => (.error d, s') := by
  have split : (x >>= f).run = x.run.bind (ExceptT.bindCont f) := rfl
  rw [split, Program.run_bind]
  rcases x.run.run context s with ⟨result, s'⟩
  cases result <;> rfl

variable {context s} in
theorem run_bind_of_ok {x : Run α} {a : α} {t : σ} (h : x.run.run context s = (.ok a, t))
    (f : α → Run β) : (x >>= f).run.run context s = (f a).run.run context t := by
  rw [run_bind, h]

variable {context s} in
/-- A program that succeeds succeeds in each of its steps. -/
theorem exists_of_run_bind_eq_ok {x : Run α} {f : α → Run β} {b : β} {u : σ}
    (h : (x >>= f).run.run context s = (.ok b, u)) :
    ∃ a t, x.run.run context s = (.ok a, t) ∧ (f a).run.run context t = (.ok b, u) := by
  rw [run_bind] at h
  rcases ran : x.run.run context s with ⟨result, t⟩
  rw [ran] at h
  cases result with
  | ok a => exact ⟨a, t, rfl, h⟩
  | error d => cases congrArg Prod.fst h

variable {context s} in
/-- A program fails in one of its steps, and those in front of it succeed. -/
theorem of_run_bind_eq_error {x : Run α} {f : α → Run β} {d : Diagnostic} {u : σ}
    (h : (x >>= f).run.run context s = (.error d, u)) :
    x.run.run context s = (.error d, u) ∨
      ∃ a t, x.run.run context s = (.ok a, t) ∧ (f a).run.run context t = (.error d, u) := by
  rw [run_bind] at h
  rcases ran : x.run.run context s with ⟨result, t⟩
  rw [ran] at h
  cases result with
  | ok a => exact .inr ⟨a, t, rfl, h⟩
  | error d' =>
      obtain ⟨same, rfl⟩ := Prod.mk.inj h
      obtain rfl := Except.error.inj same
      exact .inl rfl

variable {context s} in
/-- A program fails with the failure of its first step. -/
theorem run_bind_of_error {x : Run α} {d : Diagnostic} (h : (x.run.run context s).1 = .error d)
    (f : α → Run β) : ((x >>= f).run.run context s).1 = .error d := by
  rw [run_bind]
  rcases ran : x.run.run context s with ⟨result, t⟩
  rw [ran] at h
  obtain rfl : result = .error d := h
  rfl

theorem run_placed_ok (l : Location) (a : α) :
    (placed l (.ok a)).run.run context s = (.ok a, s) := rfl

theorem run_scope :
    scope.run.run context s = (.ok (context .scope s).1, (context .scope s).2) := rfl

theorem run_setLocation (l : Location) :
    (setLocation l).run.run context s = (.ok (), (context (.setLocation l) s).2) := rfl

theorem run_lookupCommand (name : String) :
    (lookupCommand name).run.run context s =
      (.ok (context (.lookupCommand name) s).1, (context (.lookupCommand name) s).2) := rfl

theorem run_isBoolean (tag : String) :
    (isBoolean tag).run.run context s =
      (.ok (context (.isBoolean tag) s).1, (context (.isBoolean tag) s).2) := rfl

theorem run_runScript (code : String) :
    (runScript code).run.run context s =
      (.ok (context (.runScript code) s).1, (context (.runScript code) s).2) := rfl

theorem run_runCommand (c : Command) (arguments : List String) (options : RawOptions) :
    (runCommand c arguments options).run.run context s =
      context (.runCommand c arguments options) s := rfl

end PlotScript.Run
