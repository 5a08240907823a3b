import PlotScript.Proofs.CommandFile.Sequence
import PlotScript.Proofs.Execution.Recording
import PlotScript.Proofs.Variables.Faults

/-!
# Line numbers

A file that stands below other lines is interpreted as it is on its own, except that every
line number is larger by the number of the lines above it. Line numbers show in the locations
of calls, errors and failed script blocks, and in the wording of an error about a block that
is still open at the end of the file. Nothing that a file does depends on them.
-/

namespace PlotScript

/-! ## More lines above -/

/-- The same place with `k` more lines above it. -/
def Location.shift (k : Nat) (l : Location) : Location :=
  { l with line := l.line + k }

/-- The same failure with `k` more lines above the file. -/
def Cause.shift (k : Nat) : Cause → Cause
  | .unterminatedBlock block line => .unterminatedBlock block (line + k)
  | c => c

/-- The same error with `k` more lines above the file. -/
def Diagnostic.shift (k : Nat) (d : Diagnostic) : Diagnostic :=
  { d with cause := d.cause.shift k, location := d.location.map (·.shift k) }

/-- The same warning with `k` more lines above the file. -/
def Warning.shift (k : Nat) : Warning → Warning
  | .legacySyntax stream line => .legacySyntax stream (line + k)
  | .scriptFailed location cause => .scriptFailed (location.shift k) (cause.shift k)
  | w => w

/-- The same call with `k` more lines above it. -/
def RecordedCall.shift (k : Nat) (c : RecordedCall) : RecordedCall :=
  { c with location := c.location.shift k }

/-- The same line with `k` more lines above it. -/
def Line.shift (k : Nat) (l : Line) : Line :=
  { l with number := l.number + k }

variable {k : Nat}

theorem Cause.shift_of_isOfWords {cause : Cause} (h : cause.isOfWords = true) :
    cause.shift k = cause := by
  cases cause with
  | unterminatedBlock block line => cases h
  | _ => rfl

/-- Words that cannot be read are no matter of line numbers. -/
theorem Cause.placed_shift (k : Nat) {cause : Cause} (h : cause.isOfWords = true)
    (label stream : String) (number : Nat) :
    cause.placed (Location.inFile label stream (number + k)) =
      (cause.placed (Location.inFile label stream number)).shift k := by
  show _ = (cause.shift k).placed _
  rw [Cause.shift_of_isOfWords h]
  rfl

/-! ## Blocks -/

namespace Block

theorem code_shift (lines : List Line) : code (lines.map (Line.shift k)) = code lines := by
  rw [code, List.map_map]
  rfl

/-- Both parts of lines that are cut in two, with `k` more lines above them. -/
def shift (k : Nat) (cut : List Line × List Line) : List Line × List Line :=
  (cut.1.map (Line.shift k), cut.2.map (Line.shift k))

theorem takeScript_shift (lines : List Line) :
    takeScript (lines.map (Line.shift k)) = (takeScript lines).map (shift k) := by
  induction lines with
  | nil => rfl
  | cons line rest ih =>
      have same : (line.shift k).statement = line.statement := rfl
      rw [List.map_cons, takeScript, takeScript, same]
      by_cases closes : line.statement = .scriptClose
      · rw [if_pos closes, if_pos closes]
        rfl
      · rw [if_neg closes, if_neg closes, ih]
        cases takeScript rest with
        | none => rfl
        | some cut => rfl

theorem takeLoop_shift (n : Nesting) (lines : List Line) :
    takeLoop n (lines.map (Line.shift k)) = (takeLoop n lines).map (shift k) := by
  induction lines generalizing n with
  | nil => rfl
  | cons line rest ih =>
      have same : (line.shift k).statement = line.statement := rfl
      rw [List.map_cons, takeLoop, takeLoop, same]
      cases n.after? line.statement with
      | none => rfl
      | some inner =>
          dsimp only
          rw [ih]
          cases takeLoop inner rest with
          | none => rfl
          | some cut => rfl

end Block

/-! ## Recorders of two files -/

/-- Two lists that were alike once and have grown by the same, except for line numbers in the
second one. -/
def GrownAlike {α : Type} (shift : α → α) (base one other : List α) : Prop :=
  ∃ new, one = base ++ new ∧ other = base ++ new.map shift

namespace GrownAlike

variable {α : Type} {shift : α → α} {base one other : List α}

theorem start (base : List α) : GrownAlike shift base base base :=
  ⟨[], by simp, by simp⟩

theorem snoc (h : GrownAlike shift base one other) (a : α) :
    GrownAlike shift base (one ++ [a]) (other ++ [shift a]) := by
  obtain ⟨new, rfl, rfl⟩ := h
  exact ⟨new ++ [a], by simp, by simp⟩

end GrownAlike

namespace Recorder

/-- Two recorders that were `base` once and have recorded the same since then, except that the
second one knows of `k` more lines above the file. -/
structure Shifted (k : Nat) (base s t : Recorder) : Prop where
  table : t.table = s.table
  scriptFailure : t.scriptFailure = s.scriptFailure
  scope : t.scope = s.scope
  scripts : t.scripts = s.scripts
  legacy : t.legacy = s.legacy
  calls : GrownAlike (·.shift k) base.calls s.calls t.calls
  warnings : GrownAlike (·.shift k) base.warnings s.warnings t.warnings
  /-- Until a line has set the location it is the one of before. -/
  location : (s.location = base.location ∧ t.location = base.location) ∨
    t.location = s.location.shift k

/-- Two runs that have ended alike. -/
structure EndsAlike {α : Type} (k : Nat) (base : Recorder)
    (one other : Except Diagnostic α × Recorder) : Prop where
  result : other.1 = one.1.mapError (·.shift k)
  recorder : Shifted k base one.2 other.2

variable {base s t : Recorder} {α β : Type}

namespace Shifted

theorem start (k : Nat) (base : Recorder) : Shifted k base base base :=
  ⟨rfl, rfl, rfl, rfl, rfl, .start _, .start _, .inl ⟨rfl, rfl⟩⟩

theorem reached (h : Shifted k base s t) (place : Location) :
    Shifted k base (s.reached place) (t.reached (place.shift k)) :=
  { h with location := .inr rfl }

theorem warned (h : Shifted k base s t) (warning : Warning) :
    Shifted k base (s.warned warning) (t.warned (warning.shift k)) :=
  { h with warnings := h.warnings.snoc warning }

theorem called (h : Shifted k base s t) (call : RecordedCall) :
    Shifted k base (s.called call) (t.called (call.shift k)) :=
  { h with calls := h.calls.snoc call, location := .inr rfl }

theorem scripted (h : Shifted k base s t) (code : String) :
    Shifted k base (s.scripted code) (t.scripted code) :=
  { h with scripts := congrArg (· ++ [code]) h.scripts }

theorem defined (h : Shifted k base s t) (name : String) (binding : Binding) (override : Bool) :
    Shifted k base (s.defined name binding override) (t.defined name binding override) :=
  { h with scope := congrArg (fun scope => (scope.define name binding override).1) h.scope }

theorem call (h : Shifted k base s t) (place : Location) (c : Command) (words : List String) :
    EndsAlike k base (s.call place c words) (t.call (place.shift k) c words) := by
  unfold Recorder.call
  cases parting : splitWords c words with
  | error cause =>
      obtain ⟨option, rfl⟩ := exists_of_splitWords_eq_error parting
      exact ⟨rfl, h.reached place⟩
  | ok parted =>
      obtain ⟨arguments, options, undeclared⟩ := parted
      cases undeclared with
      | none => exact ⟨rfl, h.called ⟨c.name, c.completed arguments, options, place⟩⟩
      | some option =>
          exact ⟨rfl, (h.warned (.notAnOption option c.name)).called
            ⟨c.name, c.completed arguments, options, place⟩⟩

end Shifted

/-! ## Programs of two files -/

/-- Two programs that end alike whenever they begin alike. -/
def RunsAlike (k : Nat) (base : Recorder) (x y : Run α) : Prop :=
  ∀ ⦃s t : Recorder⦄, Shifted k base s t → EndsAlike k base (s.record x) (t.record y)

namespace RunsAlike

theorem pure (a : α) : RunsAlike k base (Pure.pure a : Run α) (Pure.pure a) :=
  fun _ _ h => ⟨rfl, h⟩

theorem bind {x y : Run α} {f g : α → Run β} (first : RunsAlike k base x y)
    (others : ∀ a, RunsAlike k base (f a) (g a)) : RunsAlike k base (x >>= f) (y >>= g) := by
  intro s t h
  obtain ⟨result, recorder⟩ := first h
  rw [record, record, Run.run_bind, Run.run_bind]
  rw [record, record] at result recorder
  generalize x.run.run context s = one at result recorder
  generalize y.run.run context t = other at result recorder
  obtain ⟨result₁, s'⟩ := one
  obtain ⟨result₂, t'⟩ := other
  obtain rfl : result₂ = result₁.mapError (·.shift k) := result
  cases result₁ with
  | ok a => exact others a recorder
  | error d => exact ⟨rfl, recorder⟩

end RunsAlike

end Recorder

namespace CommandFile

open Recorder

variable {base : Recorder} {stream : String} (line : Line)

theorem runsAlike_runCommand :
    RunsAlike k base (runCommand stream line) (runCommand stream (line.shift k)) := by
  intro s t h
  have text : (line.shift k).text = line.text := rfl
  have number : (line.shift k).number = line.number + k := rfl
  have label : firstField (line.shift k) = firstField line := rfl
  rw [record_runCommand, record_runCommand, h.scope, h.table, text, number, label]
  cases split : splitLine s.scope line.text.toList with
  | error cause =>
      dsimp only
      rw [Cause.placed_shift k (isOfWords_of_splitLine split)]
      exact ⟨rfl, h⟩
  | ok words =>
      cases words with
      | nil => exact ⟨rfl, h⟩
      | cons name words =>
          dsimp only
          cases s.table.get? name with
          | none => exact ⟨rfl, h⟩
          | some c => exact h.call (Location.inFile name stream line.number) c words

theorem runsAlike_assign (name : String) (soft deferred : Bool) (rest : String) :
    RunsAlike k base (assign stream line name soft deferred rest)
      (assign stream (line.shift k) name soft deferred rest) := by
  intro s t h
  have number : (line.shift k).number = line.number + k := rfl
  rw [record_assign, record_assign, h.scope, number]
  cases value : assigned s.scope deferred rest with
  | error cause =>
      have ofWords : cause.isOfWords = true := by
        cases deferred with
        | true => exact isOfWords_of_deferredValue (error_of_map_eq_error value)
        | false => exact isOfWords_of_eagerValue (error_of_map_eq_error value)
      dsimp only
      rw [Cause.placed_shift k ofWords]
      exact ⟨rfl, h⟩
  | ok binding => exact ⟨rfl, h.defined name binding (!soft)⟩

theorem runsAlike_runScript (opened : Nat) (code : String) :
    RunsAlike k base (runScript stream opened code) (runScript stream (opened + k) code) := by
  intro s t h
  have ran := (h.reached (Location.inFile BlockKind.script.opener stream opened)).scripted code
  rw [record_runScript, record_runScript, h.scriptFailure]
  cases s.scriptFailure with
  | none => exact ⟨rfl, ran⟩
  | some message =>
      exact ⟨rfl, ran.warned (.scriptFailed _ (.reported .script message))⟩

theorem runsAlike_loopWords (list : String) :
    RunsAlike k base (loopWords stream line list) (loopWords stream (line.shift k) list) := by
  intro s t h
  have number : (line.shift k).number = line.number + k := rfl
  rw [record_loopWords, record_loopWords, h.scope, number]
  cases split : splitLine s.scope list.toList with
  | error cause =>
      have same := Cause.placed_shift k (isOfWords_of_splitLine split)
        BlockKind.loop.opener stream line.number
      exact ⟨congrArg Except.error same, h⟩
  | ok words => exact ⟨rfl, h⟩

theorem runsAlike_unterminated {α : Type} (block : BlockKind) (opened : Nat) :
    RunsAlike k base (unterminated stream block opened : Run α)
      (unterminated stream block (opened + k)) :=
  fun _ _ h => ⟨rfl, h⟩

theorem runsAlike_stray {α : Type} (block : BlockKind) :
    RunsAlike k base (stray stream block line : Run α) (stray stream block (line.shift k)) :=
  fun _ _ h => ⟨rfl, h⟩

theorem runsAlike_replay (name : String) (words : List String) {x y : Run Unit}
    (alike : RunsAlike k base x y) :
    RunsAlike k base (replay name words x) (replay name words y) := by
  induction words with
  | nil => exact .pure ()
  | cons word rest ih =>
      refine .bind (fun s t h => ?_) fun _ => alike.bind fun _ => ih
      refine ⟨?_, h.defined name (.eager word) true⟩
      show Except.ok (t.scope.define name (.eager word) true).2 =
        .ok (s.scope.define name (.eager word) true).2
      rw [h.scope]

/-- Lines do the same below other lines. -/
theorem runsAlike_runLines (lines : List Line) :
    RunsAlike k base (runLines stream lines) (runLines stream (lines.map (Line.shift k))) := by
  fun_induction runLines stream lines with
  | case1 =>
      rw [List.map_nil, runLines]
      exact .pure ()
  | case2 line rest isBlank ih =>
      rw [List.map_cons, @runLines_blank stream (line.shift k) _ isBlank]
      exact ih
  | case3 line rest opens missing =>
      have missing : Block.takeScript (rest.map (Line.shift k)) = none := by
        rw [Block.takeScript_shift, missing]
        rfl
      rw [List.map_cons, @runLines_openScript stream (line.shift k) _ opens missing]
      exact runsAlike_unterminated .script line.number
  | case4 line rest opens code behind closed shorter ih =>
      have closed : Block.takeScript (rest.map (Line.shift k)) =
          some (code.map (Line.shift k), behind.map (Line.shift k)) := by
        rw [Block.takeScript_shift, closed]
        rfl
      rw [List.map_cons, @runLines_script stream (line.shift k) _ _ _ opens closed,
        Block.code_shift]
      exact (runsAlike_runScript line.number (Block.code code)).bind fun _ => ih
  | case5 line rest closes =>
      rw [List.map_cons, @runLines_scriptClose stream (line.shift k) _ closes]
      exact runsAlike_stray line .script
  | case6 line rest name list opens inBody behindBody =>
      rcases Option.eq_none_or_eq_some (Block.takeLoop {} rest) with missing | ⟨cut, closed⟩
      · have missingBelow : Block.takeLoop {} (rest.map (Line.shift k)) = none := by
          rw [Block.takeLoop_shift, missing]
          rfl
        rw [List.map_cons, @runLines_openLoop stream (line.shift k) _ _ _ opens missingBelow]
        refine (runsAlike_loopWords line list).bind fun words => ?_
        split
        · exact runsAlike_unterminated .loop line.number
        · rename_i found
          rw [missing] at found
          cases found
      · obtain ⟨body, behind⟩ := cut
        have closedBelow : Block.takeLoop {} (rest.map (Line.shift k)) =
            some (body.map (Line.shift k), behind.map (Line.shift k)) := by
          rw [Block.takeLoop_shift, closed]
          rfl
        rw [List.map_cons, @runLines_loop stream (line.shift k) _ _ _ _ _ opens closedBelow]
        refine (runsAlike_loopWords line list).bind fun words => ?_
        split
        · rename_i missing
          rw [closed] at missing
          cases missing
        · rename_i found
          rw [closed] at found
          obtain ⟨rfl, rfl⟩ := Prod.mk.inj (Option.some.inj found)
          exact (runsAlike_replay name words (inBody body behind closed)).bind fun _ =>
            behindBody body behind closed
  | case7 line rest closes =>
      rw [List.map_cons, @runLines_loopClose stream (line.shift k) _ closes]
      exact runsAlike_stray line .loop
  | case8 line rest name soft deferred value assigns ih =>
      rw [List.map_cons, @runLines_assignment stream (line.shift k) _ _ _ _ _ assigns]
      exact (runsAlike_assign line name soft deferred value).bind fun _ => ih
  | case9 line rest calls ih =>
      rw [List.map_cons, @runLines_command stream (line.shift k) _ calls]
      exact (runsAlike_runCommand line).bind fun _ => ih

end CommandFile

end PlotScript
