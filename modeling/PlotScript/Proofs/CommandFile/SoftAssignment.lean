import PlotScript.Proofs.CommandFile.AssignmentLine
import PlotScript.Proofs.Execution.Recording
import PlotScript.Proofs.Session.Calls
import PlotScript.Proofs.Variables.Faults
import PlotScript.Proofs.Variables.Resolution
import PlotScript.Proofs.Variables.TwoReadings

/-!
# Soft assignments to a variable that is bound

A soft assignment leaves a bound variable as it is, and everything else with it. Its value is
read all the same. So the line goes through only if there is nothing wrong with the value that
nobody is going to use.
-/

namespace PlotScript

open Text

/-! ## Values that can be read -/

/-- Nothing is wrong with the value of an assignment: its text keeps to the quoting rules, and
every variable that is expanded in it now has a text. -/
structure Readable (scope : Scope) (deferred : Bool) (value : List Char) : Prop where
  faultless : ∀ cause, Piece.fault cause ∉ Piece.ofText false value
  resolved : deferred = false → ∀ name, Piece.RefersTo value name →
    ∃ text, scope.resolve name = .ok (some text)

namespace Piece

/-- Pieces have a text together when each of them has one. -/
theorem exists_concat_iff {text : Piece → Except Cause (List Char)} {pieces : List Piece} :
    (∃ whole, concat text pieces = .ok whole) ↔ ∀ p ∈ pieces, ∃ own, text p = .ok own := by
  induction pieces with
  | nil =>
      constructor
      · exact nofun
      · exact fun _ => ⟨[], rfl⟩
  | cons p rest ih =>
      rw [List.forall_mem_cons, ← ih]
      constructor
      · rintro ⟨whole, h⟩
        obtain ⟨front, back, first, others, -⟩ := concat_cons_eq_ok h
        exact ⟨⟨front, first⟩, ⟨back, others⟩⟩
      · rintro ⟨⟨front, first⟩, ⟨back, others⟩⟩
        refine ⟨front ++ back, ?_⟩
        rw [concat, first, others]
        rfl

/-- A piece can be expanded unless it is a fault or its variable has no text. -/
theorem exists_expand_iff {scope : Scope} {p : Piece} :
    (∃ own, expand scope.lookup p = .ok own) ↔
      (∀ cause, p ≠ fault cause) ∧
        ∀ r quoted, p = reference r quoted →
          ∃ text, scope.resolve (String.ofList r.name) = .ok (some text) := by
  cases p with
  | reference r quoted =>
      constructor
      · rintro ⟨own, h⟩
        obtain ⟨text, found, -⟩ := exists_of_map_eq_ok h
        constructor
        · rintro cause ⟨⟩
        · rintro _ _ ⟨⟩
          exact ⟨text, Scope.required_eq_ok_iff.1 found⟩
      · rintro ⟨-, resolved⟩
        obtain ⟨text, found⟩ := resolved r quoted rfl
        refine ⟨text.toList, ?_⟩
        rw [expand, Scope.lookup, Scope.required_eq_ok_iff.2 found]
        rfl
  | fault cause =>
      constructor
      · rintro ⟨own, ⟨⟩⟩
      · rintro ⟨faultless, -⟩
        exact absurd rfl (faultless cause)
  | _ =>
      refine ⟨fun _ => ⟨?_, ?_⟩, fun _ => ⟨_, rfl⟩⟩
      · rintro cause ⟨⟩
      · rintro r quoted ⟨⟩

end Piece

namespace CommandFile

variable {scope : Scope} {deferred : Bool} {value : String}

/-- The value of an assignment is found exactly when nothing is wrong with it. -/
theorem exists_assigned_iff :
    (∃ binding, assigned scope deferred value = .ok binding) ↔
      Readable scope deferred value.toList := by
  cases deferred with
  | true =>
      rw [assigned, if_pos rfl, deferredValue_eq]
      constructor
      · rintro ⟨binding, h⟩
        obtain ⟨raw, read, -⟩ := exists_of_map_eq_ok h
        obtain ⟨text, kept, -⟩ := exists_of_map_eq_ok read
        refine ⟨(Piece.concat_defer_eq_ok kept).1, ?_⟩
        rintro ⟨⟩
      · rintro ⟨faultless, -⟩
        rw [Piece.concat_defer_of_noFault faultless]
        exact ⟨_, rfl⟩
  | false =>
      have expanded : (∃ binding, assigned scope false value = .ok binding) ↔
          ∃ text, Piece.concat (Piece.expand scope.lookup) (Piece.ofText false value.toList) =
            .ok text := by
        rw [assigned, if_neg Bool.false_ne_true, eagerValue_eq]
        constructor
        · rintro ⟨binding, h⟩
          obtain ⟨raw, read, -⟩ := exists_of_map_eq_ok h
          obtain ⟨text, found, -⟩ := exists_of_map_eq_ok read
          exact ⟨text, found⟩
        · rintro ⟨text, found⟩
          rw [found]
          exact ⟨_, rfl⟩
      rw [expanded, Piece.exists_concat_iff]
      constructor
      · intro each
        constructor
        · intro cause member
          exact (Piece.exists_expand_iff.1 (each _ member)).1 cause rfl
        · rintro - name ⟨r, quoted, member, rfl⟩
          exact (Piece.exists_expand_iff.1 (each _ member)).2 r quoted rfl
      · rintro ⟨faultless, resolved⟩ p member
        apply Piece.exists_expand_iff.2
        constructor
        · rintro cause rfl
          exact faultless cause member
        · rintro r quoted rfl
          exact resolved rfl _ ⟨r, quoted, member, rfl⟩

theorem isOfWords_of_assigned {cause : Cause} (h : assigned scope deferred value = .error cause) :
    cause.isOfWords = true := by
  cases deferred with
  | true => exact isOfWords_of_deferredValue (error_of_map_eq_error h)
  | false => exact isOfWords_of_eagerValue (error_of_map_eq_error h)

/-! ## The line -/

/-- What becomes of a soft assignment to a bound variable: it fails at its place for what is
wrong with its value, and otherwise nothing happens. -/
structure OnlyReads {σ : Type} (scope : Scope) (deferred : Bool) (value : List Char)
    (place : Location) (s : σ) (ran : Except Diagnostic Unit × σ) : Prop where
  unchanged : ran.2 = s
  succeeds_iff : ran.1 = .ok () ↔ Readable scope deferred value
  fails : ∀ d, ran.1 = .error d →
    ∃ cause : Cause, cause.isOfWords = true ∧ d = cause.placed place

/-- In a context that keeps its bindings, a soft assignment to a bound variable only reads. -/
theorem onlyReads_assign {σ : Type} {context : Context σ} {table : σ → CommandTable}
    {scopeOf : σ → Scope} (tells : context.Tells table scopeOf) {s : σ} {name : String}
    (keeps : ∀ binding, (context (.define name binding false) s).2 = s) (stream : String)
    (line : Line) (deferred : Bool) (value : String) :
    OnlyReads (scopeOf s) deferred value.toList (Location.inFile name stream line.number) s
      ((assign stream line name true deferred value).run.run context s) := by
  rw [run_assign tells]
  cases read : assigned (scopeOf s) deferred value with
  | error cause =>
      refine ⟨rfl, ⟨nofun, ?_⟩, ?_⟩
      · intro readable
        obtain ⟨binding, found⟩ := exists_assigned_iff.2 readable
        rw [read] at found
        cases found
      · rintro _ ⟨⟩
        exact ⟨cause, isOfWords_of_assigned read, rfl⟩
  | ok binding =>
      refine ⟨keeps binding, ⟨?_, fun _ => rfl⟩, nofun⟩
      exact fun _ => exists_assigned_iff.1 ⟨binding, read⟩

end CommandFile

theorem Scope.define_of_bound {scope : Scope} {name : String}
    (bound : scope.contains name = true) (binding : Binding) :
    scope.define name binding false = (scope, false) := by
  rw [define, bound]
  rfl

theorem Recorder.keeps_bound {s : Recorder} {name : String}
    (bound : s.scope.contains name = true) (binding : Binding) :
    (context (.define name binding false) s).2 = s := by
  show { s with scope := (s.scope.define name binding false).1 } = s
  rw [Scope.define_of_bound bound]

theorem Session.keeps_bound {setup : Setup} {room : Nat} {s : Session} {name : String}
    (bound : s.scope.contains name = true) (binding : Binding) :
    (contextWithin setup room (.define name binding false) s).2 = s := by
  rw [context_define, define, Scope.define_of_bound bound]

/-! ## The file -/

/-- A file that assigns softly to a bound variable leaves the recorder and the session as they
are. It goes through exactly when nothing is wrong with the value, which is read in any case. -/
theorem soft_assignment_only_reads {name rest : String} (isName : Statement.IsName name.toList)
    (oneLine : '\n' ∉ rest.toList) (deferred : Bool) (reader : FileReader) (stream : String) :
    let file :=
      reader.interpret stream (String.ofList (assignmentLine name true deferred rest.toList))
    let value := trim (Line.uncontinued rest.toList)
    let place := Location.inFile name stream 1
    (∀ s : Recorder, s.scope.contains name = true →
      CommandFile.OnlyReads s.scope deferred value place s (s.record file)) ∧
    ∀ (setup : Setup) (s : Session), s.scope.contains name = true →
      CommandFile.OnlyReads s.scope deferred value place s (Session.run setup file s) := by
  intro file value place
  have only : lines (String.ofList (assignmentLine name true deferred rest.toList)).toList =
      [assignmentLine name true deferred rest.toList] := by
    rw [String.toList_ofList]
    exact lines_of_oneLine (by simp [assignmentLine])
      (oneLine_assignmentLine true deferred isName oneLine)
  have assigns := interpret_assignmentLine true deferred isName only reader stream
  have reads {σ : Type} {context : Context σ} {table : σ → CommandTable} {scopeOf : σ → Scope}
      (tells : context.Tells table scopeOf) {s : σ}
      (keeps : ∀ binding, (context (.define name binding false) s).2 = s) :
      CommandFile.OnlyReads (scopeOf s) deferred value place s (file.run.run context s) := by
    have atLine := CommandFile.onlyReads_assign tells keeps stream
      ⟨1, String.ofList (assignmentLine name true deferred (trimEnd (Line.uncontinued rest.toList)))⟩
      deferred (String.ofList value)
    rwa [String.toList_ofList, ← assigns] at atLine
  constructor
  · intro s bound
    exact reads Recorder.tells (Recorder.keeps_bound bound)
  · intro setup s bound
    exact reads Session.tells (Session.keeps_bound bound)

theorem soft_assignment_of_own_value :
    let s : Recorder :=
      { table := CommandTable.empty, scope := NameMap.empty.insert "title" (.deferred "$unit") }
    let line := String.ofList (assignmentLine "title" true true " [$title] '$x'\\".toList)
    s.record (FileReader.interpret {} "a.plot" line) = (.ok (), s) := by
  intro s line
  have isName : Statement.IsName "title".toList :=
    ⟨'t', "itle".toList, rfl, by decide, List.all_eq_true.1 (by decide)⟩
  have onlyReads := (@soft_assignment_only_reads "title" " [$title] '$x'\\" isName (by decide) true
    {} "a.plot").1 s (by decide)
  have found : CommandFile.assigned s.scope true "[$title] '$x'" =
      .ok (.deferred "[$title] \\$x") := by
    decide +kernel
  have readable : Readable s.scope true "[$title] '$x'".toList :=
    CommandFile.exists_assigned_iff.1 ⟨_, found⟩
  exact Prod.ext (onlyReads.succeeds_iff.2 readable) onlyReads.unchanged

/-- A soft assignment to a bound variable fails for a variable that nobody was going to use. -/
theorem soft_assignment_to_bound_fails :
    let s : Recorder :=
      { table := CommandTable.empty, scope := NameMap.empty.insert "x" (.eager "1") }
    s.scope.contains "x" = true ∧
      (s.record (FileReader.interpret {} "a.plot" "x ?= $y")).1 =
        .error ((Cause.undefinedVariable "y").placed (Location.inFile "x" "a.plot" 1)) := by
  decide +kernel

end PlotScript
