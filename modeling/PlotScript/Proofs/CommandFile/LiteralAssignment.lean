import PlotScript.Proofs.CommandFile.AssignmentLine
import PlotScript.Proofs.Execution.Statements
import PlotScript.Proofs.Variables.Deferral
import PlotScript.Proofs.Variables.Names
import PlotScript.Proofs.Variables.Quotation
import PlotScript.Session.Basic

/-!
# Assignments of quoted values

A line that assigns a value between quotes binds its variable to an expression that stands
for that very value, whichever sign it has, and does nothing else. Every text of one line
is such a value. A deferred assignment keeps it as an expression that is expanded at every
use, but nothing in it is a reference, so every scope gives it the same text.
-/

namespace PlotScript

open Text Quotation

/-! ## What a quoted value stands for -/

namespace Piece

/-- Shielded characters stand for themselves, whatever the variables hold. -/
theorem concat_expand_shielded (lookup : String → Except Cause String) (word : List Char) :
    concat (expand lookup) (word.map shielded) = .ok word := by
  induction word with
  | nil => rfl
  | cons c word ih =>
      have first : expand lookup (shielded c) = .ok [c] := by
        unfold shielded
        split
        · rename_i isDollar
          rw [isDollar]
          rfl
        · rfl
      rw [List.map_cons, concat, first, ih]
      rfl

/-- No dollar sign stands at the front of shielded characters as they are spelled: it has its
backslash in front of it. -/
theorem head?_spelled_shielded (word : List Char) :
    ((word.map shielded).flatMap spelled).head? ≠ some '$' := by
  cases word with
  | nil => simp
  | cons c word =>
      rw [List.map_cons, List.flatMap_cons, shielded]
      split
      · simp [spelled]
      · rename_i notDollar
        simpa [spelled] using notDollar

theorem runsInto_shielded (c : Char) {text : List Char} (noDollar : text.head? ≠ some '$') :
    runsInto (shielded c) text = false := by
  unfold shielded
  split
  · rfl
  · rename_i notDollar
    unfold runsInto
    split
    · simpa using noDollar
    · rename_i same
      exact absurd (Piece.char.inj same) notDollar
    · rename_i same
      cases same
    · rfl

/-- So none of them runs into the next one, not even a backslash. -/
theorem seamless_shielded (word : List Char) : seamless (word.map shielded) = true := by
  induction word with
  | nil => rfl
  | cons c word ih =>
      rw [List.map_cons, seamless, runsInto_shielded c (head?_spelled_shielded word), ih]
      rfl

end Piece

namespace Quotation.Quotes

variable {quotes : Quotes} {value : List Char}

/-- A value between quotes and nothing behind it. -/
theorem ofText_value (allowed : quotes.Allow value) :
    Piece.ofText false (quotes.around value) = .quote :: value.map Piece.shielded := by
  have pieces := ofText_around allowed []
  rwa [List.append_nil, Piece.ofText_nil, if_neg Bool.false_ne_true, List.append_nil] at pieces

theorem concat_expand_value (allowed : quotes.Allow value)
    (lookup : String → Except Cause String) :
    Piece.concat (Piece.expand lookup) (Piece.ofText false (quotes.around value)) =
      .ok value := by
  rw [ofText_value allowed, Piece.concat, Piece.concat_expand_shielded]
  rfl

theorem eagerValue_around (allowed : quotes.Allow value) (scope : Scope) :
    eagerValue scope (quotes.around value) = .ok (String.ofList value) := by
  rw [eagerValue_eq, concat_expand_value allowed]
  rfl

/-- Kept for later, a quoted value is expanded to itself. -/
theorem exists_deferredValue_around (allowed : quotes.Allow value) :
    ∃ raw, deferredValue (quotes.around value) = .ok raw ∧
      ∀ lookup : String → Except Cause String,
        Piece.concat (Piece.expand lookup) (Piece.ofExpression raw.toList) = .ok value := by
  have noFault : ∀ cause, Piece.fault cause ∉ Piece.ofText false (quotes.around value) := by
    intro cause member
    rw [ofText_value allowed] at member
    rcases List.mem_cons.1 member with same | member
    · cases same
    · obtain ⟨c, -, same⟩ := List.mem_map.1 member
      unfold Piece.shielded at same
      split at same <;> cases same
  have seamless : Piece.seamless (Piece.ofText false (quotes.around value)) = true := by
    rw [ofText_value allowed, Piece.seamless, Piece.seamless_shielded]
    rfl
  have deferred : deferredValue (quotes.around value) =
      .ok (String.ofList ((Piece.ofText false (quotes.around value)).flatMap Piece.spelled)) := by
    rw [deferredValue_eq, Piece.concat_defer_of_noFault noFault]
    rfl
  refine ⟨_, deferred, fun lookup => ?_⟩
  rw [concat_expand_deferred_of_seamless deferred seamless, concat_expand_value allowed]

/-- A text between quotes begins and ends with a quote. -/
theorem exists_around (quotes : Quotes) (value : List Char) :
    ∃ q middle, (q = '\'' ∨ q = '"') ∧ quotes.around value = q :: (middle ++ [q]) := by
  cases quotes with
  | single => exact ⟨'\'', value, .inl rfl, rfl⟩
  | double => exact ⟨'"', value.flatMap escapeChar, .inr rfl, rfl⟩

theorem exists_getLast?_append (quotes : Quotes) (front value : List Char) :
    ∃ q, (q = '\'' ∨ q = '"') ∧ (front ++ quotes.around value).getLast? = some q := by
  obtain ⟨q, middle, isQuote, shape⟩ := quotes.exists_around value
  refine ⟨q, isQuote, ?_⟩
  rw [shape, List.getLast?_append, List.getLast?_cons, List.getLast?_concat]
  rfl

theorem oneLine_around (quotes : Quotes) (oneLine : '\n' ∉ value) :
    '\n' ∉ quotes.around value := by
  intro newline
  cases quotes with
  | single => exact oneLine (by simpa [around, Quotation.single] using newline)
  | double =>
      rcases mem_of_mem_double newline with other | other | inside
      · exact absurd other (by decide)
      · exact absurd other (by decide)
      · exact oneLine inside

end Quotation.Quotes

/-- A binding that gives its variable a text in every scope. -/
def Binding.Gives (binding : Binding) (value : String) : Prop :=
  ∀ (scope : Scope) (name : String),
    Scope.resolve (scope.insert name binding) name = .ok (some value)

namespace Binding

theorem gives_eager (value : String) : (eager value).Gives value := by
  intro scope name
  rw [Scope.resolve, Scope.maxDepth, Scope.resolveWithin, NameMap.get?_insert, if_pos rfl]

theorem gives_deferred {raw value : String}
    (expanded : ∀ lookup : String → Except Cause String,
      Piece.concat (Piece.expand lookup) (Piece.ofExpression raw.toList) = .ok value.toList) :
    (deferred raw).Gives value := by
  intro scope name
  rw [Scope.resolve, Scope.maxDepth, Scope.resolveWithin, NameMap.get?_insert, if_pos rfl]
  dsimp only
  rw [expanded]
  show Except.ok (some (String.ofList value.toList)) = _
  rw [String.ofList_toList]

end Binding

/-- Every kind of assignment binds a quoted value to something that gives it. -/
theorem exists_assigned_quoted {quotes : Quotes} {value : String}
    (allowed : quotes.Allow value.toList) (deferred : Bool) :
    ∃ binding : Binding, binding.Gives value ∧
      ∀ scope : Scope,
        CommandFile.assigned scope deferred (String.ofList (quotes.around value.toList)) =
          .ok binding := by
  cases deferred with
  | true =>
      obtain ⟨raw, kept, expanded⟩ := Quotes.exists_deferredValue_around allowed
      refine ⟨.deferred raw, Binding.gives_deferred expanded, fun scope => ?_⟩
      rw [CommandFile.assigned, if_pos rfl, String.toList_ofList, kept]
      rfl
  | false =>
      refine ⟨.eager value, Binding.gives_eager value, fun scope => ?_⟩
      rw [CommandFile.assigned, if_neg Bool.false_ne_true, String.toList_ofList,
        Quotes.eagerValue_around allowed, String.ofList_toList]
      rfl

/-! ## The line -/

/-- The line that assigns a value between quotes. -/
def literalAssignment (name : String) (soft deferred : Bool) (quotes : Quotes) (value : String) :
    List Char :=
  name.toList ++ ' ' :: (assignmentSign soft deferred ++ ' ' :: quotes.around value.toList)

theorem oneLine_literalAssignment {name value : String} (soft deferred : Bool) (quotes : Quotes)
    (isName : Statement.IsName name.toList) (oneLine : '\n' ∉ value.toList) :
    '\n' ∉ literalAssignment name soft deferred quotes value := by
  apply oneLine_assignmentLine soft deferred isName
  intro newline
  rcases List.mem_cons.1 newline with isBlank | inValue
  · exact absurd isBlank (by decide)
  · exact quotes.oneLine_around oneLine inValue

/-- A line that ends the file with or without a newline. -/
theorem lines_literalAssignment {name value : String} (soft deferred : Bool) (quotes : Quotes)
    (isName : Statement.IsName name.toList) (oneLine : '\n' ∉ value.toList) {ending : List Char}
    (ends : ending ∈ [[], ['\n']]) :
    lines (literalAssignment name soft deferred quotes value ++ ending) =
      [literalAssignment name soft deferred quotes value] := by
  have lineOnly := oneLine_literalAssignment soft deferred quotes isName oneLine
  obtain ⟨q, isQuote, last⟩ := quotes.exists_getLast?_append
    (name.toList ++ ' ' :: (assignmentSign soft deferred ++ [' '])) value.toList
  have ended : (literalAssignment name soft deferred quotes value).getLast? = some q := by
    rw [← last]
    simp only [literalAssignment, List.append_assoc, List.cons_append, List.nil_append]
  simp only [List.mem_cons, List.not_mem_nil, or_false] at ends
  rcases ends with rfl | rfl
  · rw [List.append_nil]
    exact lines_of_oneLine (by simp [literalAssignment]) lineOnly
  · refine lines_of_newline lineOnly ?_
    rw [ended]
    rcases isQuote with rfl | rfl <;> decide

/-- The file of one line that assigns a value between quotes. -/
def literalFile (name : String) (soft deferred : Bool) (quotes : Quotes) (value ending : String) :
    String :=
  String.ofList (literalAssignment name soft deferred quotes value ++ ending.toList)

/-- A file that assigns a quoted value is read as nothing but its only line. -/
theorem interpret_literalFile {name value : String} (soft deferred : Bool) {quotes : Quotes}
    (isName : Statement.IsName name.toList) (oneLine : '\n' ∉ value.toList) {ending : String}
    (ends : ending ∈ ["", "\n"]) (reader : FileReader) (stream : String) :
    reader.interpret stream (literalFile name soft deferred quotes value ending) =
      CommandFile.assign stream
        ⟨1, String.ofList (literalAssignment name soft deferred quotes value)⟩ name soft deferred
        (String.ofList (quotes.around value.toList)) := by
  let rest := ' ' :: quotes.around value.toList
  have only : lines (literalFile name soft deferred quotes value ending).toList =
      [assignmentLine name soft deferred rest] := by
    rw [literalFile, String.toList_ofList]
    refine lines_literalAssignment soft deferred quotes isName oneLine ?_
    simp only [List.mem_cons, List.not_mem_nil, or_false] at ends ⊢
    rcases ends with rfl | rfl
    · exact .inl rfl
    · exact .inr rfl
  obtain ⟨q, isQuote, last⟩ := quotes.exists_getLast?_append [' '] value.toList
  have ended : Line.uncontinued rest = rest := by
    refine Line.uncontinued_of_ended (if_neg ?_)
    show ([' '] ++ quotes.around value.toList).getLast? ≠ _
    rw [last]
    rcases isQuote with rfl | rfl <;> decide
  have kept : trimEnd rest = rest := by
    refine trimEnd_eq_self_iff.2 fun c atEnd => ?_
    obtain rfl := Option.some.inj (last.symm.trans atEnd)
    rcases isQuote with rfl | rfl <;> decide
  have quoted : trim rest = quotes.around value.toList := by
    obtain ⟨q, middle, isQuote, shape⟩ := quotes.exists_around value.toList
    rw [← trimStart_trimEnd, kept]
    show trimStart (' ' :: quotes.around value.toList) = _
    rw [shape]
    rcases isQuote with rfl | rfl <;> rfl
  have assigns := interpret_assignmentLine soft deferred isName only reader stream
  rwa [ended, kept, quoted] at assigns

/-- A quoted value comes back from the variable that it is assigned to. The file of the one line
asks for the variables and binds one; in a session nothing but the variable changes, and a soft
assignment needs it to be free. -/
theorem literal_assignment_round_trip {name value : String} {quotes : Quotes}
    (isName : Statement.IsName name.toList) (oneLine : '\n' ∉ value.toList)
    (allowed : quotes.Allow value.toList) (soft deferred : Bool) {ending : String}
    (ends : ending ∈ ["", "\n"]) (reader : FileReader) (stream : String) :
    let file := reader.interpret stream (literalFile name soft deferred quotes value ending)
    ∃ binding : Binding,
      (∀ scope : Scope,
        Scope.resolve (scope.insert name binding) name = .ok (some value) ∧
          ∀ other, other ≠ name → (scope.insert name binding).get? other = scope.get? other) ∧
      (file = do
        let _ ← Run.scope
        let _ ← Run.define name binding (!soft)) ∧
      ∀ (setup : Setup) (s : Session), (soft = true → s.scope.get? name = none) →
        Session.run setup file s = (.ok (), { s with scope := s.scope.insert name binding }) := by
  intro file
  obtain ⟨binding, gives, assigned⟩ := exists_assigned_quoted allowed deferred
  have asks : file = (do
      let _ ← Run.scope
      let _ ← Run.define name binding (!soft)) := by
    rw [show file = _ from interpret_literalFile soft deferred isName oneLine ends reader stream]
    exact CommandFile.assign_of_assigned assigned stream _ name soft
  refine ⟨binding, fun scope => ⟨gives scope name, fun other different => ?_⟩, asks,
    fun setup s free => ?_⟩
  · rw [NameMap.get?_insert, if_neg different]
  · have stored : s.scope.define name binding (!soft) = (s.scope.insert name binding, true) := by
      rw [Scope.define, if_neg]
      intro taken
      obtain ⟨isSoft, bound⟩ := Bool.and_eq_true_iff.1 taken
      rw [NameMap.contains, free (by simpa using isSoft)] at bound
      cases bound
    rw [asks]
    show (Except.ok (), (s.define name binding (!soft)).2) = _
    rw [Session.define, stored]

theorem literal_assignment_of_mixed_quotes :
    let file := FileReader.interpret {} "a.plot"
      (literalFile "run_no-2" true true .single "\\$cost \"$(x)\" \\" "\n")
    ∃ binding : Binding,
      (∀ scope : Scope,
        Scope.resolve (scope.insert "run_no-2" binding) "run_no-2" =
            .ok (some "\\$cost \"$(x)\" \\") ∧
          ∀ other, other ≠ "run_no-2" →
            (scope.insert "run_no-2" binding).get? other = scope.get? other) ∧
      (file = do
        let _ ← Run.scope
        let _ ← Run.define "run_no-2" binding (!true)) ∧
      ∀ (setup : Setup) (s : Session), (true = true → s.scope.get? "run_no-2" = none) →
        Session.run setup file s = (.ok (), { s with scope := s.scope.insert "run_no-2" binding }) :=
  literal_assignment_round_trip
    ⟨'r', "un_no-2".toList, rfl, by decide, List.all_eq_true.1 (by decide)⟩ (by decide)
    (by decide) true true (by decide) {} "a.plot"

end PlotScript
