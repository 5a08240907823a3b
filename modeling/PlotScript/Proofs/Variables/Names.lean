import PlotScript.Proofs.CommandFile.Statement
import PlotScript.Proofs.Text.Blank
import PlotScript.Proofs.Variables.Piece
import PlotScript.Proofs.Variables.Quotation

/-!
# Names of variables

A command file may define a variable whose name has letters of any script behind its
first character, but a reference reads ASCII names only. So the variables that can be
referred to are those with an ASCII name. Every other one is defined for nothing: a
reference to it breaks the rules whatever the scope holds.
-/

namespace PlotScript

/-! ## Names that a line defines -/

namespace Statement

/-- Where ASCII is concerned, a reference in brackets takes the characters that a line
takes. -/
theorem isNameChar_iff {c : Char} :
    (Reference.isNameChar c || c == '-') = true ↔ isNameChar c = true ∧ c.toNat < 0x80 := by
  by_cases ascii : c.toNat < 0x80
  · simp [isNameChar, Reference.isNameChar, Text.isWordChar, ascii]
  · constructor
    · intro allowed
      exfalso
      simp only [Reference.isNameChar, Bool.or_eq_true, beq_iff_eq] at allowed
      rcases allowed with (alphanum | rfl) | rfl
      · have range := Text.toNat_of_isAlphanum alphanum
        omega
      · exact ascii (by decide)
      · exact ascii (by decide)
    · rintro ⟨-, below⟩
      exact absurd below ascii

theorem isNameChar_of_isNameStart {c : Char} (h : isNameStart c = true) :
    isNameChar c = true ∧ c.toNat < 0x80 := by
  have start : Reference.isNameStart c = true := h
  refine isNameChar_iff.1 ?_
  rw [Reference.isNameChar_of_isNameStart start, Bool.true_or]

theorem IsName.isNameChar {name : List Char} (h : IsName name) :
    ∀ c ∈ name, isNameChar c = true := by
  obtain ⟨c, rest, rfl, start, others⟩ := h
  intro d member
  rcases List.mem_cons.1 member with rfl | member
  · exact (isNameChar_of_isNameStart start).1
  · exact others d member

/-- Of the names that lines define, references take those in ASCII. -/
theorem IsName.isBracketedName_iff {name : List Char} (h : IsName name) :
    Reference.isBracketedName name = true ↔ ∀ c ∈ name, c.toNat < 0x80 := by
  have nonempty : name.isEmpty = false := by
    obtain ⟨c, rest, rfl, -⟩ := h
    rfl
  simp only [Reference.isBracketedName, nonempty, Bool.not_false, Bool.true_and,
    List.all_eq_true]
  constructor
  · intro allowed c member
    exact (isNameChar_iff.1 (allowed c member)).2
  · intro ascii c member
    exact isNameChar_iff.2 ⟨h.isNameChar c member, ascii c member⟩

theorem IsName.bracket_not_mem {name : List Char} (h : IsName name) : ')' ∉ name := by
  intro member
  have allowed := h.isNameChar _ member
  revert allowed
  decide

end Statement

/-! ## Reading references to them -/

namespace Reference

/-- What a reference in brackets is read as. -/
def piece (name : List Char) : Piece :=
  if isBracketedName name then .reference ⟨name, true⟩ true
  else .fault (.invalidVariableName (String.ofList name))

theorem spelling_brackets (name rest : List Char) :
    spelling ⟨name, true⟩ ++ rest = '$' :: '(' :: (name ++ ')' :: rest) := by
  simp [spelling]

theorem ofText_between_quotes {name : List Char} (closed : ')' ∉ name) :
    Piece.ofText false ('"' :: (spelling ⟨name, true⟩ ++ ['"'])) = [.quote, piece name] := by
  rw [Piece.ofText_opening, spelling_brackets, Piece.ofText_dollar, read_brackets closed, piece]
  by_cases valid : isBracketedName name = true
  · simp [valid]
  · simp [valid]

theorem ofExpression_spelling {name : List Char} (closed : ')' ∉ name) :
    Piece.ofExpression (spelling ⟨name, true⟩) = [piece name] := by
  rw [← List.append_nil (spelling _), spelling_brackets, Piece.ofExpression_dollar,
    read_brackets closed, piece]
  by_cases valid : isBracketedName name = true
  · simp [valid]
  · simp [valid]

end Reference

theorem Scope.lookup_of_resolve {scope : Scope} {name value : String}
    (resolved : scope.resolve name = .ok (some value)) :
    scope.lookup (String.ofList name.toList) = .ok value := by
  rw [String.ofList_toList, lookup, required, resolved]
  rfl

/-- A reference to a name that the reference grammar takes gives the text of the variable,
between double quotes as one word, even if the text is empty. -/
theorem reference_of_resolved {scope : Scope} {name value : String} (closed : ')' ∉ name.toList)
    (valid : Reference.isBracketedName name.toList = true)
    (resolved : scope.resolve name = .ok (some value)) :
    let reference := Reference.spelling ⟨name.toList, true⟩
    splitLine scope ('"' :: (reference ++ ['"'])) = .ok [value] ∧
      scope.expand reference = .ok value.toList := by
  intro reference
  have found : scope.lookup (String.ofList name.toList) = .ok value :=
    Scope.lookup_of_resolve resolved
  have isReference : Reference.piece name.toList = .reference ⟨name.toList, true⟩ true := by
    rw [Reference.piece, if_pos valid]
  constructor
  · have marks : Mark.ofPieces scope.lookup [.quote, .reference ⟨name.toList, true⟩ true] =
        .ok (.start :: (value.toList.map Mark.char ++ [])) := by
      simp only [Mark.ofPieces, Mark.ofPiece, found]
      rfl
    rw [splitLine_eq, Reference.ofText_between_quotes closed, isReference, marks]
    simp only [Except.map, Mark.gather, Mark.gather_chars]
    simp
  · rw [Scope.expand, Scope.expandAt, Reference.ofExpression_spelling closed, isReference]
    show Piece.concat (Piece.expand scope.lookup) _ = _
    simp only [Piece.concat, Piece.expand, found]
    show Except.ok (value.toList ++ []) = _
    rw [List.append_nil]

theorem reference_of_valid {scope : Scope} {name value : String} (closed : ')' ∉ name.toList)
    (valid : Reference.isBracketedName name.toList = true)
    (bound : scope.get? name = some (.eager value)) :
    let reference := Reference.spelling ⟨name.toList, true⟩
    splitLine scope ('"' :: (reference ++ ['"'])) = .ok [value] ∧
      scope.expand reference = .ok value.toList := by
  have resolved : scope.resolve name = .ok (some value) := by
    rw [Scope.resolve, Scope.maxDepth, Scope.resolveWithin, bound]
  exact reference_of_resolved closed valid resolved

/-- A reference to any other name breaks the rules, whatever the scope holds. -/
theorem reference_of_invalid (scope : Scope) {name : String} (closed : ')' ∉ name.toList)
    (invalid : Reference.isBracketedName name.toList = false) :
    let reference := Reference.spelling ⟨name.toList, true⟩
    splitLine scope ('"' :: (reference ++ ['"'])) = .error (.invalidVariableName name) ∧
      scope.expand reference = .error (.invalidVariableName name) := by
  intro reference
  have isFault : Reference.piece name.toList = .fault (.invalidVariableName name) := by
    rw [Reference.piece, if_neg (by simp [invalid]), String.ofList_toList]
  constructor
  · rw [splitLine_eq, Reference.ofText_between_quotes closed, isFault]
    rfl
  · rw [Scope.expand, Scope.expandAt, Reference.ofExpression_spelling closed, isFault]
    rfl

/-- The variables of a command file that can be referred to are those with an ASCII name: a
reference to such a variable gives its text in every scope that binds it to one. A line may
define a variable of another name, but a reference to it is an error in every scope. -/
theorem reference_faithful_iff_ascii {line : List Char} {name : String}
    (defines : (Statement.classify line).definedName? = some name) :
    let reference := Reference.spelling ⟨name.toList, true⟩
    ((∀ (scope : Scope) value, scope.get? name = some (.eager value) →
        splitLine scope ('"' :: (reference ++ ['"'])) = .ok [value] ∧
          scope.expand reference = .ok value.toList) ↔
      ∀ c ∈ name.toList, c.toNat < 0x80) ∧
    ∀ c ∈ name.toList, 0x80 ≤ c.toNat → ∀ scope : Scope,
      splitLine scope ('"' :: (reference ++ ['"'])) = .error (.invalidVariableName name) ∧
        scope.expand reference = .error (.invalidVariableName name) := by
  intro reference
  have isName : Statement.IsName name.toList := Statement.isName_of_classify defines
  have closed : ')' ∉ name.toList := isName.bracket_not_mem
  have fails : ¬ (∀ c ∈ name.toList, c.toNat < 0x80) → ∀ scope : Scope,
      splitLine scope ('"' :: (reference ++ ['"'])) = .error (.invalidVariableName name) ∧
        scope.expand reference = .error (.invalidVariableName name) := by
    intro other scope
    apply reference_of_invalid scope closed
    rw [← Bool.not_eq_true, isName.isBracketedName_iff]
    exact other
  refine ⟨⟨?_, ?_⟩, ?_⟩
  · intro faithful
    by_cases ascii : ∀ c ∈ name.toList, c.toNat < 0x80
    · exact ascii
    · -- in a scope that binds the name the two readings of the reference differ
      have bound : (NameMap.empty.insert name (Binding.eager "")).get? name =
          some (.eager "") := by
        rw [NameMap.get?_insert, if_pos rfl]
      have failed := (fails ascii (NameMap.empty.insert name (Binding.eager ""))).1
      rw [(faithful _ _ bound).1] at failed
      cases failed
  · intro ascii scope value bound
    exact reference_of_valid closed (isName.isBracketedName_iff.2 ascii) bound
  · intro c member above scope
    apply fails
    intro ascii
    have below := ascii c member
    omega

theorem reference_to_hyphenated_loop_variable :
    (Statement.classify "for data-file in a b".toList).definedName? = some "data-file" ∧
      ∀ (scope : Scope) value, scope.get? "data-file" = some (.eager value) →
        splitLine scope "\"$(data-file)\"".toList = .ok [value] ∧
          scope.expand "$(data-file)".toList = .ok value.toList := by
  have defines : (Statement.classify "for data-file in a b".toList).definedName? =
      some "data-file" := by
    decide +kernel
  exact ⟨defines, (reference_faithful_iff_ascii defines).1.2 (by simp)⟩

/-- An assignment may define a name that no reference reads. -/
theorem reference_to_accented_name_fails :
    (Statement.classify "aé = 1".toList).definedName? = some "aé" ∧
      ∃ scope : Scope, scope.get? "aé" = some (.eager "1") ∧
        splitLine scope "\"$(aé)\"".toList = .error (.invalidVariableName "aé") ∧
        scope.expand "$(aé)".toList = .error (.invalidVariableName "aé") :=
  ⟨by decide +kernel, NameMap.ofList [("aé", .eager "1")], by decide +kernel,
    @reference_of_invalid _ "aé" (by decide) (by decide +kernel)⟩

end PlotScript
