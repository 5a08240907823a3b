import PlotScript.Proofs.Variables.Names
import PlotScript.Proofs.Variables.WordBoundaries

/-!
# Values on a line

A line is read before its variables are looked up, so no value can change how the rest of the
line is read, and nothing in a value means anything to the quoting rules. A reference outside
quotes stands for the fields of its value, one between double quotes for the value as one word.
-/

namespace PlotScript

/-! ## The marks of a value -/

namespace Mark

/-- A word that has begun holds at least one character of the value, so it is a field. -/
theorem gather_ofValue_from {begun : Option (List Char)} (h : begun ≠ some [])
    (value : List Char) :
    gather begun (ofValue value) = Text.fieldsFrom (begun.getD []) value := by
  induction value generalizing begun with
  | nil =>
      cases begun with
      | none => rfl
      | some word =>
          have nonempty : word ≠ [] := fun empty => h (congrArg some empty)
          simp [ofValue, gather, Text.fieldsFrom, nonempty]
  | cons c value ih =>
      cases blank : Text.isBlank c with
      | true =>
          have marks : ofValue (c :: value) = gap :: ofValue value := by simp [ofValue, blank]
          rw [marks, gather, @ih none (Option.some_ne_none []).symm, Text.fieldsFrom, if_pos blank]
          cases begun with
          | none => rfl
          | some word =>
              have nonempty : word ≠ [] := fun empty => h (congrArg some empty)
              simp [nonempty]
      | false =>
          have marks : ofValue (c :: value) = char c :: ofValue value := by simp [ofValue, blank]
          rw [marks, gather, ih (by simp), Text.fieldsFrom, if_neg (by simp [blank])]
          rfl

/-- A value that is cut at its blanks gives its fields. -/
theorem gather_ofValue (value : List Char) : gather none (ofValue value) = Text.fields value :=
  @gather_ofValue_from none (Option.some_ne_none []).symm value

end Mark

/-! ## A reference alone -/

section

variable {name : List Char} (isWord : Reference.IsWord name)

include isWord

theorem Reference.ofText_spelling (quoted : Bool) (rest : List Char) :
    Piece.ofText quoted (spelling ⟨name, true⟩ ++ rest) =
      .reference ⟨name, true⟩ quoted :: Piece.ofText quoted rest := by
  rw [spelling_brackets, Piece.ofText_dollar, read_bracketed (isBracketedName_iff.2 isWord)]

theorem QuotingState.after_spelling (quoted : Bool) :
    (start quoted).after (Reference.spelling ⟨name, true⟩) = start quoted :=
  after_start_of_plain quoted
    (Reference.plain_of_mem_spelling (r := ⟨name, true⟩) (Reference.isBracketedName_iff.2 isWord))

theorem not_endsInEscape_spelling : ¬ EndsInEscape (Reference.spelling ⟨name, true⟩) := by
  intro escaped
  have stays : QuotingState.bare.after (Reference.spelling ⟨name, true⟩) = .bare :=
    QuotingState.after_spelling isWord false
  rw [EndsInEscape, stays] at escaped
  cases escaped

/-- The quote that opens a reference is closed behind it. -/
theorem not_endsInEscape_quoted :
    ¬ EndsInEscape ('"' :: (Reference.spelling ⟨name, true⟩ ++ ['"'])) := by
  intro escaped
  have inside : QuotingState.double.after (Reference.spelling ⟨name, true⟩) = .double :=
    QuotingState.after_spelling isWord true
  have stays : QuotingState.bare.after ('"' :: (Reference.spelling ⟨name, true⟩ ++ ['"'])) =
      .bare := by
    show QuotingState.double.after _ = _
    rw [QuotingState.after_append, inside]
    rfl
  rw [EndsInEscape, stays] at escaped
  cases escaped

end

/-! ## A reference among other words -/

section

variable {scope : Scope} {name value : String} (isWord : Reference.IsWord name.toList)
  (resolved : scope.resolve name = .ok (some value))

include isWord resolved

/-- A reference outside quotes is cut at the blanks of its value. -/
theorem splitLine_spelling :
    splitLine scope (Reference.spelling ⟨name.toList, true⟩) =
      .ok ((Text.fields value.toList).map String.ofList) := by
  have pieces := Reference.ofText_spelling isWord false []
  rw [List.append_nil, Piece.ofText_nil] at pieces
  have marks : Mark.ofPieces scope.lookup [.reference ⟨name.toList, true⟩ false] =
      .ok (Mark.ofValue value.toList ++ []) := by
    rw [Mark.ofPieces, Mark.ofPiece, Scope.lookup_of_resolve resolved]
    rfl
  rw [splitLine_eq, pieces, if_neg Bool.false_ne_true, marks, List.append_nil]
  simp only [Except.map, Mark.gather_ofValue]

/-- A reference between double quotes is not cut. -/
theorem splitLine_quoted_spelling :
    splitLine scope ('"' :: (Reference.spelling ⟨name.toList, true⟩ ++ ['"'])) =
      .ok [value] := by
  have closed : ')' ∉ name.toList := fun member => absurd (isWord.2 _ member) (by decide)
  exact (reference_of_resolved closed (Reference.isBracketedName_iff.2 isWord) resolved).1

/-- The value of a variable is inert on a line. Whatever it holds, a reference to it gives its
fields or, between double quotes, the value as it is, and the words on both sides are those of
the text in front and of the text behind. The line is taken to pieces without a look at the
value. -/
theorem splitLine_around_reference {front behind : List Char} {before after : List String}
    (readsFront : splitLine scope front = .ok before)
    (readsBehind : splitLine scope behind = .ok after) (closed : ¬ EndsInEscape front) :
    let reference := Reference.spelling ⟨name.toList, true⟩
    let bare := front ++ ' ' :: (reference ++ ' ' :: behind)
    let quoted := front ++ ' ' :: ('"' :: (reference ++ ['"']) ++ ' ' :: behind)
    splitLine scope bare =
        .ok (before ++ (Text.fields value.toList).map String.ofList ++ after) ∧
      splitLine scope quoted = .ok (before ++ [value] ++ after) ∧
      Piece.ofText false bare =
        Piece.ofText false front ++ .blank ' ' :: .reference ⟨name.toList, true⟩ false ::
          .blank ' ' :: Piece.ofText false behind ∧
      Piece.ofText false quoted =
        Piece.ofText false front ++ .blank ' ' :: .quote :: .reference ⟨name.toList, true⟩ true ::
          .blank ' ' :: Piece.ofText false behind := by
  intro reference bare quoted
  have space : Text.isBlank ' ' = true := by decide
  have reads := (splitLine_eq scope front).symm.trans readsFront
  obtain ⟨marks, marked, -⟩ := exists_of_map_eq_ok reads
  have faultless := Mark.faultless_of_ofPieces marked
  refine ⟨?_, ?_, ?_, ?_⟩
  · rw [splitLine_append_blank readsFront closed space,
      splitLine_append_blank (splitLine_spelling isWord resolved)
        (not_endsInEscape_spelling isWord) space, readsBehind]
    simp [Except.map]
  · rw [splitLine_append_blank readsFront closed space,
      splitLine_append_blank (splitLine_quoted_spelling isWord resolved)
        (not_endsInEscape_quoted isWord) space, readsBehind]
    simp [Except.map]
  · rw [Piece.ofText_append_blank faultless closed space, Reference.ofText_spelling isWord,
      ofText_space]
  · rw [Piece.ofText_append_blank faultless closed space, List.cons_append, Piece.ofText_opening,
      List.append_assoc, Reference.ofText_spelling isWord, List.singleton_append,
      Piece.ofText_closing, ofText_space]

end

/-- Everything that means something elsewhere on a line stands for itself in a value. -/
theorem splitLine_around_reference_to_signs :
    let value := "'a \"$x\\  #/b=$(x)"
    let scope : Scope := NameMap.ofList [("x-1", .eager value)]
    let front := "plot $".toList
    let behind := "'$(x-1)'".toList
    Reference.IsWord "x-1".toList ∧ scope.resolve "x-1" = .ok (some value) ∧
      splitLine scope front = .ok ["plot", "$"] ∧ splitLine scope behind = .ok ["$(x-1)"] ∧
      ¬ EndsInEscape front ∧
      splitLine scope "plot $ $(x-1) '$(x-1)'".toList =
        .ok ["plot", "$", "'a", "\"$x\\", "#/b=$(x)", "$(x-1)"] ∧
      splitLine scope "plot $ \"$(x-1)\" '$(x-1)'".toList =
        .ok ["plot", "$", value, "$(x-1)"] := by
  intro value scope front behind
  have isWord : Reference.IsWord "x-1".toList := Reference.isBracketedName_iff.1 (by decide)
  have resolved : scope.resolve "x-1" = .ok (some value) := by decide +kernel
  have readsFront : splitLine scope front = .ok ["plot", "$"] := by decide +kernel
  have readsBehind : splitLine scope behind = .ok ["$(x-1)"] := by decide +kernel
  have closed : ¬ EndsInEscape front := by decide
  obtain ⟨bare, quoted, -⟩ :=
    splitLine_around_reference isWord resolved readsFront readsBehind closed
  have fields : (Text.fields value.toList).map String.ofList =
      ["'a", "\"$x\\", "#/b=$(x)"] := by decide +kernel
  rw [fields] at bare
  exact ⟨isWord, resolved, readsFront, readsBehind, closed, bare, quoted⟩

end PlotScript
