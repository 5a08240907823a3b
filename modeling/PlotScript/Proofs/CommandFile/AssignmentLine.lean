import PlotScript.Proofs.CommandFile.CallLine
import PlotScript.Proofs.CommandFile.PhysicalLines
import PlotScript.Proofs.CommandFile.Sequence
import PlotScript.Proofs.CommandFile.Statement
import PlotScript.Proofs.Variables.Names

/-!
# Lines that assign

A name, a blank, a sign and any text behind it are read as the assignment that they spell.
Such a line is no legacy call, no loop and no marker of a block, whatever its name and its
text are. So a file with no other line does what the assignment does.
-/

namespace PlotScript

open Text

/-! ## Names in front of a blank -/

namespace Statement

theorem isBlank_of_isNameChar {c : Char} (h : isNameChar c = true) : isBlank c = false := by
  rcases Bool.or_eq_true_iff.1 h with word | hyphen
  · exact isBlank_of_isWordChar word
  · rw [beq_iff_eq.1 hyphen]
    decide

variable {name : List Char} (isName : IsName name)
include isName

theorem IsName.trimStart_append (rest : List Char) : trimStart (name ++ rest) = name ++ rest := by
  have nameChars := isName.isNameChar
  obtain ⟨c, tail, rfl, -⟩ := isName
  have notBlank := isBlank_of_isNameChar (nameChars c List.mem_cons_self)
  exact List.dropWhile_cons_of_neg (by simp [notBlank])

theorem IsName.takeWhile_append (rest : List Char) :
    (name ++ ' ' :: rest).takeWhile (!isBlank ·) = name := by
  have noBlank : ∀ c ∈ name, (!isBlank c) = true := fun c member => by
    rw [isBlank_of_isNameChar (isName.isNameChar c member)]
    rfl
  rw [List.takeWhile_append_of_pos noBlank, List.takeWhile_cons_of_neg (by decide),
    List.append_nil]

/-- A name with a blank behind it is no legacy call, which has its bracket there. -/
theorem IsName.isCall_append (rest : List Char) : Legacy.isCall (name ++ ' ' :: rest) = false := by
  have noBracket : '(' ∉ name := by
    intro bracket
    have allowed := isName.isNameChar _ bracket
    revert allowed
    decide
  have behind : ((name ++ ' ' :: rest).dropWhile Legacy.isCallNameChar).head? ≠ some '(' := by
    clear isName
    induction name with
    | nil =>
        rw [List.nil_append, List.dropWhile_cons_of_neg (by decide)]
        simp
    | cons c tail ih =>
        obtain ⟨notBracket, others⟩ := not_or.1 (mt List.mem_cons.2 noBracket)
        by_cases letter : Legacy.isCallNameChar c = true
        · rw [List.cons_append, List.dropWhile_cons_of_pos letter]
          exact ih others
        · rw [List.cons_append, List.dropWhile_cons_of_neg letter, List.head?_cons]
          exact fun same => notBracket (Option.some.inj same).symm
  simp [Legacy.isCall, isName.trimStart_append, behind]

/-- A text behind the word that opens loops is one only if a name follows. -/
theorem IsName.loop?_eq_none {rest : List Char} (noName : takeName (trimStart rest) = none) :
    loop? (name ++ ' ' :: rest) = none := by
  rw [loop?, isName.trimStart_append]
  by_cases keyword : name = "for".toList
  · have front : takeWord "for".toList (name ++ ' ' :: rest) = some (trimStart rest) := by
      rw [keyword]
      rfl
    rw [front]
    simp [noName]
  · have other : takeWord "for".toList (name ++ ' ' :: rest) = none :=
      takeWord_eq_none (by decide) (by rwa [isName.takeWhile_append])
    rw [other]
    rfl

end Statement

/-! ## The line -/

/-- The sign of an assignment. -/
def assignmentSign (soft deferred : Bool) : List Char :=
  (if soft then ['?'] else []) ++ (if deferred then [':', '='] else ['='])

/-- The line that assigns what stands behind the sign. -/
def assignmentLine (name : String) (soft deferred : Bool) (rest : List Char) : List Char :=
  name.toList ++ ' ' :: (assignmentSign soft deferred ++ rest)

section Line

variable {name : String} (soft deferred : Bool) {rest : List Char}

theorem oneLine_assignmentLine (isName : Statement.IsName name.toList) (oneLine : '\n' ∉ rest) :
    '\n' ∉ assignmentLine name soft deferred rest := by
  have notInName : '\n' ∉ name.toList := by
    intro newline
    have allowed := isName.isNameChar _ newline
    revert allowed
    decide
  have notInSign : '\n' ∉ assignmentSign soft deferred := by
    cases soft <;> cases deferred <;> decide
  simp [assignmentLine, notInName, notInSign, oneLine]

/-- The line begins with the name. -/
theorem first_assignmentLine (isName : Statement.IsName name.toList) (rest : List Char) (c : Char)
    (first : (assignmentLine name soft deferred rest).head? = some c) : isBlank c = false := by
  obtain ⟨d, tail, begins, start, -⟩ := isName
  rw [assignmentLine, begins] at first
  obtain rfl := Option.some.inj first
  exact Statement.isBlank_of_isNameChar (Statement.isNameChar_of_isNameStart start).1

/-- The sign ends with an equals sign. -/
theorem exists_assignmentLine_eq (name : String) :
    ∃ front, ∀ rest, assignmentLine name soft deferred rest = front ++ '=' :: rest := by
  refine ⟨name.toList ++ ' ' :: ((if soft then ['?'] else []) ++ if deferred then [':'] else []),
    fun rest => ?_⟩
  cases soft <;> cases deferred <;> simp [assignmentLine, assignmentSign]

/-- What the end of the line means, it means for the text behind the sign. -/
theorem uncontinued_assignmentLine (name : String) (rest : List Char) :
    Line.uncontinued (assignmentLine name soft deferred rest) =
      assignmentLine name soft deferred (Line.uncontinued rest) := by
  obtain ⟨front, shape⟩ := exists_assignmentLine_eq soft deferred name
  rw [shape, shape, Line.uncontinued_append _ (List.cons_ne_nil _ _)]
  cases rest with
  | nil => rfl
  | cons c rest =>
      exact congrArg (front ++ ·) (Line.uncontinued_append ['='] (List.cons_ne_nil c rest))

theorem trimEnd_assignmentLine (name : String) (rest : List Char) :
    trimEnd (assignmentLine name soft deferred rest) =
      assignmentLine name soft deferred (trimEnd rest) := by
  obtain ⟨front, shape⟩ := exists_assignmentLine_eq soft deferred name
  rw [shape, shape, trimEnd_append _ (by decide)]

/-- The parts of the line are read as they were put together. -/
theorem assignment?_assignmentLine (isName : Statement.IsName name.toList) (rest : List Char) :
    Statement.assignment? (assignmentLine name soft deferred rest) =
      some (.assignment name soft deferred (String.ofList (trimStart rest))) := by
  have read : Statement.assignment? (assignmentLine name soft deferred rest) =
      some (.assignment (String.ofList name.toList) soft deferred
        (String.ofList (trimStart rest))) := by
    rw [assignmentLine, Statement.assignment?, isName.trimStart_append, isName.takeName_append]
    cases soft <;> cases deferred <;> rfl
  rw [read, String.ofList_toList]

theorem classify_assignmentLine (isName : Statement.IsName name.toList)
    (tight : Tight (assignmentLine name soft deferred rest)) :
    Statement.classify (assignmentLine name soft deferred rest) =
      .assignment name soft deferred (String.ofList (trimStart rest)) := by
  let line := assignmentLine name soft deferred rest
  have equals : '=' ∈ line := by
    obtain ⟨front, shape⟩ := exists_assignmentLine_eq soft deferred name
    simp [line, shape]
  -- the markers of blocks have no sign of an assignment in them
  have notMarker : ∀ marker : List Char, '=' ∉ marker → line ≠ marker := by
    rintro marker absent rfl
    exact absent equals
  have notEnd : fields line ≠ ["for".toList, "end".toList] := by
    intro same
    have inFields := (mem_flatten_fields (by decide)).2 equals
    rw [same] at inFields
    revert inFields
    decide
  have notLoop : Statement.loop? line = none := by
    refine isName.loop?_eq_none ?_
    cases soft <;> cases deferred <;> rfl
  have notComment : line.head? ≠ some '#' := by
    obtain ⟨c, tail, begins, start, -⟩ := isName
    simp only [line, assignmentLine, begins, List.cons_append, List.head?_cons]
    rintro ⟨rfl⟩
    exact absurd start (by decide)
  have notBlank : ¬ (line.isEmpty || line.head? == some '#') = true := by
    simp [notComment, notMarker []]
  rw [Statement.classify, tight.trim, if_neg notBlank,
    if_neg (notMarker _ (by decide)), if_neg (notMarker _ (by decide)), if_neg notEnd, notLoop,
    assignment?_assignmentLine soft deferred isName]
  rfl

/-- A file whose only line assigns is read as the assignment of what stands behind the sign,
without a backslash at the end of the file and without blanks at its ends. -/
theorem interpret_assignmentLine (isName : Statement.IsName name.toList) {text : String}
    (only : lines text.toList = [assignmentLine name soft deferred rest]) (reader : FileReader)
    (stream : String) :
    reader.interpret stream text =
      CommandFile.assign stream
        ⟨1, String.ofList (assignmentLine name soft deferred (trimEnd (Line.uncontinued rest)))⟩
        name soft deferred (String.ofList (trim (Line.uncontinued rest))) := by
  let stored := assignmentLine name soft deferred (trimEnd (Line.uncontinued rest))
  have noLegacy : Legacy.line? text.toList = none :=
    Legacy.line?_of_oneLine only (isName.isCall_append _)
  have logical : Line.ofText text.toList = [⟨1, String.ofList stored⟩] := by
    have uncontinued := uncontinued_assignmentLine soft deferred name rest
    have nonempty : assignmentLine name soft deferred (Line.uncontinued rest) ≠ [] := by
      simp [assignmentLine]
    rw [Line.ofText_of_singleton only (uncontinued ▸ nonempty), uncontinued,
      trimEnd_assignmentLine]
    rfl
  have tight : Tight stored := by
    refine ⟨first_assignmentLine soft deferred isName _, trimEnd_eq_self_iff.1 ?_⟩
    rw [trimEnd_assignmentLine, trimEnd_trimEnd]
  have assigns : (Line.mk 1 (String.ofList stored)).statement =
      .assignment name soft deferred (String.ofList (trim (Line.uncontinued rest))) := by
    rw [Line.statement, String.toList_ofList, classify_assignmentLine soft deferred isName tight,
      trimStart_trimEnd]
  rw [FileReader.interpret_of_noLegacy fun _ => noLegacy, logical,
    CommandFile.runLines_assignment assigns, CommandFile.runLines]
  exact bind_pure _

end Line

end PlotScript
