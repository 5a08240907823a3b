import PlotScript.CommandFile.Interpreter
import PlotScript.Proofs.CommandFile.Joining
import PlotScript.Proofs.CommandFile.Sequence
import PlotScript.Proofs.Variables.Names
import PlotScript.Proofs.Variables.WordBoundaries

/-!
# Blanks at the end of a line

A logical line is stored without the blanks at its end, before anybody looks at its quotes.
Blanks there mean nothing to the quoting rules unless a backslash protects the first of them.
Then the backslash is left as the last character of the line and stands for itself.
-/

namespace PlotScript

open Text (isBlank trimEnd)

/-! ## Blanks behind a text -/

namespace Text

theorem takeWhile_append_blanks (s : List Char) {gap : List Char}
    (blank : ∀ c ∈ gap, isBlank c = true) :
    (s ++ gap).takeWhile (!isBlank ·) = s.takeWhile (!isBlank ·) := by
  induction s with
  | nil =>
      cases gap with
      | nil => rfl
      | cons c gap => exact List.takeWhile_cons_of_neg (by simp [blank c List.mem_cons_self])
  | cons c s ih => rw [List.cons_append, List.takeWhile_cons, List.takeWhile_cons, ih]

/-- Blanks behind a text do not change its first field. -/
theorem firstField_append_blanks (s : List Char) {gap : List Char}
    (blank : ∀ c ∈ gap, isBlank c = true) : firstField (s ++ gap) = firstField s := by
  have same : (trimStart (s ++ gap)).takeWhile (!isBlank ·) =
      (trimStart s).takeWhile (!isBlank ·) := by
    rw [trimStart, List.dropWhile_append]
    split
    · rename_i nothing
      have onlyBlanks : gap.dropWhile isBlank = [] := List.dropWhile_eq_nil_iff.2 blank
      rw [trimStart, onlyBlanks, List.isEmpty_iff.1 nothing]
    · exact takeWhile_append_blanks _ blank
  rw [firstField, firstField, same]

end Text

/-! ## Texts that cannot be read -/

namespace Reference

/-- A reference that breaks the rules still does so with no bracket behind it. -/
theorem read_append_error {s rest : List Char} {cause : Cause} (failed : read s = .error cause)
    (noBracket : ')' ∉ rest) : read (s ++ rest) = .error cause := by
  obtain ⟨⟨inside, rfl⟩, -⟩ := exists_bracket_of_read_error failed
  by_cases closed : ')' ∈ inside
  · obtain ⟨name, tail, rfl, notInside⟩ := List.eq_append_cons_of_mem closed
    rw [read_brackets notInside] at failed
    rw [List.cons_append, List.append_assoc, List.cons_append, read_brackets notInside]
    split at failed
    · cases failed
    · rename_i invalid
      rw [if_neg invalid]
      exact failed
  · rw [read_unclosed closed] at failed
    have stillOpen : ')' ∉ inside ++ rest := by
      intro member
      rcases List.mem_append.1 member with member | member
      · exact closed member
      · exact noBracket member
    rw [List.cons_append, read_unclosed stillOpen, failed]

end Reference

namespace Mark

variable {lookup : String → Except Cause String} {cause : Cause}

/-- A failure of the pieces behind some others stays one while those behind fail alike. -/
theorem ofPieces_append_error {front ps qs : List Piece}
    (failed : ofPieces lookup (front ++ ps) = .error cause)
    (alike : ofPieces lookup ps = .error cause → ofPieces lookup qs = .error cause) :
    ofPieces lookup (front ++ qs) = .error cause := by
  induction front with
  | nil => exact alike failed
  | cons p front ih =>
      rw [List.cons_append, ofPieces]
      rcases error_of_bind_eq_error failed with here | ⟨marks, first, failed⟩
      · rw [here]
        rfl
      · rcases error_of_bind_eq_error failed with behind | ⟨_, -, ⟨⟩⟩
        rw [first, ih behind]
        rfl

/-- A protected character has no part in a failure. -/
theorem ofPieces_shielded_cons_error (c : Char) {ps : List Piece}
    (failed : ofPieces lookup ps = .error cause) :
    ofPieces lookup (Piece.shielded c :: ps) = .error cause := by
  rw [ofPieces, ofPiece_shielded, failed]
  rfl

end Mark

/-- Characters that close nothing: no quote, no bracket, and no dollar sign. -/
def closesNothing (c : Char) : Bool :=
  c != '"' && c != '\'' && c != ')' && c != '$'

namespace Piece

variable {lookup : String → Except Cause String} {cause : Cause}

theorem ofText_closesNothing {c : Char} (plain : closesNothing c = true)
    (notBackslash : c ≠ '\\') (rest : List Char) :
    ofText true (c :: rest) = char c :: ofText true rest := by
  apply ofText_char_quoted
  refine ⟨notBackslash, ?_, ?_⟩
  all_goals
    rintro rfl
    exact absurd plain (by decide)

/-- Double quotes stay open behind which nothing closes them. -/
theorem ofPieces_ofText_open : ∀ {rest : List Char}, (∀ c ∈ rest, closesNothing c = true) →
    Mark.ofPieces lookup (ofText true rest) = .error .unterminatedDoubleQuote
  | [], _ => by
      rw [ofText_nil]
      rfl
  | [c], plain => by
      by_cases backslash : c = '\\'
      · rw [backslash, ofText_backslash]
        rfl
      · rw [ofText_closesNothing (plain c List.mem_cons_self) backslash, ofText_nil]
        rfl
  | c :: d :: rest, plain => by
      obtain ⟨first, behind⟩ := List.forall_mem_cons.1 plain
      by_cases backslash : c = '\\'
      · rw [backslash, ofText_escaped]
        exact Mark.ofPieces_shielded_cons_error d
          (ofPieces_ofText_open (List.forall_mem_cons.1 behind).2)
      · rw [ofText_closesNothing first backslash, Mark.ofPieces, ofPieces_ofText_open behind]
        rfl

/-- What cannot be read cannot be read with more behind it that closes nothing and adds to no
name. -/
theorem ofPieces_ofText_append_error {quoted : Bool} {s rest : List Char}
    (failed : Mark.ofPieces lookup (ofText quoted s) = .error cause)
    (plain : ∀ c ∈ rest, closesNothing c = true)
    (parted : ∀ c ∈ rest.head?, Reference.isForeign c = true) :
    Mark.ofPieces lookup (ofText quoted (s ++ rest)) = .error cause := by
  have goesOn : ∀ {p : Piece} {ps qs : List Piece},
      Mark.ofPieces lookup (p :: ps) = .error cause →
      (Mark.ofPieces lookup ps = .error cause → Mark.ofPieces lookup qs = .error cause) →
      Mark.ofPieces lookup (p :: qs) = .error cause := by
    intro p ps qs
    exact @Mark.ofPieces_append_error lookup cause [p] ps qs
  fun_induction ofText quoted s with
  | case1 =>
      obtain rfl := Except.error.inj failed
      exact ofPieces_ofText_open plain
  | case2 => cases failed
  | case3 =>
      obtain rfl := Except.error.inj failed
      cases rest with
      | nil =>
          rw [List.append_nil, ofText_backslash]
          rfl
      | cons c rest =>
          rw [List.singleton_append, ofText_escaped]
          exact Mark.ofPieces_shielded_cons_error c
            (ofPieces_ofText_open (List.forall_mem_cons.1 plain).2)
  | case4 => cases failed
  | case5 quoted escaped behind ih =>
      rw [List.cons_append, List.cons_append, ofText_escaped]
      exact goesOn failed ih
  | case6 quoted behind found unread notBackslash =>
      have noBracket : ')' ∉ rest := by
        intro member
        exact absurd (plain _ member) (by decide)
      rw [List.cons_append, ofText_dollar, Reference.read_append_error unread noBracket]
      exact failed
  | case7 quoted behind lone notBackslash ih =>
      rw [List.cons_append, ofText_dollar, Reference.read_append_none lone parted]
      exact goesOn failed ih
  | case8 quoted behind r after found shorter notBackslash ih =>
      rw [List.cons_append, ofText_dollar,
        Reference.read_append found (Reference.isNameChar_of_parted parted)]
      exact goesOn failed ih
  | case9 behind notBackslash notDollar ih =>
      rw [List.cons_append, ofText_closing]
      exact ih failed
  | case10 quoted behind bare notBackslash notDollar ih =>
      obtain rfl : quoted = false := by simpa using bare
      rw [List.cons_append, ofText_opening]
      exact goesOn failed ih
  | case11 c behind notBackslash notDollar notQuote ih =>
      rw [List.cons_append, ofText_char_quoted ⟨notBackslash, notDollar, notQuote⟩]
      exact goesOn failed ih
  | case12 quoted behind bare quoteInside shorter notBackslash notDollar notQuote ih =>
      obtain rfl : quoted = false := by simpa using bare
      obtain ⟨word, tail, rfl, notInside, taken, left⟩ := exists_quoted_of_mem quoteInside
      rw [left] at ih
      rw [taken, left] at failed
      rw [List.cons_append, List.append_assoc, List.cons_append, ofText_single word _ notInside]
      exact Mark.ofPieces_append_error failed ih
  | case13 quoted behind bare noQuote notBackslash notDollar notQuote =>
      obtain rfl : quoted = false := by simpa using bare
      have stillOpen : '\'' ∉ behind ++ rest := by
        intro member
        rcases List.mem_append.1 member with member | member
        · exact noQuote member
        · exact absurd (plain _ member) (by decide)
      rw [List.cons_append, ofText_unclosed stillOpen]
      exact failed
  | case14 quoted c behind notBackslash notDollar notQuote bare notSingle ih =>
      obtain rfl : quoted = false := by simpa using bare
      rw [List.cons_append, ofText_char_bare ⟨notBackslash, notDollar, notQuote, notSingle⟩]
      exact goesOn failed ih

end Piece

/-! ## A backslash in front of blanks -/

namespace QuotingState

/-- An escape begins at a backslash outside quotes. -/
theorem next_eq_escape {state : QuotingState} {c : Char} (h : state.next c = .escape) :
    state = .bare ∧ c = '\\' := by
  cases state with
  | bare =>
      by_cases backslash : c = '\\'
      · exact ⟨rfl, backslash⟩
      · rw [next, if_neg backslash] at h
        split at h
        · cases h
        · split at h
          · cases h
          · cases h
  | escape => cases h
  | single =>
      rw [next] at h
      split at h <;> cases h
  | double =>
      rw [next] at h
      split at h
      · cases h
      · split at h <;> cases h
  | doubleEscape => cases h

end QuotingState

/-- A text that ends in an escape is a text that ends outside quotes and a backslash. -/
theorem exists_of_endsInEscape {s : List Char} (h : EndsInEscape s) :
    ∃ front, s = front ++ ['\\'] ∧ QuotingState.bare.after front = .bare := by
  rcases List.eq_nil_or_concat s with rfl | ⟨front, c, rfl⟩
  · cases h
  · rw [List.concat_eq_append] at h ⊢
    rw [EndsInEscape, QuotingState.after_append] at h
    obtain ⟨outside, rfl⟩ := QuotingState.next_eq_escape h
    exact ⟨front, rfl, outside⟩

/-- The last character of the last word, with blanks behind it. -/
theorem Mark.exists_gather_append_char (begun : Option (List Char)) (marks : List Mark) :
    ∃ words word, ∀ (c : Char) (blanks : List Char),
      gather begun (marks ++ char c :: blanks.map fun _ => gap) = words ++ [word ++ [c]] := by
  induction marks generalizing begun with
  | nil =>
      refine ⟨[], begun.getD [], fun c blanks => ?_⟩
      rw [List.nil_append, gather, gather_trail]
      rfl
  | cons mark marks ih =>
      cases mark with
      | gap =>
          obtain ⟨words, word, gathered⟩ := ih none
          refine ⟨begun.toList ++ words, word, fun c blanks => ?_⟩
          rw [List.cons_append, gather, gathered, List.append_assoc]
      | start => exact ih _
      | char d => exact ih _

/-- Trimming takes away a blank that a backslash protects. -/
def LosesBlank (s : List Char) : Prop :=
  EndsInEscape (trimEnd s) ∧ trimEnd s ≠ s

instance (s : List Char) : Decidable (LosesBlank s) :=
  inferInstanceAs (Decidable (_ ∧ _))

variable {scope : Scope} {s gap : List Char}

theorem closesNothing_of_isBlank {c : Char} (blank : isBlank c = true) :
    closesNothing c = true := by
  have other : ∀ d, isBlank d = false → c ≠ d := by
    rintro d notBlank rfl
    rw [blank] at notBlank
    cases notBlank
  simp [closesNothing, other '"' (by decide), other '\'' (by decide), other ')' (by decide),
    other '$' (by decide)]

theorem splitLine_append_error {rest : List Char} {cause : Cause}
    (failed : splitLine scope s = .error cause) (plain : ∀ c ∈ rest, closesNothing c = true)
    (parted : ∀ c ∈ rest.head?, Reference.isForeign c = true) :
    splitLine scope (s ++ rest) = .error cause := by
  rw [splitLine_eq] at failed ⊢
  rw [Piece.ofPieces_ofText_append_error (error_of_map_eq_error failed) plain parted]
  rfl

theorem splitLine_nil (scope : Scope) : splitLine scope [] = .ok [] := by
  rw [splitLine_eq, Piece.ofText_nil]
  rfl

/-- Unless trimming takes away a protected blank, the words stay as they are. -/
theorem splitLine_trimEnd (keeps : ¬ LosesBlank s) :
    splitLine scope (trimEnd s) = splitLine scope s := by
  obtain ⟨gap, split, blank⟩ := Text.exists_of_trimEnd s
  by_cases nothing : gap = []
  · rw [nothing, List.append_nil] at split
    rw [← split]
  · have closed : ¬ EndsInEscape (trimEnd s) := by
      intro escaped
      refine keeps ⟨escaped, fun same => nothing ?_⟩
      rw [same] at split
      exact List.self_eq_append_right.1 split
    conv_rhs => rw [split]
    cases reads : splitLine scope (trimEnd s) with
    | error cause =>
        refine (splitLine_append_error reads ?_ ?_).symm
        · exact fun c member => closesNothing_of_isBlank (blank c member)
        · intro c member
          exact Reference.isForeign_of_isBlank (blank c (List.mem_of_mem_head? member))
    | ok words =>
        have behind := splitLine_append_gap reads closed nothing blank []
        rw [List.append_nil] at behind
        rw [behind, splitLine_nil]
        show Except.ok words = Except.ok (words ++ [])
        rw [List.append_nil]

/-- If it does, the last word ends in the backslash instead of the blank. -/
theorem splitLine_of_losesBlank (loses : LosesBlank s) (scope : Scope) :
    (∃ cause, splitLine scope (trimEnd s) = .error cause ∧ splitLine scope s = .error cause) ∨
    ∃ words word c rest, s = trimEnd s ++ c :: rest ∧ isBlank c = true ∧
      splitLine scope (trimEnd s) = .ok (words ++ [String.ofList (word ++ ['\\'])]) ∧
      splitLine scope s = .ok (words ++ [String.ofList (word ++ [c])]) := by
  obtain ⟨escaped, shorter⟩ := loses
  obtain ⟨gap, split, blank⟩ := Text.exists_of_trimEnd s
  obtain ⟨c, rest, rfl⟩ : ∃ c rest, gap = c :: rest := by
    cases gap with
    | nil =>
        rw [List.append_nil] at split
        exact absurd split.symm shorter
    | cons c rest => exact ⟨c, rest, rfl⟩
  obtain ⟨blankFirst, blankRest⟩ := List.forall_mem_cons.1 blank
  obtain ⟨front, ends, outside⟩ := exists_of_endsInEscape escaped
  have closed : (QuotingState.start false).after front ≠ .escape := by
    show QuotingState.bare.after front ≠ .escape
    rw [outside]
    nofun
  have parted : ∀ behind : List Char, ∀ d ∈ ('\\' :: behind).head?,
      Reference.isForeign d = true := by
    intro behind d first
    obtain rfl : '\\' = d := by simpa using first
    decide
  cases reads : splitLine scope (trimEnd s) with
  | error cause =>
      left
      refine ⟨cause, rfl, ?_⟩
      conv_lhs => rw [split]
      apply splitLine_append_error reads
      · exact fun d member => closesNothing_of_isBlank (blank d member)
      · exact fun d first => Reference.isForeign_of_isBlank (blank d (List.mem_of_mem_head? first))
  | ok found =>
      right
      obtain ⟨marks, marked⟩ : ∃ marks, Mark.ofPieces scope.lookup (Piece.ofText false front) =
          .ok marks := by
        cases marked : Mark.ofPieces scope.lookup (Piece.ofText false front) with
        | ok marks => exact ⟨marks, rfl⟩
        | error cause =>
            have failed : splitLine scope (front ++ ['\\']) = .error cause :=
              splitLine_append_error (by rw [splitLine_eq, marked]; rfl)
                (List.forall_mem_singleton.2 rfl) (parted [])
            rw [← ends, reads] at failed
            cases failed
      have faultless := Mark.faultless_of_ofPieces marked
      obtain ⟨words, word, gathered⟩ := Mark.exists_gather_append_char none marks
      have goesOn : ∀ (d : Char) (behind blanks : List Char),
          Piece.ofText false ('\\' :: behind) = .char d :: blanks.map Piece.blank →
          splitLine scope (front ++ '\\' :: behind) =
            .ok ((words ++ [word ++ [d]]).map String.ofList) := by
        intro d behind blanks pieces
        rw [splitLine_eq, Piece.ofText_append faultless closed (parted behind), pieces,
          Mark.ofPieces_append marked, Mark.ofPieces, Mark.ofPieces_blanks]
        show Except.ok _ = Except.ok _
        rw [← gathered d blanks]
        rfl
      have trimmedWords : splitLine scope (trimEnd s) =
          .ok ((words ++ [word ++ ['\\']]).map String.ofList) := by
        rw [ends]
        apply goesOn '\\' [] []
        rw [Piece.ofText_backslash]
        rfl
      have writtenWords : splitLine scope s = .ok ((words ++ [word ++ [c]]).map String.ofList) := by
        rw [split, ends, List.append_assoc]
        apply goesOn c (c :: rest) rest
        have bare : c ≠ '$' := by
          rintro rfl
          exact absurd blankFirst (by decide)
        have behind : Piece.ofText false rest = rest.map Piece.blank := by
          simpa [Piece.ofText_nil] using Piece.ofText_blanks blankRest []
        rw [Piece.ofText_escaped, behind, Piece.shielded, if_neg bare]
      rw [List.map_append] at trimmedWords writtenWords
      exact ⟨words.map String.ofList, word, c, rest, split, blankFirst,
        reads.symm.trans trimmedWords, writtenWords⟩

/-! ## The lines of a file -/

namespace Line

/-- The logical line that ends with a physical line, as it is written behind other lines:
what they have left to be continued, and then the line with its blanks at the end. -/
def asWritten (front : List (List Char)) (raw : List Char) : List Char :=
  (Reading.after {} front).pending ++ raw

/-- A line outside script blocks that is not continued ends a logical line, which is stored
without the blanks at its end. -/
theorem mem_ofText_of_ended {text raw : List Char} {front behind : List (List Char)}
    (lines : Text.lines text = front ++ raw :: behind)
    (outside : (Reading.after {} front).inScript = false) (ended : continued? raw = none) :
    ofChars (front.length + 1) (trimEnd (asWritten front raw)) ∈ ofText text := by
  have made : (Reading.after {} front).line? (0 + front.length + 1) raw =
      some (ofChars (front.length + 1) (trimEnd (asWritten front raw))) := by
    rw [Reading.line?, outside, ended, Nat.zero_add]
    rfl
  have cut := join_append {} 0 front (raw :: behind)
  rw [join_cons, made] at cut
  rw [ofText, lines]
  -- the line stands behind those that the lines in front make
  apply cut ▸ List.mem_append_right _
  exact List.mem_cons_self

end Line

namespace CommandFile

/-- A command runs as its line is written, unless trimming took away a protected blank. -/
theorem runCommand_trimEnd (stream : String) (number : Nat) (keeps : ¬ LosesBlank s) :
    runCommand stream (Line.ofChars number (trimEnd s)) =
      runCommand stream (Line.ofChars number s) := by
  have label : firstField (Line.ofChars number (trimEnd s)) =
      firstField (Line.ofChars number s) := by
    obtain ⟨gap, split, blank⟩ := Text.exists_of_trimEnd s
    simp only [firstField, Line.ofChars, String.toList_ofList]
    conv_rhs => rw [split, Text.firstField_append_blanks _ blank]
  have words (scope : Scope) : splitLine scope (Line.ofChars number (trimEnd s)).text.toList =
      splitLine scope (Line.ofChars number s).text.toList := by
    simp only [Line.ofChars, String.toList_ofList]
    exact splitLine_trimEnd keeps
  simp only [runCommand, label, words]
  rfl

/-- A line of a file is stored as it is written, without the blanks at its end. Unless trimming
took away a protected blank, its words are those of the line as it is written, and a line that
calls a command runs as it is written. Otherwise the line cannot be read either way, or the last
word ends in the backslash instead of the blank. -/
theorem words_of_ended_line {text raw : List Char} {front behind : List (List Char)}
    (lines : Text.lines text = front ++ raw :: behind)
    (outside : (Line.Reading.after {} front).inScript = false)
    (ended : Line.continued? raw = none) :
    ∃ line ∈ Line.ofText text, line.number = front.length + 1 ∧
      line.text.toList = trimEnd (Line.asWritten front raw) ∧
      (¬ LosesBlank (Line.asWritten front raw) →
        (∀ scope, splitLine scope line.text.toList =
          splitLine scope (Line.asWritten front raw)) ∧
        (line.statement = .command → ∀ stream rest,
          runLines stream (line :: rest) = (do
            runCommand stream (Line.ofChars line.number (Line.asWritten front raw))
            runLines stream rest))) ∧
      (LosesBlank (Line.asWritten front raw) → ∀ scope,
        (∃ cause, splitLine scope line.text.toList = .error cause ∧
          splitLine scope (Line.asWritten front raw) = .error cause) ∨
        ∃ words word c rest,
          Line.asWritten front raw = line.text.toList ++ c :: rest ∧ isBlank c = true ∧
          splitLine scope line.text.toList = .ok (words ++ [String.ofList (word ++ ['\\'])]) ∧
          splitLine scope (Line.asWritten front raw) =
            .ok (words ++ [String.ofList (word ++ [c])])) := by
  refine ⟨_, Line.mem_ofText_of_ended lines outside ended, rfl, String.toList_ofList, ?_, ?_⟩
  · intro keeps
    refine ⟨fun scope => ?_, fun calls stream rest => ?_⟩
    · rw [Line.ofChars, String.toList_ofList]
      exact splitLine_trimEnd keeps
    · rw [runLines_command calls, runCommand_trimEnd stream _ keeps]
      rfl
  · intro loses scope
    rw [Line.ofChars, String.toList_ofList]
    exact splitLine_of_losesBlank loses scope

/-- The second line of a file, with a blank at its end that no backslash protects. -/
theorem words_of_second_line :
    ∃ line ∈ Line.ofText "plot a \\\n'b c'\\\\ \n".toList, line.number = 2 ∧
      line.text.toList = "plot a 'b c'\\\\".toList ∧
      (∀ scope,
        splitLine scope line.text.toList = splitLine scope "plot a 'b c'\\\\ ".toList) ∧
      ∀ stream rest, runLines stream (line :: rest) = (do
        runCommand stream ⟨2, "plot a 'b c'\\\\ "⟩
        runLines stream rest) := by
  have lines : Text.lines "plot a \\\n'b c'\\\\ \n".toList =
      ["plot a \\".toList] ++ "'b c'\\\\ ".toList :: [] := by decide +kernel
  obtain ⟨line, member, number, stored, keeps, -⟩ :=
    words_of_ended_line lines (by decide +kernel) (by decide +kernel)
  obtain ⟨words, runs⟩ := keeps (by decide +kernel)
  have text : line.text.toList = "plot a 'b c'\\\\".toList := stored.trans (by decide +kernel)
  have calls : line.statement = .command := by
    rw [Line.statement, text]
    decide +kernel
  refine ⟨line, member, number, text, words, fun stream rest => ?_⟩
  rw [runs calls, number]
  rfl

/-- A protected blank at the end of a line is lost, and the backslash becomes part of the
word. -/
theorem trimming_changes_words :
    Text.lines "plot a\\ \n".toList = ["plot a\\ ".toList] ∧
      Line.continued? "plot a\\ ".toList = none ∧
      Line.ofText "plot a\\ \n".toList = [⟨1, "plot a\\"⟩] ∧
      splitLine .empty "plot a\\".toList = .ok ["plot", "a\\"] ∧
      splitLine .empty "plot a\\ ".toList = .ok ["plot", "a "] := by
  decide +kernel

end CommandFile

end PlotScript
