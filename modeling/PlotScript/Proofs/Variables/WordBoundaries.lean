import PlotScript.Proofs.Except
import PlotScript.Proofs.Text.Blank
import PlotScript.Proofs.Variables.Piece
import PlotScript.Proofs.Variables.WordLists

/-!
# Blanks between words

A line with a blank outside quotes is read as the text in front of the blank and the text
behind it, each on its own. A word that has begun ends there, and so does a reference, and a
dollar sign without one stands for itself. Only a backslash right in front of the blank would
reach over it.
-/

namespace PlotScript

/-! ## Quotes and backslashes -/

/-- Where the quoting rules stand between two characters of a text. -/
inductive QuotingState where
  | bare
  /-- behind a backslash outside quotes -/
  | escape
  | single
  | double
  /-- behind a backslash between double quotes -/
  | doubleEscape
  deriving DecidableEq

namespace QuotingState

def next : QuotingState → Char → QuotingState
  | bare, c =>
      if c = '\\' then escape else if c = '\'' then single else if c = '"' then double else bare
  | escape, _ => bare
  | single, c => if c = '\'' then bare else single
  | double, c => if c = '\\' then doubleEscape else if c = '"' then bare else double
  | doubleEscape, _ => double

/-- Where the rules stand behind a text. -/
def after (state : QuotingState) (text : List Char) : QuotingState :=
  text.foldl next state

/-- Where the pieces of a text begin, between double quotes or outside of quotes. -/
def start (quoted : Bool) : QuotingState :=
  if quoted then double else bare

theorem after_cons (state : QuotingState) (c : Char) (text : List Char) :
    state.after (c :: text) = (state.next c).after text := rfl

theorem after_append (state : QuotingState) (text more : List Char) :
    state.after (text ++ more) = (state.after text).after more :=
  List.foldl_append

/-- Characters that are no quotes and no backslashes leave the state alone. -/
theorem after_start_of_plain (quoted : Bool) {text : List Char}
    (plain : ∀ c ∈ text, c ≠ '\\' ∧ c ≠ '\'' ∧ c ≠ '"') :
    (start quoted).after text = start quoted := by
  induction text with
  | nil => rfl
  | cons c text ih =>
      obtain ⟨⟨notBackslash, notSingle, notDouble⟩, others⟩ := List.forall_mem_cons.1 plain
      have stays : (start quoted).next c = start quoted := by
        cases quoted with
        | false => simp [start, next, notBackslash, notSingle, notDouble]
        | true => simp [start, next, notBackslash, notDouble]
      rw [after_cons, stays, ih others]

theorem after_single {text : List Char} (h : '\'' ∉ text) : single.after text = single := by
  induction text with
  | nil => rfl
  | cons c text ih =>
      obtain ⟨notQuote, others⟩ := not_or.1 (mt List.mem_cons.2 h)
      rw [after_cons, next, if_neg (Ne.symm notQuote), ih others]

end QuotingState

/-- A text ends in a backslash outside quotes that protects whatever comes next. -/
def EndsInEscape (text : List Char) : Prop :=
  QuotingState.bare.after text = .escape

instance (text : List Char) : Decidable (EndsInEscape text) :=
  inferInstanceAs (Decidable (QuotingState.bare.after text = .escape))

/-! ## References -/

namespace Reference

/-- A reference ends in front of a blank, whatever is behind it. -/
theorem read_append {s after : List Char} {r : Reference}
    (h : read s = .ok (some (r, after))) {rest : List Char}
    (ends : ∀ c ∈ rest.head?, isNameChar c = false) :
    read (s ++ rest) = .ok (some (r, after ++ rest)) := by
  obtain ⟨spelled, limit⟩ := spelling_of_read h
  have valid := isSpelled_of_read h
  obtain ⟨name, bracketed⟩ := r
  cases bracketed with
  | true =>
      obtain rfl : s = '(' :: (name ++ ')' :: after) := by
        simpa [spelling] using spelled
      simpa using read_bracketed valid (after ++ rest)
  | false =>
      obtain ⟨c, tail, rfl, startsName, inside⟩ := valid
      obtain rfl : s = c :: (tail ++ after) := by
        simpa [spelling] using spelled
      have first : ∀ d ∈ (after ++ rest).head?, isNameChar d = false := by
        cases after with
        | nil => exact ends
        | cons d after => exact limit rfl
      rw [List.cons_append, List.append_assoc, read_bare_of_ends startsName inside first]

/-- A reference has no quotes and no backslashes in it. -/
theorem plain_of_mem_spelling {r : Reference} (valid : r.IsSpelled) :
    ∀ c ∈ r.spelling, c ≠ '\\' ∧ c ≠ '\'' ∧ c ≠ '"' := by
  have inName : ∀ c, (isNameChar c || c == '-') = true → c ≠ '\\' ∧ c ≠ '\'' ∧ c ≠ '"' := by
    intro c allowed
    refine ⟨?_, ?_, ?_⟩
    all_goals
      rintro rfl
      revert allowed
      decide
  obtain ⟨name, bracketed⟩ := r
  cases bracketed with
  | true =>
      have allowed : ∀ c ∈ name, (isNameChar c || c == '-') = true := by
        have checked : isBracketedName name = true := valid
        rw [isBracketedName, Bool.and_eq_true, List.all_eq_true] at checked
        exact checked.2
      intro c member
      simp only [spelling, if_true, List.mem_cons, List.mem_append, List.not_mem_nil,
        or_false] at member
      rcases member with rfl | rfl | member | rfl
      · decide
      · decide
      · exact inName c (allowed c member)
      · decide
  | false =>
      obtain ⟨d, tail, rfl, startsName, inside⟩ := valid
      intro c member
      simp only [spelling, Bool.false_eq_true, if_false, List.mem_cons] at member
      rcases member with rfl | rfl | member
      · decide
      · exact inName _ (by rw [isNameChar_of_isNameStart startsName, Bool.true_or])
      · exact inName c (by rw [inside c member, Bool.true_or])

theorem isNameChar_of_isBlank {c : Char} (blank : Text.isBlank c = true) :
    isNameChar c = false := by
  rw [← Bool.not_eq_true]
  intro inside
  have isWord : Text.isWordChar c = true := by
    rcases Bool.or_eq_true_iff.1 inside with alphanum | hyphen
    · exact Text.isWordChar_of_isAlphanum alphanum
    · rw [beq_iff_eq.1 hyphen]
      decide
  rw [Text.isBlank_of_isWordChar isWord] at blank
  cases blank

/-- A character that no reference can have at its beginning or in a bare name. -/
def isForeign (c : Char) : Bool :=
  !begins c && !isNameChar c

theorem isForeign_of_isBlank {c : Char} (blank : Text.isBlank c = true) : isForeign c = true := by
  have notName := isNameChar_of_isBlank blank
  have notBegin : begins c = false := by
    rw [begins, Bool.or_eq_false_iff]
    constructor
    · rw [beq_eq_false_iff_ne]
      rintro rfl
      exact absurd blank (by decide)
    · rw [← Bool.not_eq_true]
      intro start
      rw [isNameChar_of_isNameStart start] at notName
      cases notName
  rw [isForeign, notBegin, notName]
  rfl

theorem isNameChar_of_parted {rest : List Char} (parted : ∀ c ∈ rest.head?, isForeign c = true) :
    ∀ c ∈ rest.head?, isNameChar c = false := by
  intro c member
  have foreign := parted c member
  rw [isForeign, Bool.and_eq_true, Bool.not_eq_true', Bool.not_eq_true'] at foreign
  exact foreign.2

/-- A dollar sign that stands for itself does so with foreign characters behind it. -/
theorem read_append_none {s rest : List Char} (lone : read s = .ok none)
    (parted : ∀ c ∈ rest.head?, isForeign c = true) : read (s ++ rest) = .ok none := by
  apply read_eq_none
  intro c member
  cases s with
  | nil =>
      have foreign := parted c member
      rw [isForeign, Bool.and_eq_true, Bool.not_eq_true'] at foreign
      exact foreign.1
  | cons d s => exact begins_eq_false_of_read lone c member

end Reference

/-! ## Pieces -/

namespace Piece

open QuotingState

/-- A text goes on behind the first single quote in it. -/
theorem exists_quoted_of_mem {s : List Char} (h : '\'' ∈ s) :
    ∃ word tail, s = word ++ '\'' :: tail ∧ '\'' ∉ word ∧
      s.takeWhile (· != '\'') = word ∧ (s.dropWhile (· != '\'')).drop 1 = tail := by
  obtain ⟨word, tail, rfl, notInside⟩ := List.eq_append_cons_of_mem h
  have outside : ∀ d ∈ word, (d != '\'') = true := by
    intro d member
    rw [bne_iff_ne]
    rintro rfl
    exact notInside member
  refine ⟨word, tail, rfl, notInside, ?_, ?_⟩
  · simp [List.takeWhile_append_of_pos outside]
  · simp [List.dropWhile_append_of_pos outside]

theorem faultless_tail {p : Piece} {rest : List Piece}
    (faultless : ∀ cause, fault cause ∉ p :: rest) : ∀ cause, fault cause ∉ rest :=
  fun cause member => faultless cause (List.mem_cons_of_mem p member)

/-- A text that is read without a fault ends outside quotes. Unless it ends in an escape, a
foreign character behind it leaves its pieces as they are. -/
theorem ofText_append {quoted : Bool} {front rest : List Char}
    (faultless : ∀ cause, fault cause ∉ ofText quoted front)
    (closed : (start quoted).after front ≠ .escape)
    (parted : ∀ c ∈ rest.head?, Reference.isForeign c = true) :
    ofText quoted (front ++ rest) = ofText quoted front ++ ofText false rest := by
  -- every piece leaves the quoting state where the next one begins, so `closed` goes along
  fun_induction ofText quoted front with
  | case1 => exact absurd List.mem_cons_self (faultless _)
  | case2 quoted bare =>
      obtain rfl : quoted = false := by simpa using bare
      rfl
  | case3 => exact absurd List.mem_cons_self (faultless _)
  | case4 quoted bare =>
      -- a backslash at the end outside quotes
      obtain rfl : quoted = false := by simpa using bare
      exact absurd rfl closed
  | case5 quoted escaped behind ih =>
      have stays : ((start quoted).next '\\').next escaped = start quoted := by
        cases quoted <;> rfl
      rw [after_cons, after_cons, stays] at closed
      rw [List.cons_append, List.cons_append, ofText_escaped, List.cons_append,
        ih (faultless_tail faultless) closed]
  | case6 => exact absurd List.mem_cons_self (faultless _)
  | case7 quoted behind lone notBackslash ih =>
      have stays : (start quoted).next '$' = start quoted :=
        after_start_of_plain quoted (List.forall_mem_singleton.2 (by decide))
      rw [after_cons, stays] at closed
      rw [List.cons_append, ofText_dollar, Reference.read_append_none lone parted, List.cons_append,
        ← ih (faultless_tail faultless) closed]
  | case8 quoted behind r after found shorter notBackslash ih =>
      have ends := Reference.isNameChar_of_parted parted
      rw [(Reference.spelling_of_read found).1, after_append, after_start_of_plain quoted
        (Reference.plain_of_mem_spelling (Reference.isSpelled_of_read found))] at closed
      rw [List.cons_append, ofText_dollar, Reference.read_append found ends, List.cons_append,
        ← ih (faultless_tail faultless) closed]
  | case9 behind notBackslash notDollar ih =>
      rw [List.cons_append, ofText_closing]
      exact ih faultless closed
  | case10 quoted behind bare notBackslash notDollar ih =>
      obtain rfl : quoted = false := by simpa using bare
      rw [List.cons_append, ofText_opening, List.cons_append,
        ← ih (faultless_tail faultless) closed]
  | case11 c behind notBackslash notDollar notQuote ih =>
      have stays : (start true).next c = start true := by
        simp [start, next, notBackslash, notQuote]
      rw [after_cons, stays] at closed
      rw [List.cons_append, ofText_char_quoted ⟨notBackslash, notDollar, notQuote⟩,
        List.cons_append, ← ih (faultless_tail faultless) closed]
  | case12 quoted behind bare quoteInside shorter notBackslash notDollar notQuote ih =>
      obtain rfl : quoted = false := by simpa using bare
      obtain ⟨word, tail, rfl, notInside, taken, left⟩ := exists_quoted_of_mem quoteInside
      rw [left] at ih
      rw [taken, left] at faultless ⊢
      have ends : (start false).after ('\'' :: (word ++ '\'' :: tail)) =
          (start false).after tail := by
        rw [after_cons, after_append]
        show (single.after word).after ('\'' :: tail) = _
        rw [after_single notInside]
        rfl
      have behindQuote := ih (fun cause member => faultless cause
        (List.mem_append_right _ member)) (by rwa [← ends])
      rw [List.cons_append, List.append_assoc, List.cons_append, ofText_single word _ notInside,
        behindQuote, List.append_assoc]
  | case13 => exact absurd List.mem_cons_self (faultless _)
  | case14 quoted c behind notBackslash notDollar notQuote bare notSingle ih =>
      obtain rfl : quoted = false := by simpa using bare
      have stays : (start false).next c = start false := by
        simp [start, next, notBackslash, notSingle, notQuote]
      rw [after_cons, stays] at closed
      rw [List.cons_append, ofText_char_bare ⟨notBackslash, notDollar, notQuote, notSingle⟩,
        List.cons_append, ← ih (faultless_tail faultless) closed]

theorem ofText_append_blank {front : List Char}
    (faultless : ∀ cause, fault cause ∉ ofText false front) (closed : ¬ EndsInEscape front)
    {c : Char} (isBlank : Text.isBlank c = true) (behind : List Char) :
    ofText false (front ++ c :: behind) =
      ofText false front ++ blank c :: ofText false behind := by
  have parted : ∀ d ∈ (c :: behind).head?, Reference.isForeign d = true := by
    intro d first
    obtain rfl : c = d := by simpa using first
    exact Reference.isForeign_of_isBlank isBlank
  rw [ofText_append faultless closed parted]
  exact congrArg _ (ofText_blanks (List.forall_mem_singleton.2 isBlank) behind)

end Piece

/-! ## Words -/

namespace Mark

variable {lookup : String → Except Cause String}

/-- Pieces that have marks have no fault among them. -/
theorem faultless_of_ofPieces {ps : List Piece} {marks : List Mark}
    (h : ofPieces lookup ps = .ok marks) : ∀ cause, Piece.fault cause ∉ ps := by
  intro cause member
  induction ps generalizing marks with
  | nil => cases member
  | cons p rest ih =>
      obtain ⟨front, first, h⟩ := exists_of_bind_eq_ok h
      obtain ⟨back, others, -⟩ := exists_of_bind_eq_ok h
      rcases List.mem_cons.1 member with rfl | behind
      · cases first
      · exact ih others behind

/-- The words on the two sides of a gap have nothing to do with each other. -/
theorem gather_append_gap (begun : Option (List Char)) (front behind : List Mark) :
    gather begun (front ++ gap :: behind) = gather begun front ++ gather none behind := by
  induction front generalizing begun with
  | nil => rfl
  | cons mark front ih =>
      cases mark with
      | gap => simp only [List.cons_append, gather, ih, List.append_assoc]
      | start => exact ih _
      | char c => exact ih _

end Mark

variable {scope : Scope} {front : List Char} {words : List String}

/-- A line goes on behind a blank as if it began there. -/
theorem splitLine_append_blank (reads : splitLine scope front = .ok words)
    (closed : ¬ EndsInEscape front) {c : Char} (blank : Text.isBlank c = true)
    (behind : List Char) :
    splitLine scope (front ++ c :: behind) = (splitLine scope behind).map (words ++ ·) := by
  rw [splitLine_eq] at reads
  obtain ⟨marks, marked, rfl⟩ := exists_of_map_eq_ok reads
  rw [splitLine_eq, Piece.ofText_append_blank (Mark.faultless_of_ofPieces marked) closed blank,
    Mark.ofPieces_append marked, Mark.ofPieces, splitLine_eq]
  cases Mark.ofPieces scope.lookup (Piece.ofText false behind) with
  | error cause => rfl
  | ok others =>
      simp [Mark.ofPiece, Except.map, bind, Except.bind, pure, Except.pure,
        Mark.gather_append_gap]

/-- Blanks at the front of a line make no difference. -/
theorem splitLine_blanks (scope : Scope) {gap : List Char}
    (blank : ∀ c ∈ gap, Text.isBlank c = true) (rest : List Char) :
    splitLine scope (gap ++ rest) = splitLine scope rest := by
  rw [splitLine_eq, Piece.ofText_blanks blank,
    Mark.ofPieces_append (Mark.ofPieces_blanks scope.lookup gap), splitLine_eq]
  cases Mark.ofPieces scope.lookup (Piece.ofText false rest) with
  | error cause => rfl
  | ok marks =>
      exact congrArg (fun words => Except.ok (words.map String.ofList))
        (Mark.gather_blanks (.inl rfl) marks)

/-- A line is split at blanks outside quotes. If the text in front of them can be split and
no backslash at its end reaches over them, then the words of the line are those of the text
in front and those of the text behind, and the line fails as the text behind it does. -/
theorem splitLine_append_gap (reads : splitLine scope front = .ok words)
    (closed : ¬ EndsInEscape front) {gap : List Char} (nonempty : gap ≠ [])
    (blank : ∀ c ∈ gap, Text.isBlank c = true) (behind : List Char) :
    splitLine scope (front ++ gap ++ behind) = (splitLine scope behind).map (words ++ ·) := by
  obtain ⟨c, others, rfl⟩ := List.exists_cons_of_ne_nil nonempty
  obtain ⟨first, more⟩ := List.forall_mem_cons.1 blank
  rw [List.append_assoc, List.cons_append, splitLine_append_blank reads closed first,
    splitLine_blanks scope more]

theorem splitLine_append_gap_behind_dollar :
    let scope : Scope := NameMap.ofList [("x", .eager "1 2")]
    let front := "\"a\\\"$(x)\"$x$".toList
    let gap := ['\t', '\u3000']
    splitLine scope front = .ok ["a\"1 21", "2$"] ∧ ¬ EndsInEscape front ∧ gap ≠ [] ∧
      (∀ c ∈ gap, Text.isBlank c = true) ∧
      splitLine scope (front ++ gap ++ "x '$x'".toList) = .ok ["a\"1 21", "2$", "x", "$x"] ∧
      splitLine scope (front ++ gap ++ "$y".toList) = .error (.undefinedVariable "y") := by
  intro scope front gap
  have reads : splitLine scope front = .ok ["a\"1 21", "2$"] := by decide +kernel
  have closed : ¬ EndsInEscape front := by decide +kernel
  have nonempty : gap ≠ [] := List.cons_ne_nil _ _
  have blank : ∀ c ∈ gap, Text.isBlank c = true := List.all_eq_true.1 (by decide)
  have goesOn : splitLine scope "x '$x'".toList = .ok ["x", "$x"] := by decide +kernel
  have fails : splitLine scope "$y".toList = .error (.undefinedVariable "y") := by decide +kernel
  refine ⟨reads, closed, nonempty, blank, ?_, ?_⟩
  · rw [splitLine_append_gap reads closed nonempty blank, goesOn]
    rfl
  · rw [splitLine_append_gap reads closed nonempty blank, fails]
    rfl

/-- A backslash at the end of the text reaches over the blank. -/
example : splitLine NameMap.empty "a\\ b".toList = .ok ["a b"] ∧ EndsInEscape "a\\".toList := by
  decide +kernel

end PlotScript
