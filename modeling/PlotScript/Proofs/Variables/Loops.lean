import PlotScript.Proofs.Variables.Quoting
import PlotScript.Variables.Words

/-!
# The loops follow the quoting rules

The words of a line and the value of an assignment are gathered by two loops. Each of them does to
what it has gathered, piece after piece, what the pieces of the text do under the quoting rules
(`Words.bare_eq_foldlM`, `AssignedText.bare_eq_foldlM`), and it stops where the first of them
fails. The inner loops do so with the pieces up to the closing quote.
-/

namespace PlotScript

/-! ## The end of a quotation -/

/-- A search that goes past a stretch stops right behind it. -/
theorem findIdx?_append_cons {p : Char → Bool} {front : List Char}
    (before : ∀ c ∈ front, p c = false) {d : Char} (found : p d = true) (behind : List Char) :
    (front ++ d :: behind).findIdx? p = some front.length := by
  rw [List.findIdx?_append, List.findIdx?_eq_none_iff.2 before, List.findIdx?_cons, if_pos found]
  simp

theorem findIdx?_eq_some {front : List Char} {d : Char} (first : d ∉ front) (behind : List Char) :
    (front ++ d :: behind).findIdx? (· == d) = some front.length := by
  refine @findIdx?_append_cons (· == d) front ?_ d (beq_self_eq_true d) behind
  intro c member
  rw [beq_eq_false_iff_ne]
  rintro rfl
  exact first member

theorem findIdx?_eq_none {s : List Char} {d : Char} (nowhere : d ∉ s) :
    s.findIdx? (· == d) = none := by
  rw [List.findIdx?_eq_none_iff]
  intro c member
  rw [beq_eq_false_iff_ne]
  rintro rfl
  exact nowhere member

/-- The single quotes that a text begins behind, and the pieces that the text is read as. -/
theorem Piece.ofText_single_of_findIdx? {rest : List Char} {close : Nat}
    (closed : rest.findIdx? (· == '\'') = some close) :
    ofText false ('\'' :: rest) =
      quote :: (rest.take close).map shielded ++ ofText false (rest.drop (close + 1)) := by
  by_cases inside : '\'' ∈ rest
  · obtain ⟨word, behind, rfl, first⟩ := List.eq_append_cons_of_mem inside
    rw [findIdx?_eq_some first] at closed
    obtain rfl := Option.some.inj closed
    rw [ofText_single word behind first]
    simp
  · rw [findIdx?_eq_none inside] at closed
    cases closed

theorem Piece.ofText_single_of_unclosed {rest : List Char}
    (unclosed : rest.findIdx? (· == '\'') = none) :
    ofText false ('\'' :: rest) = [fault .unterminatedSingleQuote] := by
  have nowhere : '\'' ∉ rest := by
    intro member
    have differs := List.findIdx?_eq_none_iff.1 unclosed _ member
    cases differs
  exact ofText_unclosed nowhere

theorem Piece.ofText_blank {c : Char} (isBlank : Text.isBlank c = true) (rest : List Char) :
    ofText false (c :: rest) = blank c :: ofText false rest := by
  have other : ∀ d, Text.isBlank d = false → c ≠ d := by
    rintro d notBlank rfl
    rw [isBlank] at notBlank
    cases notBlank
  rw [ofText_char_bare ⟨other '\\' (by decide), other '$' (by decide), other '"' (by decide),
    other '\'' (by decide)⟩, if_pos isBlank]

/-! ## Words -/

namespace Words

variable {scope : Scope}

/-- What a mark does to words. -/
def mark (w : Words) : Mark → Words
  | .gap => w.finish
  | .start => w.start
  | .char c => w.push c

def after (w : Words) (marks : List Mark) : Words :=
  marks.foldl mark w

/-- What a piece does to words. -/
def take (scope : Scope) (w : Words) (p : Piece) : Except Cause Words :=
  (Mark.ofPiece scope.lookup p).map w.after

/-- Pieces do what their marks do. -/
theorem foldlM_take (w : Words) (pieces : List Piece) :
    pieces.foldlM (take scope) w = (Mark.ofPieces scope.lookup pieces).map w.after := by
  induction pieces generalizing w with
  | nil => rfl
  | cons p rest ih =>
      rw [List.foldlM_cons, Mark.ofPieces, take]
      cases Mark.ofPiece scope.lookup p with
      | error cause => rfl
      | ok front =>
          show rest.foldlM (take scope) (w.after front) = _
          rw [ih]
          cases Mark.ofPieces scope.lookup rest with
          | error cause => rfl
          | ok back => exact congrArg Except.ok (List.foldl_append ..).symm

theorem start_of_begun {w : Words} (begun : w.begun.isSome) : w.start = w := by
  obtain ⟨ended, word⟩ := w
  obtain ⟨word, rfl⟩ := Option.isSome_iff_exists.1 begun
  rfl

theorem pushText_eq_after (w : Words) (text : List Char) :
    w.pushText text = w.start.after (text.map .char) := by
  induction text generalizing w with
  | nil =>
      show Words.mk _ _ = Words.mk _ _
      rw [List.append_nil]
  | cons c text ih =>
      show _ = (w.push c).start.after (text.map .char)
      rw [← ih]
      simp [pushText, push]

theorem pushText_of_begun {w : Words} (begun : w.begun.isSome) (text : List Char) :
    w.pushText text = w.after (text.map .char) := by
  rw [pushText_eq_after, start_of_begun begun]

theorem pushSplit_eq_after (w : Words) (value : List Char) :
    w.pushSplit value = w.after (Mark.ofValue value) := by
  rw [pushSplit, after, Mark.ofValue, List.foldl_map]
  congr
  funext w c
  split <;> rfl

theorem take_shielded (w : Words) (c : Char) :
    take scope w (Piece.shielded c) = .ok (w.push c) := by
  rw [take, Mark.ofPiece_shielded]
  rfl

theorem foldlM_take_shielded (w : Words) (word : List Char) :
    (word.map Piece.shielded).foldlM (take scope) w = .ok (w.after (word.map .char)) := by
  rw [foldlM_take, Mark.ofPieces_shielded]
  rfl

theorem quoted_eq_foldlM (w : Words) (s : List Char) (begun : w.begun.isSome) :
    (do
      let (v, behind) ← quoted scope w s
      (Piece.ofText false behind).foldlM (take scope) v) =
      (Piece.ofText true s).foldlM (take scope) w := by
  fun_induction quoted scope w s with
  | case1 w => rw [Piece.ofText_nil]; rfl
  | case2 w rest => rw [Piece.ofText_closing]; rfl
  | case3 w _ ih =>
      rw [ih begun, Piece.ofText_nil, Piece.ofText_backslash]
      rfl
  | case4 w escaped rest _ ih =>
      rw [ih rfl, Piece.ofText_escaped, List.foldlM_cons, take_shielded]
      rfl
  | case5 w rest cause unread _ _ =>
      rw [Piece.ofText_dollar, unread]
      rfl
  | case6 w rest lone _ _ ih =>
      rw [ih rfl, Piece.ofText_dollar, lone]
      rfl
  | case7 w rest r behind found shorter _ _ ih =>
      rw [Piece.ofText_dollar, found]
      dsimp only
      rw [List.foldlM_cons, take, Mark.ofPiece]
      cases scope.lookup (String.ofList r.name) with
      | error cause => rfl
      | ok value =>
          refine (ih value rfl).trans ?_
          rw [pushText_of_begun begun]
          rfl
  | case8 w c rest notQuote notBackslash notDollar ih =>
      rw [ih rfl, Piece.ofText_char_quoted ⟨notBackslash, notDollar, notQuote⟩]
      rfl

theorem bare_eq_foldlM (w : Words) (s : List Char) :
    bare scope w s = (Piece.ofText false s).foldlM (take scope) w := by
  fun_induction bare scope w s with
  | case1 w => rw [Piece.ofText_nil]; rfl
  | case2 w c rest blank ih =>
      rw [ih, Piece.ofText_blank blank]
      rfl
  | case3 w rest unclosed _ =>
      rw [Piece.ofText_single_of_unclosed unclosed]
      rfl
  | case4 w rest close closed _ ih =>
      rw [ih, Piece.ofText_single_of_findIdx? closed, List.foldlM_append, List.foldlM_cons,
        pushText_eq_after]
      show _ = (do
        let v ← (((rest.take close).map Piece.shielded).foldlM (take scope) w.start)
        (Piece.ofText false (rest.drop (close + 1))).foldlM (take scope) v)
      rw [foldlM_take_shielded]
      rfl
  | case5 w rest cause failed _ _ =>
      have inside := @quoted_eq_foldlM scope w.start rest rfl
      rw [failed] at inside
      rw [Piece.ofText_opening]
      exact inside
  | case6 w rest v behind gathered shorter _ _ ih =>
      have inside := @quoted_eq_foldlM scope w.start rest rfl
      rw [gathered] at inside
      rw [ih, Piece.ofText_opening]
      exact inside
  | case7 w _ _ _ ih =>
      rw [ih, Piece.ofText_nil, Piece.ofText_backslash]
      rfl
  | case8 w escaped rest _ _ _ ih =>
      rw [ih, Piece.ofText_escaped, List.foldlM_cons, take_shielded]
      rfl
  | case9 w rest cause unread _ _ _ _ =>
      rw [Piece.ofText_dollar, unread]
      rfl
  | case10 w rest lone _ _ _ _ ih =>
      rw [ih, Piece.ofText_dollar, lone]
      rfl
  | case11 w rest r behind found shorter _ _ _ _ ih =>
      rw [Piece.ofText_dollar, found]
      dsimp only
      rw [List.foldlM_cons, take, Mark.ofPiece]
      cases scope.lookup (String.ofList r.name) with
      | error cause => rfl
      | ok value =>
          refine (ih value).trans ?_
          rw [pushSplit_eq_after]
          rfl
  | case12 w c rest notBlank notSingle notDouble notBackslash notDollar ih =>
      rw [ih, Piece.ofText_char_bare ⟨notBackslash, notDollar, notDouble, notSingle⟩,
        if_neg notBlank]
      rfl

theorem finish_after (w : Words) (marks : List Mark) :
    (w.after marks).finish.ended =
      w.ended ++ (Mark.gather w.begun marks).map String.ofList := by
  induction marks generalizing w with
  | nil => cases begun : w.begun <;> simp [after, finish, Mark.gather, begun]
  | cons mark marks ih =>
      show ((w.mark mark).after marks).finish.ended = _
      rw [ih]
      cases mark with
      | gap => cases begun : w.begun <;> simp [Words.mark, finish, Mark.gather, begun]
      | start => rfl
      | char c => rfl

end Words

/-- The words of a line are those that the marks of its pieces make. -/
theorem splitLine_eq (scope : Scope) (line : List Char) :
    splitLine scope line =
      (Mark.ofPieces scope.lookup (Piece.ofText false line)).map fun marks =>
        (Mark.gather none marks).map String.ofList := by
  rw [splitLine, Words.bare_eq_foldlM, Words.foldlM_take]
  cases Mark.ofPieces scope.lookup (Piece.ofText false line) with
  | error cause => rfl
  | ok marks => exact congrArg Except.ok (Words.finish_after {} marks)

/-! ## Values -/

namespace AssignedText

variable {scope : Scope} {interpolate : Bool}

/-- The text of a piece in an assignment. -/
def text (scope : Scope) (interpolate : Bool) : Piece → Except Cause (List Char) :=
  if interpolate then Piece.expand scope.lookup else Piece.defer

/-- What a piece adds to a text. -/
def take (scope : Scope) (interpolate : Bool) (out : List Char) (p : Piece) :
    Except Cause (List Char) :=
  (text scope interpolate p).map (out ++ ·)

/-- Pieces add their texts one behind the other. -/
theorem foldlM_take (out : List Char) (pieces : List Piece) :
    pieces.foldlM (take scope interpolate) out =
      (Piece.concat (text scope interpolate) pieces).map (out ++ ·) := by
  induction pieces generalizing out with
  | nil => exact congrArg Except.ok (List.append_nil out).symm
  | cons p rest ih =>
      rw [List.foldlM_cons, Piece.concat, take]
      cases text scope interpolate p with
      | error cause => rfl
      | ok front =>
          show rest.foldlM (take scope interpolate) (out ++ front) = _
          rw [ih]
          cases Piece.concat (text scope interpolate) rest with
          | error cause => rfl
          | ok back => exact congrArg Except.ok (List.append_assoc ..)

theorem take_blank (out : List Char) (c : Char) :
    take scope interpolate out (.blank c) = .ok (out ++ [c]) := by
  cases interpolate <;> rfl

theorem take_char (out : List Char) (c : Char) :
    take scope interpolate out (.char c) = .ok (out ++ [c]) := by
  cases interpolate <;> rfl

theorem take_quote (out : List Char) : take scope interpolate out .quote = .ok out := by
  cases interpolate <;> exact congrArg Except.ok (List.append_nil out)

theorem foldlM_take_fault (out : List Char) (cause : Cause) :
    [Piece.fault cause].foldlM (take scope interpolate) out = .error cause := by
  cases interpolate <;> rfl

theorem take_shielded (out : List Char) (c : Char) :
    take scope interpolate out (Piece.shielded c) = .ok (out ++ literal interpolate c) := by
  unfold Piece.shielded literal
  by_cases isDollar : c = '$'
  · cases interpolate <;> simp [isDollar, take, text, Piece.expand, Piece.defer, Except.map]
  · simp [isDollar, take_char]

theorem foldlM_take_shielded (out word : List Char) :
    (word.map Piece.shielded).foldlM (take scope interpolate) out =
      .ok (out ++ word.flatMap (literal interpolate)) := by
  induction word generalizing out with
  | nil => exact congrArg Except.ok (List.append_nil out).symm
  | cons c word ih =>
      rw [List.map_cons, List.foldlM_cons, take_shielded, List.flatMap_cons, ← List.append_assoc]
      exact ih _

theorem take_reference (out : List Char) (r : Reference) (quoted : Bool) :
    take scope interpolate out (.reference r quoted) =
      (referenceText scope interpolate r).map (out ++ ·) := by
  cases interpolate <;> rfl

/-- What a dollar sign begins is a piece, or the dollar sign itself. -/
theorem reference_eq_foldlM (quoted : Bool) (out rest : List Char) :
    (do
      let (out, behind) ← reference scope interpolate out rest
      (Piece.ofText quoted behind).foldlM (take scope interpolate) out) =
      (Piece.ofText quoted ('$' :: rest)).foldlM (take scope interpolate) out := by
  rw [reference, Piece.ofText_dollar]
  cases Reference.read rest with
  | error cause => cases interpolate <;> rfl
  | ok found =>
      cases found with
      | none =>
          dsimp only
          rw [List.foldlM_cons, take_char]
          rfl
      | some both =>
          obtain ⟨r, behind⟩ := both
          dsimp only
          rw [List.foldlM_cons, take_reference]
          cases referenceText scope interpolate r with
          | error cause => rfl
          | ok text => rfl

theorem quoted_eq_foldlM (out s : List Char) :
    (do
      let (out, behind) ← quoted scope interpolate out s
      (Piece.ofText false behind).foldlM (take scope interpolate) out) =
      (Piece.ofText true s).foldlM (take scope interpolate) out := by
  fun_induction quoted scope interpolate out s with
  | case1 out =>
      rw [Piece.ofText_nil]
      exact (foldlM_take_fault out _).symm
  | case2 out rest =>
      rw [Piece.ofText_closing]
      rfl
  | case3 out _ ih =>
      rw [ih, Piece.ofText_nil, Piece.ofText_backslash]
      rfl
  | case4 out escaped rest _ ih =>
      rw [ih, Piece.ofText_escaped, List.foldlM_cons, take_shielded]
      rfl
  | case5 out rest cause failed _ _ =>
      have here := @reference_eq_foldlM scope interpolate true out rest
      rw [failed] at here
      exact here
  | case6 out rest written behind found notLonger _ _ ih =>
      have here := @reference_eq_foldlM scope interpolate true out rest
      rw [found] at here
      exact ih.trans here
  | case7 out c rest notQuote notBackslash notDollar ih =>
      rw [ih, Piece.ofText_char_quoted ⟨notBackslash, notDollar, notQuote⟩, List.foldlM_cons,
        take_char]
      rfl

theorem bare_eq_foldlM (out s : List Char) :
    bare scope interpolate out s = (Piece.ofText false s).foldlM (take scope interpolate) out := by
  fun_induction bare scope interpolate out s with
  | case1 out => rw [Piece.ofText_nil]; rfl
  | case2 out rest unclosed =>
      rw [Piece.ofText_single_of_unclosed unclosed]
      exact (foldlM_take_fault out _).symm
  | case3 out rest close closed ih =>
      rw [ih, Piece.ofText_single_of_findIdx? closed, List.foldlM_append, List.foldlM_cons,
        take_quote]
      show _ = (do
        let out ← (((rest.take close).map Piece.shielded).foldlM (take scope interpolate) out)
        (Piece.ofText false (rest.drop (close + 1))).foldlM (take scope interpolate) out)
      rw [foldlM_take_shielded]
      rfl
  | case4 out rest cause failed _ =>
      have inside := @quoted_eq_foldlM scope interpolate out rest
      rw [failed] at inside
      rw [Piece.ofText_opening, List.foldlM_cons, take_quote]
      exact inside
  | case5 out rest written behind gathered shorter _ ih =>
      have inside := @quoted_eq_foldlM scope interpolate out rest
      rw [gathered] at inside
      rw [ih, Piece.ofText_opening, List.foldlM_cons, take_quote]
      exact inside
  | case6 out _ _ ih =>
      rw [ih, Piece.ofText_nil, Piece.ofText_backslash]
      show _ = [Piece.char '\\'].foldlM (take scope interpolate) out
      rw [List.foldlM_cons, take_char]
      rfl
  | case7 out escaped rest _ _ ih =>
      rw [ih, Piece.ofText_escaped, List.foldlM_cons, take_shielded]
      rfl
  | case8 out rest cause failed _ _ _ =>
      have here := @reference_eq_foldlM scope interpolate false out rest
      rw [failed] at here
      exact here
  | case9 out rest written behind found notLonger _ _ _ ih =>
      have here := @reference_eq_foldlM scope interpolate false out rest
      rw [found] at here
      exact ih.trans here
  | case10 out c rest notSingle notDouble notBackslash notDollar ih =>
      rw [ih, Piece.ofText_char_bare ⟨notBackslash, notDollar, notDouble, notSingle⟩,
        List.foldlM_cons]
      split
      · rw [take_blank]
        rfl
      · rw [take_char]
        rfl

end AssignedText

/-- The value of an assignment is made of the texts of its pieces. -/
theorem assignmentValue_eq (scope : Scope) (interpolate : Bool) (rest : List Char) :
    assignmentValue scope interpolate rest =
      (Piece.concat (AssignedText.text scope interpolate) (Piece.ofText false rest)).map
        String.ofList := by
  rw [assignmentValue, AssignedText.bare_eq_foldlM, AssignedText.foldlM_take]
  cases Piece.concat (AssignedText.text scope interpolate) (Piece.ofText false rest) <;> rfl

theorem eagerValue_eq (scope : Scope) (rest : List Char) :
    eagerValue scope rest =
      (Piece.concat (Piece.expand scope.lookup) (Piece.ofText false rest)).map String.ofList :=
  assignmentValue_eq scope true rest

theorem deferredValue_eq (rest : List Char) :
    deferredValue rest =
      (Piece.concat Piece.defer (Piece.ofText false rest)).map String.ofList :=
  assignmentValue_eq NameMap.empty false rest

/-- A value that is kept for later does not depend on what the variables hold. -/
theorem assignmentValue_eq_ite (scope : Scope) (interpolate : Bool) (rest : List Char) :
    assignmentValue scope interpolate rest =
      if interpolate then eagerValue scope rest else deferredValue rest := by
  cases interpolate with
  | true => rfl
  | false => exact (assignmentValue_eq scope false rest).trans (deferredValue_eq rest).symm

end PlotScript
