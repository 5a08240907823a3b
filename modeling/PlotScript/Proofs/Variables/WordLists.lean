import PlotScript.Proofs.Variables.Quotation

/-!
# Lists of words

Any list of words at all can be written on one line: every word between quotes, with blanks
between each two. Double quotes go around any word, single quotes around a word that has none.
What the variables hold makes no difference.
-/

namespace PlotScript

/-! ## Blanks -/

theorem Piece.ofText_blanks {gap : List Char} (blank : ∀ c ∈ gap, Text.isBlank c = true)
    (rest : List Char) : ofText false (gap ++ rest) = gap.map Piece.blank ++ ofText false rest := by
  induction gap with
  | nil => rfl
  | cons c gap ih =>
      obtain ⟨first, others⟩ := List.forall_mem_cons.1 blank
      rw [List.cons_append, ofText_blank first, ih others]
      rfl

namespace Mark

theorem ofPieces_blanks (lookup : String → Except Cause String) (blanks : List Char) :
    ofPieces lookup (blanks.map Piece.blank) = .ok (blanks.map fun _ => gap) := by
  induction blanks with
  | nil => rfl
  | cons c blanks ih =>
      rw [List.map_cons, ofPieces, ih]
      rfl

/-- Blanks end a word that has begun, and more of them make no difference. -/
theorem gather_blanks {blanks : List Char} {begun : Option (List Char)}
    (h : begun = none ∨ blanks ≠ []) (rest : List Mark) :
    gather begun ((blanks.map fun _ => gap) ++ rest) = begun.toList ++ gather none rest := by
  induction blanks generalizing begun with
  | nil =>
      obtain rfl := h.resolve_right (by simp)
      rfl
  | cons c blanks ih =>
      rw [List.map_cons, List.cons_append, gather, ih (.inl rfl)]
      rfl

theorem gather_trail (blanks : List Char) (begun : Option (List Char)) :
    gather begun (blanks.map fun _ => gap) = begun.toList := by
  cases blanks with
  | nil => rfl
  | cons c blanks =>
      have ended := @gather_blanks (c :: blanks) begun (.inr (List.cons_ne_nil c blanks)) []
      rwa [List.append_nil, gather, Option.toList_none, List.append_nil] at ended

end Mark

/-! ## Lines of quoted words -/

namespace Quotation

/-- A word on a line, with the quotes around it and the blanks in front of it. -/
structure QuotedWord where
  word : String
  quotes : Quotes
  gap : List Char
  allowed : quotes.Allow word.toList
  blank : ∀ c ∈ gap, Text.isBlank c = true

/-- A line of words with some blanks at its end. -/
def line (words : List QuotedWord) (trail : List Char) : List Char :=
  words.flatMap (fun w => w.gap ++ w.quotes.around w.word.toList) ++ trail

theorem line_cons (w : QuotedWord) (words : List QuotedWord) (trail : List Char) :
    line (w :: words) trail = w.gap ++ (w.quotes.around w.word.toList ++ line words trail) := by
  simp [line]

/-- The marks of a line go on behind its first word as those of the other words. -/
theorem exists_marks_of_line_cons (lookup : String → Except Cause String) (w : QuotedWord)
    {words : List QuotedWord} {trail : List Char} {behind : List Mark}
    (h : Mark.ofPieces lookup (Piece.ofText false (line words trail)) = .ok behind) :
    ∃ marks, Mark.ofPieces lookup (Piece.ofText false (line (w :: words) trail)) = .ok marks ∧
      ∀ begun, begun = none ∨ w.gap ≠ [] →
        Mark.gather begun marks =
          begun.toList ++ Mark.gather (some w.word.toList) behind := by
  obtain ⟨ps, marks, pieces, marked, gathered⟩ := Quotes.writes_around w.allowed
  refine ⟨(w.gap.map fun _ => Mark.gap) ++ (marks ++ behind), ?_, fun begun parted => ?_⟩
  · rw [line_cons, Piece.ofText_blanks w.blank, pieces,
      Mark.ofPieces_append (Mark.ofPieces_blanks lookup w.gap),
      Mark.ofPieces_append (marked lookup), h]
    rfl
  · rw [Mark.gather_blanks parted, gathered]
    rfl

/-- A word that has begun ends in front of the words of a line. -/
theorem exists_marks_of_line (lookup : String → Except Cause String) {words : List QuotedWord}
    {trail : List Char} (parted : ∀ w ∈ words, w.gap ≠ [])
    (blank : ∀ c ∈ trail, Text.isBlank c = true) :
    ∃ marks, Mark.ofPieces lookup (Piece.ofText false (line words trail)) = .ok marks ∧
      ∀ begun, Mark.gather begun marks = begun.toList ++ words.map (·.word.toList) := by
  induction words with
  | nil =>
      have pieces : Piece.ofText false (line [] trail) = trail.map Piece.blank := by
        simpa [line] using Piece.ofText_blanks blank []
      refine ⟨trail.map fun _ => Mark.gap, ?_, fun begun => ?_⟩
      · rw [pieces, Mark.ofPieces_blanks]
      · rw [Mark.gather_trail, List.map_nil, List.append_nil]
  | cons w words ih =>
      obtain ⟨first, others⟩ := List.forall_mem_cons.1 parted
      obtain ⟨behind, markedBehind, gatheredBehind⟩ := ih others
      obtain ⟨marks, marked, gathered⟩ := exists_marks_of_line_cons lookup w markedBehind
      refine ⟨marks, marked, fun begun => ?_⟩
      rw [gathered begun (.inr first), gatheredBehind]
      rfl

/-- Every list of words can be written on a line. Its words stand between quotes, with at
least one blank between each two and any blanks at the ends, and whatever the variables hold
the line is split into them. -/
theorem splitLine_line (scope : Scope) (words : List QuotedWord) (trail : List Char)
    (parted : ∀ w ∈ words.tail, w.gap ≠ []) (blank : ∀ c ∈ trail, Text.isBlank c = true) :
    splitLine scope (line words trail) = .ok (words.map (·.word)) := by
  have gathers : ∃ marks,
      Mark.ofPieces scope.lookup (Piece.ofText false (line words trail)) = .ok marks ∧
        Mark.gather none marks = words.map (·.word.toList) := by
    cases words with
    | nil =>
        obtain ⟨marks, marked, gathered⟩ :=
          exists_marks_of_line scope.lookup (List.forall_mem_nil _) blank
        exact ⟨marks, marked, gathered none⟩
    | cons w words =>
        -- nothing has begun in front of the first word, so it needs no blank
        obtain ⟨behind, markedBehind, gatheredBehind⟩ :=
          exists_marks_of_line scope.lookup parted blank
        obtain ⟨marks, marked, gathered⟩ :=
          exists_marks_of_line_cons scope.lookup w markedBehind
        refine ⟨marks, marked, ?_⟩
        rw [gathered none (.inl rfl), gatheredBehind]
        rfl
  obtain ⟨marks, marked, gathered⟩ := gathers
  rw [splitLine_eq, marked]
  simp [Except.map, gathered]

theorem splitLine_line_of_three_words :
    let words : List QuotedWord :=
      [⟨"\"$x\" costs \\$5", .double, [], by decide, List.forall_mem_nil _⟩,
        ⟨"", .single, ['\t', '\u3000'], by decide, List.all_eq_true.1 (by decide)⟩,
        ⟨"$x\\", .single, ['\n'], by decide, List.all_eq_true.1 (by decide)⟩]
    let scope : Scope := NameMap.ofList [("x", .eager "1")]
    (∀ w ∈ words.tail, w.gap ≠ []) ∧ (∀ c ∈ [' '], Text.isBlank c = true) ∧
      line words [' '] = "\"\\\"\\$x\\\" costs \\\\\\$5\"\t\u3000''\n'$x\\' ".toList ∧
      splitLine scope (line words [' ']) = .ok ["\"$x\" costs \\$5", "", "$x\\"] := by
  intro words scope
  have parted : ∀ w ∈ words.tail, w.gap ≠ [] := by
    simp [words]
  have blank : ∀ c ∈ [' '], Text.isBlank c = true := List.all_eq_true.1 (by decide)
  exact ⟨parted, blank, by decide, splitLine_line scope words [' '] parted blank⟩

end Quotation

end PlotScript
