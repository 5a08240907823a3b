import PlotScript.Proofs.Text.Blank
import PlotScript.Proofs.Variables.Loops

/-!
# Writing words

Texts that are read as one given word whatever the variables hold, and lines made
of such texts. Any word at all can be written between double quotes, with a
backslash in front of every quote, backslash and dollar sign.
-/

namespace PlotScript

/-! ## Marks -/

namespace Mark

theorem ofPieces_append {lookup : String → Except Cause String} {ps : List Piece}
    {front : List Mark} (h : ofPieces lookup ps = .ok front) (qs : List Piece) :
    ofPieces lookup (ps ++ qs) = (ofPieces lookup qs).map (front ++ ·) := by
  induction ps generalizing front with
  | nil =>
      obtain rfl : [] = front := Except.ok.inj h
      rw [List.nil_append]
      cases ofPieces lookup qs <;> rfl
  | cons p rest ih =>
      rw [ofPieces] at h
      cases first : ofPiece lookup p with
      | error cause =>
          rw [first] at h
          cases h
      | ok a =>
          cases others : ofPieces lookup rest with
          | error cause =>
              rw [first, others] at h
              cases h
          | ok b =>
              rw [first, others] at h
              obtain rfl : a ++ b = front := Except.ok.inj h
              rw [List.cons_append, ofPieces, first, ih others]
              cases ofPieces lookup qs with
              | error cause => rfl
              | ok c => exact congrArg Except.ok (List.append_assoc a b c).symm

/-- Characters go to the word that is being gathered. -/
theorem gather_chars (begun word : List Char) (rest : List Mark) :
    gather (some begun) (word.map char ++ rest) = gather (some (begun ++ word)) rest := by
  induction word generalizing begun with
  | nil => simp
  | cons c word ih =>
      rw [List.map_cons, List.cons_append, gather, ih]
      simp

end Mark

/-! ## Texts that write a word -/

/-- A text that is read as a given word, or as that much more of a word that has
begun, whatever stands behind it and whatever the variables hold. -/
def Writes (text word : List Char) : Prop :=
  ∃ ps marks,
    (∀ rest, Piece.ofText false (text ++ rest) = ps ++ Piece.ofText false rest) ∧
    (∀ lookup, Mark.ofPieces lookup ps = .ok marks) ∧
    ∀ begun rest,
      Mark.gather begun (marks ++ rest) = Mark.gather (some (begun.getD [] ++ word)) rest

namespace Writes

theorem append {text other word more : List Char} (first : Writes text word)
    (second : Writes other more) : Writes (text ++ other) (word ++ more) := by
  obtain ⟨ps, marks, pieces, marked, gathered⟩ := first
  obtain ⟨qs, marks', pieces', marked', gathered'⟩ := second
  refine ⟨ps ++ qs, marks ++ marks', fun rest => ?_, fun lookup => ?_, fun begun rest => ?_⟩
  · rw [List.append_assoc, pieces, pieces', List.append_assoc]
  · rw [Mark.ofPieces_append (marked lookup), marked' lookup]
    rfl
  · rw [List.append_assoc, gathered, gathered']
    simp

/-- A character that the quoting rules do not know stands for itself. -/
theorem char {c : Char} (plain : c ≠ '\\' ∧ c ≠ '$' ∧ c ≠ '"' ∧ c ≠ '\'')
    (notBlank : Text.isBlank c = false) : Writes [c] [c] := by
  refine ⟨[.char c], [.char c], fun rest => ?_, fun lookup => rfl, fun begun rest => rfl⟩
  rw [List.singleton_append, Piece.ofText_char_bare plain]
  simp [notBlank]

/-- Characters that the quoting rules do not know stand for themselves. -/
theorem bare {word : List Char} (nonempty : word ≠ [])
    (plain : ∀ c ∈ word, (c ≠ '\\' ∧ c ≠ '$' ∧ c ≠ '"' ∧ c ≠ '\'') ∧
      Text.isBlank c = false) : Writes word word := by
  induction word with
  | nil => exact absurd rfl nonempty
  | cons c word ih =>
      obtain ⟨first, others⟩ := List.forall_mem_cons.1 plain
      by_cases last : word = []
      · subst last
        exact char first.1 first.2
      · exact (char first.1 first.2).append (ih last others)

end Writes

namespace Quotation

/-- How a character is written between double quotes to stand for itself. -/
def escapeChar (c : Char) : List Char :=
  if c = '"' ∨ c = '\\' ∨ c = '$' then ['\\', c] else [c]

/-- A word between double quotes. -/
def double (word : List Char) : List Char :=
  '"' :: (word.flatMap escapeChar ++ ['"'])

theorem ofText_flatMap_escapeChar (word rest : List Char) :
    Piece.ofText true (word.flatMap escapeChar ++ '"' :: rest) =
      word.map Piece.shielded ++ Piece.ofText false rest := by
  induction word with
  | nil => exact Piece.ofText_closing rest
  | cons c word ih =>
      rw [List.flatMap_cons, List.append_assoc, List.map_cons, List.cons_append, ← ih]
      by_cases special : c = '"' ∨ c = '\\' ∨ c = '$'
      · rw [escapeChar, if_pos special]
        exact Piece.ofText_escaped true c _
      · obtain ⟨notQuote, notBackslash, notDollar⟩ : c ≠ '"' ∧ c ≠ '\\' ∧ c ≠ '$' := by
          simpa using special
        rw [escapeChar, if_neg special, Piece.shielded, if_neg notDollar]
        exact Piece.ofText_char_quoted ⟨notBackslash, notDollar, notQuote⟩ _

/-- A text that is read as the characters of a word behind a quote, each standing for itself,
writes the word. -/
theorem writes_of_ofText {text word : List Char}
    (pieces : ∀ rest, Piece.ofText false (text ++ rest) =
      .quote :: word.map Piece.shielded ++ Piece.ofText false rest) : Writes text word := by
  refine ⟨.quote :: word.map Piece.shielded, .start :: word.map Mark.char, pieces,
    fun lookup => ?_, fun begun rest => ?_⟩
  · rw [Mark.ofPieces, Mark.ofPieces_shielded]
    rfl
  · rw [List.cons_append, Mark.gather, Mark.gather_chars]

theorem ofText_double (word rest : List Char) :
    Piece.ofText false (double word ++ rest) =
      .quote :: word.map Piece.shielded ++ Piece.ofText false rest := by
  rw [double, List.cons_append, Piece.ofText_opening, List.append_assoc,
    List.singleton_append, ofText_flatMap_escapeChar]
  rfl

/-- Every word can be written between double quotes. -/
theorem writes_double (word : List Char) : Writes (double word) word :=
  writes_of_ofText (ofText_double word)

theorem mem_of_mem_double {d : Char} {word : List Char} (h : d ∈ double word) :
    d = '"' ∨ d = '\\' ∨ d ∈ word := by
  have escaped : ∀ c, d ∈ escapeChar c → d = '\\' ∨ d = c := by
    intro c hd
    unfold escapeChar at hd
    split at hd <;> simp_all
  simp only [double, List.mem_cons, List.mem_append, List.mem_flatMap, List.not_mem_nil,
    or_false] at h
  rcases h with h | ⟨c, hc, hd⟩ | h
  · exact .inl h
  · rcases escaped c hd with h | rfl
    · exact .inr (.inl h)
    · exact .inr (.inr hc)
  · exact .inl h

/-- A word between single quotes. -/
def single (word : List Char) : List Char :=
  '\'' :: (word ++ ['\''])

/-- The quotes that a word may stand between. -/
inductive Quotes where
  | single
  | double
  deriving DecidableEq

namespace Quotes

/-- A word between quotes. -/
def around : Quotes → List Char → List Char
  | single => Quotation.single
  | double => Quotation.double

/-- Between single quotes nothing stands for a single quote. -/
def Allow : Quotes → List Char → Prop
  | single, word => '\'' ∉ word
  | double, _ => True

instance (quotes : Quotes) (word : List Char) : Decidable (quotes.Allow word) :=
  match quotes with
  | single => inferInstanceAs (Decidable ('\'' ∉ word))
  | double => .isTrue trivial

variable {quotes : Quotes} {word : List Char}

/-- Between quotes every character of a word is shielded from what it means elsewhere. -/
theorem ofText_around (allowed : quotes.Allow word) (rest : List Char) :
    Piece.ofText false (quotes.around word ++ rest) =
      .quote :: word.map Piece.shielded ++ Piece.ofText false rest := by
  cases quotes with
  | single =>
      have shape : Quotes.single.around word ++ rest = '\'' :: (word ++ '\'' :: rest) := by
        simp [around, Quotation.single]
      rw [shape, Piece.ofText_single word rest allowed]
  | double => exact ofText_double word rest

theorem writes_around (allowed : quotes.Allow word) : Writes (quotes.around word) word :=
  writes_of_ofText (ofText_around allowed)

end Quotes

end Quotation

/-! ## Lines -/

/-- Texts on one line with a blank between each two. -/
def spaced (texts : List (List Char)) : List Char :=
  [' '].intercalate texts

theorem spaced_cons_cons (text next : List Char) (texts : List (List Char)) :
    spaced (text :: next :: texts) = text ++ ' ' :: spaced (next :: texts) := by
  simp [spaced, List.intercalate, List.intersperse]

theorem spaced_cons (text : List Char) (texts : List (List Char)) :
    spaced (text :: texts) = text ++ texts.flatMap (' ' :: ·) := by
  induction texts generalizing text with
  | nil => simp [spaced]
  | cons next texts ih => rw [spaced_cons_cons, ih, List.flatMap_cons, List.cons_append]

theorem mem_of_mem_spaced {d : Char} {texts : List (List Char)} (h : d ∈ spaced texts) :
    d = ' ' ∨ ∃ text ∈ texts, d ∈ text :=
  (Text.mem_of_mem_intercalate h).imp List.mem_singleton.1 id

/-- A line of quoted words begins and ends with a quote. -/
theorem Quotation.exists_spaced_double (word : List Char) (words : List (List Char)) :
    ∃ middle, spaced ((word :: words).map double) = '"' :: (middle ++ ['"']) := by
  induction words generalizing word with
  | nil => exact ⟨word.flatMap escapeChar, by simp [spaced, List.intercalate, double]⟩
  | cons next words ih =>
      obtain ⟨middle, rest⟩ := ih next
      refine ⟨word.flatMap escapeChar ++ '"' :: ' ' :: '"' :: middle, ?_⟩
      rw [List.map_cons, List.map_cons, spaced_cons_cons, ← List.map_cons, rest, double]
      simp

theorem ofText_space (rest : List Char) :
    Piece.ofText false (' ' :: rest) = .blank ' ' :: Piece.ofText false rest := by
  rw [Piece.ofText_char_bare (by decide)]
  rfl

/-- The marks of a line of texts give the words that they write. -/
theorem exists_marks_of_spaced (lookup : String → Except Cause String)
    {written : List (List Char × List Char)} (h : ∀ p ∈ written, Writes p.1 p.2) :
    ∃ marks,
      Mark.ofPieces lookup (Piece.ofText false (spaced (written.map (·.1)))) = .ok marks ∧
        Mark.gather none marks = written.map (·.2) := by
  induction written with
  | nil => exact ⟨[], by simp [spaced, List.intercalate, Mark.ofPieces], rfl⟩
  | cons p rest ih =>
      obtain ⟨first, others⟩ := List.forall_mem_cons.1 h
      obtain ⟨ps, marks, pieces, marked, gathered⟩ := first
      -- no blank stands behind the last text
      cases rest with
      | nil =>
          refine ⟨marks, ?_, ?_⟩
          · have alone := pieces []
            simp only [List.append_nil, Piece.ofText_nil, Bool.false_eq_true, if_false] at alone
            simpa [spaced, List.intercalate, List.intersperse, alone] using marked lookup
          · simpa [Mark.gather] using gathered none []
      | cons q rest =>
          obtain ⟨behind, markedBehind, gatheredBehind⟩ := ih others
          refine ⟨marks ++ .gap :: behind, ?_, ?_⟩
          · rw [List.map_cons, List.map_cons, spaced_cons_cons, pieces, ofText_space,
              Mark.ofPieces_append (marked lookup), Mark.ofPieces, ← List.map_cons,
              markedBehind]
            rfl
          · rw [gathered, Mark.gather, gatheredBehind]
            simp

/-- A line of texts is split into the words that they write. -/
theorem splitLine_spaced (scope : Scope) {written : List (List Char × List Char)}
    (h : ∀ p ∈ written, Writes p.1 p.2) :
    splitLine scope (spaced (written.map (·.1))) =
      .ok (written.map fun p => String.ofList p.2) := by
  obtain ⟨marks, marked, gathered⟩ := exists_marks_of_spaced scope.lookup h
  rw [splitLine_eq, marked]
  simp [Except.map, gathered]

end PlotScript
