import PlotScript.Text.Blank
import PlotScript.Variables.Piece

/-!
# Quoting rules

The quoting rules of a command line, stated as a reading of a text into pieces: blanks, characters
that stand for themselves, dollar signs that quotes or a backslash protect, and references to
variables. A text that breaks the rules is read up to the place where it does, and its last piece
tells why it ends there. Pieces make the words of a line by the marks that they leave, and the
value of an assignment by their texts one behind the other.
-/

namespace PlotScript

namespace Piece

/-- A character that quotes or a backslash protect. -/
def shielded (c : Char) : Piece :=
  if c = '$' then dollar else char c

/-- The pieces of a text. `quoted` tells whether it begins between double
quotes. -/
def ofText (quoted : Bool) (s : List Char) : List Piece :=
  match s with
  | [] => if quoted then [fault .unterminatedDoubleQuote] else []
  | c :: rest =>
      if c = '\\' then
        match rest with
        | [] => if quoted then [fault .unterminatedDoubleQuote] else [char c]
        | escaped :: rest => shielded escaped :: ofText quoted rest
      else if c = '$' then
        match h : Reference.read rest with
        | .error cause => [fault cause]
        | .ok none => char c :: ofText quoted rest
        | .ok (some (r, after)) =>
            have := Reference.length_of_read h
            reference r quoted :: ofText quoted after
      else if c = '"' then
        if quoted then ofText false rest else quote :: ofText true rest
      else if quoted then char c :: ofText true rest
      else if c = '\'' then
        if '\'' ∈ rest then
          have := (List.dropWhile_sublist (· != '\'') (l := rest)).length_le
          quote :: (rest.takeWhile (· != '\'')).map shielded ++
            ofText false ((rest.dropWhile (· != '\'')).drop 1)
        else [fault .unterminatedSingleQuote]
      else (if Text.isBlank c then blank c else char c) :: ofText false rest
termination_by s.length
decreasing_by all_goals (simp_wf; try omega)

/-! What the next characters of a text are read as, one case at a time. -/

@[simp] theorem ofText_nil (quoted : Bool) :
    ofText quoted [] = if quoted then [fault .unterminatedDoubleQuote] else [] := by
  rw [ofText]

@[simp] theorem ofText_escaped (quoted : Bool) (c : Char) (rest : List Char) :
    ofText quoted ('\\' :: c :: rest) = shielded c :: ofText quoted rest := by
  rw [ofText]
  simp

/-- At the end of a text a backslash protects nothing. -/
theorem ofText_backslash (quoted : Bool) :
    ofText quoted ['\\'] = if quoted then [fault .unterminatedDoubleQuote] else [char '\\'] := by
  rw [ofText.eq_def]
  simp

theorem ofText_dollar (quoted : Bool) (rest : List Char) :
    ofText quoted ('$' :: rest) =
      match Reference.read rest with
      | .error cause => [fault cause]
      | .ok none => char '$' :: ofText quoted rest
      | .ok (some (r, after)) => reference r quoted :: ofText quoted after := by
  rw [ofText.eq_def]
  simp only [Char.reduceEq, if_false, if_true]
  split <;> simp_all

@[simp] theorem ofText_opening (rest : List Char) :
    ofText false ('"' :: rest) = quote :: ofText true rest := by
  rw [ofText.eq_def]
  simp

@[simp] theorem ofText_closing (rest : List Char) :
    ofText true ('"' :: rest) = ofText false rest := by
  rw [ofText.eq_def]
  simp

/-- Between single quotes every character stands for itself. -/
theorem ofText_single (word rest : List Char) (h : '\'' ∉ word) :
    ofText false ('\'' :: (word ++ '\'' :: rest)) =
      quote :: word.map shielded ++ ofText false rest := by
  have outside : ∀ c ∈ word, (c != '\'') = true := by
    intro c hc
    rw [bne_iff_ne]
    rintro rfl
    exact h hc
  rw [ofText.eq_def]
  simp [List.takeWhile_append_of_pos outside, List.dropWhile_append_of_pos outside]

theorem ofText_unclosed {rest : List Char} (nowhere : '\'' ∉ rest) :
    ofText false ('\'' :: rest) = [fault .unterminatedSingleQuote] := by
  rw [ofText.eq_def]
  simp [nowhere]

theorem ofText_char_quoted {c : Char} (h : c ≠ '\\' ∧ c ≠ '$' ∧ c ≠ '"') (rest : List Char) :
    ofText true (c :: rest) = char c :: ofText true rest := by
  rw [ofText.eq_def]
  simp [h]

theorem ofText_char_bare {c : Char} (h : c ≠ '\\' ∧ c ≠ '$' ∧ c ≠ '"' ∧ c ≠ '\'')
    (rest : List Char) :
    ofText false (c :: rest) =
      (if Text.isBlank c then blank c else char c) :: ofText false rest := by
  rw [ofText.eq_def]
  simp [h]

/-- The text of a piece whose references are to be expanded later. -/
def defer : Piece → Except Cause (List Char)
  | blank c => .ok [c]
  | quote => .ok []
  | char c => .ok [c]
  | dollar => .ok ['\\', '$']
  | reference r _ => .ok r.spelling
  | fault cause => .error cause

end Piece

/-! ## Words -/

/-- What a piece does to the words that are being gathered. -/
inductive Mark where
  /-- ends the word, if one has begun -/
  | gap
  /-- begins a word, if none has -/
  | start
  | char (c : Char)
  deriving DecidableEq

namespace Mark

/-- The marks of a value that is cut at its blanks. -/
def ofValue (value : List Char) : List Mark :=
  value.map fun c => if Text.isBlank c then gap else char c

/-- The marks of a piece under the values that `lookup` gives to variables. -/
def ofPiece (lookup : String → Except Cause String) : Piece → Except Cause (List Mark)
  | .blank _ => .ok [gap]
  | .quote => .ok [start]
  | .char c => .ok [char c]
  | .dollar => .ok [char '$']
  | .reference r true =>
      (lookup (String.ofList r.name)).map fun value => value.toList.map char
  | .reference r false =>
      (lookup (String.ofList r.name)).map fun value => ofValue value.toList
  | .fault cause => .error cause

/-- The marks of pieces one behind the other, or the first failure. -/
def ofPieces (lookup : String → Except Cause String) : List Piece → Except Cause (List Mark)
  | [] => .ok []
  | p :: rest => do
      let front ← ofPiece lookup p
      let back ← ofPieces lookup rest
      return front ++ back

theorem ofPiece_shielded (lookup : String → Except Cause String) (c : Char) :
    ofPiece lookup (Piece.shielded c) = .ok [char c] := by
  unfold Piece.shielded
  split
  · rename_i isDollar
    rw [isDollar]
    rfl
  · rfl

/-- Protected characters stand for themselves. -/
theorem ofPieces_shielded (lookup : String → Except Cause String) (word : List Char) :
    ofPieces lookup (word.map Piece.shielded) = .ok (word.map char) := by
  induction word with
  | nil => rfl
  | cons c word ih =>
      rw [List.map_cons, ofPieces, ofPiece_shielded, ih]
      rfl

/-- The words between the gaps. `word` holds what has been gathered of a word
that has begun. -/
def gather (word : Option (List Char)) : List Mark → List (List Char)
  | [] => word.toList
  | gap :: rest => word.toList ++ gather none rest
  | start :: rest => gather (some (word.getD [])) rest
  | char c :: rest => gather (some (word.getD [] ++ [c])) rest

end Mark

end PlotScript
