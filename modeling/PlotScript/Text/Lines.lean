/-!
# Physical lines

A text is cut behind every newline; a line is such a piece without its newline
and without a carriage return right before that newline. A text that ends with
a newline has no empty last line.
-/

namespace PlotScript.Text

/-- The pieces of a text, each but the last ending in its only newline. -/
def linePieces : List Char → List (List Char)
  | [] => []
  | c :: rest =>
      if c = '\n' then [c] :: linePieces rest
      else
        match linePieces rest with
        | [] => [[c]]
        | piece :: pieces => (c :: piece) :: pieces

/-- A piece without the end of its line. -/
def dropLineEnd (piece : List Char) : List Char :=
  match piece.reverse with
  | '\n' :: '\r' :: line => line.reverse
  | '\n' :: line => line.reverse
  | _ => piece

/-- The lines of a text. -/
def lines (s : List Char) : List (List Char) :=
  (linePieces s).map dropLineEnd

/-- No character is lost or added by cutting a text into pieces. -/
theorem flatten_linePieces (s : List Char) : (linePieces s).flatten = s := by
  induction s with
  | nil => rfl
  | cons c rest ih =>
      unfold linePieces
      split
      · simp [ih]
      · cases h : linePieces rest with
        | nil => rw [h] at ih; simp [← ih]
        | cons piece pieces => rw [h] at ih; simp [← ih]

end PlotScript.Text
