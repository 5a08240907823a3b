import PlotScript.Diagnostic.Cause
import PlotScript.Text.Blank

/-!
# References and pieces

How a reference to a variable is read behind a dollar sign, and the pieces that a text is made of:
characters that stand for themselves, dollar signs that are protected, and references. An
expression is expanded piece by piece. What the variables hold is looked up then.
-/

namespace PlotScript

/-- A reference to a variable, written `$name` or `$(name)`. -/
structure Reference where
  name : List Char
  bracketed : Bool
  deriving DecidableEq

namespace Reference

/-- A reference as it is written. -/
def spelling (r : Reference) : List Char :=
  if r.bracketed then '$' :: '(' :: (r.name ++ [')']) else '$' :: r.name

def isNameStart (c : Char) : Bool :=
  c.isAlpha || c == '_'

def isNameChar (c : Char) : Bool :=
  c.isAlphanum || c == '_'

/-- A name in parentheses may hold hyphens. -/
def isBracketedName (name : List Char) : Bool :=
  !name.isEmpty && name.all fun c => isNameChar c || c == '-'

/-- The reference that follows a dollar sign, and the text behind it. Without
one the dollar sign stands for itself. -/
def read (s : List Char) : Except Cause (Option (Reference × List Char)) :=
  match s with
  | '(' :: rest =>
      match rest.dropWhile (· != ')') with
      | [] => .error .unterminatedReference
      | _ :: after =>
          let name := rest.takeWhile (· != ')')
          if isBracketedName name then .ok (some (⟨name, true⟩, after))
          else .error (.invalidVariableName (String.ofList name))
  | c :: _ =>
      if isNameStart c then
        .ok (some (⟨s.takeWhile isNameChar, false⟩, s.dropWhile isNameChar))
      else .ok none
  | [] => .ok none

theorem isNameChar_of_isNameStart {c : Char} (h : isNameStart c = true) :
    isNameChar c = true := by
  simp only [isNameStart, isNameChar, Char.isAlphanum, Bool.or_eq_true] at h ⊢
  rcases h with h | h
  · exact .inl (.inl h)
  · exact .inr h

/-- A reference takes up at least one character behind the dollar sign. -/
theorem length_of_read {s rest : List Char} {r : Reference}
    (h : read s = .ok (some (r, rest))) : rest.length < s.length := by
  unfold read at h
  split at h
  · rename_i after
    split at h
    · simp at h
    · rename_i closing behind found
      dsimp only at h
      split at h
      · obtain ⟨-, rfl⟩ : _ ∧ behind = rest := by simpa using h
        have := (List.dropWhile_sublist (· != ')') (l := after)).length_le
        rw [found] at this
        simp only [List.length_cons] at this ⊢
        omega
      · simp at h
  · rename_i c tail notBracket
    split at h
    · rename_i start
      obtain ⟨-, rfl⟩ : _ ∧ (c :: tail).dropWhile isNameChar = rest := by simpa using h
      rw [List.dropWhile_cons_of_pos (isNameChar_of_isNameStart start)]
      have := (List.dropWhile_sublist isNameChar (l := tail)).length_le
      simp only [List.length_cons]
      omega
    · simp at h
  · simp at h

end Reference

/-- What a stretch of a text means under the quoting rules. -/
inductive Piece where
  /-- white space that nothing protects -/
  | blank (c : Char)
  /-- the beginning of a quoted stretch, which may be empty -/
  | quote
  | char (c : Char)
  /-- a dollar sign that quotes or a backslash protect -/
  | dollar
  | reference (r : Reference) (quoted : Bool)
  /-- the rules are broken here -/
  | fault (cause : Cause)
  deriving DecidableEq

namespace Piece

/-- The pieces of an expression that is expanded once more: only references
count, and only a dollar sign can be protected. -/
def ofExpression (s : List Char) : List Piece :=
  match s with
  | [] => []
  | c :: rest =>
      if c = '\\' ∧ rest.head? = some '$' then dollar :: ofExpression (rest.drop 1)
      else if c = '$' then
        match h : Reference.read rest with
        | .error cause => [fault cause]
        | .ok none => char c :: ofExpression rest
        | .ok (some (r, after)) =>
            have := Reference.length_of_read h
            reference r true :: ofExpression after
      else char c :: ofExpression rest
termination_by s.length
decreasing_by all_goals (simp_wf; try omega)

/-! What the next characters of an expression are read as, one case at a time. -/

@[simp] theorem ofExpression_nil : ofExpression [] = [] := by
  rw [ofExpression]

@[simp] theorem ofExpression_protected (rest : List Char) :
    ofExpression ('\\' :: '$' :: rest) = dollar :: ofExpression rest := by
  rw [ofExpression.eq_def]
  simp

theorem ofExpression_dollar (rest : List Char) :
    ofExpression ('$' :: rest) =
      match Reference.read rest with
      | .error cause => [fault cause]
      | .ok none => char '$' :: ofExpression rest
      | .ok (some (r, after)) => reference r true :: ofExpression after := by
  rw [ofExpression.eq_def]
  simp only [Char.reduceEq, false_and, if_false, if_true]
  split <;> simp_all

theorem ofExpression_char {c : Char} {rest : List Char} (notDollar : c ≠ '$')
    (notProtecting : c = '\\' → rest.head? ≠ some '$') :
    ofExpression (c :: rest) = char c :: ofExpression rest := by
  rw [ofExpression.eq_def]
  simp only [notDollar, if_false]
  rw [if_neg fun both => notProtecting both.1 both.2]

/-- The text of a piece under the values that `lookup` gives to variables. -/
def expand (lookup : String → Except Cause String) : Piece → Except Cause (List Char)
  | blank c => .ok [c]
  | quote => .ok []
  | char c => .ok [c]
  | dollar => .ok ['$']
  | reference r _ => (lookup (String.ofList r.name)).map String.toList
  | fault cause => .error cause

/-- The texts of pieces one behind the other, or the first failure. -/
def concat (text : Piece → Except Cause (List Char)) : List Piece → Except Cause (List Char)
  | [] => .ok []
  | p :: rest => do
      let front ← text p
      let back ← concat text rest
      return front ++ back

end Piece

end PlotScript
