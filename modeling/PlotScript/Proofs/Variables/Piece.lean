import Mathlib.Data.List.TakeWhile
import PlotScript.Proofs.Variables.Quoting

/-!
# References and pieces

When a dollar sign begins a reference and how far the reference goes, and what follows
from the success of a reading that goes piece by piece.
-/

namespace PlotScript

/-! ## References as they are spelled -/

namespace Reference

/-- A name that a reference can have in the form that it is written in. -/
def IsSpelled (r : Reference) : Prop :=
  if r.bracketed then isBracketedName r.name = true
  else ∃ c rest, r.name = c :: rest ∧ isNameStart c = true ∧ ∀ d ∈ rest, isNameChar d = true

theorem ne_of_isNameStart {c d : Char} (h : isNameStart c = true)
    (other : isNameStart d = false) : c ≠ d := by
  rintro rfl
  rw [h] at other
  cases other

theorem isSpelled_of_read {s rest : List Char} {r : Reference}
    (h : read s = .ok (some (r, rest))) : r.IsSpelled := by
  unfold read at h
  split at h
  · split at h
    · cases h
    · dsimp only at h
      split at h
      · rename_i valid
        obtain ⟨rfl, -⟩ : ⟨_, true⟩ = r ∧ _ = rest := by simpa using h
        simpa [IsSpelled] using valid
      · cases h
  · rename_i c tail _
    split at h
    · rename_i start
      obtain ⟨rfl, -⟩ : ⟨(c :: tail).takeWhile isNameChar, false⟩ = r ∧ _ = rest := by
        simpa using h
      refine ⟨c, tail.takeWhile isNameChar, ?_, start, fun d hd => ?_⟩
      · exact List.takeWhile_cons_of_pos (isNameChar_of_isNameStart start)
      · exact List.all_eq_true.1 List.all_takeWhile d hd
    · cases h
  · cases h

/-- Behind an opening bracket anything up to the closing one is taken for a name. -/
theorem read_brackets {name : List Char} (closed : ')' ∉ name) (rest : List Char) :
    read ('(' :: (name ++ ')' :: rest)) =
      if isBracketedName name then .ok (some (⟨name, true⟩, rest))
      else .error (.invalidVariableName (String.ofList name)) := by
  have inside : ∀ c ∈ name, (c != ')') = true := by
    intro c member
    rw [bne_iff_ne]
    rintro rfl
    exact closed member
  simp [read, List.dropWhile_append_of_pos inside, List.takeWhile_append_of_pos inside]

/-- Without a closing bracket there is no name. -/
theorem read_unclosed {inside : List Char} (noBracket : ')' ∉ inside) :
    read ('(' :: inside) = .error .unterminatedReference := by
  have nothing : inside.dropWhile (· != ')') = [] := by
    apply List.dropWhile_eq_nil_iff.2
    intro c member
    rw [bne_iff_ne]
    rintro rfl
    exact noBracket member
  rw [read, nothing]

/-- A bracketed reference ends at its bracket. -/
theorem read_bracketed {name : List Char} (valid : isBracketedName name = true)
    (text : List Char) :
    read ('(' :: (name ++ ')' :: text)) = .ok (some (⟨name, true⟩, text)) := by
  have closed : ')' ∉ name := by
    simp only [isBracketedName, Bool.and_eq_true, List.all_eq_true] at valid
    intro member
    exact absurd (valid.2 _ member) (by decide)
  rw [read_brackets closed, if_pos valid]

/-- A bare reference takes all name characters behind it. -/
theorem read_bare {c : Char} {rest : List Char} (start : isNameStart c = true)
    (inside : ∀ d ∈ rest, isNameChar d = true) (text : List Char) :
    read (c :: (rest ++ text)) =
      .ok (some (⟨c :: (rest ++ text.takeWhile isNameChar), false⟩,
        text.dropWhile isNameChar)) := by
  have first : isNameChar c = true := isNameChar_of_isNameStart start
  have notBracket : c ≠ '(' := ne_of_isNameStart start (by decide)
  rw [read.eq_def]
  split
  · rename_i heq
    exact absurd (List.cons.inj heq).1 notBracket
  · rename_i heq
    obtain ⟨rfl, rfl⟩ := List.cons.inj heq
    simp only [start, if_true, List.takeWhile_cons_of_pos first,
      List.dropWhile_cons_of_pos first, List.takeWhile_append_of_pos inside,
      List.dropWhile_append_of_pos inside]
  · rename_i heq
    cases heq

/-- A bare reference ends where the name characters do. -/
theorem read_bare_of_ends {c : Char} {rest : List Char} (start : isNameStart c = true)
    (inside : ∀ d ∈ rest, isNameChar d = true) {text : List Char}
    (ends : ∀ d ∈ text.head?, isNameChar d = false) :
    read (c :: (rest ++ text)) = .ok (some (⟨c :: rest, false⟩, text)) := by
  have stops : text.takeWhile isNameChar = [] ∧ text.dropWhile isNameChar = text := by
    cases text with
    | nil => exact ⟨rfl, rfl⟩
    | cons d text => simp [ends d rfl]
  rw [read_bare start inside, stops.1, stops.2, List.append_nil]

/-- What begins a reference behind a dollar sign. -/
def begins (c : Char) : Bool :=
  c == '(' || isNameStart c

theorem read_eq_none {s : List Char} (h : ∀ c ∈ s.head?, begins c = false) :
    read s = .ok none := by
  cases s with
  | nil => rfl
  | cons c rest =>
      have no : c ≠ '(' ∧ isNameStart c = false := by simpa [begins] using h c rfl
      rw [read.eq_def]
      split
      · rename_i heq
        exact absurd (List.cons.inj heq).1 no.1
      · rename_i heq
        obtain ⟨rfl, rfl⟩ := List.cons.inj heq
        simp [no.2]
      · rfl

theorem read_ne_none {c : Char} (rest : List Char) (h : begins c = true) :
    read (c :: rest) ≠ .ok none := by
  rw [read.eq_def]
  split
  · split
    · simp
    · dsimp only
      split <;> simp
  · rename_i notBracket heq
    obtain ⟨rfl, rfl⟩ := List.cons.inj heq
    have start : isNameStart c = true := by
      simp only [begins, Bool.or_eq_true, beq_iff_eq] at h
      rcases h with rfl | start
      · exact absurd rfl notBracket
      · exact start
    simp [start]
  · rename_i heq
    cases heq

/-- A word that may stand in the brackets of a reference. -/
def IsWord (name : List Char) : Prop :=
  name ≠ [] ∧ ∀ c ∈ name, c.isAlphanum = true ∨ c = '_' ∨ c = '-'

theorem isBracketedName_iff {name : List Char} : isBracketedName name = true ↔ IsWord name := by
  simp [isBracketedName, isNameChar, IsWord, or_assoc]

/-- The text behind a dollar sign begins with a reference to a name: a bare name that
goes as far as it can, or a word in brackets. -/
inductive AtFront : List Char → List Char → List Char → Prop
  | bare {c : Char} {tail rest : List Char} (start : isNameStart c = true)
      (inside : ∀ d ∈ tail, isNameChar d = true)
      (ends : ∀ d, rest.head? = some d → isNameChar d = false) :
      AtFront (c :: (tail ++ rest)) (c :: tail) rest
  | bracketed {name rest : List Char} (isWord : IsWord name) :
      AtFront ('(' :: (name ++ ')' :: rest)) name rest

theorem exists_read_of_atFront {s name rest : List Char} (front : AtFront s name rest) :
    ∃ r, read s = .ok (some (r, rest)) ∧ r.name = name := by
  cases front with
  | bare start inside ends => exact ⟨_, read_bare_of_ends start inside ends, rfl⟩
  | bracketed isWord =>
      exact ⟨⟨name, true⟩, read_bracketed (isBracketedName_iff.2 isWord) rest, rfl⟩

theorem head?_dropWhile_eq_false {p : Char → Bool} {s : List Char} {c : Char}
    (h : (s.dropWhile p).head? = some c) : p c = false := by
  have nonempty : s.dropWhile p ≠ [] := by
    intro empty
    rw [empty] at h
    cases h
  have first := List.head_dropWhile_not p nonempty
  rw [List.head?_eq_some_head nonempty] at h
  rw [← Option.some.inj h]
  exact first

/-- A reference that is read is spelled at the front of the text, and a bare name goes as far
as it can. -/
theorem spelling_of_read {s after : List Char} {r : Reference}
    (h : read s = .ok (some (r, after))) :
    '$' :: s = r.spelling ++ after ∧
      (r.bracketed = false → ∀ c ∈ after.head?, isNameChar c = false) := by
  unfold read at h
  split at h
  · rename_i inside
    split at h
    · cases h
    · rename_i closing behind found
      dsimp only at h
      split at h
      · obtain ⟨rfl, rfl⟩ : ⟨inside.takeWhile (· != ')'), true⟩ = r ∧ behind = after := by
          simpa using h
        have isBracket : closing = ')' := by
          simpa using head?_dropWhile_eq_false (congrArg List.head? found)
        have whole := List.takeWhile_append_dropWhile (p := (· != ')')) (l := inside)
        rw [found, isBracket] at whole
        refine ⟨by simp [spelling, whole], fun isBare => ?_⟩
        cases isBare
      · cases h
  · rename_i c tail _
    split at h
    · obtain ⟨rfl, rfl⟩ : ⟨(c :: tail).takeWhile isNameChar, false⟩ = r ∧
          (c :: tail).dropWhile isNameChar = after := by
        simpa using h
      refine ⟨?_, fun _ d => head?_dropWhile_eq_false⟩
      simp [spelling, List.takeWhile_append_dropWhile]
    · cases h
  · cases h

theorem atFront_of_read {s rest : List Char} {r : Reference}
    (h : read s = .ok (some (r, rest))) : AtFront s r.name rest := by
  obtain ⟨spelled, limit⟩ := spelling_of_read h
  have valid := isSpelled_of_read h
  obtain ⟨name, bracketed⟩ := r
  cases bracketed with
  | true =>
      obtain rfl : s = '(' :: (name ++ ')' :: rest) := by simpa [spelling] using spelled
      exact .bracketed (isBracketedName_iff.1 valid)
  | false =>
      obtain ⟨c, tail, rfl, start, inside⟩ := valid
      obtain rfl : s = c :: (tail ++ rest) := by simpa [spelling] using spelled
      exact .bare start inside (limit rfl)

theorem AtFront.unique {s name other rest behind : List Char} (front : AtFront s name rest)
    (again : AtFront s other behind) : name = other ∧ rest = behind := by
  obtain ⟨r, found, rfl⟩ := exists_read_of_atFront front
  obtain ⟨q, same, rfl⟩ := exists_read_of_atFront again
  rw [found] at same
  obtain ⟨rfl, rfl⟩ : r = q ∧ rest = behind := by simpa using same
  exact ⟨rfl, rfl⟩

/-- A dollar sign with a reference behind it does not stand for itself. -/
theorem AtFront.not_lone {s name rest : List Char} (front : AtFront s name rest) :
    ¬ ∀ c ∈ s.head?, begins c = false := by
  intro lone
  cases front with
  | @bare c tail rest start inside ends => simpa [begins, start] using lone c rfl
  | bracketed isWord => exact absurd (lone '(' rfl) (by decide)

/-- A dollar sign that stands for itself has no reference behind it. -/
theorem begins_eq_false_of_read {s : List Char} (h : read s = .ok none) :
    ∀ c ∈ s.head?, begins c = false := by
  intro c member
  cases s with
  | nil => cases member
  | cons d s =>
      obtain rfl : d = c := by simpa using member
      exact Bool.eq_false_iff.2 fun isBegin => read_ne_none s isBegin h

/-- Only a bracket can be in the way of a reading. -/
theorem exists_bracket_of_read_error {s : List Char} {cause : Cause}
    (h : read s = .error cause) : (∃ inside, s = '(' :: inside) ∧ cause.kind = .grammar := by
  unfold read at h
  split at h
  · rename_i inside
    refine ⟨⟨inside, rfl⟩, ?_⟩
    split at h
    · obtain rfl := Except.error.inj h
      rfl
    · dsimp only at h
      split at h
      · cases h
      · obtain rfl := Except.error.inj h
        rfl
  · split at h <;> cases h
  · cases h

end Reference

/-! ## The texts of pieces -/

namespace Piece

theorem concat_cons_eq_ok {text : Piece → Except Cause (List Char)} {p : Piece}
    {rest : List Piece} {whole : List Char} (h : concat text (p :: rest) = .ok whole) :
    ∃ front back, text p = .ok front ∧ concat text rest = .ok back ∧ whole = front ++ back := by
  rw [concat] at h
  cases first : text p with
  | error cause =>
      rw [first] at h
      cases h
  | ok front =>
      cases others : concat text rest with
      | error cause =>
          rw [first, others] at h
          cases h
      | ok back =>
          rw [first, others] at h
          exact ⟨front, back, rfl, rfl, (Except.ok.inj h).symm⟩

theorem concat_cons_eq_error {text : Piece → Except Cause (List Char)} {p : Piece}
    {rest : List Piece} {cause : Cause} (h : concat text (p :: rest) = .error cause) :
    text p = .error cause ∨ concat text rest = .error cause := by
  rw [concat] at h
  cases first : text p with
  | error other =>
      rw [first] at h
      exact .inl h
  | ok front =>
      cases others : concat text rest with
      | error other =>
          rw [first, others] at h
          exact .inr h
      | ok back =>
          rw [first, others] at h
          cases h

/-- A piece that has a text is not to blame. -/
theorem concat_eq_error_of_ok {text : Piece → Except Cause (List Char)} {p : Piece}
    {rest : List Piece} {front : List Char} {cause : Cause} (first : text p = .ok front)
    (h : concat text (p :: rest) = .error cause) : concat text rest = .error cause := by
  rcases concat_cons_eq_error h with here | behind
  · rw [first] at here
    cases here
  · exact behind

end Piece

end PlotScript
