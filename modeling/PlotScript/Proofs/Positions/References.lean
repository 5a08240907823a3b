import PlotScript.Proofs.Positions.Access
import PlotScript.Proofs.Variables.Loops
import PlotScript.Proofs.Variables.Piece

/-!
# References by positions

A reference is read from the position behind its dollar sign, and what is read is told with the
position behind the reference. That one is further on in the text, and no further than its end.
-/

namespace PlotScript.Positional

/-- The reference right behind a dollar sign, with the position behind it. -/
def readReference (chars : List Char) (pos : Nat) : Checked Cause (Option (Reference × Nat)) :=
  match chars[pos]? with
  | none => return none
  | some c => do
      if c = '(' then
        let inside ← slice chars (pos + 1) chars.length
        match inside.findIdx? (· == ')') with
        | none => throw (.refused .unterminatedReference)
        | some close =>
            let name ← slice chars (pos + 1) (pos + 1 + close)
            if Reference.isBracketedName name then
              return some (⟨name, true⟩, pos + close + 2)
            else throw (.refused (.invalidVariableName (String.ofList name)))
      else if Reference.isNameStart c then
        let behind ← slice chars pos chars.length
        let stop :=
          match behind.findIdx? (!Reference.isNameChar ·) with
          | none => chars.length
          | some n => pos + n
        return some (⟨← slice chars pos stop, false⟩, stop)
      else return none

variable {chars rest : List Char} {pos : Nat}

/-- What positions tell of a reference that is read from what remains of the text. -/
def located (chars : List Char) :
    Except Cause (Option (Reference × List Char)) → Checked Cause (Option (Reference × Nat))
  | .error cause => .error (.refused cause)
  | .ok none => .ok none
  | .ok (some (r, behind)) => .ok (some (r, chars.length - behind.length))

theorem readReference_bracket {inside : List Char} (here : Remains chars pos ('(' :: inside)) :
    readReference chars pos = located chars (Reference.read ('(' :: inside)) := by
  rw [readReference, here.getElem?]
  simp only [List.head?_cons, if_true, here.tail.slice_all, bind, Except.bind]
  by_cases closed : ')' ∈ inside
  · obtain ⟨name, behind, rfl, first⟩ := List.eq_append_cons_of_mem closed
    have stop : pos + name.length + 2 = chars.length - behind.length := by
      have sizes := here.length
      simp only [List.length_cons, List.length_append] at sizes
      omega
    rw [findIdx?_eq_some first, Reference.read_brackets first]
    simp only [here.tail.slice]
    split
    · rw [stop]
      rfl
    · rfl
  · rw [findIdx?_eq_none closed, Reference.read_unclosed closed]
    rfl

theorem readReference_name {c : Char} {tail : List Char} (start : Reference.isNameStart c = true)
    (here : Remains chars pos (c :: tail)) :
    readReference chars pos = located chars (Reference.read (c :: tail)) := by
  have notBracket : c ≠ '(' := Reference.ne_of_isNameStart start (by decide)
  have whole := List.takeWhile_append_dropWhile (p := Reference.isNameChar) (l := c :: tail)
  have inside : ∀ d ∈ (c :: tail).takeWhile Reference.isNameChar,
      (!Reference.isNameChar d) = false := by
    intro d member
    rw [Bool.not_eq_false']
    exact List.mem_takeWhile_imp member
  have read : Reference.read (c :: tail) =
      .ok (some (⟨(c :: tail).takeWhile Reference.isNameChar, false⟩,
        (c :: tail).dropWhile Reference.isNameChar)) := by
    rw [Reference.read.eq_def]
    simp [start]
  rw [read, readReference, here.getElem?]
  simp only [List.head?_cons, if_neg notBracket, if_pos start, here.slice_all, bind, Except.bind,
    located]
  generalize (c :: tail).takeWhile Reference.isNameChar = name at whole inside
  generalize behindName : (c :: tail).dropWhile Reference.isNameChar = behind at whole
  rw [← whole] at here ⊢
  have sizes := here.length
  rw [List.length_append] at sizes
  have place : pos + name.length = chars.length - behind.length := by omega
  have cut : (slice chars pos (chars.length - behind.length) : Checked Cause _) = .ok name := by
    rw [← place]
    exact here.slice
  have stop : (match (name ++ behind).findIdx? (!Reference.isNameChar ·) with
      | none => chars.length
      | some n => pos + n) = chars.length - behind.length := by
    cases behind with
    | nil =>
        rw [List.append_nil, List.findIdx?_eq_none_iff.2 inside]
        rfl
    | cons d behind =>
        have other : (!Reference.isNameChar d) = true := by
          rw [Bool.not_eq_true']
          exact Reference.head?_dropWhile_eq_false (congrArg List.head? behindName)
        rw [findIdx?_append_cons inside other]
        exact place
  simp only [stop, cut]
  rfl

/-- A reference is read by positions as it is read from what remains of the text. -/
theorem readReference_eq (here : Remains chars pos rest) :
    readReference chars pos = located chars (Reference.read rest) := by
  cases rest with
  | nil =>
      rw [readReference, here.getElem?]
      rfl
  | cons c tail =>
      by_cases bracket : c = '('
      · subst bracket
        exact readReference_bracket here
      · by_cases start : Reference.isNameStart c = true
        · exact readReference_name start here
        · have lone : ∀ d ∈ (c :: tail).head?, Reference.begins d = false := by
            intro d member
            obtain rfl : c = d := by simpa using member
            simp [Reference.begins, bracket, start]
          rw [readReference, here.getElem?, Reference.read_eq_none lone]
          simp only [List.head?_cons, if_neg bracket, if_neg start]
          rfl

/-- Past the end of the text there is no reference. -/
theorem readReference_drop (chars : List Char) (pos : Nat) :
    readReference chars pos = located chars (Reference.read (chars.drop pos)) := by
  by_cases within : pos ≤ chars.length
  · exact readReference_eq (remains_of_le within)
  · rw [readReference, List.getElem?_eq_none (by omega), List.drop_eq_nil_of_le (by omega)]
    rfl

/-- A reference takes up the stretch behind the dollar sign that it is spelled with. -/
theorem exists_of_read {r : Reference} {behind : List Char}
    (read : Reference.read rest = .ok (some (r, behind))) :
    ∃ written, r.spelling = '$' :: written ∧ rest = written ++ behind := by
  obtain ⟨spelled, -⟩ := Reference.spelling_of_read read
  obtain ⟨name, bracketed⟩ := r
  cases bracketed with
  | true => exact ⟨'(' :: (name ++ [')']), rfl, (List.cons.inj spelled).2⟩
  | false => exact ⟨name, rfl, (List.cons.inj spelled).2⟩

/-- The position behind a reference is ahead of its own one and inside the text. -/
theorem Remains.behind_reference (here : Remains chars pos rest) {r : Reference}
    {behind : List Char} (read : Reference.read rest = .ok (some (r, behind))) :
    pos < chars.length - behind.length ∧ Remains chars (chars.length - behind.length) behind := by
  obtain ⟨written, -, rfl⟩ := exists_of_read read
  have shorter := Reference.length_of_read read
  have there := here.append
  have sizes := there.length
  have place : pos + written.length = chars.length - behind.length := by omega
  rw [List.length_append] at shorter
  rw [← place]
  exact ⟨by omega, there⟩

/-- Wherever a reference is found, reading goes on behind it. -/
theorem readReference_moves_on {r : Reference} {next : Nat}
    (found : readReference chars pos = .ok (some (r, next))) :
    pos < next ∧ next ≤ chars.length := by
  have within : pos ≤ chars.length := by
    by_contra past
    rw [readReference, List.getElem?_eq_none (by omega)] at found
    cases found
  have here := remains_of_le within
  rw [readReference_eq here] at found
  cases read : Reference.read (chars.drop pos) with
  | error cause =>
      rw [read] at found
      cases found
  | ok result =>
      rw [read] at found
      obtain _ | ⟨r, behind⟩ := result
      · cases found
      · cases found
        obtain ⟨ahead, there⟩ := here.behind_reference read
        exact ⟨ahead, there.le⟩

example : readReference "é$(x)ü".toList 2 = .ok (some (⟨['x'], true⟩, 5)) := by
  rfl

theorem Remains.slice_reference (here : Remains chars pos rest) {r : Reference}
    {behind : List Char} (read : Reference.read rest = .ok (some (r, behind))) :
    ((Positional.slice chars pos (chars.length - behind.length)).map ('$' :: ·) :
      Checked Cause _) = .ok r.spelling := by
  obtain ⟨written, spelled, rfl⟩ := exists_of_read read
  have sizes := here.append.length
  have place : pos + written.length = chars.length - behind.length := by omega
  rw [← place, here.slice, spelled]
  rfl

end PlotScript.Positional
