import Mathlib.Data.String.Basic
import PlotScript.Proofs.Except

/-!
# Checked access

A text may be read by positions: by the numbers of its characters or, where it is cut, by the
numbers of its bytes. Such a reading could ask for a place that the text does not have, cut a
character in two, or go round a loop without moving on. Here each of these is a result of its own,
so that a reading that never does so can be told from one that is merely not seen to.
-/

namespace PlotScript.Positional

variable {α ε σ : Type}

/-- Why a reading by positions ends without a value. -/
inductive Halt (ε : Type) where
  /-- it asks for a place that is not there -/
  | outOfRange
  /-- a turn of a loop does not move on, or moves past the end of the text -/
  | standstill
  /-- it refuses what it reads -/
  | refused (cause : ε)

/-- Readings in which every access is checked. -/
abbrev Checked (ε : Type) := Except (Halt ε)

/-- A computation that has no access to check. -/
def lift (x : Except ε α) : Checked ε α :=
  x.mapError .refused

@[simp] theorem lift_ok (a : α) : lift (.ok a : Except ε α) = .ok a := rfl

@[simp] theorem lift_error (cause : ε) :
    lift (.error cause : Except ε α) = .error (.refused cause) := rfl

theorem map_lift {β : Type} (x : Except ε α) (f : α → β) : (lift x).map f = lift (x.map f) :=
  map_mapError x f Halt.refused

/-- The element at a position. -/
def item (l : List α) (i : Nat) : Checked ε α :=
  match l[i]? with
  | some a => .ok a
  | none => .error .outOfRange

/-- The stretch from one position to another one. -/
def slice (l : List α) (start stop : Nat) : Checked ε (List α) :=
  if start ≤ stop ∧ stop ≤ l.length then .ok ((l.take stop).drop start) else .error .outOfRange

/-- The stretch of a text from one byte to another one. Both have to be where a character begins
or where the text ends. -/
def byteSlice (s : String) (start stop : Nat) : Checked ε String :=
  if String.Pos.Raw.IsValid s ⟨start⟩ ∧ String.Pos.Raw.IsValid s ⟨stop⟩ ∧ start ≤ stop then
    .ok (String.Pos.Raw.extract s ⟨start⟩ ⟨stop⟩)
  else .error .outOfRange

theorem slice_middle (front middle rest : List α) :
    (slice (front ++ middle ++ rest) front.length (front.length + middle.length) :
      Checked ε (List α)) = .ok middle := by
  have fits : front.length ≤ front.length + middle.length ∧
      front.length + middle.length ≤ (front ++ middle ++ rest).length := by
    simp only [List.length_append]
    omega
  rw [slice, if_pos fits, ← List.length_append, List.take_left, List.drop_left]

/-- The number of bytes of a text. -/
abbrev bytes (s : List Char) : Nat :=
  String.utf8Len s

theorem isValid_bytes (front rest : List Char) :
    String.Pos.Raw.IsValid (String.ofList (front ++ rest)) ⟨bytes front⟩ := by
  refine String.Pos.Raw.isValid_iff_exists_append.2
    ⟨String.ofList front, String.ofList rest, String.ofList_append, ?_⟩
  rw [String.rawEndPos_ofList]

/-- Between two characters a text may be cut, whatever its characters take up. -/
theorem byteSlice_middle (front middle rest : List Char) :
    (byteSlice (String.ofList (front ++ middle ++ rest)) (bytes front)
      (bytes front + bytes middle) : Checked ε String) = .ok (String.ofList middle) := by
  have first := isValid_bytes front (middle ++ rest)
  have last := isValid_bytes (front ++ middle) rest
  rw [← List.append_assoc] at first
  rw [bytes, String.utf8Len_append] at last
  rw [byteSlice, if_pos ⟨first, last, Nat.le_add_right _ _⟩, String.extract_of_valid]

example : (byteSlice "é" 0 1 : Checked Empty String) = .error .outOfRange := by
  rw [byteSlice, if_neg]
  decide

/-! ## What remains of a text -/

/-- At this position of the text the rest is still to be read. -/
def Remains (chars : List Char) (pos : Nat) (rest : List Char) : Prop :=
  ∃ front, chars = front ++ rest ∧ pos = front.length

section

variable {chars rest middle : List Char} {pos : Nat}

theorem remains_start (chars : List Char) : Remains chars 0 chars :=
  ⟨[], rfl, rfl⟩

theorem remains_of_le (within : pos ≤ chars.length) : Remains chars pos (chars.drop pos) :=
  ⟨chars.take pos, (List.take_append_drop pos chars).symm, by
    rw [List.length_take, Nat.min_eq_left within]⟩

theorem Remains.length (here : Remains chars pos rest) :
    pos + rest.length = chars.length := by
  obtain ⟨front, rfl, rfl⟩ := here
  rw [List.length_append]

theorem Remains.le (here : Remains chars pos rest) : pos ≤ chars.length :=
  Nat.le.intro here.length

theorem Remains.lt {c : Char} (here : Remains chars pos (c :: rest)) : pos < chars.length := by
  have sizes := here.length
  rw [List.length_cons] at sizes
  omega

theorem Remains.not_lt (here : Remains chars pos []) : ¬ pos < chars.length := by
  have sizes := here.length
  rw [List.length_nil] at sizes
  omega

theorem Remains.getElem? (here : Remains chars pos rest) : chars[pos]? = rest.head? := by
  obtain ⟨front, rfl, rfl⟩ := here
  rw [List.getElem?_append_right (Nat.le_refl _), Nat.sub_self, List.head?_eq_getElem?]

theorem Remains.append (here : Remains chars pos (middle ++ rest)) :
    Remains chars (pos + middle.length) rest := by
  obtain ⟨front, rfl, rfl⟩ := here
  exact ⟨front ++ middle, (List.append_assoc _ _ _).symm, List.length_append.symm⟩

theorem Remains.tail {c : Char} (here : Remains chars pos (c :: rest)) :
    Remains chars (pos + 1) rest := by
  have front : Remains chars pos ([c] ++ rest) := here
  exact front.append

theorem Remains.slice (here : Remains chars pos (middle ++ rest)) :
    (slice chars pos (pos + middle.length) : Checked ε (List Char)) = .ok middle := by
  obtain ⟨front, rfl, rfl⟩ := here
  rw [← List.append_assoc]
  exact slice_middle front middle rest

/-- Everything that is still to be read. -/
theorem Remains.slice_all (here : Remains chars pos rest) :
    (Positional.slice chars pos chars.length : Checked ε (List Char)) = .ok rest := by
  rw [← here.length]
  rw [← List.append_nil rest] at here
  exact here.slice

theorem Remains.item {c : Char} (here : Remains chars pos (c :: rest)) :
    (item chars pos : Checked ε Char) = .ok c := by
  rw [Positional.item, here.getElem?]
  rfl

end

/-! ## Loops -/

/-- What a turn of a loop comes to: the loop goes on or is left. -/
inductive Turn (σ : Type) where
  | goOn (pos : Nat) (s : σ)
  | leave (pos : Nat) (s : σ)

/-- A loop over the positions of a text. Every turn after which it goes on has to move on in the
text. -/
def loop (length : Nat) (turn : Nat → σ → Checked ε (Turn σ)) (pos : Nat) (s : σ) :
    Checked ε (Nat × σ) :=
  match turn pos s with
  | .error halt => .error halt
  | .ok (.leave next s) => .ok (next, s)
  | .ok (.goOn next s) =>
      if pos < next ∧ next ≤ length then loop length turn next s else .error .standstill
termination_by length - pos

section

variable {ρ : Type} {chars rest : List Char} {pos : Nat} {s : σ}

/-- A turn reads a stretch of the text as `meaning` does, which tells what the loop comes to with a
state at the rest of a text. Where the turn leaves the loop, `after` tells what it comes to. -/
inductive Reads (chars : List Char) (meaning after : σ → List Char → Except ε ρ) (pos : Nat)
    (s : σ) (rest : List Char) : Checked ε (Turn σ) → Prop
  | refuses {cause : ε} (failed : meaning s rest = .error cause) :
      Reads chars meaning after pos s rest (.error (.refused cause))
  | goesOn {next : Nat} {behind : List Char} {t : σ} (ahead : pos < next)
      (there : Remains chars next behind) (same : meaning s rest = meaning t behind) :
      Reads chars meaning after pos s rest (.ok (.goOn next t))
  | leaves {next : Nat} {behind : List Char} {t : σ} (ahead : pos ≤ next)
      (there : Remains chars next behind) (same : meaning s rest = after t behind) :
      Reads chars meaning after pos s rest (.ok (.leave next t))

/-- The same of a reading that comes to an end. -/
inductive ReadsAll (chars : List Char) (meaning after : σ → List Char → Except ε ρ) (pos : Nat)
    (s : σ) (rest : List Char) : Checked ε (Nat × σ) → Prop
  | refuses {cause : ε} (failed : meaning s rest = .error cause) :
      ReadsAll chars meaning after pos s rest (.error (.refused cause))
  | leaves {next : Nat} {behind : List Char} {t : σ} (ahead : pos ≤ next)
      (there : Remains chars next behind) (same : meaning s rest = after t behind) :
      ReadsAll chars meaning after pos s rest (.ok (next, t))

/-- A reading to the end of the text has gathered what the text comes to. -/
theorem ReadsAll.result {meaning : σ → List Char → Except ε σ} {read : Checked ε (Nat × σ)}
    (reads : ReadsAll chars meaning (fun t _ => .ok t) pos s rest read) :
    read.map (·.2) = lift (meaning s rest) := by
  cases reads with
  | refuses failed =>
      rw [failed]
      rfl
  | leaves ahead there same =>
      rw [same]
      rfl

/-- A turn that is a reading of its own goes on behind what that one has read. -/
theorem ReadsAll.goesOn {inner : σ → List Char → Except ε (σ × List Char)}
    {meaning after : σ → List Char → Except ε ρ} {start : Nat} {tail : List Char} {first : σ}
    {read : Checked ε (Nat × σ)}
    (reads : ReadsAll chars inner (fun t behind => .ok (t, behind)) start first tail read)
    (further : pos < start)
    (stated : meaning s rest = (do
      let (t, behind) ← inner first tail
      meaning t behind)) :
    Reads chars meaning after pos s rest (do
      let (next, t) ← read
      return .goOn next t) := by
  cases reads with
  | refuses failed =>
      refine .refuses ?_
      rw [stated, failed]
      rfl
  | leaves ahead there same =>
      refine .goesOn (further.trans_le ahead) there ?_
      rw [stated, same]
      rfl

/-- From every position of the text a turn makes no access that is out of range, and the loop goes
on with a position further on in the text. -/
def MovesOn (chars : List Char) (turn : Nat → σ → Checked ε (Turn σ)) : Prop :=
  ∀ pos s, pos ≤ chars.length →
    match turn pos s with
    | .ok (.goOn next _) => pos < next ∧ next ≤ chars.length
    | .ok (.leave next _) => pos ≤ next ∧ next ≤ chars.length
    | .error halt => ∃ cause, halt = .refused cause

variable {meaning after : σ → List Char → Except ε ρ} {turn : Nat → σ → Checked ε (Turn σ)}

/-- Turns that read the text move on in it. -/
theorem movesOn_of_reads (turns : ∀ {pos rest} s, Remains chars pos rest →
    Reads chars meaning after pos s rest (turn pos s)) : MovesOn chars turn := by
  intro pos s within
  have reads := turns s (remains_of_le within)
  generalize turn pos s = result at reads
  cases reads with
  | refuses failed => exact ⟨_, rfl⟩
  | goesOn ahead there same => exact ⟨ahead, there.le⟩
  | leaves ahead there same => exact ⟨ahead, there.le⟩

/-- A loop reads what its turns read. -/
theorem readsAll_loop (turns : ∀ {pos rest} s, Remains chars pos rest →
    Reads chars meaning after pos s rest (turn pos s)) (here : Remains chars pos rest) (s : σ) :
    ReadsAll chars meaning after pos s rest (loop chars.length turn pos s) := by
  fun_induction loop chars.length turn pos s generalizing rest with
  | case1 pos s halt stopped =>
      have reads := turns s here
      rw [stopped] at reads
      cases reads with
      | refuses failed => exact .refuses failed
  | case2 pos s next t left =>
      have reads := turns s here
      rw [left] at reads
      cases reads with
      | leaves ahead there same => exact .leaves ahead there same
  | case3 pos s next t gone ahead ih =>
      have reads := turns s here
      rw [gone] at reads
      cases reads with
      | goesOn _ there same =>
          have others := ih there
          generalize loop chars.length turn next t = result at others
          cases others with
          | refuses failed => exact .refuses (same.trans failed)
          | leaves further found rest =>
              exact .leaves (ahead.1.le.trans further) found (same.trans rest)
  | case4 pos s next t gone still =>
      have reads := turns s here
      rw [gone] at reads
      cases reads with
      | goesOn ahead there same => exact absurd ⟨ahead, there.le⟩ still

end

end PlotScript.Positional
