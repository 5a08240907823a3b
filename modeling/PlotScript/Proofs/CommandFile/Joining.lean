import PlotScript.CommandFile.Line
import PlotScript.Proofs.CommandFile.Statement
import PlotScript.Proofs.Text.Blank

/-!
# Joining lines step by step

The logical lines of a file are made in one pass over the physical lines. Between two
physical lines the pass knows whether it is in a script block and what is left to be
continued. So the pass over two parts of a file is the pass over the first part and then,
from where it stands, the pass over the second one.
-/

namespace PlotScript.Line

/-- Where the joining of lines stands between two physical lines. -/
structure Reading where
  inScript : Bool := false
  /-- what the lines before have left to be continued -/
  pending : List Char := []
  deriving DecidableEq

namespace Reading

/-- Where the joining stands behind a physical line. -/
def next (r : Reading) (raw : List Char) : Reading :=
  if r.inScript then { r with inScript := !closesScript raw }
  else
    match continued? raw with
    | some front => { r with pending := r.pending ++ front }
    | none => { inScript := (ofChars 0 (Text.trimEnd (r.pending ++ raw))).statement = .scriptOpen }

/-- The logical line that ends with a physical line, if one does. -/
def line? (r : Reading) (number : Nat) (raw : List Char) : Option Line :=
  if r.inScript then some (ofChars number raw)
  else
    match continued? raw with
    | some _ => none
    | none => some (ofChars number (Text.trimEnd (r.pending ++ raw)))

/-- Where the joining stands behind some physical lines. -/
def after (r : Reading) (lines : List (List Char)) : Reading :=
  lines.foldl next r

/-- The logical lines that end with one of the physical lines that follow line `number`. -/
def joined (r : Reading) (number : Nat) : List (List Char) → List Line
  | [] => []
  | raw :: rest => (r.line? (number + 1) raw).toList ++ (r.next raw).joined (number + 1) rest

end Reading

/-! ## The pass over a part of a file -/

theorem join_cons (r : Reading) (number : Nat) (raw : List Char) (rest : List (List Char)) :
    join r.inScript r.pending number (raw :: rest) =
      (r.line? (number + 1) raw).toList ++
        join (r.next raw).inScript (r.next raw).pending (number + 1) rest := by
  obtain ⟨inScript, pending⟩ := r
  cases inScript with
  | true => rfl
  | false =>
      rw [join, Reading.line?, Reading.next]
      cases continued? raw with
      | some front => rfl
      | none => rfl

/-- The pass over two parts of a file. -/
theorem join_append (r : Reading) (number : Nat) (front behind : List (List Char)) :
    join r.inScript r.pending number (front ++ behind) =
      r.joined number front ++
        join (r.after front).inScript (r.after front).pending (number + front.length) behind := by
  induction front generalizing r number with
  | nil => rfl
  | cons raw rest ih =>
      have shift : number + 1 + rest.length = number + (raw :: rest).length := by
        rw [List.length_cons]
        omega
      rw [List.cons_append, join_cons, ih, shift, Reading.joined, List.append_assoc]
      rfl

/-! ## Script blocks -/

/-- Both passes over a file tell the closing lines of script blocks alike. -/
theorem statement_ofChars_eq_scriptClose_iff {number : Nat} {raw : List Char} :
    (ofChars number raw).statement = .scriptClose ↔ closesScript raw = true := by
  rw [statement, ofChars, String.toList_ofList, Statement.classify_eq_scriptClose_iff,
    closesScript, decide_eq_true_iff]

namespace Reading

variable {r : Reading} {raw : List Char}

theorem next_of_inScript (h : r.inScript = true) :
    r.next raw = { r with inScript := !closesScript raw } :=
  if_pos h

theorem next_of_continued {front : List Char} (h : r.inScript = false)
    (continued : continued? raw = some front) :
    r.next raw = { r with pending := r.pending ++ front } := by
  rw [next, h, continued]
  rfl

/-- Outside script blocks a line that is not continued opens one when the text of the whole
logical line does. -/
theorem next_of_ended (h : r.inScript = false) (ended : continued? raw = none) :
    r.next raw = { inScript := Text.trim (r.pending ++ raw) = "ruby".toList } := by
  have opens : (ofChars 0 (Text.trimEnd (r.pending ++ raw))).statement = .scriptOpen ↔
      Text.trim (r.pending ++ raw) = "ruby".toList := by
    rw [statement, ofChars, String.toList_ofList, Statement.classify_eq_scriptOpen_iff,
      Text.trim_trimEnd]
  rw [next, h, ended]
  simp only [Bool.false_eq_true, if_false, opens]

/-- A script block begins with a line that ends there, so nothing is left to be continued
inside it. -/
def IsSettled (r : Reading) : Prop :=
  r.inScript = true → r.pending = []

theorem IsSettled.next (settled : r.IsSettled) (raw : List Char) : (r.next raw).IsSettled := by
  intro inside
  cases h : r.inScript with
  | true =>
      rw [next_of_inScript h]
      exact settled h
  | false =>
      cases continued : continued? raw with
      | some front =>
          rw [next_of_continued h continued] at inside
          exact absurd inside (by simp [h])
      | none => rw [next_of_ended h continued]

theorem IsSettled.after (settled : r.IsSettled) (lines : List (List Char)) :
    (r.after lines).IsSettled := by
  induction lines generalizing r with
  | nil => exact settled
  | cons raw rest ih => exact ih (settled.next raw)

end Reading

end PlotScript.Line
