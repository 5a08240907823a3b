import PlotScript.CommandFile.Line

/-!
# Blocks

Where the script block or the loop ends whose opening line has just been read.
Inside a loop, whole script blocks and whole loops are passed over.
-/

namespace PlotScript.Block

/-- The lines of a script block, and the lines behind its closing line. -/
def takeScript : List Line → Option (List Line × List Line)
  | [] => none
  | line :: rest =>
      if line.statement = .scriptClose then some ([], rest)
      else (takeScript rest).map fun (code, behind) => (line :: code, behind)

/-- The text of a script block: its lines as they are, each with a newline. -/
def code (lines : List Line) : String :=
  String.join (lines.map fun line => line.text ++ "\n")

/-- Where a line inside a loop stands. -/
structure Nesting where
  /-- how many inner loops are open -/
  depth : Nat := 0
  /-- whether a script block is open -/
  inScript : Bool := false
  deriving DecidableEq

/-- Where the line behind a statement stands, unless the statement closes the
loop itself. -/
def Nesting.after? (n : Nesting) (s : Statement) : Option Nesting :=
  if n.inScript then some { n with inScript := s ≠ .scriptClose }
  else
    match s with
    | .scriptOpen => some { n with inScript := true }
    | .loopOpen _ _ => some { n with depth := n.depth + 1 }
    | .loopClose =>
        match n.depth with
        | 0 => none
        | depth + 1 => some { n with depth }
    | _ => some n

/-- The lines of a loop, and the lines behind its closing line. -/
def takeLoop (n : Nesting) : List Line → Option (List Line × List Line)
  | [] => none
  | line :: rest =>
      match n.after? line.statement with
      | none => some ([], rest)
      | some n => (takeLoop n rest).map fun (body, behind) => (line :: body, behind)

theorem length_of_takeScript {lines code behind : List Line}
    (h : takeScript lines = some (code, behind)) :
    code.length + behind.length < lines.length := by
  induction lines generalizing code with
  | nil => simp [takeScript] at h
  | cons line rest ih =>
      unfold takeScript at h
      split at h
      · obtain ⟨rfl, rfl⟩ : [] = code ∧ rest = behind := by simpa using h
        simp
      · obtain ⟨⟨tail, behind'⟩, found, same⟩ := Option.map_eq_some_iff.1 h
        obtain ⟨rfl, rfl⟩ : line :: tail = code ∧ behind' = behind := by simpa using same
        have := ih found
        simp only [List.length_cons]
        omega

/-- A loop that is closed is cut into strictly shorter parts. -/
theorem length_of_takeLoop {n : Nesting} {lines body behind : List Line}
    (h : takeLoop n lines = some (body, behind)) :
    body.length + behind.length < lines.length := by
  induction lines generalizing n body with
  | nil => simp [takeLoop] at h
  | cons line rest ih =>
      unfold takeLoop at h
      split at h
      · obtain ⟨rfl, rfl⟩ : [] = body ∧ rest = behind := by simpa using h
        simp
      · obtain ⟨⟨tail, behind'⟩, found, same⟩ := Option.map_eq_some_iff.1 h
        obtain ⟨rfl, rfl⟩ : line :: tail = body ∧ behind' = behind := by simpa using same
        have := ih found
        simp only [List.length_cons]
        omega

end PlotScript.Block
