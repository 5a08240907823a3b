import PlotScript.CommandFile.Block

/-!
# The ends of blocks

A script block goes to the first line that closes one, and a loop to the first line that closes
it. Inside a loop, single statements, whole script blocks and whole loops leave the account of
open blocks as it is. So they belong to the body of the loop, whatever stands behind them.
-/

namespace PlotScript

/-- Statements that neither open a block nor close a loop. -/
def Statement.isSingle : Statement → Bool
  | scriptOpen | loopOpen _ _ | loopClose => false
  | blank | scriptClose | assignment _ _ _ _ | command => true

/-- Lines in which every block that is opened is closed, and in which no loop is closed that is
not open. The closing line of a script block may stand where no script block is open: there it
closes nothing. -/
inductive Enclosed : List Line → Prop
  | nil : Enclosed []
  | single {line : Line} {rest : List Line} (isSingle : line.statement.isSingle = true)
      (tail : Enclosed rest) : Enclosed (line :: rest)
  | script {opening closing : Line} {code rest : List Line}
      (opens : opening.statement = .scriptOpen)
      (inside : ∀ line ∈ code, line.statement ≠ .scriptClose)
      (closes : closing.statement = .scriptClose)
      (tail : Enclosed rest) : Enclosed (opening :: (code ++ closing :: rest))
  | loop {opening closing : Line} {name list : String} {body rest : List Line}
      (opens : opening.statement = .loopOpen name list) (inner : Enclosed body)
      (closes : closing.statement = .loopClose) (tail : Enclosed rest) :
      Enclosed (opening :: (body ++ closing :: rest))

namespace Block

/-! ## Script blocks -/

/-- A script block goes to the first line that closes one. -/
theorem takeScript_eq_some_iff {lines code behind : List Line} :
    takeScript lines = some (code, behind) ↔
      ∃ closing, lines = code ++ closing :: behind ∧ closing.statement = .scriptClose ∧
        ∀ line ∈ code, line.statement ≠ .scriptClose := by
  induction lines generalizing code with
  | nil =>
      constructor
      · intro cut
        cases cut
      · rintro ⟨closing, split, -⟩
        cases code with
        | nil => cases split
        | cons => cases split
  | cons line rest ih =>
      unfold takeScript
      by_cases closes : line.statement = .scriptClose
      · rw [if_pos closes]
        constructor
        · intro cut
          obtain ⟨rfl, rfl⟩ := Prod.mk.inj (Option.some.inj cut)
          exact ⟨line, rfl, closes, List.forall_mem_nil _⟩
        · rintro ⟨closing, split, -, inside⟩
          cases code with
          | nil =>
              obtain ⟨-, rfl⟩ := List.cons.inj split
              rfl
          | cons first code =>
              obtain ⟨rfl, -⟩ := List.cons.inj split
              exact absurd closes (inside line List.mem_cons_self)
      · rw [if_neg closes, Option.map_eq_some_iff]
        constructor
        · rintro ⟨⟨code, behind⟩, found, same⟩
          obtain ⟨rfl, rfl⟩ := Prod.mk.inj same
          obtain ⟨closing, rfl, closing_closes, inside⟩ := ih.1 found
          exact ⟨closing, rfl, closing_closes, List.forall_mem_cons.2 ⟨closes, inside⟩⟩
        · rintro ⟨closing, split, closing_closes, inside⟩
          cases code with
          | nil =>
              obtain ⟨rfl, -⟩ := List.cons.inj split
              exact absurd closing_closes closes
          | cons first code =>
              obtain ⟨rfl, others⟩ := List.cons.inj split
              have insideOthers := (List.forall_mem_cons.1 inside).2
              exact ⟨_, ih.2 ⟨closing, others, closing_closes, insideOthers⟩, rfl⟩

theorem not_closes_of_takeScript_eq_none {lines : List Line}
    (missing : takeScript lines = none) :
    ∀ line ∈ lines, line.statement ≠ .scriptClose := by
  induction lines with
  | nil => exact List.forall_mem_nil _
  | cons line rest ih =>
      by_cases closes : line.statement = .scriptClose
      · rw [takeScript, if_pos closes] at missing
        cases missing
      · rw [takeScript, if_neg closes, Option.map_eq_none_iff] at missing
        exact List.forall_mem_cons.2 ⟨closes, ih missing⟩

/-! ## The account of open blocks -/

namespace Nesting

/-- Where the lines behind some lines of a loop stand, unless one of these closes the loop. -/
def through? (n : Nesting) (lines : List Line) : Option Nesting :=
  lines.foldlM (fun n line => n.after? line.statement) n

theorem through?_cons {n m : Nesting} {line : Line} (h : n.after? line.statement = some m)
    (rest : List Line) : n.through? (line :: rest) = m.through? rest := by
  rw [through?, List.foldlM_cons, h]
  rfl

theorem through?_append {n m : Nesting} {front : List Line} (h : n.through? front = some m)
    (rest : List Line) : n.through? (front ++ rest) = m.through? rest := by
  unfold through? at h ⊢
  rw [List.foldlM_append, h]
  rfl

theorem after?_of_isSingle {s : Statement} (depth : Nat) (single : s.isSingle = true) :
    after? ⟨depth, false⟩ s = some ⟨depth, false⟩ := by
  cases s with
  | scriptOpen | loopOpen | loopClose => cases single
  | _ => rfl

theorem through?_code {code : List Line} (inside : ∀ line ∈ code, line.statement ≠ .scriptClose)
    (depth : Nat) : through? ⟨depth, true⟩ code = some ⟨depth, true⟩ := by
  induction code with
  | nil => rfl
  | cons line code ih =>
      obtain ⟨stays, others⟩ := List.forall_mem_cons.1 inside
      have step : after? ⟨depth, true⟩ line.statement = some ⟨depth, true⟩ := by
        simp [after?, stays]
      rw [through?_cons step, ih others]

variable {opening closing : Line} {code body rest : List Line}

/-- The lines of a script block count for nothing, whatever they look like. -/
theorem through?_script (opens : opening.statement = .scriptOpen)
    (inside : ∀ line ∈ code, line.statement ≠ .scriptClose)
    (closes : closing.statement = .scriptClose) (depth : Nat) :
    through? ⟨depth, false⟩ (opening :: (code ++ closing :: rest)) =
      through? ⟨depth, false⟩ rest := by
  have enter : after? ⟨depth, false⟩ opening.statement = some ⟨depth, true⟩ := by
    rw [opens]
    rfl
  have leave : after? ⟨depth, true⟩ closing.statement = some ⟨depth, false⟩ := by
    rw [closes]
    rfl
  rw [through?_cons enter, through?_append (through?_code inside depth), through?_cons leave]

/-- A loop inside is met one level deeper. -/
theorem through?_loop {name list : String} (opens : opening.statement = .loopOpen name list)
    (passed : ∀ depth, through? ⟨depth, false⟩ body = some ⟨depth, false⟩)
    (closes : closing.statement = .loopClose) (depth : Nat) :
    through? ⟨depth, false⟩ (opening :: (body ++ closing :: rest)) =
      through? ⟨depth, false⟩ rest := by
  have enter : after? ⟨depth, false⟩ opening.statement = some ⟨depth + 1, false⟩ := by
    rw [opens]
    rfl
  have leave : after? ⟨depth + 1, false⟩ closing.statement = some ⟨depth, false⟩ := by
    rw [closes]
    rfl
  rw [through?_cons enter, through?_append (passed _), through?_cons leave]

variable {n m : Nesting} {lines : List Line}

/-- A loop around them passes over enclosed lines. -/
theorem passed_of_enclosed (enclosed : Enclosed lines) (depth : Nat) :
    through? ⟨depth, false⟩ lines = some ⟨depth, false⟩ := by
  -- the depth is that of the loops around, so a loop inside is met one level deeper
  induction enclosed generalizing depth with
  | nil => rfl
  | single isSingle _ ih => rw [through?_cons (after?_of_isSingle depth isSingle), ih]
  | script opens inside closes _ ih => rw [through?_script opens inside closes, ih]
  | loop opens _ closes _ innerIH tailIH => rw [through?_loop opens innerIH closes, tailIH]

/-- The account with `k` more loops around. -/
def deeper (k : Nat) (n : Nesting) : Nesting :=
  { n with depth := n.depth + k }

theorem after?_deeper (k : Nat) {s : Statement} (after : n.after? s = some m) :
    (n.deeper k).after? s = some (m.deeper k) := by
  obtain ⟨depth, inScript⟩ := n
  cases inScript with
  | true =>
      obtain rfl := Option.some.inj after
      rfl
  | false =>
      cases s with
      | loopOpen =>
          obtain rfl := Option.some.inj after
          show some (⟨depth + k + 1, false⟩ : Nesting) = some ⟨depth + 1 + k, false⟩
          rw [Nat.add_right_comm]
      | loopClose =>
          cases depth with
          | zero => cases after
          | succ depth =>
              obtain rfl := Option.some.inj after
              rw [deeper, Nat.add_right_comm]
              rfl
      | _ =>
          obtain rfl := Option.some.inj after
          rfl

theorem through?_deeper (k : Nat) (through : n.through? lines = some m) :
    (n.deeper k).through? lines = some (m.deeper k) := by
  induction lines generalizing n with
  | nil =>
      obtain rfl := Option.some.inj through
      rfl
  | cons line rest ih =>
      cases after : n.after? line.statement with
      | none =>
          rw [through?, List.foldlM_cons, after] at through
          cases through
      | some inner =>
          rw [through?_cons after] at through
          rw [through?_cons (after?_deeper k after), ih through]

/-- Lines that a loop passes over are passed over at any depth. -/
theorem passed_of_passed (passed : through? {} lines = some {}) (depth : Nat) :
    through? ⟨depth, false⟩ lines = some ⟨depth, false⟩ := by
  have deep := through?_deeper depth passed
  rw [deeper, Nat.zero_add] at deep
  exact deep

/-- A loop ends at a line that closes one, where no inner loop and no script block is open. -/
theorem after?_eq_none_iff {s : Statement} : n.after? s = none ↔ n = {} ∧ s = .loopClose := by
  constructor
  · intro ends
    obtain ⟨depth, inScript⟩ := n
    cases inScript with
    | true => cases ends
    | false =>
        cases s with
        | loopClose =>
            cases depth with
            | zero => exact ⟨rfl, rfl⟩
            | succ depth => cases ends
        | _ => cases ends
  · rintro ⟨rfl, rfl⟩
    rfl

end Nesting

/-! ## Loops -/

/-- More lines in front of the body of a loop. -/
def inFront (front : List Line) (cut : List Line × List Line) : List Line × List Line :=
  (front ++ cut.1, cut.2)

theorem map_inFront_append (front middle : List Line)
    (cut : Option (List Line × List Line)) :
    (cut.map (inFront middle)).map (inFront front) = cut.map (inFront (front ++ middle)) := by
  cases cut with
  | none => rfl
  | some p => simp [inFront]

/-- A line that does not end the loop belongs to its body. -/
theorem takeLoop_cons {n next : Nesting} {line : Line} {rest : List Line}
    (h : n.after? line.statement = some next) :
    takeLoop n (line :: rest) = (takeLoop next rest).map (inFront [line]) := by
  rw [takeLoop, h]
  rfl

/-- Lines that do not close a loop belong to its body. -/
theorem takeLoop_through {n m : Nesting} {front : List Line}
    (h : n.through? front = some m) (more : List Line) :
    takeLoop n (front ++ more) = (takeLoop m more).map (inFront front) := by
  induction front generalizing n with
  | nil =>
      obtain rfl := Option.some.inj h
      rw [List.nil_append]
      cases takeLoop n more with
      | none => rfl
      | some cut => rfl
  | cons line front ih =>
      cases after : n.after? line.statement with
      | none =>
          rw [Nesting.through?, List.foldlM_cons, after] at h
          cases h
      | some next =>
          rw [Nesting.through?_cons after] at h
          rw [List.cons_append, takeLoop_cons after, ih h, map_inFront_append]
          rfl

/-- A loop goes to the first line that closes it. -/
theorem takeLoop_eq_some_iff {n : Nesting} {lines body behind : List Line} :
    takeLoop n lines = some (body, behind) ↔
      ∃ closing m, lines = body ++ closing :: behind ∧ n.through? body = some m ∧
        m.after? closing.statement = none := by
  constructor
  · intro cut
    induction lines generalizing n body with
    | nil => cases cut
    | cons line rest ih =>
        unfold takeLoop at cut
        cases after : n.after? line.statement with
        | none =>
            rw [after] at cut
            obtain ⟨rfl, rfl⟩ := Prod.mk.inj (Option.some.inj cut)
            exact ⟨line, n, rfl, rfl, after⟩
        | some inner =>
            rw [after] at cut
            obtain ⟨⟨tail, behind⟩, found, same⟩ := Option.map_eq_some_iff.1 cut
            obtain ⟨rfl, rfl⟩ := Prod.mk.inj same
            obtain ⟨closing, m, rfl, through, closes⟩ := ih found
            refine ⟨closing, m, rfl, ?_, closes⟩
            rw [Nesting.through?_cons after, through]
  · rintro ⟨closing, m, rfl, through, closes⟩
    have ends : takeLoop m (closing :: behind) = some ([], behind) := by
      rw [takeLoop, closes]
    rw [takeLoop_through through, ends]
    simp [inFront]

/-- A loop ends at the closing line behind lines that leave the account as it is. -/
theorem takeLoop_of_passed {body : List Line} {closing : Line}
    (passed : Nesting.through? ⟨0, false⟩ body = some ⟨0, false⟩)
    (closes : closing.statement = .loopClose) (rest : List Line) :
    takeLoop {} (body ++ closing :: rest) = some (body, rest) := by
  refine takeLoop_eq_some_iff.2 ⟨closing, _, rfl, passed, ?_⟩
  rw [closes]
  rfl

variable {n : Nesting} {lines code body behind : List Line}

theorem takeLoop_eq_none_iff :
    takeLoop n lines = none ↔ ∃ m, n.through? lines = some m := by
  induction lines generalizing n with
  | nil => exact ⟨fun _ => ⟨n, rfl⟩, fun _ => rfl⟩
  | cons line rest ih =>
      cases after : n.after? line.statement with
      | none =>
          rw [takeLoop, after, Nesting.through?, List.foldlM_cons, after]
          constructor
          · rintro ⟨⟩
          · rintro ⟨m, ⟨⟩⟩
      | some inner => rw [takeLoop_cons after, Option.map_eq_none_iff, ih, Nesting.through?_cons after]

/-- A loop is closed behind lines that it passes over. -/
theorem passed_of_takeLoop (closed : takeLoop {} lines = some (body, behind)) :
    Nesting.through? {} body = some {} ∧
      ∃ closing, closing.statement = .loopClose ∧ lines = body ++ closing :: behind := by
  obtain ⟨closing, m, rfl, through, ends⟩ := takeLoop_eq_some_iff.1 closed
  obtain ⟨rfl, closes⟩ := Nesting.after?_eq_none_iff.1 ends
  exact ⟨through, closing, closes, rfl⟩

/-- More lines behind a closed script block stay behind it. -/
theorem takeScript_append (cut : takeScript lines = some (code, behind)) (more : List Line) :
    takeScript (lines ++ more) = some (code, behind ++ more) := by
  obtain ⟨closing, rfl, closes, inside⟩ := takeScript_eq_some_iff.1 cut
  exact takeScript_eq_some_iff.2 ⟨closing, by simp, closes, inside⟩

/-- More lines behind a closed loop stay behind it. -/
theorem takeLoop_append (cut : takeLoop n lines = some (body, behind)) (more : List Line) :
    takeLoop n (lines ++ more) = some (body, behind ++ more) := by
  obtain ⟨closing, m, rfl, through, closes⟩ := takeLoop_eq_some_iff.1 cut
  exact takeLoop_eq_some_iff.2 ⟨closing, m, by simp, through, closes⟩

/-- A closed script block is cut from the lines, and so is what stands behind it. -/
theorem subset_of_takeScript (cut : takeScript lines = some (code, behind)) :
    code ⊆ lines ∧ behind ⊆ lines := by
  obtain ⟨closing, rfl, -⟩ := takeScript_eq_some_iff.1 cut
  exact ⟨List.subset_append_left _ _,
    List.Subset.trans (List.subset_cons_self closing behind) (List.subset_append_right _ _)⟩

/-- A closed loop is cut from the lines, and so is what stands behind it. -/
theorem subset_of_takeLoop (cut : takeLoop n lines = some (body, behind)) :
    body ⊆ lines ∧ behind ⊆ lines := by
  obtain ⟨closing, m, rfl, -⟩ := takeLoop_eq_some_iff.1 cut
  exact ⟨List.subset_append_left _ _,
    List.Subset.trans (List.subset_cons_self closing behind) (List.subset_append_right _ _)⟩

end Block

end PlotScript
