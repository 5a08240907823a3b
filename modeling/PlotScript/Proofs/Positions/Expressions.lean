import PlotScript.Proofs.Positions.References

/-!
# Expressions by positions

The loop that expands an expression, and with it what the variables hold: the expression of a
variable is expanded by the same loop, one expression inside the other.
-/

namespace PlotScript.Positional

/-- One turn of the loop over an expression. -/
def expressionTurn (look : String → Checked Cause String) (chars : List Char) (pos : Nat)
    (out : List Char) : Checked Cause (Turn (List Char)) := do
  if pos < chars.length then
    let c ← item chars pos
    if c = '\\' ∧ chars[pos + 1]? = some '$' then return .goOn (pos + 2) (out ++ ['$'])
    else if c = '$' then
      match ← readReference chars (pos + 1) with
      | some (r, next) =>
          let value ← look (String.ofList r.name)
          return .goOn next (out ++ value.toList)
      | none => return .goOn (pos + 1) (out ++ ['$'])
    else return .goOn (pos + 1) (out ++ [c])
  else return .leave pos out

/-- An expression with all references in it expanded. -/
def expression (look : String → Checked Cause String) (text : List Char) :
    Checked Cause (List Char) :=
  (loop text.length (expressionTurn look text) 0 []).map (·.2)

/-- The value of a variable that has to be bound. -/
def required (resolve : String → Checked Cause (Option String)) (name : String) :
    Checked Cause String := do
  match ← resolve name with
  | some value => return value
  | none => throw (.refused (.undefinedVariable name))

/-- The text of a variable, if it is bound, when `room` more expressions may be expanded one inside
the other. -/
def resolveWithin (scope : Scope) (room : Nat) (name : String) : Checked Cause (Option String) :=
  match scope.get? name with
  | none => .ok none
  | some (.eager text) => .ok (some text)
  | some (.deferred text) =>
      match room with
      | 0 => .error (.refused (.recursiveVariable name Scope.maxDepth))
      | room + 1 =>
          (expression (required (resolveWithin scope room)) text.toList).map
            (some <| String.ofList ·)

def lookup (scope : Scope) (name : String) : Checked Cause String :=
  required (resolveWithin scope Scope.maxDepth) name

/-- A text with all references in it expanded, inside `depth` expressions. -/
def expandAt (scope : Scope) (depth : Nat) (text : List Char) : Checked Cause (List Char) :=
  expression (required (resolveWithin scope (Scope.maxDepth - depth))) text

/-! ## What the loop expands -/

section

variable {values : String → Except Cause String} {look : String → Checked Cause String}
  {chars rest : List Char} {pos : Nat}

/-- What has been written, and behind it the rest of an expression. -/
def expanded (values : String → Except Cause String) (out rest : List Char) :
    Except Cause (List Char) :=
  (Piece.concat (Piece.expand values) (Piece.ofExpression rest)).map (out ++ ·)

theorem expanded_of_ok {p : Piece} {text behind : List Char} (out : List Char)
    (pieces : Piece.ofExpression rest = p :: Piece.ofExpression behind)
    (written : Piece.expand values p = .ok text) :
    expanded values out rest = expanded values (out ++ text) behind := by
  rw [expanded, expanded, pieces, Piece.concat, written]
  cases Piece.concat (Piece.expand values) (Piece.ofExpression behind) with
  | error cause => rfl
  | ok others => exact congrArg Except.ok (List.append_assoc out text others).symm

theorem expanded_of_error {p : Piece} {pieces : List Piece} {cause : Cause} (out : List Char)
    (begins : Piece.ofExpression rest = p :: pieces)
    (failed : Piece.expand values p = .error cause) :
    expanded values out rest = .error cause := by
  rw [expanded, begins, Piece.concat, failed]
  rfl

theorem reads_expressionTurn (same : ∀ name, look name = lift (values name)) (out : List Char)
    (here : Remains chars pos rest) :
    Reads chars (expanded values) (fun out _ => .ok out) pos out rest
      (expressionTurn look chars pos out) := by
  cases rest with
  | nil =>
      rw [expressionTurn, if_neg here.not_lt]
      refine .leaves (le_refl pos) here ?_
      rw [expanded, Piece.ofExpression_nil]
      exact congrArg Except.ok (List.append_nil out)
  | cons c tail =>
      rw [expressionTurn, if_pos here.lt, here.item]
      dsimp only [bind, Except.bind]
      rw [here.tail.getElem?]
      by_cases guarded : c = '\\' ∧ tail.head? = some '$'
      · obtain ⟨rfl, next⟩ := guarded
        obtain ⟨behind, rfl⟩ := List.head?_eq_some_iff.1 next
        rw [if_pos ⟨rfl, rfl⟩]
        exact .goesOn (by omega) here.tail.tail
          (expanded_of_ok out (Piece.ofExpression_protected behind) rfl)
      rw [if_neg guarded]
      by_cases dollar : c = '$'
      · subst dollar
        have pieces := Piece.ofExpression_dollar tail
        rw [if_pos rfl, readReference_eq here.tail]
        cases read : Reference.read tail with
        | error cause =>
            rw [read] at pieces
            exact .refuses (expanded_of_error out pieces rfl)
        | ok found =>
            rw [read] at pieces
            rcases found with _ | ⟨r, behind⟩
            · exact .goesOn (Nat.lt_succ_self pos) here.tail (expanded_of_ok out pieces rfl)
            · obtain ⟨ahead, there⟩ := here.tail.behind_reference read
              simp only [located, same]
              cases value : values (String.ofList r.name) with
              | error cause =>
                  refine .refuses (expanded_of_error out pieces ?_)
                  rw [Piece.expand, value]
                  rfl
              | ok value' =>
                  refine .goesOn (Nat.lt_of_succ_lt ahead) there (expanded_of_ok out pieces ?_)
                  rw [Piece.expand, value]
                  rfl
      rw [if_neg dollar]
      exact .goesOn (Nat.lt_succ_self pos) here.tail (expanded_of_ok out
        (Piece.ofExpression_char dollar fun slash next => guarded ⟨slash, next⟩) rfl)

theorem expression_eq (same : ∀ name, look name = lift (values name)) (text : List Char) :
    expression look text =
      lift (Piece.concat (Piece.expand values) (Piece.ofExpression text)) := by
  have read := readsAll_loop (reads_expressionTurn same) (remains_start text) []
  refine read.result.trans ?_
  rw [expanded]
  cases Piece.concat (Piece.expand values) (Piece.ofExpression text) <;> rfl

end

theorem required_eq {resolve : String → Except Cause (Option String)}
    {checked : String → Checked Cause (Option String)}
    (same : ∀ name, checked name = lift (resolve name)) (name : String) :
    required checked name = lift (Scope.required resolve name) := by
  rw [required, same, Scope.required]
  cases resolve name with
  | error cause => rfl
  | ok value => cases value <;> rfl

/-- Expressions are expanded inside each other without an access that is out of range. -/
theorem resolveWithin_eq (scope : Scope) (room : Nat) (name : String) :
    resolveWithin scope room name = lift (scope.resolveWithin room name) := by
  induction room generalizing name with
  | zero =>
      unfold resolveWithin Scope.resolveWithin
      rcases scope.get? name with _ | _ | text <;> rfl
  | succ room ih =>
      unfold resolveWithin Scope.resolveWithin
      rcases scope.get? name with _ | _ | text
      · rfl
      · rfl
      · simp only [expression_eq (required_eq ih), map_lift]

theorem lookup_eq (scope : Scope) (name : String) : lookup scope name = lift (scope.lookup name) :=
  required_eq (resolveWithin_eq scope Scope.maxDepth) name

theorem expandAt_eq (scope : Scope) (depth : Nat) (text : List Char) :
    expandAt scope depth text = lift (scope.expandAt depth text) :=
  expression_eq (required_eq (resolveWithin_eq scope _)) text

end PlotScript.Positional
