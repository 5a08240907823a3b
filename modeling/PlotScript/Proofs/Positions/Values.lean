import PlotScript.Proofs.Positions.Expressions

/-!
# Values by positions

The loop that reads the value of an assignment, with a position in the text. A reference that is
kept for later is copied from between its two positions. Every turn does what the same loop does
with the rest of the text (`AssignedText.bare`, `AssignedText.quoted`).
-/

namespace PlotScript.Positional

/-- What is written for a reference between two positions. -/
def referenceText (scope : Scope) (interpolate : Bool) (chars : List Char) (r : Reference)
    (start stop : Nat) : Checked Cause (List Char) :=
  if interpolate then (lookup scope (String.ofList r.name)).map String.toList
  else (slice chars start stop).map ('$' :: ·)

/-- Takes what a dollar sign in front of a position begins, and tells the position behind it. -/
def assignedReference (scope : Scope) (interpolate : Bool) (chars : List Char) (pos : Nat)
    (out : List Char) : Checked Cause (Nat × List Char) := do
  match ← readReference chars pos with
  | some (r, next) => return (next, out ++ (← referenceText scope interpolate chars r pos next))
  | none => return (pos, out ++ ['$'])

/-- One turn of the loop between double quotes. -/
def quotedValueTurn (scope : Scope) (interpolate : Bool) (chars : List Char) (pos : Nat)
    (out : List Char) : Checked Cause (Turn (List Char)) :=
  match chars[pos]? with
  | none => throw (.refused .unterminatedDoubleQuote)
  | some c => do
      if c = '"' then return .leave (pos + 1) out
      else if c = '\\' then
        match chars[pos + 1]? with
        | some escaped => return .goOn (pos + 2) (out ++ AssignedText.literal interpolate escaped)
        | none => return .goOn (pos + 1) out
      else if c = '$' then
        let (next, out) ← assignedReference scope interpolate chars (pos + 1) out
        return .goOn next out
      else return .goOn (pos + 1) (out ++ [c])

/-- A turn at a single quote in front of a position: everything up to the next one is taken. -/
def singleValueTurn (interpolate : Bool) (chars : List Char) (pos : Nat) (out : List Char) :
    Checked Cause (Turn (List Char)) := do
  let behind ← slice chars pos chars.length
  match behind.findIdx? (· == '\'') with
  | none => throw (.refused .unterminatedSingleQuote)
  | some close =>
      let word ← slice chars pos (pos + close)
      return .goOn (pos + close + 1) (out ++ word.flatMap (AssignedText.literal interpolate))

/-- One turn of the loop over the right-hand side of an assignment. -/
def valueTurn (scope : Scope) (interpolate : Bool) (chars : List Char) (pos : Nat)
    (out : List Char) : Checked Cause (Turn (List Char)) := do
  if pos < chars.length then
    let c ← item chars pos
    if c = '\'' then singleValueTurn interpolate chars (pos + 1) out
    else if c = '"' then
      let (next, out) ←
        loop chars.length (quotedValueTurn scope interpolate chars) (pos + 1) out
      return .goOn next out
    else if c = '\\' then
      match chars[pos + 1]? with
      | some escaped => return .goOn (pos + 2) (out ++ AssignedText.literal interpolate escaped)
      | none => return .goOn (pos + 1) (out ++ ['\\'])
    else if c = '$' then
      let (next, out) ← assignedReference scope interpolate chars (pos + 1) out
      return .goOn next out
    else return .goOn (pos + 1) (out ++ [c])
  else return .leave pos out

/-- The value of an assignment, with its references expanded or kept for later. -/
def assignmentValue (scope : Scope) (interpolate : Bool) (rest : List Char) :
    Checked Cause String :=
  (loop rest.length (valueTurn scope interpolate rest) 0 []).map (String.ofList ·.2)

variable {scope : Scope} {interpolate : Bool} {chars rest : List Char} {pos : Nat}

theorem referenceText_eq (here : Remains chars pos rest) {r : Reference} {behind : List Char}
    (read : Reference.read rest = .ok (some (r, behind))) :
    referenceText scope interpolate chars r pos (chars.length - behind.length) =
      lift (AssignedText.referenceText scope interpolate r) := by
  cases interpolate with
  | false => exact here.slice_reference read
  | true =>
      show (lookup scope _).map _ = lift ((scope.lookup _).map _)
      rw [lookup_eq, map_lift]

theorem readsAll_assignedReference (out : List Char) (here : Remains chars pos rest) :
    ReadsAll chars (AssignedText.reference scope interpolate) (fun out behind => .ok (out, behind))
      pos out rest (assignedReference scope interpolate chars pos out) := by
  rw [assignedReference, readReference_eq here]
  cases read : Reference.read rest with
  | error cause =>
      refine .refuses ?_
      rw [AssignedText.reference, read]
  | ok found =>
      rcases found with _ | ⟨r, behind⟩
      · refine .leaves (Nat.le_refl pos) here ?_
        rw [AssignedText.reference, read]
      · obtain ⟨ahead, there⟩ := here.behind_reference read
        simp only [located, referenceText_eq here read, bind, Except.bind]
        cases written : AssignedText.referenceText scope interpolate r with
        | error cause =>
            refine .refuses ?_
            rw [AssignedText.reference, read]
            dsimp only
            rw [written]
            rfl
        | ok text =>
            refine .leaves ahead.le there ?_
            rw [AssignedText.reference, read]
            dsimp only
            rw [written]
            rfl

theorem reads_quotedValueTurn (out : List Char) (here : Remains chars pos rest) :
    Reads chars (AssignedText.quoted scope interpolate) (fun out behind => .ok (out, behind)) pos
      out rest (quotedValueTurn scope interpolate chars pos out) := by
  rw [quotedValueTurn, here.getElem?]
  cases rest with
  | nil => exact .refuses (by rw [AssignedText.quoted.eq_def])
  | cons c tail =>
      dsimp only [List.head?_cons]
      by_cases closing : c = '"'
      · subst closing
        exact .leaves (Nat.le_succ pos) here.tail (by rw [AssignedText.quoted.eq_def]; simp)
      rw [if_neg closing]
      by_cases slash : c = '\\'
      · subst slash
        rw [if_pos rfl, here.tail.getElem?]
        cases tail with
        | nil =>
            refine .goesOn (Nat.lt_succ_self pos) here.tail ?_
            rw [AssignedText.quoted.eq_def]
            simp
        | cons escaped tail =>
            refine .goesOn (by omega) here.tail.tail ?_
            rw [AssignedText.quoted.eq_def]
            simp
      rw [if_neg slash]
      by_cases dollar : c = '$'
      · subst dollar
        rw [if_pos rfl]
        exact (readsAll_assignedReference out here.tail).goesOn (Nat.lt_succ_self pos)
          (AssignedText.quoted_dollar scope interpolate out tail)
      rw [if_neg dollar]
      refine .goesOn (Nat.lt_succ_self pos) here.tail ?_
      rw [AssignedText.quoted.eq_def]
      simp [closing, slash, dollar]

theorem reads_singleValueTurn (out : List Char) (here : Remains chars pos ('\'' :: rest)) :
    Reads chars (AssignedText.bare scope interpolate) (fun out _ => .ok out) pos out ('\'' :: rest)
      (singleValueTurn interpolate chars (pos + 1) out) := by
  rw [singleValueTurn, here.tail.slice_all]
  dsimp only [bind, Except.bind]
  by_cases closed : '\'' ∈ rest
  · obtain ⟨word, behind, rfl, first⟩ := List.eq_append_cons_of_mem closed
    rw [findIdx?_eq_some first]
    dsimp only
    rw [here.tail.slice]
    refine .goesOn (by omega) here.tail.append.tail ?_
    rw [AssignedText.bare.eq_def]
    simp [findIdx?_eq_some first]
  · rw [findIdx?_eq_none closed]
    refine .refuses ?_
    rw [AssignedText.bare.eq_def]
    simp [findIdx?_eq_none closed]

theorem reads_valueTurn (out : List Char) (here : Remains chars pos rest) :
    Reads chars (AssignedText.bare scope interpolate) (fun out _ => .ok out) pos out rest
      (valueTurn scope interpolate chars pos out) := by
  cases rest with
  | nil =>
      rw [valueTurn, if_neg here.not_lt]
      exact .leaves (le_refl pos) here (by rw [AssignedText.bare.eq_def])
  | cons c tail =>
      rw [valueTurn, if_pos here.lt, here.item]
      dsimp only [bind, Except.bind]
      by_cases single : c = '\''
      · subst single
        rw [if_pos rfl]
        exact reads_singleValueTurn out here
      rw [if_neg single]
      by_cases double : c = '"'
      · subst double
        have quotation := readsAll_loop
          (fun out there => @reads_quotedValueTurn scope interpolate _ _ _ out there) here.tail out
        rw [if_pos rfl]
        exact quotation.goesOn (Nat.lt_succ_self pos)
          (AssignedText.bare_opening scope interpolate out tail)
      rw [if_neg double]
      by_cases slash : c = '\\'
      · subst slash
        rw [if_pos rfl, here.tail.getElem?]
        cases tail with
        | nil =>
            refine .goesOn (Nat.lt_succ_self pos) here.tail ?_
            rw [AssignedText.bare.eq_def]
            simp
        | cons escaped tail =>
            refine .goesOn (by omega) here.tail.tail ?_
            rw [AssignedText.bare.eq_def]
            simp
      rw [if_neg slash]
      by_cases dollar : c = '$'
      · subst dollar
        rw [if_pos rfl]
        exact (readsAll_assignedReference out here.tail).goesOn (Nat.lt_succ_self pos)
          (AssignedText.bare_dollar scope interpolate out tail)
      rw [if_neg dollar]
      refine .goesOn (Nat.lt_succ_self pos) here.tail ?_
      rw [AssignedText.bare.eq_def]
      simp [single, double, slash, dollar]

theorem assignmentValue_eq (scope : Scope) (interpolate : Bool) (rest : List Char) :
    assignmentValue scope interpolate rest =
      lift (PlotScript.assignmentValue scope interpolate rest) := by
  have read := readsAll_loop (fun out here => @reads_valueTurn scope interpolate _ _ _ out here)
    (remains_start rest) []
  have gathered := congrArg (Except.map String.ofList) read.result
  rw [map_lift] at gathered
  rw [assignmentValue, PlotScript.assignmentValue, ← gathered]
  cases loop rest.length (valueTurn scope interpolate rest) 0 [] <;> rfl

end PlotScript.Positional
