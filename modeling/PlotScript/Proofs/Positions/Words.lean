import PlotScript.Proofs.Positions.Expressions

/-!
# Words by positions

The loop that cuts a line into words, with a position in the line. Quoted words are taken out of
the line by slices, and the inner loop between double quotes goes on from the position of the outer
one. Every turn does what the same loop does with the rest of the line (`Words.bare`,
`Words.quoted`).
-/

namespace PlotScript.Positional

/-- One turn of the loop between double quotes. -/
def quotedTurn (scope : Scope) (chars : List Char) (pos : Nat) (w : Words) :
    Checked Cause (Turn Words) :=
  match chars[pos]? with
  | none => throw (.refused .unterminatedDoubleQuote)
  | some c => do
      if c = '"' then return .leave (pos + 1) w
      else if c = '\\' then
        match chars[pos + 1]? with
        | some escaped => return .goOn (pos + 2) (w.push escaped)
        | none => return .goOn (pos + 1) w
      else if c = '$' then
        match ← readReference chars (pos + 1) with
        | some (r, next) =>
            let value ← lookup scope (String.ofList r.name)
            return .goOn next (w.pushText value.toList)
        | none => return .goOn (pos + 1) (w.push '$')
      else return .goOn (pos + 1) (w.push c)

/-- A turn at a single quote in front of a position: everything up to the next one is taken. -/
def singleTurn (chars : List Char) (pos : Nat) (w : Words) : Checked Cause (Turn Words) := do
  let behind ← slice chars pos chars.length
  match behind.findIdx? (· == '\'') with
  | none => throw (.refused .unterminatedSingleQuote)
  | some close =>
      let word ← slice chars pos (pos + close)
      return .goOn (pos + close + 1) (w.pushText word)

/-- One turn of the loop over a line. -/
def lineTurn (scope : Scope) (chars : List Char) (pos : Nat) (w : Words) :
    Checked Cause (Turn Words) := do
  if pos < chars.length then
    let c ← item chars pos
    if Text.isBlank c then return .goOn (pos + 1) w.finish
    else if c = '\'' then singleTurn chars (pos + 1) w
    else if c = '"' then
      let (next, w) ← loop chars.length (quotedTurn scope chars) (pos + 1) w.start
      return .goOn next w
    else if c = '\\' then
      match chars[pos + 1]? with
      | some escaped => return .goOn (pos + 2) (w.push escaped)
      | none => return .goOn (pos + 1) (w.push '\\')
    else if c = '$' then
      match ← readReference chars (pos + 1) with
      | some (r, next) =>
          let value ← lookup scope (String.ofList r.name)
          return .goOn next (w.pushSplit value.toList)
      | none => return .goOn (pos + 1) (w.push '$')
    else return .goOn (pos + 1) (w.push c)
  else return .leave pos w

/-- The words of a line. -/
def splitLine (scope : Scope) (line : List Char) : Checked Cause (List String) :=
  (loop line.length (lineTurn scope line) 0 {}).map (·.2.finish.ended)

variable {scope : Scope} {chars rest : List Char} {pos : Nat}

/-- A turn at a dollar sign reads a reference, whose value is taken as a whole or cut at its blanks,
or the dollar sign itself. -/
theorem reads_dollar {ρ : Type} {meaning after : Words → List Char → Except Cause ρ} {w : Words}
    {take : Words → List Char → Words}
    (stated : meaning w ('$' :: rest) =
      match Reference.read rest with
      | .error cause => .error cause
      | .ok none => meaning (w.push '$') rest
      | .ok (some (r, behind)) => (do
          let value ← scope.lookup (String.ofList r.name)
          meaning (take w value.toList) behind))
    (here : Remains chars pos ('$' :: rest)) :
    Reads chars meaning after pos w ('$' :: rest) (do
      match ← readReference chars (pos + 1) with
      | some (r, next) =>
          let value ← lookup scope (String.ofList r.name)
          return .goOn next (take w value.toList)
      | none => return .goOn (pos + 1) (w.push '$')) := by
  rw [readReference_eq here.tail]
  cases read : Reference.read rest with
  | error cause =>
      rw [read] at stated
      exact .refuses stated
  | ok found =>
      rw [read] at stated
      rcases found with _ | ⟨r, behind⟩
      · exact .goesOn (Nat.lt_succ_self pos) here.tail stated
      · obtain ⟨ahead, there⟩ := here.tail.behind_reference read
        simp only [located, lookup_eq, bind, Except.bind] at stated ⊢
        cases value : scope.lookup (String.ofList r.name) with
        | error cause =>
            rw [value] at stated
            exact .refuses stated
        | ok text =>
            rw [value] at stated
            exact .goesOn (Nat.lt_of_succ_lt ahead) there stated

theorem reads_quotedTurn (w : Words) (here : Remains chars pos rest) :
    Reads chars (Words.quoted scope) (fun w behind => .ok (w, behind)) pos w rest
      (quotedTurn scope chars pos w) := by
  rw [quotedTurn, here.getElem?]
  cases rest with
  | nil => exact .refuses (by rw [Words.quoted.eq_def])
  | cons c tail =>
      dsimp only [List.head?_cons]
      by_cases closing : c = '"'
      · subst closing
        exact .leaves (Nat.le_succ pos) here.tail (by rw [Words.quoted.eq_def]; simp)
      rw [if_neg closing]
      by_cases slash : c = '\\'
      · subst slash
        rw [if_pos rfl, here.tail.getElem?]
        cases tail with
        | nil =>
            refine .goesOn (Nat.lt_succ_self pos) here.tail ?_
            rw [Words.quoted.eq_def]
            simp
        | cons escaped tail =>
            refine .goesOn (by omega) here.tail.tail ?_
            rw [Words.quoted.eq_def]
            simp
      rw [if_neg slash]
      by_cases dollar : c = '$'
      · subst dollar
        rw [if_pos rfl]
        exact reads_dollar (Words.quoted_dollar scope w tail) here
      rw [if_neg dollar]
      refine .goesOn (Nat.lt_succ_self pos) here.tail ?_
      rw [Words.quoted.eq_def]
      simp [closing, slash, dollar]

theorem reads_singleTurn (w : Words) (here : Remains chars pos ('\'' :: rest)) :
    Reads chars (Words.bare scope) (fun w _ => .ok w) pos w ('\'' :: rest)
      (singleTurn chars (pos + 1) w) := by
  have notBlank : Text.isBlank '\'' = false := by decide
  rw [singleTurn, here.tail.slice_all]
  dsimp only [bind, Except.bind]
  by_cases closed : '\'' ∈ rest
  · obtain ⟨word, behind, rfl, first⟩ := List.eq_append_cons_of_mem closed
    rw [findIdx?_eq_some first]
    dsimp only
    rw [here.tail.slice]
    refine .goesOn (by omega) here.tail.append.tail ?_
    rw [Words.bare.eq_def]
    simp [notBlank, findIdx?_eq_some first]
  · rw [findIdx?_eq_none closed]
    refine .refuses ?_
    rw [Words.bare.eq_def]
    simp [notBlank, findIdx?_eq_none closed]

theorem reads_lineTurn (w : Words) (here : Remains chars pos rest) :
    Reads chars (Words.bare scope) (fun w _ => .ok w) pos w rest (lineTurn scope chars pos w) := by
  cases rest with
  | nil =>
      rw [lineTurn, if_neg here.not_lt]
      exact .leaves (le_refl pos) here (by rw [Words.bare.eq_def])
  | cons c tail =>
      rw [lineTurn, if_pos here.lt, here.item]
      dsimp only [bind, Except.bind]
      by_cases blank : Text.isBlank c = true
      · rw [if_pos blank]
        refine .goesOn (Nat.lt_succ_self pos) here.tail ?_
        rw [Words.bare.eq_def]
        simp [blank]
      rw [if_neg blank]
      by_cases single : c = '\''
      · subst single
        rw [if_pos rfl]
        exact reads_singleTurn w here
      rw [if_neg single]
      by_cases double : c = '"'
      · subst double
        have quotation := readsAll_loop (fun w there => @reads_quotedTurn scope _ _ _ w there)
          here.tail w.start
        rw [if_pos rfl]
        exact quotation.goesOn (Nat.lt_succ_self pos) (Words.bare_opening scope w tail)
      rw [if_neg double]
      by_cases slash : c = '\\'
      · subst slash
        rw [if_pos rfl, here.tail.getElem?]
        cases tail with
        | nil =>
            refine .goesOn (Nat.lt_succ_self pos) here.tail ?_
            rw [Words.bare.eq_def]
            simp [blank]
        | cons escaped tail =>
            refine .goesOn (by omega) here.tail.tail ?_
            rw [Words.bare.eq_def]
            simp [blank]
      rw [if_neg slash]
      by_cases dollar : c = '$'
      · subst dollar
        rw [if_pos rfl]
        exact reads_dollar (Words.bare_dollar scope w tail) here
      rw [if_neg dollar]
      refine .goesOn (Nat.lt_succ_self pos) here.tail ?_
      rw [Words.bare.eq_def]
      simp [blank, single, double, slash, dollar]

theorem splitLine_eq (scope : Scope) (line : List Char) :
    splitLine scope line = lift (PlotScript.splitLine scope line) := by
  have read := readsAll_loop (fun w here => @reads_lineTurn scope _ _ _ w here)
    (remains_start line) {}
  have gathered := congrArg (Except.map (·.finish.ended)) read.result
  rw [map_lift] at gathered
  rw [splitLine, PlotScript.splitLine, ← gathered]
  cases loop line.length (lineTurn scope line) 0 {} <;> rfl

end PlotScript.Positional
