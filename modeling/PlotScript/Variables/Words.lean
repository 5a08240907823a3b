import PlotScript.Variables.Scope

/-!
# Words and values

The words of a command line and the value of an assignment. Each of them is gathered by a loop of
its own over the text that is still to be read, with an inner loop between double quotes. A
reference outside quotes is cut into words at the blanks of its value, one inside quotes is not.
-/

namespace PlotScript

/-! ## The words of a line -/

/-- Words that are being gathered. -/
structure Words where
  /-- the words that have ended -/
  ended : List String := []
  /-- the word that has begun, if one has; a quoted word may be empty -/
  begun : Option (List Char) := none
  deriving DecidableEq

namespace Words

def push (w : Words) (c : Char) : Words :=
  { w with begun := some (w.begun.getD [] ++ [c]) }

def pushText (w : Words) (text : List Char) : Words :=
  { w with begun := some (w.begun.getD [] ++ text) }

/-- Begins a word, if none has begun. -/
def start (w : Words) : Words :=
  { w with begun := some (w.begun.getD []) }

/-- Ends the word, if one has begun. -/
def finish (w : Words) : Words :=
  { ended := w.ended ++ (w.begun.map String.ofList).toList, begun := none }

/-- Takes a value that is cut into words at its blanks. -/
def pushSplit (w : Words) (value : List Char) : Words :=
  value.foldl (fun w c => if Text.isBlank c then w.finish else w.push c) w

/-- Gathers what stands between double quotes. Tells what is left of the text behind them. -/
def quoted (scope : Scope) (w : Words) (s : List Char) : Except Cause (Words × List Char) :=
  match s with
  | [] => .error .unterminatedDoubleQuote
  | c :: rest =>
      if c = '"' then .ok (w, rest)
      else if c = '\\' then
        match rest with
        | [] => quoted scope w []
        | escaped :: rest => quoted scope (w.push escaped) rest
      else if c = '$' then
        match h : Reference.read rest with
        | .error cause => .error cause
        | .ok none => quoted scope (w.push '$') rest
        | .ok (some (r, behind)) => do
            have := Reference.length_of_read h
            let value ← scope.lookup (String.ofList r.name)
            quoted scope (w.pushText value.toList) behind
      else quoted scope (w.push c) rest
termination_by s.length
decreasing_by all_goals (simp_wf; try omega)

theorem length_of_quoted {scope : Scope} {w v : Words} {s behind : List Char}
    (h : quoted scope w s = .ok (v, behind)) : behind.length < s.length := by
  fun_induction quoted scope w s with
  | case1 => cases h
  | case2 =>
      obtain ⟨-, rfl⟩ := Prod.mk.inj (Except.ok.inj h)
      exact Nat.lt_succ_self _
  | case3 w _ ih => exact Nat.lt_succ_of_lt (ih h)
  | case4 w escaped rest _ ih => exact Nat.lt_succ_of_lt (Nat.lt_succ_of_lt (ih h))
  | case5 => cases h
  | case6 w rest lone _ _ ih => exact Nat.lt_succ_of_lt (ih h)
  | case7 w rest r after found shorter _ _ ih =>
      cases value : scope.lookup (String.ofList r.name) with
      | error cause =>
          rw [value] at h
          cases h
      | ok text =>
          rw [value] at h
          exact Nat.lt_succ_of_lt (Nat.lt_trans (ih text h) shorter)
  | case8 w c rest _ _ _ ih => exact Nat.lt_succ_of_lt (ih h)

/-- A dollar sign between double quotes begins a reference, or it stands for itself. -/
theorem quoted_dollar (scope : Scope) (w : Words) (rest : List Char) :
    quoted scope w ('$' :: rest) =
      match Reference.read rest with
      | .error cause => .error cause
      | .ok none => quoted scope (w.push '$') rest
      | .ok (some (r, behind)) => (do
          let value ← scope.lookup (String.ofList r.name)
          quoted scope (w.pushText value.toList) behind) := by
  rw [quoted.eq_def]
  simp only [Char.reduceEq, if_false, if_true]
  split <;> simp_all

/-- Gathers what stands outside quotes, up to the end of the text. -/
def bare (scope : Scope) (w : Words) (s : List Char) : Except Cause Words :=
  match s with
  | [] => .ok w
  | c :: rest =>
      if Text.isBlank c then bare scope w.finish rest
      else if c = '\'' then
        match rest.findIdx? (· == '\'') with
        | none => .error .unterminatedSingleQuote
        | some close => bare scope (w.pushText (rest.take close)) (rest.drop (close + 1))
      else if c = '"' then
        match h : quoted scope w.start rest with
        | .error cause => .error cause
        | .ok (w, behind) =>
            have := length_of_quoted h
            bare scope w behind
      else if c = '\\' then
        match rest with
        | [] => bare scope (w.push '\\') []
        | escaped :: rest => bare scope (w.push escaped) rest
      else if c = '$' then
        match h : Reference.read rest with
        | .error cause => .error cause
        | .ok none => bare scope (w.push '$') rest
        | .ok (some (r, behind)) => do
            have := Reference.length_of_read h
            let value ← scope.lookup (String.ofList r.name)
            bare scope (w.pushSplit value.toList) behind
      else bare scope (w.push c) rest
termination_by s.length
decreasing_by all_goals (simp_wf; try omega)

theorem bare_opening (scope : Scope) (w : Words) (rest : List Char) :
    bare scope w ('"' :: rest) = (do
      let (w, behind) ← quoted scope w.start rest
      bare scope w behind) := by
  have notBlank : Text.isBlank '"' = false := by decide
  rw [bare.eq_def]
  simp only [notBlank, Bool.false_eq_true, Char.reduceEq, if_false, if_true]
  split <;> simp_all [bind, Except.bind]

theorem bare_dollar (scope : Scope) (w : Words) (rest : List Char) :
    bare scope w ('$' :: rest) =
      match Reference.read rest with
      | .error cause => .error cause
      | .ok none => bare scope (w.push '$') rest
      | .ok (some (r, behind)) => (do
          let value ← scope.lookup (String.ofList r.name)
          bare scope (w.pushSplit value.toList) behind) := by
  have notBlank : Text.isBlank '$' = false := by decide
  rw [bare.eq_def]
  simp only [notBlank, Bool.false_eq_true, Char.reduceEq, if_false, if_true]
  split <;> simp_all

end Words

/-- The words of a line. -/
def splitLine (scope : Scope) (line : List Char) : Except Cause (List String) :=
  (Words.bare scope {} line).map (·.finish.ended)

/-! ## The value of an assignment -/

namespace AssignedText

/-- A character that quotes or a backslash protect. In a text that is expanded later a dollar sign
has to stay protected. -/
def literal (interpolate : Bool) (c : Char) : List Char :=
  if c = '$' ∧ !interpolate then ['\\', '$'] else [c]

/-- The value of a reference or, for later, the reference itself. -/
def referenceText (scope : Scope) (interpolate : Bool) (r : Reference) :
    Except Cause (List Char) :=
  if interpolate then (scope.lookup (String.ofList r.name)).map String.toList
  else .ok r.spelling

/-- Takes what a dollar sign in front of a text begins. Tells what is left of the text. -/
def reference (scope : Scope) (interpolate : Bool) (out s : List Char) :
    Except Cause (List Char × List Char) :=
  match Reference.read s with
  | .error cause => .error cause
  | .ok none => .ok (out ++ ['$'], s)
  | .ok (some (r, behind)) =>
      (referenceText scope interpolate r).map fun text => (out ++ text, behind)

theorem length_of_reference {scope : Scope} {interpolate : Bool} {out s written behind : List Char}
    (h : reference scope interpolate out s = .ok (written, behind)) :
    behind.length ≤ s.length := by
  rw [reference] at h
  split at h
  · cases h
  · obtain ⟨-, rfl⟩ := Prod.mk.inj (Except.ok.inj h)
    exact Nat.le_refl _
  · rename_i r after read
    cases written : referenceText scope interpolate r with
    | error cause =>
        rw [written] at h
        cases h
    | ok text =>
        rw [written] at h
        obtain ⟨-, rfl⟩ := Prod.mk.inj (Except.ok.inj h)
        exact Nat.le_of_lt (Reference.length_of_read read)

/-- Takes what stands between double quotes. Tells what is left of the text behind them. -/
def quoted (scope : Scope) (interpolate : Bool) (out s : List Char) :
    Except Cause (List Char × List Char) :=
  match s with
  | [] => .error .unterminatedDoubleQuote
  | c :: rest =>
      if c = '"' then .ok (out, rest)
      else if c = '\\' then
        match rest with
        | [] => quoted scope interpolate out []
        | escaped :: rest => quoted scope interpolate (out ++ literal interpolate escaped) rest
      else if c = '$' then
        match h : reference scope interpolate out rest with
        | .error cause => .error cause
        | .ok (out, behind) =>
            have := length_of_reference h
            quoted scope interpolate out behind
      else quoted scope interpolate (out ++ [c]) rest
termination_by s.length
decreasing_by all_goals (simp_wf; try omega)

theorem length_of_quoted {scope : Scope} {interpolate : Bool} {out s written behind : List Char}
    (h : quoted scope interpolate out s = .ok (written, behind)) : behind.length < s.length := by
  fun_induction quoted scope interpolate out s with
  | case1 => cases h
  | case2 =>
      obtain ⟨-, rfl⟩ := Prod.mk.inj (Except.ok.inj h)
      exact Nat.lt_succ_self _
  | case3 out _ ih => exact Nat.lt_succ_of_lt (ih h)
  | case4 out escaped rest _ ih => exact Nat.lt_succ_of_lt (Nat.lt_succ_of_lt (ih h))
  | case5 => cases h
  | case6 out rest written after found notLonger _ _ ih =>
      exact Nat.lt_succ_of_lt (Nat.lt_of_lt_of_le (ih h) notLonger)
  | case7 out c rest _ _ _ ih => exact Nat.lt_succ_of_lt (ih h)

theorem quoted_dollar (scope : Scope) (interpolate : Bool) (out rest : List Char) :
    quoted scope interpolate out ('$' :: rest) = (do
      let (out, behind) ← reference scope interpolate out rest
      quoted scope interpolate out behind) := by
  rw [quoted.eq_def]
  simp only [Char.reduceEq, if_false, if_true]
  split <;> simp_all [bind, Except.bind]

/-- Takes what stands outside quotes, up to the end of the text. -/
def bare (scope : Scope) (interpolate : Bool) (out s : List Char) : Except Cause (List Char) :=
  match s with
  | [] => .ok out
  | c :: rest =>
      if c = '\'' then
        match rest.findIdx? (· == '\'') with
        | none => .error .unterminatedSingleQuote
        | some close =>
            bare scope interpolate (out ++ (rest.take close).flatMap (literal interpolate))
              (rest.drop (close + 1))
      else if c = '"' then
        match h : quoted scope interpolate out rest with
        | .error cause => .error cause
        | .ok (out, behind) =>
            have := length_of_quoted h
            bare scope interpolate out behind
      else if c = '\\' then
        match rest with
        | [] => bare scope interpolate (out ++ ['\\']) []
        | escaped :: rest => bare scope interpolate (out ++ literal interpolate escaped) rest
      else if c = '$' then
        match h : reference scope interpolate out rest with
        | .error cause => .error cause
        | .ok (out, behind) =>
            have := length_of_reference h
            bare scope interpolate out behind
      else bare scope interpolate (out ++ [c]) rest
termination_by s.length
decreasing_by all_goals (simp_wf; try omega)

theorem bare_opening (scope : Scope) (interpolate : Bool) (out rest : List Char) :
    bare scope interpolate out ('"' :: rest) = (do
      let (out, behind) ← quoted scope interpolate out rest
      bare scope interpolate out behind) := by
  rw [bare.eq_def]
  simp only [Char.reduceEq, if_false, if_true]
  split <;> simp_all [bind, Except.bind]

theorem bare_dollar (scope : Scope) (interpolate : Bool) (out rest : List Char) :
    bare scope interpolate out ('$' :: rest) = (do
      let (out, behind) ← reference scope interpolate out rest
      bare scope interpolate out behind) := by
  rw [bare.eq_def]
  simp only [Char.reduceEq, if_false, if_true]
  split <;> simp_all [bind, Except.bind]

end AssignedText

/-- The value of an assignment. Its references are expanded now, or kept for later. -/
def assignmentValue (scope : Scope) (interpolate : Bool) (rest : List Char) :
    Except Cause String :=
  (AssignedText.bare scope interpolate [] rest).map String.ofList

/-- The value of an assignment with all references expanded. -/
def eagerValue (scope : Scope) (rest : List Char) : Except Cause String :=
  assignmentValue scope true rest

/-- The value of an assignment as an expression to expand later. Protected
dollar signs stay protected. No variable is looked up. -/
def deferredValue (rest : List Char) : Except Cause String :=
  assignmentValue NameMap.empty false rest

end PlotScript
