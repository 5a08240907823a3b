import PlotScript.Diagnostic.Misread
import PlotScript.Text.Blank

/-!
# Reading numbers

Numbers between blanks, lists of numbers, and the colon that parts two texts.
-/

namespace PlotScript.Coercion

/-- A finite number, blanks around it ignored. -/
def readNumber (s : List Char) : Except Misread Binary64 :=
  let body := Text.trim s
  match Binary64.read? body with
  | some x => if x.isFinite then .ok x else .error (.notNumber (String.ofList body))
  | none => .error (.notNumber (String.ofList body))

/-- Exactly `count` numbers with commas between them. -/
def readNumbers (count : Nat) (s : List Char) : Except Misread (List Binary64) :=
  let parts := Text.splitAt ',' s
  if parts.length = count then parts.mapM readNumber
  else .error (.numberCount count parts.length)

/-- The texts before and after the first colon that no backslash escapes, as
they are written. `escaped` tells whether a backslash has just been read that
was not itself escaped. -/
def cutAtColon (escaped : Bool) : List Char → Option (List Char × List Char)
  | [] => none
  | c :: rest =>
      if c = '\\' ∧ !escaped then
        (cutAtColon true rest).map fun (low, high) => (c :: low, high)
      else if c = ':' ∧ !escaped then some ([], rest)
      else (cutAtColon false rest).map fun (low, high) => (c :: low, high)

/-- Drops the backslash in front of every colon. -/
def unescapeColons (s : List Char) : List Char :=
  Text.replacePair '\\' ':' ':' s

/-- The two sides of the first colon that is not escaped, with the escaped
colons in them unescaped. -/
def splitColon (s : List Char) : Option (List Char × List Char) :=
  (cutAtColon false s).map fun (low, high) => (unescapeColons low, unescapeColons high)

end PlotScript.Coercion
