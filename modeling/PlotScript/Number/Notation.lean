import PlotScript.Number.Decimal

/-!
# Writing floating-point numbers

Two written forms. The plain one never has an exponent and gives a whole number
without a point. The other one always has a point or an exponent and turns to
exponents below `10 ^ (-5)` and from `10 ^ 16` on.
-/

namespace PlotScript

namespace Decimal

/-- The digits before and after the point, both possibly empty. -/
def halves (d : Decimal) : List Char × List Char :=
  let digits := Nat.toDigits 10 d.digits
  if 0 ≤ d.exponent then (digits ++ List.replicate d.exponent.toNat '0', [])
  else
    let places := (-d.exponent).toNat
    let padded := List.replicate (places + 1 - digits.length) '0' ++ digits
    padded.splitAt (padded.length - places)

/-- All digits in place, with a point only in front of a fraction. -/
def positional (d : Decimal) : List Char :=
  match d.halves with
  | (whole, []) => whole
  | (whole, fraction) => whole ++ '.' :: fraction

/-- All digits in place and at least one digit behind the point. -/
def pointed (d : Decimal) : List Char :=
  match d.halves with
  | (whole, []) => whole ++ ['.', '0']
  | (whole, fraction) => whole ++ '.' :: fraction

/-- One digit before the point and a signed exponent. -/
def scientific (d : Decimal) : List Char :=
  let digits := Nat.toDigits 10 d.digits
  let power := d.exponent + (digits.length - 1 : Nat)
  let mantissa :=
    match digits with
    | first :: second :: rest => first :: '.' :: second :: rest
    | digits => digits
  let sign := if power < 0 then '-' else '+'
  mantissa ++ 'e' :: sign :: Nat.toDigits 10 power.natAbs

/-- Whether the first significant digit stands between the fifth place behind
the point and the sixteenth before it. -/
def isModerate (d : Decimal) : Bool :=
  let place := d.exponent + (Nat.toDigits 10 d.digits).length
  d.digits = 0 || (-5 < place && place ≤ 16)

end Decimal

/-- A written magnitude behind a minus sign, if there is one. -/
def signed (negative : Bool) (s : List Char) : List Char :=
  if negative then '-' :: s else s

/-- A whole number in decimal digits. -/
def writeInt (n : Int) : String :=
  String.ofList (signed (n < 0) (Nat.toDigits 10 n.natAbs))

/-- A natural number in decimal digits. -/
def writeNat (n : Nat) : String :=
  String.ofList (Nat.toDigits 10 n)

namespace Binary64

/-- The plain form; of two equally near decimals it takes the larger. -/
def plain : Binary64 → String
  | nan => "NaN"
  | infinite negative => String.ofList (signed negative "inf".toList)
  | finite negative rank =>
      String.ofList (signed negative (Decimal.shortest .up rank).positional)

/-- The form in JSON, which has no word for a number that is not finite; of two
equally near decimals it takes the even one. -/
def json : Binary64 → String
  | finite negative rank =>
      let d := Decimal.shortest .even rank
      String.ofList (signed negative (if d.isModerate then d.pointed else d.scientific))
  | _ => "null"

end Binary64

end PlotScript
