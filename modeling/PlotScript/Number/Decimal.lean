import PlotScript.Number.Binary64
import PlotScript.Text.Character

/-!
# Decimal numbers

Reading whole and floating-point numbers from decimal text, and choosing the
decimal that a floating-point number is written as: the fewest digits that
read back as the same number, and of those the nearest.
-/

namespace PlotScript

/-- The number `digits * 10 ^ exponent`. -/
structure Decimal where
  digits : Nat
  exponent : Int
  deriving DecidableEq

namespace Decimal

/-- The power of ten. -/
def tenTo (n : Nat) : Nat :=
  Nat.pow 10 n

/-- The value of a list of decimal digits read after `acc`. -/
def natFrom (acc : Nat) (digits : List Char) : Nat :=
  digits.foldl (fun n c => 10 * n + (c.toNat - '0'.toNat)) acc

/-- How many decimal digits a number has. Zero has one. -/
def digitCount (n : Nat) : Nat :=
  (Nat.toDigits 10 n).length

/-- The magnitude as a ratio of natural numbers. -/
def ratio (d : Decimal) : Nat × Nat :=
  if 0 ≤ d.exponent then (d.digits * tenTo d.exponent.toNat, 1)
  else (d.digits, tenTo (-d.exponent).toNat)

/-- The rank of the magnitude nearest to a decimal. Exponents far outside the
finite range are decided without computing the power. -/
def rank (d : Decimal) : Nat :=
  let top := digitCount d.digits + d.exponent
  if d.digits = 0 ∨ top < -330 then 0
  else if 310 < top then magnitudeCount
  else Binary64.nearestRank d.ratio.1 d.ratio.2

/-- The same number with no zero at the end of its digits. Looks at most at
`fuel` digits. -/
def strip (fuel : Nat) (d : Decimal) : Decimal :=
  match fuel with
  | 0 => d
  | fuel + 1 =>
      if d.digits ≠ 0 ∧ d.digits % 10 = 0 then strip fuel ⟨d.digits / 10, d.exponent + 1⟩
      else d

/-- The decimal without zeros at the end of its digits. -/
def normal (d : Decimal) : Decimal :=
  strip (digitCount d.digits) d

end Decimal

/-! ## Reading -/

namespace Binary64

/-- A sign in front of a number, and what follows it. -/
def takeSign : List Char → Bool × List Char
  | '-' :: rest => (true, rest)
  | '+' :: rest => (false, rest)
  | s => (false, s)

/-- The exponent part of a number: nothing, or `e`, an optional sign and at
least one digit. -/
def readExponent : List Char → Option Int
  | [] => some 0
  | e :: rest =>
      if e = 'e' ∨ e = 'E' then
        let (negative, digits) := takeSign rest
        if digits ≠ [] ∧ digits.all Char.isDigit then
          let n : Int := Decimal.natFrom 0 digits
          some (if negative then -n else n)
        else none
      else none

/-- Digits, at most one point among or beside them, and an exponent. -/
def readDecimal (s : List Char) : Option Decimal :=
  let whole := s.takeWhile Char.isDigit
  let (fraction, rest) :=
    match s.dropWhile Char.isDigit with
    | '.' :: rest => (rest.takeWhile Char.isDigit, rest.dropWhile Char.isDigit)
    | rest => ([], rest)
  if whole = [] ∧ fraction = [] then none
  else
    (readExponent rest).map fun e =>
      ⟨Decimal.natFrom 0 (whole ++ fraction), e - fraction.length⟩

/-- A floating-point number in decimal notation, or one of the words `inf`,
`infinity` and `nan` in any case, each with an optional sign. -/
def read? (s : List Char) : Option Binary64 :=
  let (negative, body) := takeSign s
  let word := body.map Char.toLower
  if word = "inf".toList ∨ word = "infinity".toList then some (.infinite negative)
  else if word = "nan".toList then some .nan
  else (readDecimal body).map fun d => ofRank negative d.rank

end Binary64

/-- A whole number that fits in 64 bits with a sign. -/
def readInt64? (s : List Char) : Option Int64 :=
  let (negative, digits) := Binary64.takeSign s
  if digits ≠ [] ∧ digits.all Char.isDigit then
    let n : Int := Decimal.natFrom 0 digits
    let n := if negative then -n else n
    if -0x8000000000000000 ≤ n ∧ n < 0x8000000000000000 then some (Int64.ofInt n) else none
  else none

/-! ## Choosing digits -/

/-- Which of two equally near candidates is taken. -/
inductive Tie where
  | up
  | even
  deriving DecidableEq

namespace Decimal

/-- The place of the first significant digit of `num / den`: the value lies
between `10 ^ (place - 1)` and `10 ^ place`. -/
def leadingPlace (num den : Nat) : Int :=
  if den ≤ num then digitCount (num / den)
  else 1 - digitCount ((den + num - 1) / num - 1)

/-- The two neighbours of `num / den` on the grid of multiples of
`10 ^ exponent`, the one below first, and how the value's distances to them
compare. -/
def neighbours (num den : Nat) (exponent : Int) : Decimal × Decimal × Ordering :=
  let (n, d) :=
    if 0 ≤ exponent then (num, den * tenTo exponent.toNat)
    else (num * tenTo (-exponent).toNat, den)
  let low := n / d
  (⟨low, exponent⟩, ⟨low + 1, exponent⟩, compare (2 * (n % d)) d)

/-- The nearer of the two neighbours that read back as `rank`. -/
def nearestReading (rank : Nat) (tie : Tie) (num den : Nat) (exponent : Int) :
    Option Decimal :=
  let (low, high, side) := neighbours num den exponent
  match decide (low.rank = rank), decide (high.rank = rank) with
  | true, true =>
      match side with
      | .lt => some low
      | .gt => some high
      | .eq =>
          match tie with
          | .up => some high
          | .even => if low.digits % 2 = 0 then some low else some high
  | true, false => some low
  | false, true => some high
  | false, false => none

/-- The magnitude of a rank written out in full. -/
def exact (rank : Nat) : Decimal :=
  ⟨Binary64.units rank * Nat.pow 5 1074, -1074⟩

/-- The decimal a magnitude is written as: with one digit, or two, up to 17, as
soon as a neighbour on that grid reads back. -/
def shortest (tie : Tie) (rank : Nat) : Decimal :=
  if rank = 0 then ⟨0, 0⟩
  else
    let num := Binary64.units rank
    let den := 1 <<< 1074
    let place := leadingPlace num den
    let found := (List.range 17).findSome? fun (k : Nat) =>
      nearestReading rank tie num den (place - (k + 1))
    (found.getD (exact rank)).normal

end Decimal

end PlotScript
