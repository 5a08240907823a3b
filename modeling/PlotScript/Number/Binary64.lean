/-!
# Floating-point numbers

Binary floating point with 53 significant bits and the exponent range of a
64-bit word. The finite magnitudes are numbered in increasing order, and each
is a whole multiple of the smallest positive one, `2 ^ (-1074)`; `units` is
that multiple. `nearestRank` rounds any ratio of natural numbers to the nearest
magnitude and sends a tie to the even neighbour.
-/

namespace PlotScript

/-- How many finite magnitudes there are, zero included. -/
def magnitudeCount : Nat := 0x7FF0000000000000

/-- A floating-point number. A finite one is a sign and the rank of its
magnitude. -/
inductive Binary64 where
  | nan
  | infinite (negative : Bool)
  | finite (negative : Bool) (rank : Fin magnitudeCount)
  deriving DecidableEq

namespace Binary64

/-- How many magnitudes there are from a power of two to the next, `2 ^ 52`. -/
def binade : Nat := 0x10000000000000

/-- The magnitude of a rank as a multiple of the smallest positive one: in the
first two binades the rank itself, and beyond them the place in the binade is
the significand and the number of the binade says how often it is doubled. -/
def units (rank : Nat) : Nat :=
  if rank < 2 * binade then rank
  else (binade + rank % binade) <<< (rank / binade - 1)

/-- The whole number nearest to `num / den`, the even one of two. -/
def roundHalfEven (num den : Nat) : Nat :=
  let low := num / den
  let excess := 2 * (num % den)
  if excess < den then low
  else if den < excess then low + 1
  else low + low % 2

/-- The rank of the magnitude nearest to `num / den`. Ranks from
`magnitudeCount` on are beyond the finite range. -/
def nearestRank (num den : Nat) : Nat :=
  let scaled := num <<< 1074
  let doublings := (scaled / den).log2 - 52
  roundHalfEven scaled (den <<< doublings) + doublings * binade

/-- The number of a rank. Ranks beyond the finite range give an infinity. -/
def ofRank (negative : Bool) (rank : Nat) : Binary64 :=
  if h : rank < magnitudeCount then finite negative ⟨rank, h⟩ else infinite negative

/-- The number nearest to plus or minus `num / den`. -/
def ofRatio (negative : Bool) (num den : Nat) : Binary64 :=
  ofRank negative (nearestRank num den)

/-- The number nearest to a whole number. -/
def ofInt (n : Int) : Binary64 :=
  ofRatio (n < 0) n.natAbs 1

def isFinite : Binary64 → Bool
  | finite _ _ => true
  | _ => false

/-- The rank of one. -/
def rankOfOne : Nat := 0x3FF0000000000000

/-- Between zero and one, ends included; minus zero counts as zero. -/
def inUnitInterval : Binary64 → Bool
  | finite negative rank => rank.val = 0 || (!negative && rank.val ≤ rankOfOne)
  | _ => false

end Binary64

end PlotScript
