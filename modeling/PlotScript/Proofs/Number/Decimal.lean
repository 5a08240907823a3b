import PlotScript.Number.Notation
import PlotScript.Proofs.Number.Rounding

/-!
# Decimals of magnitudes

Digits and zeros at the end of them, the rank of a decimal, and why the decimal
that is chosen for a magnitude has the rank of that magnitude.
-/

namespace PlotScript.Decimal

/-! ## Digits -/

theorem natFrom_append (acc : Nat) (front back : List Char) :
    natFrom acc (front ++ back) = natFrom (natFrom acc front) back :=
  List.foldl_append

theorem natFrom_toDigits (n : Nat) : natFrom 0 (Nat.toDigits 10 n) = n :=
  Nat.ofDigitChars_ten_toDigits

theorem natFrom_zeros (acc count : Nat) :
    natFrom acc (List.replicate count '0') = 10 ^ count * acc :=
  Nat.ofDigitChars_replicate_zero

theorem digitCount_le_iff {n k : Nat} (positive : 0 < k) : digitCount n ≤ k ↔ n < 10 ^ k :=
  Nat.length_toDigits_le_iff (by decide) positive

/-- A factor of ten is one more digit. -/
theorem digitCount_mul_pow {n : Nat} (nonzero : n ≠ 0) (k : Nat) :
    digitCount (n * 10 ^ k) = digitCount n + k := by
  induction k with
  | zero => simp
  | succ k ih =>
      have tenfold : n * 10 ^ (k + 1) = 10 * (n * 10 ^ k) := by
        rw [Nat.pow_succ, ← Nat.mul_assoc, Nat.mul_comm]
      have shifted : Nat.toDigits 10 (n * 10 ^ (k + 1)) =
          Nat.toDigits 10 (n * 10 ^ k) ++ ['0'] := by
        have positive : 0 < n * 10 ^ k :=
          Nat.mul_pos (Nat.pos_of_ne_zero nonzero) (Nat.pow_pos (by decide))
        have appended := Nat.toDigits_append_toDigits (b := 10) (d := 0) (by decide) positive
          (by decide)
        rw [Nat.toDigits_zero, Nat.add_zero] at appended
        rw [appended, tenfold]
      rw [digitCount, shifted, List.length_append, ← digitCount, ih]
      rfl

/-! ## Ranks -/

theorem ratio_of_nonneg {d : Decimal} (h : 0 ≤ d.exponent) :
    d.ratio = (d.digits * 10 ^ d.exponent.toNat, 1) :=
  if_pos h

theorem ratio_of_neg {d : Decimal} (h : d.exponent < 0) :
    d.ratio = (d.digits, 10 ^ (-d.exponent).toNat) :=
  if_neg (Int.not_le.2 h)

/-- The nearest magnitude does not depend on how a decimal is written. -/
theorem nearestRank_mul_pow (n : Nat) (e : Int) (k : Nat) :
    Binary64.nearestRank (ratio ⟨n * 10 ^ k, e⟩).1 (ratio ⟨n * 10 ^ k, e⟩).2 =
      Binary64.nearestRank (ratio ⟨n, e + k⟩).1 (ratio ⟨n, e + k⟩).2 := by
  have factor : ∀ j, 0 < 10 ^ j := fun j => Nat.pow_pos (by decide)
  -- the power of ten cancels against the denominator, in part or as a whole, or there is none
  rcases Int.lt_or_le e 0 with negative | nonneg
  · rw [ratio_of_neg (d := ⟨n * 10 ^ k, e⟩) negative]
    rcases Int.lt_or_le (e + k) 0 with still | crossed
    · have places : (-e).toNat = (-(e + k)).toNat + k := by omega
      rw [ratio_of_neg (d := ⟨n, e + k⟩) still]
      simp only [places, Nat.pow_add]
      exact Binary64.nearestRank_mul_right _ _ (factor k)
    · have places : k = (e + k).toNat + (-e).toNat := by omega
      rw [ratio_of_nonneg (d := ⟨n, e + k⟩) crossed]
      have shared : n * 10 ^ k = n * 10 ^ (e + k).toNat * 10 ^ (-e).toNat := by
        rw [Nat.mul_assoc, ← Nat.pow_add, ← places]
      have cancelled := Binary64.nearestRank_mul_right (n * 10 ^ (e + k).toNat) 1
        (factor (-e).toNat)
      rw [Nat.one_mul] at cancelled
      simp only [shared]
      exact cancelled
  · have places : (e + k).toNat = k + e.toNat := by omega
    rw [ratio_of_nonneg (d := ⟨n * 10 ^ k, e⟩) nonneg,
      ratio_of_nonneg (d := ⟨n, e + k⟩) (by simp only; omega)]
    simp only [places, Nat.pow_add, Nat.mul_assoc]

/-- The rank does not depend on how a decimal is written. -/
theorem rank_mul_pow {n : Nat} (nonzero : n ≠ 0) (e : Int) (k : Nat) :
    rank ⟨n * 10 ^ k, e⟩ = rank ⟨n, e + k⟩ := by
  have sameTop : ((digitCount n + k : Nat) : Int) + e = digitCount n + (e + k) := by omega
  have stillNonzero : n * 10 ^ k ≠ 0 :=
    Nat.mul_ne_zero nonzero (Nat.ne_of_gt (Nat.pow_pos (by decide)))
  simp only [rank, digitCount_mul_pow nonzero, sameTop, nearestRank_mul_pow, nonzero,
    stillNonzero]

theorem rank_strip (fuel : Nat) (d : Decimal) : (strip fuel d).rank = d.rank := by
  induction fuel generalizing d with
  | zero => rfl
  | succ fuel ih =>
      unfold strip
      split
      · rename_i trailing
        obtain ⟨nonzero, zeroDigit⟩ := trailing
        have shifted : d.digits / 10 * 10 ^ 1 = d.digits := by
          rw [Nat.pow_one]
          exact Nat.div_mul_cancel (Nat.dvd_of_mod_eq_zero zeroDigit)
        have front : d.digits / 10 ≠ 0 := by
          intro zero
          rw [zero, Nat.zero_mul] at shifted
          exact nonzero shifted.symm
        have same := rank_mul_pow front d.exponent 1
        rw [shifted] at same
        rw [ih]
        exact same.symm
      · rfl

theorem rank_normal (d : Decimal) : d.normal.rank = d.rank :=
  rank_strip _ d

/-! ## The chosen decimal -/

theorem rank_nearestReading {rank : Nat} {tie : Tie} {num den : Nat} {exponent : Int}
    {d : Decimal} (h : nearestReading rank tie num den exponent = some d) : d.rank = rank := by
  unfold nearestReading at h
  simp only at h
  split at h
  · rename_i lowReads highReads
    have low := of_decide_eq_true lowReads
    have high := of_decide_eq_true highReads
    split at h
    · exact Option.some.inj h ▸ low
    · exact Option.some.inj h ▸ high
    · split at h
      · exact Option.some.inj h ▸ high
      · split at h
        · exact Option.some.inj h ▸ low
        · exact Option.some.inj h ▸ high
  · rename_i lowReads highReads
    exact Option.some.inj h ▸ of_decide_eq_true lowReads
  · rename_i lowReads highReads
    exact Option.some.inj h ▸ of_decide_eq_true highReads
  · cases h

/-- A magnitude that is written out in full reads back. -/
theorem rank_exact {rank : Nat} (nonzero : rank ≠ 0) (finite : rank < magnitudeCount) :
    (exact rank).rank = rank := by
  -- the exponents are kept as variables, so that no power of them is computed
  obtain ⟨places, isPlaces, fine, doublings, isDoublings, coarse⟩ :
      ∃ places, places = 1074 ∧ 10 ^ 743 ≤ 5 ^ places ∧ ∃ doublings, doublings = 2045 ∧
        2 ^ (53 + doublings) * 5 ^ places < 10 ^ 1384 :=
    ⟨1074, rfl, by decide +kernel, 2045, rfl, by decide +kernel⟩
  have unitsPos : 0 < Binary64.units rank := Binary64.units_pos nonzero
  have fivePos : 0 < 5 ^ places := Nat.pow_pos (by decide)
  have written : exact rank = ⟨Binary64.units rank * 5 ^ places, -(places : Int)⟩ := by
    have exponent : (1074 : Int) = places := by
      rw [isPlaces]
      rfl
    rw [exact, ← isPlaces, exponent]
    rfl
  have digitsPos : Binary64.units rank * 5 ^ places ≠ 0 :=
    Nat.mul_ne_zero (Nat.ne_of_gt unitsPos) (Nat.ne_of_gt fivePos)
  have many : 743 < digitCount (Binary64.units rank * 5 ^ places) := by
    refine Nat.not_le.1 fun short => ?_
    have below := (digitCount_le_iff (by decide)).1 short
    have least : 5 ^ places ≤ Binary64.units rank * 5 ^ places :=
      Nat.le_mul_of_pos_left _ unitsPos
    omega
  have few : digitCount (Binary64.units rank * 5 ^ places) ≤ 1384 := by
    have inBinades : rank / Binary64.binade ≤ doublings + 1 := by
      rw [isDoublings]
      exact Binary64.binade_of_finite finite
    have below := Nat.mul_lt_mul_of_pos_right (Binary64.units_lt inBinades) fivePos
    exact (digitCount_le_iff (by decide)).2 (Nat.lt_trans below coarse)
  have nearest : Binary64.nearestRank (Binary64.units rank * 5 ^ places) (10 ^ places) = rank := by
    have tens : 10 ^ places = 1 <<< places * 5 ^ places := by
      rw [Nat.one_shiftLeft, ← Nat.mul_pow]
    have magnitude := Binary64.nearestRank_units rank
    rw [← isPlaces] at magnitude
    rw [tens, Binary64.nearestRank_mul_right _ _ fivePos, magnitude]
  have inside : ¬ (Binary64.units rank * 5 ^ places = 0 ∨
      (digitCount (Binary64.units rank * 5 ^ places) : Int) + -(places : Int) < -330) := by
    omega
  rw [written, Decimal.rank, ratio_of_neg (by simp only; omega)]
  simp only
  rw [if_neg inside, if_neg (by omega), Int.neg_neg, Int.toNat_natCast, nearest]

/-- The decimal that a magnitude is written as reads back. -/
theorem rank_shortest (tie : Tie) {rank : Nat} (finite : rank < magnitudeCount) :
    (shortest tie rank).rank = rank := by
  unfold shortest
  split
  · rename_i zero
    rw [zero]
    rfl
  · rename_i nonzero
    simp only [rank_normal]
    cases found : (List.range 17).findSome? fun (k : Nat) =>
        nearestReading rank tie (Binary64.units rank) (1 <<< 1074)
          (leadingPlace (Binary64.units rank) (1 <<< 1074) - (k + 1)) with
    | none => exact rank_exact nonzero finite
    | some d =>
        obtain ⟨k, -, reads⟩ := List.exists_of_findSome?_eq_some found
        exact rank_nearestReading reads

end PlotScript.Decimal
