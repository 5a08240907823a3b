import Mathlib.Algebra.Group.Nat.Defs
import PlotScript.Number.Binary64

/-!
# Rounding to the nearest magnitude

Rounding depends on the value of a ratio only, and a ratio that is a magnitude
itself is rounded to it.
-/

namespace PlotScript.Binary64

/-! ## Whole numbers -/

/-- A common factor does not change what a ratio is rounded to. -/
theorem roundHalfEven_mul_right (num den : Nat) {k : Nat} (positive : 0 < k) :
    roundHalfEven (num * k) (den * k) = roundHalfEven num den := by
  have sameLow : num * k / (den * k) = num / den := Nat.mul_div_mul_right num den positive
  have scaledExcess : 2 * (num * k % (den * k)) = 2 * (num % den) * k := by
    rw [Nat.mul_mod_mul_right, Nat.mul_assoc]
  simp only [roundHalfEven, sameLow, scaledExcess, Nat.mul_lt_mul_right positive]

theorem roundHalfEven_mul_self (n : Nat) {den : Nat} (positive : 0 < den) :
    roundHalfEven (n * den) den = n := by
  have low : n * den / den = n := Nat.mul_div_cancel n positive
  have noExcess : n * den % den = 0 := Nat.mul_mod_left n den
  simp only [roundHalfEven, low, noExcess, Nat.mul_zero, if_pos positive]

/-! ## Magnitudes -/

/-- A common factor does not change the nearest magnitude. -/
theorem nearestRank_mul_right (num den : Nat) {k : Nat} (positive : 0 < k) :
    nearestRank (num * k) (den * k) = nearestRank num den := by
  have scaled : (num * k) <<< 1074 = num <<< 1074 * k := by
    simp only [Nat.shiftLeft_eq, Nat.mul_right_comm]
  have sameQuotient : num <<< 1074 * k / (den * k) = num <<< 1074 / den :=
    Nat.mul_div_mul_right _ _ positive
  have doubled : ∀ d, (den * k) <<< d = den <<< d * k := by
    intro d
    simp only [Nat.shiftLeft_eq, Nat.mul_right_comm]
  simp only [nearestRank, scaled, sameQuotient, doubled, roundHalfEven_mul_right _ _ positive]

/-- A magnitude is its significand doubled as often as there are whole binades
below it, and its size tells how often that is. -/
theorem exists_units (rank : Nat) :
    ∃ significand doublings, units rank = significand <<< doublings ∧
      significand + doublings * binade = rank ∧ (units rank).log2 - 52 = doublings := by
  unfold units
  split
  · rename_i small
    refine ⟨rank, 0, by simp, by simp, ?_⟩
    by_cases zero : rank = 0
    · rw [zero, Nat.log2_zero]
    · have below : rank.log2 < 53 := (Nat.log2_lt zero).2 small
      omega
  · rename_i large
    -- from the third binade on the significand has 53 bits
    have bounded : rank % binade < binade := Nat.mod_lt _ (by decide)
    have whole : binade * (rank / binade) + rank % binade = rank := Nat.div_add_mod rank binade
    have doubled : 2 ≤ rank / binade :=
      (Nat.le_div_iff_mul_le (by decide)).2 (Nat.not_lt.1 large)
    obtain ⟨doublings, count⟩ : ∃ d, rank / binade = d + 1 :=
      ⟨rank / binade - 1, by omega⟩
    refine ⟨binade + rank % binade, doublings, by rw [count, Nat.add_sub_cancel], ?_, ?_⟩
    · rw [count, Nat.mul_add, Nat.mul_one, Nat.mul_comm binade] at whole
      omega
    · have size : ((binade + rank % binade) <<< doublings).log2 = 52 + doublings := by
        rw [Nat.shiftLeft_eq, Nat.log2_eq_iff (Nat.mul_ne_zero (by unfold binade; omega) (by simp)),
          Nat.pow_succ, Nat.pow_add]
        have power : binade = 2 ^ 52 := rfl
        constructor
        · exact Nat.mul_le_mul_right _ (by omega)
        · rw [Nat.mul_right_comm]
          exact Nat.mul_lt_mul_of_pos_right (by omega) (Nat.two_pow_pos doublings)
      rw [count, Nat.add_sub_cancel, size, Nat.add_sub_cancel_left]

/-- The magnitude of a rank is rounded to that rank. -/
theorem nearestRank_units (rank : Nat) : nearestRank (units rank) (1 <<< 1074) = rank := by
  obtain ⟨significand, doublings, doubled, place, size⟩ := exists_units rank
  unfold nearestRank
  -- nothing depends on how many places there are, and no power of two is computed
  generalize 1074 = places
  have unscaled : units rank <<< places / 1 <<< places = units rank := by
    rw [Nat.shiftLeft_eq, Nat.shiftLeft_eq, Nat.one_mul]
    exact Nat.mul_div_cancel _ (Nat.two_pow_pos places)
  have asProduct : units rank <<< places = significand * (1 <<< places) <<< doublings := by
    simp only [doubled, Nat.shiftLeft_eq, Nat.one_mul]
    rw [Nat.mul_assoc, Nat.mul_comm (2 ^ doublings)]
  have positive : 0 < (1 <<< places) <<< doublings := by
    rw [Nat.shiftLeft_eq, Nat.shiftLeft_eq, Nat.one_mul]
    exact Nat.mul_pos (Nat.two_pow_pos places) (Nat.two_pow_pos doublings)
  simp only [unscaled, size]
  rw [asProduct, roundHalfEven_mul_self _ positive, place]

/-! ## Bounds -/

theorem units_pos {rank : Nat} (h : rank ≠ 0) : 0 < units rank := by
  unfold units
  split
  · exact Nat.pos_of_ne_zero h
  · rw [Nat.shiftLeft_eq]
    exact Nat.mul_pos (Nat.add_pos_left (by decide) _) (Nat.two_pow_pos _)

/-- A magnitude has 53 bits, doubled as often as its binade says. -/
theorem units_lt {rank doublings : Nat} (h : rank / binade ≤ doublings + 1) :
    units rank < 2 ^ (53 + doublings) := by
  unfold units
  split
  · rename_i small
    calc rank < 2 ^ 53 := small
      _ ≤ 2 ^ (53 + doublings) := Nat.pow_le_pow_right (by decide) (Nat.le_add_right 53 doublings)
  · have significand : binade + rank % binade < 2 ^ 53 := by
      have := Nat.mod_lt rank (show 0 < binade by decide)
      unfold binade at *
      omega
    calc (binade + rank % binade) <<< (rank / binade - 1)
        = (binade + rank % binade) * 2 ^ (rank / binade - 1) := Nat.shiftLeft_eq _ _
      _ ≤ (binade + rank % binade) * 2 ^ doublings :=
          Nat.mul_le_mul_left _ (Nat.pow_le_pow_right (by decide) (by omega))
      _ < 2 ^ 53 * 2 ^ doublings :=
          Nat.mul_lt_mul_of_pos_right significand (Nat.two_pow_pos doublings)
      _ = 2 ^ (53 + doublings) := (Nat.pow_add 2 53 doublings).symm

/-- A finite magnitude is in one of the first 2047 binades. -/
theorem binade_of_finite {rank : Nat} (h : rank < magnitudeCount) : rank / binade ≤ 2046 := by
  unfold magnitudeCount at h
  unfold binade
  omega

/-! ## Ratios up to one -/

theorem roundHalfEven_le (num den : Nat) : roundHalfEven num den ≤ num / den + 1 := by
  unfold roundHalfEven
  simp only
  split
  · exact Nat.le_succ _
  · split
    · exact Nat.le_refl _
    · have := Nat.mod_lt (num / den) (show 0 < 2 by decide)
      omega

/-- A ratio below one is rounded to one at most. -/
theorem nearestRank_le_of_lt {num den : Nat} (h : num < den) :
    nearestRank num den ≤ rankOfOne := by
  obtain ⟨places, isPlaces⟩ : ∃ places, places = 1074 := ⟨1074, rfl⟩
  have positive : 0 < den := Nat.zero_lt_of_lt h
  have below : num <<< places / den < 2 ^ places := by
    rw [Nat.div_lt_iff_lt_mul positive, Nat.shiftLeft_eq, Nat.mul_comm (2 ^ places)]
    exact Nat.mul_lt_mul_of_pos_right h (Nat.two_pow_pos places)
  have size : (num <<< places / den).log2 < places := by
    by_cases zero : num <<< places / den = 0
    · rw [zero, Nat.log2_zero, isPlaces]
      decide
    · exact (Nat.log2_lt zero).2 below
  unfold nearestRank
  rw [← isPlaces]
  simp only
  generalize isDoublings : (num <<< places / den).log2 - 52 = doublings
  have significand : num <<< places / den <<< doublings < 2 ^ 53 := by
    rw [Nat.shiftLeft_eq den, ← Nat.div_div_eq_div_mul,
      Nat.div_lt_iff_lt_mul (Nat.two_pow_pos doublings), ← Nat.pow_add]
    calc num <<< places / den
        < 2 ^ ((num <<< places / den).log2 + 1) := Nat.lt_log2_self
      _ ≤ 2 ^ (53 + doublings) := Nat.pow_le_pow_right (by decide) (by omega)
  have rounded := roundHalfEven_le (num <<< places) (den <<< doublings)
  unfold rankOfOne binade
  omega

/-- A ratio up to one is rounded to one at most. -/
theorem nearestRank_le_rankOfOne {num den : Nat} (positive : 0 < den) (h : num ≤ den) :
    nearestRank num den ≤ rankOfOne := by
  rcases Nat.lt_or_eq_of_le h with less | rfl
  · exact nearestRank_le_of_lt less
  · have one := nearestRank_mul_right 1 1 positive
    rw [Nat.one_mul] at one
    rw [one]
    decide +kernel

end PlotScript.Binary64
