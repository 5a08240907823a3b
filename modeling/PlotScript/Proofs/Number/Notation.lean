import Mathlib.Data.List.TakeWhile
import PlotScript.Proofs.Number.Decimal

/-!
# Reading what is written

A finite number in its plain form is an optional minus, digits, and an optional
fraction, and it is read back as the same number.
-/

namespace PlotScript

/-! ## The plain form -/

/-- Digits, perhaps with a point and more digits behind them. -/
inductive IsPositional : List Char → Prop where
  | whole {whole : List Char} (nonempty : whole ≠ []) (digits : ∀ c ∈ whole, c.isDigit = true) :
      IsPositional whole
  | pointed {whole fraction : List Char} (nonempty : whole ≠ [])
      (digits : ∀ c ∈ whole, c.isDigit = true) (more : fraction ≠ [])
      (decimals : ∀ c ∈ fraction, c.isDigit = true) :
      IsPositional (whole ++ '.' :: fraction)

namespace IsPositional

variable {s : List Char}

/-- The first character is a digit. -/
theorem exists_cons (h : IsPositional s) : ∃ c rest, s = c :: rest ∧ c.isDigit = true := by
  cases h with
  | whole nonempty digits =>
      obtain ⟨c, rest, rfl⟩ := List.exists_cons_of_ne_nil nonempty
      exact ⟨c, rest, rfl, digits c List.mem_cons_self⟩
  | pointed nonempty digits =>
      obtain ⟨c, rest, rfl⟩ := List.exists_cons_of_ne_nil nonempty
      exact ⟨c, _, rfl, digits c List.mem_cons_self⟩

theorem isDigit_or_point (h : IsPositional s) {c : Char} (member : c ∈ s) :
    c.isDigit = true ∨ c = '.' := by
  cases h with
  | whole nonempty digits => exact .inl (digits c member)
  | pointed nonempty digits more decimals =>
      rcases List.mem_append.1 member with member | member
      · exact .inl (digits c member)
      · rcases List.mem_cons.1 member with rfl | member
        · exact .inr rfl
        · exact .inl (decimals c member)

end IsPositional

/-- A plain form: an optional minus in front of a positional one. -/
def IsPlain (s : List Char) : Prop :=
  ∃ negative body, IsPositional body ∧ s = signed negative body

namespace IsPlain

variable {s : List Char}

/-- A plain form begins with a digit or with a minus. -/
theorem exists_cons (h : IsPlain s) :
    ∃ c rest, s = c :: rest ∧ (c.isDigit = true ∨ c = '-') := by
  obtain ⟨negative, body, positional, rfl⟩ := h
  cases negative with
  | true => exact ⟨'-', body, rfl, .inr rfl⟩
  | false =>
      obtain ⟨c, rest, rfl, digit⟩ := positional.exists_cons
      exact ⟨c, rest, rfl, .inl digit⟩

theorem isDigit_or_sign (h : IsPlain s) {c : Char} (member : c ∈ s) :
    c.isDigit = true ∨ c = '.' ∨ c = '-' := by
  obtain ⟨negative, body, positional, rfl⟩ := h
  cases negative with
  | true =>
      rcases List.mem_cons.1 member with rfl | member
      · exact .inr (.inr rfl)
      · exact (positional.isDigit_or_point member).imp id .inl
  | false => exact (positional.isDigit_or_point member).imp id .inl

end IsPlain

/-! ## Reading decimals -/

namespace Binary64

variable {whole fraction : List Char}

theorem readDecimal_whole (nonempty : whole ≠ []) (digits : ∀ c ∈ whole, c.isDigit = true) :
    readDecimal whole = some ⟨Decimal.natFrom 0 whole, 0⟩ := by
  have taken : whole.takeWhile Char.isDigit = whole := List.takeWhile_eq_self_iff.2 digits
  have left : whole.dropWhile Char.isDigit = [] := List.dropWhile_eq_nil_iff.2 digits
  simp [readDecimal, taken, left, nonempty, readExponent]

theorem readDecimal_pointed (nonempty : whole ≠ []) (digits : ∀ c ∈ whole, c.isDigit = true)
    (decimals : ∀ c ∈ fraction, c.isDigit = true) :
    readDecimal (whole ++ '.' :: fraction) =
      some ⟨Decimal.natFrom 0 (whole ++ fraction), -(fraction.length : Int)⟩ := by
  have noDigit : ¬ Char.isDigit '.' = true := by decide
  have taken : (whole ++ '.' :: fraction).takeWhile Char.isDigit = whole := by
    rw [List.takeWhile_append_of_pos digits, List.takeWhile_cons_of_neg noDigit, List.append_nil]
  have left : (whole ++ '.' :: fraction).dropWhile Char.isDigit = '.' :: fraction := by
    rw [List.dropWhile_append_of_pos digits, List.dropWhile_cons_of_neg noDigit]
  have takenBehind : fraction.takeWhile Char.isDigit = fraction :=
    List.takeWhile_eq_self_iff.2 decimals
  have leftBehind : fraction.dropWhile Char.isDigit = [] := List.dropWhile_eq_nil_iff.2 decimals
  simp [readDecimal, taken, left, takenBehind, leftBehind, nonempty, readExponent]

end Binary64

namespace Decimal

theorem isDigit_of_mem_toDigits {n : Nat} {c : Char} (member : c ∈ Nat.toDigits 10 n) :
    c.isDigit = true :=
  Nat.isDigit_of_mem_toDigits (by decide) (by decide) member

theorem isDigit_of_mem_zeros {count : Nat} {c : Char} (member : c ∈ List.replicate count '0') :
    c.isDigit = true := by
  rw [List.eq_of_mem_replicate member]
  decide

theorem rank_zero_digits (e : Int) : rank ⟨0, e⟩ = 0 := by
  simp [rank]

/-- What is written without a fraction. -/
theorem positional_of_nonneg {d : Decimal} (h : 0 ≤ d.exponent) :
    d.positional = Nat.toDigits 10 d.digits ++ List.replicate d.exponent.toNat '0' := by
  simp [positional, halves, h]

/-- What is written with a fraction has as many digits in it as the decimal has
places. -/
theorem exists_positional_of_neg {d : Decimal} (h : d.exponent < 0) :
    ∃ whole fraction, d.positional = whole ++ '.' :: fraction ∧ whole ≠ [] ∧
      (fraction.length : Int) = -d.exponent ∧
      ∃ zeros, whole ++ fraction = List.replicate zeros '0' ++ Nat.toDigits 10 d.digits := by
  obtain ⟨places, isPlaces⟩ : ∃ places, places = (-d.exponent).toNat := ⟨_, rfl⟩
  obtain ⟨padded, isPadded⟩ : ∃ padded, padded =
      List.replicate (places + 1 - (Nat.toDigits 10 d.digits).length) '0' ++
        Nat.toDigits 10 d.digits := ⟨_, rfl⟩
  -- the zeros in front leave at least one digit before the point
  have long : places + 1 ≤ padded.length := by
    rw [isPadded, List.length_append, List.length_replicate]
    omega
  have halved : d.halves = (padded.take (padded.length - places),
      padded.drop (padded.length - places)) := by
    rw [halves, if_neg (Int.not_le.2 h), ← List.splitAt_eq, isPadded, isPlaces]
  have fractionLength : (padded.drop (padded.length - places)).length = places := by
    rw [List.length_drop]
    omega
  have someFraction : padded.drop (padded.length - places) ≠ [] := by
    intro none
    rw [none, List.length_nil] at fractionLength
    omega
  refine ⟨padded.take (padded.length - places), padded.drop (padded.length - places), ?_, ?_, ?_,
    places + 1 - (Nat.toDigits 10 d.digits).length, ?_⟩
  · unfold positional
    rw [halved]
    split
    · rename_i none
      exact absurd (Prod.mk.inj none).2 someFraction
    · rename_i both
      obtain ⟨rfl, rfl⟩ := Prod.mk.inj both
      rfl
  · intro none
    have noLength := congrArg List.length none
    rw [List.length_take, List.length_nil] at noLength
    omega
  · rw [fractionLength]
    omega
  · rw [List.take_append_drop, isPadded]

/-- What is written in place is read as a decimal of the same rank. -/
theorem readDecimal_positional (d : Decimal) :
    IsPositional d.positional ∧
      ∃ e, Binary64.readDecimal d.positional = some e ∧ e.rank = d.rank := by
  rcases Int.lt_or_le d.exponent 0 with negative | nonneg
  · obtain ⟨whole, fraction, written, nonempty, places, zeros, padded⟩ :=
      exists_positional_of_neg negative
    have allDigits : ∀ c ∈ whole ++ fraction, c.isDigit = true := by
      intro c member
      rw [padded] at member
      rcases List.mem_append.1 member with member | member
      · exact isDigit_of_mem_zeros member
      · exact isDigit_of_mem_toDigits member
    have digits : ∀ c ∈ whole, c.isDigit = true := fun c member =>
      allDigits c (List.mem_append_left _ member)
    have decimals : ∀ c ∈ fraction, c.isDigit = true := fun c member =>
      allDigits c (List.mem_append_right _ member)
    have more : fraction ≠ [] := by
      rintro rfl
      simp only [List.length_nil] at places
      omega
    have value : natFrom 0 (whole ++ fraction) = d.digits := by
      rw [padded, natFrom_append, natFrom_zeros, Nat.mul_zero, natFrom_toDigits]
    rw [written]
    refine ⟨.pointed nonempty digits more decimals, d, ?_, rfl⟩
    rw [Binary64.readDecimal_pointed nonempty digits decimals, value, places, Int.neg_neg]
  · rw [positional_of_nonneg nonneg]
    have nonempty : Nat.toDigits 10 d.digits ++ List.replicate d.exponent.toNat '0' ≠ [] := by
      simp
    have digits : ∀ c ∈ Nat.toDigits 10 d.digits ++ List.replicate d.exponent.toNat '0',
        c.isDigit = true := by
      intro c member
      rcases List.mem_append.1 member with member | member
      · exact isDigit_of_mem_toDigits member
      · exact isDigit_of_mem_zeros member
    refine ⟨.whole nonempty digits, _, Binary64.readDecimal_whole nonempty digits, ?_⟩
    rw [natFrom_append, natFrom_toDigits, natFrom_zeros, Nat.mul_comm]
    by_cases zero : d.digits = 0
    · rw [zero, Nat.zero_mul, rank_zero_digits, Decimal.rank, if_pos (.inl zero)]
    · rw [rank_mul_pow zero, Int.zero_add, Int.toNat_of_nonneg nonneg]

end Decimal

/-! ## Numbers -/

namespace Binary64

theorem takeSign_of_isDigit {c : Char} (digit : c.isDigit = true) (rest : List Char) :
    takeSign (c :: rest) = (false, c :: rest) := by
  unfold takeSign
  split
  · rename_i minus
    rw [(List.cons.inj minus).1] at digit
    exact absurd digit (by decide)
  · rename_i plus
    rw [(List.cons.inj plus).1] at digit
    exact absurd digit (by decide)
  · rfl

/-- A sign in front of a positional form is taken off. -/
theorem takeSign_signed (negative : Bool) {body : List Char} (positional : IsPositional body) :
    takeSign (signed negative body) = (negative, body) := by
  cases negative with
  | true => rfl
  | false =>
      obtain ⟨c, rest, rfl, digit⟩ := positional.exists_cons
      exact takeSign_of_isDigit digit rest

theorem isPlain_plain {x : Binary64} (finite : x.isFinite = true) : IsPlain x.plain.toList := by
  cases x with
  | nan => cases finite
  | infinite negative => cases finite
  | finite negative rank =>
      have positional := (Decimal.readDecimal_positional (Decimal.shortest .up rank)).1
      exact ⟨negative, _, positional, by rw [plain, String.toList_ofList]⟩

theorem toLower_of_isDigit {c : Char} (digit : c.isDigit = true) : c.toLower = c := by
  have notUpper : ¬ (c.val ≥ 'A'.val ∧ c.val ≤ 'Z'.val) := by
    rintro ⟨upper, -⟩
    simp only [Char.isDigit, Bool.and_eq_true, decide_eq_true_eq] at digit
    have := UInt32.le_trans upper digit.2
    revert this
    decide
  unfold Char.toLower
  rw [dif_neg notUpper]

/-- A finite number is read back from its plain form. -/
theorem read?_plain {x : Binary64} (finite : x.isFinite = true) :
    read? x.plain.toList = some x := by
  cases x with
  | nan => cases finite
  | infinite negative => cases finite
  | finite negative rank =>
      obtain ⟨positional, d, reads, sameRank⟩ :=
        Decimal.readDecimal_positional (Decimal.shortest .up rank)
      have isRank : d.rank = rank := sameRank.trans (Decimal.rank_shortest .up rank.isLt)
      rw [plain, String.toList_ofList, read?, takeSign_signed negative positional]
      generalize (Decimal.shortest .up rank).positional = body at positional reads
      obtain ⟨c, rest, written, digit⟩ := positional.exists_cons
      have noWord : ∀ (letter : Char) (word : List Char), letter.isDigit = false →
          body.map Char.toLower ≠ letter :: word := by
        intro letter word notDigit same
        rw [written, List.map_cons, toLower_of_isDigit digit] at same
        rw [(List.cons.inj same).1, notDigit] at digit
        cases digit
      have notInf : body.map Char.toLower ≠ "inf".toList := noWord 'i' _ (by decide)
      have notInfinity : body.map Char.toLower ≠ "infinity".toList := noWord 'i' _ (by decide)
      have notNan : body.map Char.toLower ≠ "nan".toList := noWord 'n' _ (by decide)
      simp only
      rw [if_neg (not_or.2 ⟨notInf, notInfinity⟩), if_neg notNan, reads, Option.map_some, isRank,
        ofRank, dif_pos rank.isLt]

end Binary64

end PlotScript
