import PlotScript.Proofs.Number.Notation

/-!
# The characters of numbers

Digits, signs, points and the letter of an exponent are all that a finite number is written with
and all that it is read from.
-/

namespace PlotScript

/-- The characters of numbers. -/
def isNumeralChar (c : Char) : Bool :=
  c.isDigit || ['.', '+', '-', 'e', 'E'].contains c

/-- A text in the characters of numbers. -/
def IsNumeral (s : List Char) : Prop :=
  ∀ c ∈ s, isNumeralChar c = true

theorem isNumeralChar_of_isDigit {c : Char} (digit : c.isDigit = true) :
    isNumeralChar c = true := by
  rw [isNumeralChar, digit, Bool.true_or]

namespace IsNumeral

variable {s t : List Char}

theorem nil : IsNumeral [] := nofun

theorem cons {c : Char} (first : isNumeralChar c = true) (others : IsNumeral s) :
    IsNumeral (c :: s) :=
  List.forall_mem_cons.2 ⟨first, others⟩

theorem append (first : IsNumeral s) (second : IsNumeral t) : IsNumeral (s ++ t) :=
  List.forall_mem_append.2 ⟨first, second⟩

theorem of_digits (digits : ∀ c ∈ s, c.isDigit = true) : IsNumeral s :=
  fun c member => isNumeralChar_of_isDigit (digits c member)

theorem toDigits (n : Nat) : IsNumeral (Nat.toDigits 10 n) :=
  .of_digits fun _ => Decimal.isDigit_of_mem_toDigits

theorem signed {negative : Bool} (body : IsNumeral s) : IsNumeral (signed negative s) := by
  cases negative with
  | true => exact .cons (by decide) body
  | false => exact body

/-- A text whose digits at the front are taken off. -/
theorem of_dropWhile (rest : IsNumeral (s.dropWhile Char.isDigit)) : IsNumeral s := by
  rw [← List.takeWhile_append_dropWhile (p := Char.isDigit) (l := s)]
  exact .append (.of_digits fun _ => List.mem_takeWhile_imp) rest

end IsNumeral

/-! ## What is read -/

namespace Binary64

variable {s : List Char} {x : Binary64}

theorem isNumeral_of_takeSign (body : IsNumeral (takeSign s).2) : IsNumeral s := by
  unfold takeSign at body
  split at body
  · exact .cons (by decide) body
  · exact .cons (by decide) body
  · exact body

theorem isNumeral_of_readExponent {e : Int} (read : readExponent s = some e) : IsNumeral s := by
  unfold readExponent at read
  split at read
  · exact .nil
  · rename_i letter rest
    split at read
    · rename_i isLetter
      simp only at read
      split at read
      · rename_i digits
        refine .cons ?_ (isNumeral_of_takeSign (.of_digits (List.all_eq_true.1 digits.2)))
        rcases isLetter with rfl | rfl <;> decide
      · cases read
    · cases read

theorem isNumeral_of_readDecimal {d : Decimal} (read : readDecimal s = some d) :
    IsNumeral s := by
  unfold readDecimal at read
  refine .of_dropWhile ?_
  split at read
  rename_i fraction rest parts
  simp only at read
  split at read
  · cases read
  · obtain ⟨e, exponent, -⟩ := Option.map_eq_some_iff.1 read
    have behind := isNumeral_of_readExponent exponent
    split at parts
    · rename_i pointed
      obtain ⟨rfl, rfl⟩ := Prod.mk.inj parts
      rw [pointed]
      exact .cons (by decide) (.of_dropWhile behind)
    · obtain ⟨rfl, rfl⟩ := Prod.mk.inj parts
      exact behind

/-- The words for what is not finite aside, a number is read from the characters of numbers. -/
theorem isNumeral_of_read? (read : read? s = some x) (finite : x.isFinite = true) :
    IsNumeral s := by
  unfold read? at read
  refine isNumeral_of_takeSign ?_
  simp only at read
  split at read
  · obtain rfl := Option.some.inj read
    cases finite
  · split at read
    · obtain rfl := Option.some.inj read
      cases finite
    · obtain ⟨d, decimal, -⟩ := Option.map_eq_some_iff.1 read
      exact isNumeral_of_readDecimal decimal

end Binary64

/-! ## What is written -/

namespace Decimal

theorem isNumeral_halves (d : Decimal) : IsNumeral d.halves.1 ∧ IsNumeral d.halves.2 := by
  have zeros : ∀ n, IsNumeral (List.replicate n '0') := fun n =>
    .of_digits fun _ => isDigit_of_mem_zeros
  unfold halves
  split
  · exact ⟨.append (.toDigits _) (zeros _), .nil⟩
  · simp only [List.splitAt_eq]
    have padded := (zeros ((-d.exponent).toNat + 1 - (Nat.toDigits 10 d.digits).length)).append
      (.toDigits d.digits)
    exact ⟨fun c member => padded c (List.mem_of_mem_take member),
      fun c member => padded c (List.mem_of_mem_drop member)⟩

theorem isNumeral_pointed (d : Decimal) : IsNumeral d.pointed := by
  have halves := d.isNumeral_halves
  unfold pointed
  split
  · rename_i whole parts
    rw [parts] at halves
    exact halves.1.append (.cons (by decide) (.cons (by decide) .nil))
  · rename_i whole fraction _ parts
    rw [parts] at halves
    exact halves.1.append (.cons (by decide) halves.2)

theorem isNumeral_scientific (d : Decimal) : IsNumeral d.scientific := by
  unfold scientific
  refine .append ?_ (.cons (by decide) (.cons ?_ (.toDigits _)))
  · have digits := IsNumeral.toDigits d.digits
    split
    · rename_i first second rest written
      rw [written] at digits
      obtain ⟨here, others⟩ := List.forall_mem_cons.1 digits
      exact .cons here (.cons (by decide) others)
    · exact digits
  · split <;> decide

end Decimal

theorem isNumeral_writeInt (n : Int) : IsNumeral (writeInt n).toList := by
  rw [writeInt, String.toList_ofList]
  exact .signed (.toDigits _)

theorem Binary64.isNumeral_json {x : Binary64} (finite : x.isFinite = true) :
    IsNumeral x.json.toList := by
  cases x with
  | nan => cases finite
  | infinite negative => cases finite
  | finite negative rank =>
      rw [json, String.toList_ofList]
      refine .signed ?_
      split
      · exact Decimal.isNumeral_pointed _
      · exact Decimal.isNumeral_scientific _

end PlotScript
