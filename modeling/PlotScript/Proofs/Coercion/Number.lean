import PlotScript.Coercion.Coder
import PlotScript.Proofs.Except
import PlotScript.Proofs.Number.Notation
import PlotScript.Proofs.Text.Blank

/-!
# Reading written numbers

Numbers, lists of numbers and the two sides of a colon are read back from the
display form.
-/

namespace PlotScript

open Text

/-! ## Characters of a plain form -/

theorem IsPlain.isBareChar {s : List Char} (h : IsPlain s) {c : Char} (member : c ∈ s) :
    isBareChar c = true := by
  rcases h.isDigit_or_sign member with digit | rfl | rfl
  · exact isBareChar_of_isDigit digit
  · decide
  · decide

namespace Coercion

/-! ## One number -/

theorem readNumber_plain {x : Binary64} (finite : x.isFinite = true) :
    readNumber x.plain.toList = .ok x := by
  have bare : IsBare x.plain.toList := fun c member =>
    (Binary64.isPlain_plain finite).isBareChar member
  simp only [readNumber, bare.tight.trim, Binary64.read?_plain finite, finite, if_true]

/-- A finite number with nothing but blanks around it. -/
def IsNumber (s : List Char) (x : Binary64) : Prop :=
  Binary64.read? (trim s) = some x ∧ x.isFinite = true

theorem readNumber_eq_ok_iff {s : List Char} {x : Binary64} :
    readNumber s = .ok x ↔ IsNumber s x := by
  simp only [readNumber, IsNumber]
  cases Binary64.read? (trim s) with
  | none => simp
  | some y =>
      by_cases finite : y.isFinite = true
      · simp only [if_pos finite, Except.ok.injEq, Option.some.injEq]
        exact ⟨fun same => ⟨same, same ▸ finite⟩, And.left⟩
      · simp only [if_neg finite, reduceCtorEq, Option.some.injEq, false_iff]
        rintro ⟨rfl, isFinite⟩
        exact finite isFinite

/-- Only finite numbers are read. -/
theorem isFinite_of_readNumber {s : List Char} {x : Binary64} (h : readNumber s = .ok x) :
    x.isFinite = true :=
  (readNumber_eq_ok_iff.1 h).2

/-! ## Lists of numbers -/

theorem not_mem_plain {x : Binary64} (finite : x.isFinite = true) {c : Char}
    (other : c.isDigit = false ∧ c ≠ '.' ∧ c ≠ '-') : c ∉ x.plain.toList := by
  intro member
  rcases (Binary64.isPlain_plain finite).isDigit_or_sign member with digit | same | same
  · rw [other.1] at digit
    cases digit
  · exact other.2.1 same
  · exact other.2.2 same

theorem isFinite_of_mapM {parts : List (List Char)} {xs : List Binary64}
    (h : parts.mapM readNumber = .ok xs) : ∀ x ∈ xs, x.isFinite = true := by
  have each := mapM_eq_ok_iff.1 h
  clear h
  induction each with
  | nil => simp
  | cons read _ ih => exact List.forall_mem_cons.2 ⟨isFinite_of_readNumber read, ih⟩

theorem isFinite_of_readNumbers {count : Nat} {s : List Char} {xs : List Binary64}
    (h : readNumbers count s = .ok xs) : ∀ x ∈ xs, x.isFinite = true := by
  unfold readNumbers at h
  simp only at h
  split at h
  · exact isFinite_of_mapM h
  · cases h

variable {xs : List Binary64} (finite : ∀ x ∈ xs, x.isFinite = true)
include finite

theorem splitAt_plainList (nonempty : xs ≠ []) :
    splitAt ',' (Value.plainList xs).toList = xs.map fun x => x.plain.toList := by
  have written : (Value.plainList xs).toList =
      [','].intercalate (xs.map fun x => x.plain.toList) := by
    rw [Value.plainList, String.toList_intercalate, List.map_map]
    rfl
  refine (splitAt_eq_iff (by simpa using nonempty) fun p member => ?_).2 written
  obtain ⟨x, inside, rfl⟩ := List.mem_map.1 member
  exact not_mem_plain (finite x inside) (by decide)

/-- A list of numbers is read back. -/
theorem mapM_readNumber_plainList (nonempty : xs ≠ []) :
    (splitAt ',' (Value.plainList xs).toList).mapM readNumber = .ok xs := by
  rw [splitAt_plainList finite nonempty, mapM_eq_ok_iff, List.forall₂_map_left_iff,
    List.forall₂_same]
  exact fun x member => readNumber_plain (finite x member)

theorem readNumbers_plainList (nonempty : xs ≠ []) :
    readNumbers xs.length (Value.plainList xs).toList = .ok xs := by
  have parts : (splitAt ',' (Value.plainList xs).toList).length = xs.length := by
    rw [splitAt_plainList finite nonempty, List.length_map]
  rw [readNumbers, if_pos parts, mapM_readNumber_plainList finite nonempty]

end Coercion

end PlotScript
