import Mathlib.Tactic.SplitIfs
import PlotScript.Proofs.Text.Blank
import PlotScript.Text.Quoted

/-!
# Where a quoted text ends

Between the quotes every character is written as itself or as an escape, and an escape is told from
another one by what stands behind its backslash. So a text that begins with a quoted one tells what
is quoted and where it ends (`quoted_append_inj`), and a quoted text stands on one line.
-/

namespace PlotScript.Text

/-! ## Hexadecimal digits -/

theorem exists_of_mem_toDigits {n : Nat} {c : Char} (member : c ∈ Nat.toDigits 16 n) :
    ∃ k < 16, c = Nat.digitChar k := by
  induction n using Nat.strongRecOn with
  | _ n ih =>
      rw [Nat.toDigits_eq_if (by decide)] at member
      split at member
      · rename_i small
        exact ⟨n, small, List.mem_singleton.1 member⟩
      · rename_i large
        rcases List.mem_append.1 member with front | last
        · exact ih (n / 16) (by omega) front
        · exact ⟨n % 16, Nat.mod_lt n (by decide), List.mem_singleton.1 last⟩

theorem toDigits_inj {m n : Nat} (same : Nat.toDigits 16 m = Nat.toDigits 16 n) : m = n := by
  have digit : ∀ a < 16, ∀ b < 16, Nat.digitChar a = Nat.digitChar b → a = b := by decide
  induction m using Nat.strongRecOn generalizing n with
  | _ m ih =>
      rw [Nat.toDigits_eq_if (by decide), Nat.toDigits_eq_if (n := n) (by decide)] at same
      split at same <;> split at same
      · rename_i small alsoSmall
        exact digit m small n alsoSmall (List.cons.inj same).1
      · have front : [] = Nat.toDigits 16 (n / 16) :=
          List.append_inj_left' (show [] ++ _ = _ from same) rfl
        exact absurd front.symm Nat.toDigits_ne_nil
      · have front : Nat.toDigits 16 (m / 16) = [] :=
          List.append_inj_left' (show _ = [] ++ _ from same) rfl
        exact absurd front Nat.toDigits_ne_nil
      · rename_i large alsoLarge
        obtain ⟨front, last⟩ := List.append_inj' same rfl
        have quotient := ih (m / 16) (by omega) front
        have rest := digit _ (Nat.mod_lt m (by decide)) _ (Nat.mod_lt n (by decide))
          (List.cons.inj last).1
        omega

theorem not_mem_toDigits {c : Char} (noDigit : ∀ k < 16, Nat.digitChar k ≠ c) (n : Nat) :
    c ∉ Nat.toDigits 16 n := by
  intro member
  obtain ⟨k, small, same⟩ := exists_of_mem_toDigits member
  exact noDigit k small same.symm

/-! ## Escapes -/

/-- The characters with an escape of their own, and the letters of these escapes. -/
def escapeLetters : List (Char × Char) :=
  [('"', '"'), ('\\', '\\'), ('\t', 't'), ('\n', 'n'), ('\r', 'r'), ('\x00', '0')]

/-- The ways in which a character is written between quotes. -/
inductive Escapes : Char → List Char → Prop
  | itself {c : Char} (other : ∀ p ∈ escapeLetters, c ≠ p.1) : Escapes c [c]
  | letter {c l : Char} (own : (c, l) ∈ escapeLetters) : Escapes c ['\\', l]
  | code (c : Char) :
      Escapes c (['\\', 'u', '\x7b'] ++ Nat.toDigits 16 c.toNat ++ ['\x7d'])

theorem escapes_escapeChar (c : Char) : Escapes c (escapeChar c) := by
  unfold escapeChar
  split_ifs with quote backslash tab newline carriageReturn null printable
  · exact .letter (by simp [escapeLetters, quote])
  · exact .letter (by simp [escapeLetters, backslash])
  · exact .letter (by simp [escapeLetters, tab])
  · exact .letter (by simp [escapeLetters, newline])
  · exact .letter (by simp [escapeLetters, carriageReturn])
  · exact .letter (by simp [escapeLetters, null])
  · exact .itself (by simp [escapeLetters, *])
  · exact .code c

namespace Escapes

variable {c d : Char} {e f r t : List Char}

/-- The quote that ends a text is not the beginning of an escape. -/
theorem exists_cons (h : Escapes c e) : ∃ first rest, e = first :: rest ∧ first ≠ '"' := by
  cases h with
  | itself other => exact ⟨c, [], rfl, other ('"', '"') (by decide)⟩
  | letter own => exact ⟨'\\', _, rfl, by decide⟩
  | code => exact ⟨'\\', _, rfl, by decide⟩

theorem newline_not_mem (h : Escapes c e) : '\n' ∉ e := by
  cases h with
  | itself other =>
      intro newline
      exact other ('\n', 'n') (by decide) (List.mem_singleton.1 newline).symm
  | letter own =>
      have others : ∀ p ∈ escapeLetters, '\n' ∉ ['\\', p.2] := by decide
      exact others _ own
  | code =>
      intro newline
      simp only [List.cons_append, List.nil_append, List.mem_cons, List.mem_append,
        List.not_mem_nil, or_false] at newline
      rcases newline with same | same | same | member | same
      · exact absurd same (by decide)
      · exact absurd same (by decide)
      · exact absurd same (by decide)
      · exact not_mem_toDigits (by decide) _ member
      · exact absurd same (by decide)

/-- No escape is the beginning of another one. -/
theorem append_inj (first : Escapes c e) (second : Escapes d f) (same : e ++ r = f ++ t) :
    c = d ∧ r = t := by
  -- what is not written as itself begins with a backslash
  have notBackslash : ∀ {c : Char}, (∀ p ∈ escapeLetters, c ≠ p.1) → c ≠ '\\' :=
    fun other => other ('\\', '\\') (by decide)
  have notU : ∀ p ∈ escapeLetters, p.2 ≠ 'u' := by decide
  cases first with
  | itself other =>
      cases second with
      | itself => exact List.cons.inj same
      | letter => exact absurd (List.cons.inj same).1 (notBackslash other)
      | code => exact absurd (List.cons.inj same).1 (notBackslash other)
  | letter own =>
      cases second with
      | itself other => exact absurd (List.cons.inj same).1.symm (notBackslash other)
      | letter alsoOwn =>
          obtain ⟨letters, rest⟩ := List.cons.inj (List.cons.inj same).2
          have unique : ∀ p ∈ escapeLetters, ∀ q ∈ escapeLetters, p.2 = q.2 → p.1 = q.1 := by decide
          exact ⟨unique _ own _ alsoOwn letters, rest⟩
      | code => exact absurd (List.cons.inj (List.cons.inj same).2).1 (notU _ own)
  | code =>
      cases second with
      | itself other => exact absurd (List.cons.inj same).1.symm (notBackslash other)
      | letter alsoOwn =>
          exact absurd (List.cons.inj (List.cons.inj same).2).1.symm (notU _ alsoOwn)
      | code =>
          simp only [List.append_assoc, List.cons_append, List.nil_append, List.cons.injEq,
            true_and] at same
          have noBrace : ∀ n, '\x7d' ∉ Nat.toDigits 16 n := not_mem_toDigits (by decide)
          obtain ⟨digits, rest⟩ := append_separator_inj (noBrace _) (noBrace _) same
          exact ⟨Char.toNat_inj.1 (toDigits_inj digits), rest⟩

end Escapes

/-! ## Quoted texts -/

theorem flatMap_escapeChar_append_inj {s t r r' : List Char}
    (same : s.flatMap escapeChar ++ '"' :: r = t.flatMap escapeChar ++ '"' :: r') :
    s = t ∧ r = r' := by
  induction s generalizing t with
  | nil =>
      cases t with
      | nil => exact ⟨rfl, (List.cons.inj same).2⟩
      | cons d t =>
          obtain ⟨first, rest, begins, notQuote⟩ := (escapes_escapeChar d).exists_cons
          rw [List.flatMap_cons, begins] at same
          exact absurd (List.cons.inj same).1.symm notQuote
  | cons c s ih =>
      cases t with
      | nil =>
          obtain ⟨first, rest, begins, notQuote⟩ := (escapes_escapeChar c).exists_cons
          rw [List.flatMap_cons, begins] at same
          exact absurd (List.cons.inj same).1 notQuote
      | cons d t =>
          rw [List.flatMap_cons, List.flatMap_cons, List.append_assoc, List.append_assoc] at same
          obtain ⟨rfl, rest⟩ := (escapes_escapeChar c).append_inj (escapes_escapeChar d) same
          obtain ⟨rfl, behind⟩ := ih rest
          exact ⟨rfl, behind⟩

/-- A text that begins with a quoted one tells what is quoted and where the closing quote
stands. -/
theorem quoted_append_inj {s t r r' : List Char} (same : quoted s ++ r = quoted t ++ r') :
    s = t ∧ r = r' := by
  simp only [quoted, List.cons_append, List.append_assoc, List.cons.injEq, true_and,
    List.nil_append] at same
  exact flatMap_escapeChar_append_inj same

theorem newline_not_mem_quoted (s : List Char) : '\n' ∉ quoted s := by
  have body : '\n' ∉ s.flatMap escapeChar := by
    intro newline
    obtain ⟨c, -, within⟩ := List.mem_flatMap.1 newline
    exact (escapes_escapeChar c).newline_not_mem within
  simp [quoted, body]

end PlotScript.Text
