import PlotScript.Coercion.Geometry
import PlotScript.Proofs.Coercion.Number
import PlotScript.Proofs.Number.Characters

/-!
# The grammar of boxes

A box is four numbers with commas between them, and the one in the middle may be a colon. Reading
it does not look where the colon stands: the first colon of the text is taken for a comma, wherever
it is. `box_documented_iff` says that a colon in another place is all that is read beyond the
grammar.
-/

namespace PlotScript

open Text

namespace Coercion

variable {s part rest : List Char} {x : Binary64} {xs : List Binary64} {seps : List Char}

/-! ## Numbers and separators -/

/-- What stands between two numbers. -/
def isSeparator (c : Char) : Bool :=
  c == ',' || c == ':'

/-- A text is the numbers `xs` with the separators `seps` between them. -/
inductive NumbersParted : List Char → List Char → List Binary64 → Prop
  | last {s : List Char} {x : Binary64} (number : IsNumber s x) : NumbersParted [] s [x]
  | next {sep : Char} {seps part rest : List Char} {x : Binary64} {xs : List Binary64}
      (number : IsNumber part x) (others : NumbersParted seps rest xs) :
      NumbersParted (sep :: seps) (part ++ sep :: rest) (x :: xs)

/-- A number holds no separator. -/
theorem isSeparator_of_mem_number (number : IsNumber s x) {c : Char} (member : c ∈ s) :
    isSeparator c = false := by
  by_contra separates
  rw [Bool.not_eq_false] at separates
  have isOne : c = ',' ∨ c = ':' := by simpa [isSeparator] using separates
  have notBlank : isBlank c = false := by rcases isOne with rfl | rfl <;> decide
  have numeral := Binary64.isNumeral_of_read? number.1 number.2 c (mem_trim member notBlank)
  rcases isOne with rfl | rfl <;> exact absurd numeral (by decide)

theorem IsNumber.not_mem (number : IsNumber s x) {sep : Char} (separates : isSeparator sep = true) :
    sep ∉ s := by
  intro member
  rw [isSeparator_of_mem_number number member] at separates
  cases separates

/-- The separators of a text are found in it. -/
theorem NumbersParted.filter_eq (parted : NumbersParted seps s xs)
    (separate : seps.all isSeparator = true) : s.filter isSeparator = seps := by
  have none : ∀ {s x}, IsNumber s x → s.filter isSeparator = [] := fun number =>
    List.filter_eq_nil_iff.2 fun c member => by simp [isSeparator_of_mem_number number member]
  induction parted with
  | last number => exact none number
  | next number others ih =>
      rw [List.all_cons, Bool.and_eq_true] at separate
      obtain ⟨here, behind⟩ := separate
      rw [List.filter_append, none number, List.nil_append, List.filter_cons_of_pos here, ih behind]

/-! ## Commas -/

theorem numbersParted_of_forall₂ {part : List Char} {parts : List (List Char)}
    (numbers : List.Forall₂ IsNumber (part :: parts) xs) :
    NumbersParted (List.replicate parts.length ',') ([','].intercalate (part :: parts)) xs := by
  induction parts generalizing part xs with
  | nil =>
      obtain ⟨x, xs, number, none, rfl⟩ := List.forall₂_cons_left_iff.1 numbers
      obtain rfl := List.forall₂_nil_left_iff.1 none
      simpa using NumbersParted.last number
  | cons next parts ih =>
      obtain ⟨x, xs, number, others, rfl⟩ := List.forall₂_cons_left_iff.1 numbers
      have joined : [','].intercalate (part :: next :: parts) =
          part ++ ',' :: [','].intercalate (next :: parts) := by
        simp [List.intercalate, List.intersperse]
      rw [joined]
      exact .next number (ih others)

theorem NumbersParted.forall₂_splitAt (parted : NumbersParted seps s xs)
    (commas : ∀ c ∈ seps, c = ',') :
    (splitAt ',' s).length = seps.length + 1 ∧ List.Forall₂ IsNumber (splitAt ',' s) xs := by
  have comma : isSeparator ',' = true := by decide
  induction parted with
  | last number =>
      rw [splitAt_of_not_mem (number.not_mem comma)]
      exact ⟨rfl, .cons number .nil⟩
  | next number others ih =>
      obtain ⟨rfl, behind⟩ := List.forall_mem_cons.1 commas
      obtain ⟨count, numbers⟩ := ih behind
      rw [splitAt_append, splitAt_of_not_mem (number.not_mem comma)]
      exact ⟨congrArg (· + 1) count, .cons number numbers⟩

/-- Numbers with nothing but commas between them are read as a list. -/
theorem readNumbers_eq_ok_iff {n : Nat} :
    readNumbers (n + 1) s = .ok xs ↔ NumbersParted (List.replicate n ',') s xs := by
  simp only [readNumbers]
  constructor
  · intro read
    split at read
    · rename_i count
      have numbers := (mapM_eq_ok_iff.1 read).imp fun _ _ => readNumber_eq_ok_iff.1
      have whole : [','].intercalate (splitAt ',' s) = s := by
        rw [splitAt_eq_splitOn, List.intercalate_splitOn]
      cases parts : splitAt ',' s with
      | nil => simp [parts] at count
      | cons part others =>
          rw [parts] at count numbers whole
          rw [← whole, ← Nat.succ.inj count]
          exact numbersParted_of_forall₂ numbers
    · cases read
  · intro parted
    obtain ⟨count, numbers⟩ := parted.forall₂_splitAt fun c => List.eq_of_mem_replicate
    rw [List.length_replicate] at count
    rw [if_pos count, mapM_eq_ok_iff]
    exact numbers.imp fun _ _ => readNumber_eq_ok_iff.2

/-! ## The colon -/

theorem replaceFirst_eq_cons_iff :
    replaceFirst ':' ',' s = ',' :: rest ↔
      s = ':' :: rest ∨ ∃ t, s = ',' :: t ∧ replaceFirst ':' ',' t = rest := by
  cases s with
  | nil => simp [replaceFirst]
  | cons c s => by_cases colon : c = ':' <;> simp [replaceFirst, colon]

/-- Behind a text without separators a comma is one that was written, or it was the first colon. -/
theorem replaceFirst_eq_append_iff (noColon : ':' ∉ part) (noComma : ',' ∉ part) :
    replaceFirst ':' ',' s = part ++ ',' :: rest ↔
      s = part ++ ':' :: rest ∨ ∃ t, s = part ++ ',' :: t ∧ replaceFirst ':' ',' t = rest := by
  induction part generalizing s with
  | nil => exact replaceFirst_eq_cons_iff
  | cons d part ih =>
      obtain ⟨notColon, noColon⟩ := not_or.1 (mt List.mem_cons.2 noColon)
      obtain ⟨notComma, noComma⟩ := not_or.1 (mt List.mem_cons.2 noComma)
      cases s with
      | nil => simp [replaceFirst]
      | cons c s =>
          by_cases colon : c = ':'
          · simp [replaceFirst, colon, notColon, notComma]
          · have others := ih (s := s) noColon noComma
            by_cases same : c = d
            · simpa [replaceFirst, colon, same, Ne.symm notColon] using others
            · simp [replaceFirst, colon, same]

theorem IsNumber.replaceFirst_eq_append_iff (number : IsNumber part x) :
    replaceFirst ':' ',' s = part ++ ',' :: rest ↔
      s = part ++ ':' :: rest ∨ ∃ t, s = part ++ ',' :: t ∧ replaceFirst ':' ',' t = rest :=
  Coercion.replaceFirst_eq_append_iff (number.not_mem (by decide)) (number.not_mem (by decide))

/-- A text is a number after the replacement only if there was nothing to replace. -/
theorem isNumber_replaceFirst_iff :
    IsNumber (replaceFirst ':' ',' s) x ↔ IsNumber s x := by
  by_cases colon : ':' ∈ s
  · have comma : ',' ∈ replaceFirst ':' ',' s := mem_replaceFirst colon
    exact iff_of_false (fun number => number.not_mem (by decide) comma)
      fun number => number.not_mem (by decide) colon
  · rw [replaceFirst_of_not_mem colon]

theorem numbersParted_nil_iff : NumbersParted [] s xs ↔ ∃ x, xs = [x] ∧ IsNumber s x := by
  constructor
  · rintro (number | _)
    exact ⟨_, rfl, number⟩
  · rintro ⟨x, rfl, number⟩
    exact .last number

theorem numbersParted_cons_iff {sep : Char} :
    NumbersParted (sep :: seps) s xs ↔
      ∃ part rest x others, s = part ++ sep :: rest ∧ xs = x :: others ∧ IsNumber part x ∧
        NumbersParted seps rest others := by
  constructor
  · rintro (_ | ⟨number, others⟩)
    exact ⟨_, _, _, _, rfl, rfl, number, others⟩
  · rintro ⟨part, rest, x, others, rfl, rfl, number, parted⟩
    exact .next number parted

/-- Taking the first colon of a text for a comma is taking the first colon between its numbers for
one. -/
theorem numbersParted_replaceFirst_iff {n : Nat} :
    NumbersParted (List.replicate n ',') (replaceFirst ':' ',' s) xs ↔
      ∃ seps, replaceFirst ':' ',' seps = List.replicate n ',' ∧ NumbersParted seps s xs := by
  induction n generalizing s xs with
  | zero =>
      simp only [List.replicate_zero, numbersParted_nil_iff, isNumber_replaceFirst_iff]
      constructor
      · rintro ⟨x, rfl, number⟩
        exact ⟨[], rfl, .last number⟩
      · rintro ⟨seps, none, parted⟩
        cases seps with
        | nil => exact numbersParted_nil_iff.1 parted
        | cons sep seps =>
            rw [replaceFirst] at none
            split at none <;> cases none
  | succ n ih =>
      rw [List.replicate_succ, numbersParted_cons_iff]
      constructor
      · rintro ⟨part, rest, x, others, whole, rfl, number, parted⟩
        rcases number.replaceFirst_eq_append_iff.1 whole with rfl | ⟨t, rfl, rfl⟩
        · exact ⟨':' :: List.replicate n ',', by simp [replaceFirst], .next number parted⟩
        · obtain ⟨seps, commas, parted⟩ := ih.1 parted
          exact ⟨',' :: seps, by simp [replaceFirst, commas], .next number parted⟩
      · rintro ⟨seps, commas, parted⟩
        rcases replaceFirst_eq_cons_iff.1 commas with rfl | ⟨behind, rfl, commasBehind⟩
        · obtain ⟨part, rest, x, others, rfl, rfl, number, parted⟩ :=
            numbersParted_cons_iff.1 parted
          exact ⟨part, rest, x, others, number.replaceFirst_eq_append_iff.2 (.inl rfl), rfl, number,
            parted⟩
        · obtain ⟨part, rest, x, others, rfl, rfl, number, parted⟩ :=
            numbersParted_cons_iff.1 parted
          exact ⟨part, replaceFirst ':' ',' rest, x, others,
            number.replaceFirst_eq_append_iff.2 (.inr ⟨rest, rfl, rfl⟩), rfl, number,
            ih.2 ⟨behind, commasBehind, parted⟩⟩

end Coercion

/-! ## Boxes -/

namespace Coder

open Coercion

variable {text : String} {v : Value}

/-- Four numbers with separators between them, as a box. -/
def IsBoxWith (seps s : List Char) (v : Value) : Prop :=
  ∃ x1 y1 x2 y2, v = .box x1 y1 x2 y2 ∧ NumbersParted seps s [x1, y1, x2, y2]

/-- A box as the grammar has it. -/
def IsBox (s : List Char) (v : Value) : Prop :=
  IsBoxWith [',', ',', ','] s v ∨ IsBoxWith [',', ':', ','] s v

/-- Four numbers with a colon that is not the middle one of the separators. -/
def HasStrayColon (s : List Char) : Prop :=
  ∃ v, IsBoxWith [':', ',', ','] s v ∨ IsBoxWith [',', ',', ':'] s v

/-- The separators that become three commas. -/
theorem replaceFirst_eq_commas_iff {seps : List Char} :
    replaceFirst ':' ',' seps = [',', ',', ','] ↔ seps = [',', ',', ','] ∨
      seps = [',', ':', ','] ∨ seps = [':', ',', ','] ∨ seps = [',', ',', ':'] := by
  have stop : ∀ {s : List Char}, replaceFirst ':' ',' s = [] ↔ s = [] := by
    rintro (_ | ⟨c, s⟩)
    · simp [replaceFirst]
    · by_cases colon : c = ':' <;> simp [replaceFirst, colon]
  constructor
  · intro commas
    rcases replaceFirst_eq_cons_iff.1 commas with rfl | ⟨t, rfl, second⟩
    · exact .inr (.inr (.inl rfl))
    rcases replaceFirst_eq_cons_iff.1 second with rfl | ⟨t, rfl, third⟩
    · exact .inr (.inl rfl)
    rcases replaceFirst_eq_cons_iff.1 third with rfl | ⟨t, rfl, none⟩
    · exact .inr (.inr (.inr rfl))
    · rw [stop.1 none]
      exact .inl rfl
  · rintro (rfl | rfl | rfl | rfl) <;> rfl

/-- When a box is read, any one of its separators may be a colon. -/
theorem box_decode_eq_ok_iff :
    box.decode text = .ok v ↔
      ∃ seps, replaceFirst ':' ',' seps = [',', ',', ','] ∧ IsBoxWith seps text.toList v := by
  have numbers : ∀ {xs}, readNumbers 4 (replaceFirst ':' ',' text.toList) = .ok xs ↔
      ∃ seps, replaceFirst ':' ',' seps = [',', ',', ','] ∧
        NumbersParted seps text.toList xs :=
    readNumbers_eq_ok_iff.trans numbersParted_replaceFirst_iff
  simp only [box]
  constructor
  · intro decoded
    obtain ⟨xs, read, decoded⟩ := exists_of_bind_eq_ok decoded
    split at decoded
    · obtain rfl := Except.ok.inj decoded
      obtain ⟨seps, commas, parted⟩ := numbers.1 read
      exact ⟨seps, commas, _, _, _, _, rfl, parted⟩
    · cases decoded
  · rintro ⟨seps, commas, x1, y1, x2, y2, rfl, parted⟩
    rw [numbers.2 ⟨seps, commas, parted⟩]
    rfl

/-- A text is parted in one way only. -/
theorem IsBoxWith.unique {seps others : List Char} {s : List Char} {w : Value}
    (parted : IsBoxWith seps s v) (again : IsBoxWith others s w)
    (separate : seps.all isSeparator = true) (also : others.all isSeparator = true) :
    seps = others := by
  obtain ⟨x1, y1, x2, y2, -, numbers⟩ := parted
  obtain ⟨z1, w1, z2, w2, -, sameNumbers⟩ := again
  rw [← numbers.filter_eq separate, ← sameNumbers.filter_eq also]

/-- What has a stray colon is no box. -/
theorem not_isBox_of_hasStrayColon {s : List Char} (stray : HasStrayColon s) : ¬ IsBox s v := by
  obtain ⟨w, stray⟩ := stray
  rintro (commas | middle)
  · rcases stray with first | last
    · exact absurd (commas.unique first (by decide) (by decide)) (by decide)
    · exact absurd (commas.unique last (by decide) (by decide)) (by decide)
  · rcases stray with first | last
    · exact absurd (middle.unique first (by decide) (by decide)) (by decide)
    · exact absurd (middle.unique last (by decide) (by decide)) (by decide)

/-- A text is read as a box exactly if the grammar has it as that box, unless it is four numbers
with a stray colon. -/
theorem box_documented_iff (text : String) :
    (∀ v, box.decode text = .ok v ↔ IsBox text.toList v) ↔ ¬ HasStrayColon text.toList := by
  constructor
  · intro documented stray
    obtain ⟨v, boxed⟩ : ∃ v, box.decode text = .ok v := by
      obtain ⟨v, first | last⟩ := stray
      · exact ⟨v, box_decode_eq_ok_iff.2 ⟨_, by decide, first⟩⟩
      · exact ⟨v, box_decode_eq_ok_iff.2 ⟨_, by decide, last⟩⟩
    exact not_isBox_of_hasStrayColon stray ((documented v).1 boxed)
  · intro noStray v
    rw [box_decode_eq_ok_iff]
    constructor
    · rintro ⟨seps, commas, boxed⟩
      rcases replaceFirst_eq_commas_iff.1 commas with rfl | rfl | rfl | rfl
      · exact .inl boxed
      · exact .inr boxed
      · exact absurd ⟨v, .inl boxed⟩ noStray
      · exact absurd ⟨v, .inr boxed⟩ noStray
    · rintro (commas | middle)
      · exact ⟨_, by decide, commas⟩
      · exact ⟨_, by decide, middle⟩

/-- A colon between the first two numbers is read as a comma. -/
theorem box_with_first_colon_is_read :
    ¬ ∀ (text : String) (v : Value), box.decode text = .ok v ↔ IsBox text.toList v := by
  intro documented
  have accepted : (box.decode "0:0,1,1").isOk = true := by decide +kernel
  cases decoded : box.decode "0:0,1,1" with
  | error reason =>
      rw [decoded] at accepted
      cases accepted
  | ok v =>
      rcases (documented _ v).1 decoded with commas | middle
      · obtain ⟨_, _, _, _, -, parted⟩ := commas
        exact absurd (parted.filter_eq (by decide)) (by decide)
      · obtain ⟨_, _, _, _, -, parted⟩ := middle
        exact absurd (parted.filter_eq (by decide)) (by decide)

end Coder

end PlotScript
