import Mathlib.Data.List.Infix
import PlotScript.Coercion.Number
import PlotScript.Proofs.Text.Blank

/-!
# Escaped colons

A text is to be parted at its first colon that does not stand directly behind a backslash, and an
escaped colon is to lose its backslash (`PartsAtColon`). The scan looks further back: a backslash
that stands behind a backslash is taken for an escaped one, so a colon is escaped only if an odd
number of backslashes stands in front of it. `splitColon_documented_iff` says on which texts this
comes to the same.
-/

namespace PlotScript.Coercion

variable {s t front behind low high : List Char}

/-! ## The rule -/

/-- Every colon of a text stands directly behind a backslash. -/
def ColonsEscaped (s : List Char) : Prop :=
  ∀ front behind, s = front ++ ':' :: behind → front.getLast? = some '\\'

/-- A text, and the same text with a colon in the place of each backslash and colon. -/
inductive Unescaped : List Char → List Char → Prop
  | plain {s : List Char} (none : ¬ ['\\', ':'] <:+: s) : Unescaped s s
  | pair {front s t : List Char} (none : ¬ ['\\', ':'] <:+: front) (others : Unescaped s t) :
      Unescaped (front ++ '\\' :: ':' :: s) (front ++ ':' :: t)

/-- What is to become of a text. -/
inductive PartsAtColon (s : List Char) : Option (List Char × List Char) → Prop
  | whole (escaped : ColonsEscaped s) : PartsAtColon s none
  | parted {low high left right : List Char} (cut : s = low ++ ':' :: high)
      (escaped : ColonsEscaped low) (bare : low.getLast? ≠ some '\\')
      (first : Unescaped low left) (second : Unescaped high right) :
      PartsAtColon s (some (left, right))

/-! ## Unescaping -/

theorem unescapeColons_cons (c : Char) (rest : List Char) :
    unescapeColons (c :: rest) =
      if c = '\\' ∧ rest.head? = some ':' then ':' :: unescapeColons rest.tail
      else c :: unescapeColons rest := by
  cases rest <;> simp [unescapeColons, Text.replacePair]

/-- A text may be cut in front of anything but a colon. -/
theorem unescapeColons_append (front : List Char) {rest : List Char}
    (apart : rest.head? ≠ some ':') :
    unescapeColons (front ++ rest) = unescapeColons front ++ unescapeColons rest := by
  unfold unescapeColons
  fun_induction Text.replacePair '\\' ':' ':' front with
  | case1 a b front escaped ih =>
      rw [List.cons_append, List.cons_append, Text.replacePair, if_pos escaped, ih,
        List.cons_append]
  | case2 a b front other ih =>
      rw [List.cons_append, List.cons_append, Text.replacePair, if_neg other, List.cons_append]
      exact congrArg _ ih
  | case3 front short =>
      rcases front with _ | ⟨a, _ | ⟨b, front⟩⟩
      · rfl
      · exact (unescapeColons_cons a rest).trans (if_neg fun pair => apart pair.2)
      · exact absurd rfl (short a b front)

theorem unescapeColons_append_pair (front rest : List Char) :
    unescapeColons (front ++ '\\' :: ':' :: rest) =
      unescapeColons front ++ ':' :: unescapeColons rest := by
  rw [unescapeColons_append front (by simp), unescapeColons_cons, if_pos (by simp), List.tail_cons]

/-- A backslash at the end of a text escapes nothing in it. -/
theorem unescapeColons_concat_backslash (s : List Char) :
    unescapeColons (s ++ ['\\']) = unescapeColons s ++ ['\\'] :=
  unescapeColons_append s (by simp)

theorem unescapeColons_of_none (none : ¬ ['\\', ':'] <:+: s) : unescapeColons s = s := by
  induction s with
  | nil => rfl
  | cons c rest ih =>
      obtain ⟨notHere, others⟩ := not_or.1 (mt List.infix_cons_iff.2 none)
      rw [unescapeColons_cons, if_neg, ih others]
      rintro ⟨rfl, colon⟩
      obtain ⟨rest, rfl⟩ := List.head?_eq_some_iff.1 colon
      exact notHere ⟨rest, rfl⟩

/-- A character in front that does not escape anything is kept. -/
theorem Unescaped.cons (unescaped : Unescaped s t) {c : Char}
    (apart : ¬ (c = '\\' ∧ s.head? = some ':')) : Unescaped (c :: s) (c :: t) := by
  have notHere : ∀ {rest : List Char}, rest <+: s → ¬ ['\\', ':'] <+: c :: rest := by
    rintro rest ⟨others, rfl⟩ ⟨behind, same⟩
    obtain ⟨rfl, rfl⟩ := List.cons.inj same
    exact apart ⟨rfl, rfl⟩
  cases unescaped with
  | plain none =>
      exact .plain fun pair =>
        (List.infix_cons_iff.1 pair).elim (notHere (List.prefix_refl _)) none
  | @pair front s t none others =>
      have longer : ¬ ['\\', ':'] <:+: c :: front := fun pair =>
        (List.infix_cons_iff.1 pair).elim (notHere (List.prefix_append _ _)) none
      exact .pair longer others

/-- The text is the only one that the rule for escaped colons leaves. -/
theorem unescaped_iff : Unescaped s t ↔ t = unescapeColons s := by
  constructor
  · intro unescaped
    induction unescaped with
    | plain none => exact (unescapeColons_of_none none).symm
    | pair none others ih => rw [unescapeColons_append_pair, unescapeColons_of_none none, ih]
  · rintro rfl
    unfold unescapeColons
    fun_induction Text.replacePair '\\' ':' ':' s with
    | case1 a b rest escaped ih =>
        obtain ⟨rfl, rfl⟩ := escaped
        have nothing : ¬ ['\\', ':'] <:+: [] := by decide
        exact .pair nothing ih
    | case2 a b rest other ih => exact ih.cons (by simpa using other)
    | case3 s short =>
        refine .plain fun pair => ?_
        rcases s with _ | ⟨a, _ | ⟨b, s⟩⟩
        · exact absurd pair (by decide)
        · exact absurd pair.length_le (by simp)
        · exact short a b s rfl

/-! ## Backslashes at the end of a text -/

/-- How many backslashes a text ends with. -/
def backslashes (s : List Char) : Nat :=
  (s.reverse.takeWhile (· = '\\')).length

theorem backslashes_concat (s : List Char) (c : Char) :
    backslashes (s ++ [c]) = if c = '\\' then backslashes s + 1 else 0 := by
  by_cases slash : c = '\\' <;> simp [backslashes, slash]

theorem getLast?_eq_backslash_iff : s.getLast? = some '\\' ↔ backslashes s ≠ 0 := by
  rcases List.eq_nil_or_concat s with rfl | ⟨front, c, rfl⟩
  · decide
  · rw [List.concat_eq_append, backslashes_concat]
    by_cases slash : c = '\\' <;> simp [slash]

/-- Every colon of `s` stands behind an odd number of backslashes when the text goes on from
`front`. -/
def ColonsSkipped (front s : List Char) : Prop :=
  ∀ l h, s = l ++ ':' :: h → backslashes (front ++ l) % 2 = 1

theorem colonsSkipped_cons {c : Char} {rest : List Char} :
    ColonsSkipped front (c :: rest) ↔
      (c = ':' → backslashes front % 2 = 1) ∧ ColonsSkipped (front ++ [c]) rest := by
  constructor
  · intro skipped
    constructor
    · rintro rfl
      simpa using skipped [] rest rfl
    · rintro l h rfl
      simpa using skipped (c :: l) h rfl
  · rintro ⟨here, others⟩ l h whole
    cases l with
    | nil =>
        obtain ⟨rfl, rfl⟩ := List.cons.inj whole
        simpa using here rfl
    | cons d l =>
        obtain ⟨rfl, rfl⟩ := List.cons.inj whole
        simpa using others l h rfl

/-- A colon behind an odd number of backslashes stands directly behind one. -/
theorem ColonsSkipped.colonsEscaped (skipped : ColonsSkipped [] s) : ColonsEscaped s := by
  intro front behind whole
  have odd := skipped front behind whole
  rw [List.nil_append] at odd
  exact getLast?_eq_backslash_iff.2 (by omega)

/-! ## The scan -/

/-- One step of the scan. Its flag tells whether the number of backslashes behind it is odd. -/
theorem cutAtColon_cons (front : List Char) (c : Char) (rest : List Char) :
    cutAtColon (backslashes front % 2 = 1) (c :: rest) =
      if c = ':' ∧ backslashes front % 2 = 0 then some ([], rest)
      else (cutAtColon (backslashes (front ++ [c]) % 2 = 1) rest).map
        fun (low, high) => (c :: low, high) := by
  rw [cutAtColon, backslashes_concat]
  by_cases slash : c = '\\'
  · subst slash
    rcases Nat.mod_two_eq_zero_or_one (backslashes front) with even | odd
    · have next : (backslashes front + 1) % 2 = 1 := by omega
      simp [even, next]
    · have next : (backslashes front + 1) % 2 = 0 := by omega
      simp [odd, next]
  · rcases Nat.mod_two_eq_zero_or_one (backslashes front) with even | odd
    · simp [slash, even]
    · simp [slash, odd]

/-- A text is cut at its first colon behind an even number of backslashes. -/
theorem cutAtColon_eq_some_iff :
    cutAtColon (backslashes front % 2 = 1) s = some (low, high) ↔
      s = low ++ ':' :: high ∧ backslashes (front ++ low) % 2 = 0 ∧ ColonsSkipped front low := by
  induction s generalizing front low with
  | nil => simp [cutAtColon]
  | cons c rest ih =>
      rw [cutAtColon_cons]
      by_cases here : c = ':' ∧ backslashes front % 2 = 0
      · rw [if_pos here]
        obtain ⟨rfl, even⟩ := here
        constructor
        · intro cut
          obtain ⟨rfl, rfl⟩ := Prod.mk.inj (Option.some.inj cut)
          refine ⟨rfl, by simpa using even, fun l h nothing => ?_⟩
          cases l <;> cases nothing
        · rintro ⟨whole, -, skipped⟩
          cases low with
          | nil => rw [(List.cons.inj whole).2]
          | cons d low =>
              -- the colon would be one of those that are skipped
              obtain ⟨rfl, -⟩ := List.cons.inj whole
              have odd := (colonsSkipped_cons.1 skipped).1 rfl
              omega
      · rw [if_neg here, Option.map_eq_some_iff]
        constructor
        · rintro ⟨⟨l, h⟩, cut, same⟩
          obtain ⟨rfl, rfl⟩ := Prod.mk.inj same
          obtain ⟨rfl, even, skipped⟩ := ih.1 cut
          refine ⟨rfl, by simpa using even, colonsSkipped_cons.2 ⟨fun colon => ?_, skipped⟩⟩
          have notEven : backslashes front % 2 ≠ 0 := fun even => here ⟨colon, even⟩
          omega
        · rintro ⟨whole, even, skipped⟩
          cases low with
          | nil =>
              obtain ⟨rfl, -⟩ := List.cons.inj whole
              exact absurd ⟨rfl, by simpa using even⟩ here
          | cons d low =>
              obtain ⟨rfl, rfl⟩ := List.cons.inj whole
              exact ⟨(low, high), ih.2 ⟨rfl, by simpa using even, (colonsSkipped_cons.1 skipped).2⟩,
                rfl⟩

theorem cutAtColon_eq_none_iff :
    cutAtColon (backslashes front % 2 = 1) s = none ↔ ColonsSkipped front s := by
  induction s generalizing front with
  | nil => simp [cutAtColon, ColonsSkipped]
  | cons c rest ih =>
      rw [cutAtColon_cons, colonsSkipped_cons]
      by_cases here : c = ':' ∧ backslashes front % 2 = 0
      · rw [if_pos here]
        refine iff_of_false nofun fun skipped => ?_
        have odd := skipped.1 here.1
        omega
      · rw [if_neg here, Option.map_eq_none_iff, ih]
        refine (and_iff_right fun colon => ?_).symm
        have notEven : backslashes front % 2 ≠ 0 := fun even => here ⟨colon, even⟩
        omega

/-! ## Where the two agree -/

/-- A cut at a colon behind a backslash is not the one that the rule asks for, if no colon in front
of it is bare. -/
theorem not_partsAtColon (whole : s = low ++ ':' :: high) (ends : low.getLast? = some '\\')
    (escaped : ColonsEscaped low) :
    ¬ PartsAtColon s (some (unescapeColons low, unescapeColons high)) := by
  intro parts
  generalize result : some _ = sides at parts
  cases parts with
  | whole => cases result
  | @parted front behind left right cut escapedThere bare first second =>
    have sameLeft := (Prod.mk.inj (Option.some.inj result)).1
    rw [unescaped_iff.1 first] at sameLeft
    rcases Text.cases_of_two_separators cut whole with rfl | ⟨between, rfl⟩ | ⟨between, rfl⟩
    · exact bare ends
    · exact bare (escaped front between rfl)
    · -- one of the two sides has the colon where the other one has the backslash
      obtain ⟨others, rfl⟩ := List.getLast?_eq_some_iff.1 ends
      rw [List.append_assoc, List.singleton_append, unescapeColons_append_pair,
        unescapeColons_concat_backslash] at sameLeft
      cases List.append_cancel_left sameLeft

/-- A colon behind two backslashes, or behind four and so on. -/
def BehindPairs (front : List Char) : Prop :=
  front.getLast? = some '\\' ∧ backslashes front % 2 = 0

/-- The scan keeps to the rule exactly on the texts in which a bare colon stands in front of every
colon behind an even number of backslashes, if that number is not zero. -/
theorem splitColon_documented_iff (s : List Char) :
    PartsAtColon s (splitColon s) ↔
      ∀ front behind, s = front ++ ':' :: behind → BehindPairs front → ¬ ColonsEscaped front := by
  unfold splitColon
  cases cut : cutAtColon false s with
  | none =>
      have skipped : ColonsSkipped [] s := cutAtColon_eq_none_iff.1 cut
      refine iff_of_true (.whole skipped.colonsEscaped) fun front behind whole pairs => ?_
      have odd := skipped front behind whole
      have even := pairs.2
      rw [List.nil_append] at odd
      omega
  | some sides =>
      obtain ⟨low, high⟩ := sides
      obtain ⟨whole, even, skipped⟩ := (@cutAtColon_eq_some_iff s [] low high).1 cut
      by_cases ends : low.getLast? = some '\\'
      · exact iff_of_false (not_partsAtColon whole ends skipped.colonsEscaped)
          fun agree => agree low high whole ⟨ends, even⟩ skipped.colonsEscaped
      · refine iff_of_true (.parted whole skipped.colonsEscaped ends (unescaped_iff.2 rfl)
          (unescaped_iff.2 rfl)) fun front behind there pairs escaped => ?_
        rcases Text.cases_of_two_separators there whole with rfl | ⟨between, rfl⟩ | ⟨between, rfl⟩
        · exact ends pairs.1
        · have odd := skipped front between rfl
          have even := pairs.2
          rw [List.nil_append] at odd
          omega
        · exact ends (escaped low between rfl)

/-- The colon behind two backslashes parts the text. -/
theorem splitColon_at_second_backslash : ¬ ∀ s, PartsAtColon s (splitColon s) := by
  intro documented
  have cut : splitColon "a\\\\:b".toList =
      some (unescapeColons "a\\\\".toList, unescapeColons "b".toList) := by decide
  have noColon : ColonsEscaped "a\\\\".toList := by
    intro front behind whole
    have colon : ':' ∈ "a\\\\".toList := whole ▸ by simp
    exact absurd colon (by decide)
  have parts := documented "a\\\\:b".toList
  rw [cut] at parts
  exact not_partsAtColon (by decide) (by decide) noColon parts

end PlotScript.Coercion
