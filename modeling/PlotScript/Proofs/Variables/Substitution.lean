import PlotScript.Proofs.Except
import PlotScript.Proofs.Variables.Piece

/-!
# Substitution in an expression

A text refers to the names behind its dollar signs, except to those whose dollar sign a
backslash protects. `Replaced` puts a value in the place of every reference. It relates a
text to a result exactly when every bracket of the text is closed and every name has a
value (`exists_replaced_iff`), and expanding an expression finds this result
(`concat_expand_eq_ok_iff`).
-/

namespace PlotScript

open Reference (AtFront IsWord begins)

/-! ## The references of an expression -/

namespace Expression

/-- What stands behind a dollar sign of a text that no backslash stands in front of. -/
def BehindDollar (s after : List Char) : Prop :=
  ∃ before, s = before ++ '$' :: after ∧ before.getLast? ≠ some '\\'

/-- A text refers to a name. -/
def RefersTo (s : List Char) (name : String) : Prop :=
  ∃ after rest, BehindDollar s after ∧ AtFront after name.toList rest

/-- Every bracket that a dollar sign opens is closed and has a word in it. -/
def IsClosed (s : List Char) : Prop :=
  ∀ inside, BehindDollar s ('(' :: inside) →
    ∃ name rest, IsWord name ∧ inside = name ++ ')' :: rest

theorem not_behindDollar_nil {after : List Char} : ¬ BehindDollar [] after := by
  rintro ⟨before, whole, -⟩
  cases before <;> cases whole

theorem behindDollar_cons {c : Char} (notBackslash : c ≠ '\\') {s after : List Char} :
    BehindDollar (c :: s) after ↔ c = '$' ∧ s = after ∨ BehindDollar s after := by
  constructor
  · rintro ⟨before, whole, last⟩
    cases before with
    | nil =>
        obtain ⟨rfl, rfl⟩ := List.cons.inj whole
        exact .inl ⟨rfl, rfl⟩
    | cons d before =>
        obtain ⟨rfl, rfl⟩ := List.cons.inj whole
        refine .inr ⟨before, rfl, fun backslash => last ?_⟩
        rw [List.getLast?_cons, backslash]
        rfl
  · rintro (⟨rfl, rfl⟩ | ⟨before, rfl, last⟩)
    · exact ⟨[], rfl, by simp⟩
    · refine ⟨c :: before, rfl, fun backslash => ?_⟩
      cases before with
      | nil => exact notBackslash (by simpa using backslash)
      | cons d before => exact last (by simpa [List.getLast?_cons] using backslash)

/-- A backslash takes the dollar sign behind it out of account. -/
theorem behindDollar_protected (s after : List Char) :
    BehindDollar ('\\' :: '$' :: s) after ↔ BehindDollar s after := by
  constructor
  · rintro ⟨before, whole, last⟩
    match before with
    | [] => cases whole
    | [d] =>
        obtain ⟨rfl, -⟩ := List.cons.inj whole
        exact absurd rfl last
    | d :: e :: before =>
        obtain ⟨-, whole⟩ := List.cons.inj whole
        obtain ⟨rfl, rfl⟩ := List.cons.inj whole
        refine ⟨before, rfl, fun backslash => last ?_⟩
        rw [List.getLast?_cons, List.getLast?_cons, backslash]
        rfl
  · rintro ⟨before, rfl, last⟩
    refine ⟨'\\' :: '$' :: before, rfl, fun backslash => ?_⟩
    cases before with
    | nil => exact absurd backslash (by simp)
    | cons d before => exact last (by simpa [List.getLast?_cons] using backslash)

theorem behindDollar_backslash {s after : List Char} (notProtecting : s.head? ≠ some '$') :
    BehindDollar ('\\' :: s) after ↔ BehindDollar s after := by
  constructor
  · rintro ⟨before, whole, last⟩
    match before with
    | [] => cases whole
    | [d] =>
        obtain ⟨-, rfl⟩ := List.cons.inj whole
        exact absurd rfl notProtecting
    | d :: e :: before =>
        obtain ⟨-, rfl⟩ := List.cons.inj whole
        refine ⟨e :: before, rfl, fun backslash => last ?_⟩
        rw [List.getLast?_cons, backslash]
        rfl
  · rintro ⟨before, rfl, last⟩
    refine ⟨'\\' :: before, rfl, fun backslash => ?_⟩
    cases before with
    | nil => exact notProtecting rfl
    | cons d before => exact last (by simpa [List.getLast?_cons] using backslash)

theorem behindDollar_char {c : Char} {s : List Char} (notDollar : c ≠ '$')
    (notProtecting : c = '\\' → s.head? ≠ some '$') (after : List Char) :
    BehindDollar (c :: s) after ↔ BehindDollar s after := by
  by_cases isBackslash : c = '\\'
  · subst isBackslash
    exact behindDollar_backslash (notProtecting rfl)
  · rw [behindDollar_cons isBackslash]
    simp [notDollar]

/-- Behind a dollar sign comes what follows it and what follows the dollar signs
behind it. -/
theorem behindDollar_dollar {s after : List Char} :
    BehindDollar ('$' :: s) after ↔ s = after ∨ BehindDollar s after := by
  rw [behindDollar_cons (by decide)]
  simp

theorem behindDollar_append {word s after : List Char}
    (plain : ∀ c ∈ word, c ≠ '$' ∧ c ≠ '\\') :
    BehindDollar (word ++ s) after ↔ BehindDollar s after := by
  induction word with
  | nil => rfl
  | cons c word ih =>
      obtain ⟨⟨notDollar, notBackslash⟩, others⟩ := List.forall_mem_cons.1 plain
      rw [List.cons_append, behindDollar_cons notBackslash, ih others]
      simp [notDollar]

/-- There is no dollar sign inside a reference. -/
theorem behindDollar_atFront {s name rest : List Char} (front : AtFront s name rest)
    (after : List Char) : BehindDollar s after ↔ BehindDollar rest after := by
  have plain : ∀ {c : Char}, c.isAlphanum = true ∨ c = '_' ∨ c = '-' → c ≠ '$' ∧ c ≠ '\\' := by
    rintro c allowed
    constructor
    · rintro rfl
      revert allowed
      decide
    · rintro rfl
      revert allowed
      decide
  cases front with
  | @bare c tail rest start inside ends =>
      rw [← List.cons_append]
      refine behindDollar_append fun d member => plain ?_
      have isNameChar : Reference.isNameChar d = true := by
        rcases List.mem_cons.1 member with rfl | member
        · exact Reference.isNameChar_of_isNameStart start
        · exact inside d member
      simp only [Reference.isNameChar, Bool.or_eq_true, beq_iff_eq] at isNameChar
      exact isNameChar.imp id .inl
  | bracketed isWord =>
      have brackets : '(' :: (name ++ ')' :: rest) = ('(' :: (name ++ [')'])) ++ rest := by
        simp
      rw [brackets]
      refine behindDollar_append fun d member => ?_
      simp only [List.mem_cons, List.mem_append, List.not_mem_nil, or_false] at member
      rcases member with rfl | member | rfl
      · decide
      · exact plain (isWord.2 d member)
      · decide

/-! ## Substitution in an expression -/

/-- `Replaced values s t`: the text `s` with a dollar sign for every one that a backslash
protects, and with a value of its name for every reference, is `t`. -/
inductive Replaced (values : String → String → Prop) : List Char → List Char → Prop
  | nil : Replaced values [] []
  | protectedDollar {s t : List Char} (behind : Replaced values s t) :
      Replaced values ('\\' :: '$' :: s) ('$' :: t)
  | reference {s name rest t : List Char} {v : String} (front : AtFront s name rest)
      (value : values (String.ofList name) v) (behind : Replaced values rest t) :
      Replaced values ('$' :: s) (v.toList ++ t)
  | loneDollar {s t : List Char} (lone : ∀ c ∈ s.head?, begins c = false)
      (behind : Replaced values s t) : Replaced values ('$' :: s) ('$' :: t)
  | char {c : Char} {s t : List Char} (notDollar : c ≠ '$')
      (notProtecting : c = '\\' → s.head? ≠ some '$') (behind : Replaced values s t) :
      Replaced values (c :: s) (c :: t)

theorem Replaced.mono {values others : String → String → Prop}
    (weaker : ∀ name v, values name v → others name v) {s t : List Char}
    (h : Replaced values s t) : Replaced others s t := by
  induction h with
  | nil => exact .nil
  | protectedDollar _ ih => exact .protectedDollar ih
  | reference front value _ ih => exact .reference front (weaker _ _ value) ih
  | loneDollar lone _ ih => exact .loneDollar lone ih
  | char notDollar notProtecting _ ih => exact .char notDollar notProtecting ih

/-- An expression is expanded to what its references are replaced to. -/
theorem concat_expand_eq_ok_iff {lookup : String → Except Cause String} {s t : List Char} :
    Piece.concat (Piece.expand lookup) (Piece.ofExpression s) = .ok t ↔
      Replaced (fun name v => lookup name = .ok v) s t := by
  constructor
  · intro h
    fun_induction Piece.ofExpression s generalizing t with
    | case1 =>
        obtain rfl := Except.ok.inj h
        exact .nil
    | case2 c rest isProtected ih =>
        obtain ⟨front, back, first, others, rfl⟩ := Piece.concat_cons_eq_ok h
        obtain rfl := Except.ok.inj first
        obtain ⟨rfl, next⟩ := isProtected
        obtain ⟨tail, rfl⟩ := List.head?_eq_some_iff.1 next
        exact .protectedDollar (ih others)
    | case3 rest cause fault => cases h
    | case4 rest none _ ih =>
        obtain ⟨front, back, first, others, rfl⟩ := Piece.concat_cons_eq_ok h
        obtain rfl := Except.ok.inj first
        exact .loneDollar (Reference.begins_eq_false_of_read none) (ih others)
    | case5 rest r after found _ _ ih =>
        obtain ⟨front, back, first, others, rfl⟩ := Piece.concat_cons_eq_ok h
        obtain ⟨v, value, rfl⟩ := exists_of_map_eq_ok first
        exact .reference (Reference.atFront_of_read found) value (ih others)
    | case6 c rest notProtected notDollar ih =>
        obtain ⟨front, back, first, others, rfl⟩ := Piece.concat_cons_eq_ok h
        obtain rfl := Except.ok.inj first
        exact .char notDollar (fun same next => notProtected ⟨same, next⟩) (ih others)
  · intro h
    induction h with
    | nil => rw [Piece.ofExpression_nil]; rfl
    | protectedDollar _ ih => rw [Piece.ofExpression_protected, Piece.concat, ih]; rfl
    | reference front value _ ih =>
        obtain ⟨r, found, rfl⟩ := Reference.exists_read_of_atFront front
        rw [Piece.ofExpression_dollar, found]
        simp only
        rw [Piece.concat, Piece.expand, value, ih]
        rfl
    | loneDollar lone _ ih =>
        rw [Piece.ofExpression_dollar, Reference.read_eq_none lone]
        simp only
        rw [Piece.concat, ih]
        rfl
    | char notDollar notProtecting _ ih =>
        rw [Piece.ofExpression_char notDollar notProtecting, Piece.concat, ih]
        rfl

/-! ### When there is a substitution -/

theorem isClosed_congr {s u : List Char}
    (same : ∀ after, BehindDollar s after ↔ BehindDollar u after) : IsClosed s ↔ IsClosed u := by
  simp only [IsClosed, same]

theorem refersTo_congr {s u : List Char}
    (same : ∀ after, BehindDollar s after ↔ BehindDollar u after) (name : String) :
    RefersTo s name ↔ RefersTo u name := by
  simp only [RefersTo, same]

theorem isClosed_dollar {s : List Char} :
    IsClosed ('$' :: s) ↔
      (∀ inside, s = '(' :: inside → ∃ name rest, IsWord name ∧ inside = name ++ ')' :: rest) ∧
        IsClosed s := by
  simp only [IsClosed, behindDollar_dollar, or_imp, forall_and]

theorem refersTo_dollar {s : List Char} {name : String} :
    RefersTo ('$' :: s) name ↔ (∃ rest, AtFront s name.toList rest) ∨ RefersTo s name := by
  simp only [RefersTo, behindDollar_dollar, or_and_right, exists_or, exists_and_left,
    exists_eq_left']

theorem Replaced.isClosed_and_valued {values : String → String → Prop} {s t : List Char}
    (h : Replaced values s t) :
    IsClosed s ∧ ∀ name, RefersTo s name → ∃ v, values name v := by
  induction h with
  | nil =>
      constructor
      · exact fun inside behind => absurd behind not_behindDollar_nil
      · rintro name ⟨after, rest, behind, -⟩
        exact absurd behind not_behindDollar_nil
  | @protectedDollar s t _ ih =>
      have same := behindDollar_protected s
      simpa only [isClosed_congr same, refersTo_congr same] using ih
  | @reference s name rest t v front value _ ih =>
      have same := behindDollar_atFront front
      rw [isClosed_dollar, isClosed_congr same]
      refine ⟨⟨?_, ih.1⟩, fun other refers => ?_⟩
      · rintro inside rfl
        cases front with
        | bare start => exact absurd start (by decide)
        | bracketed isWord => exact ⟨name, rest, isWord, rfl⟩
      · rcases refersTo_dollar.1 refers with ⟨behind, again⟩ | refers
        · rw [(front.unique again).1, String.ofList_toList] at value
          exact ⟨v, value⟩
        · exact ih.2 other ((refersTo_congr same other).1 refers)
  | @loneDollar s t lone _ ih =>
      rw [isClosed_dollar]
      refine ⟨⟨?_, ih.1⟩, fun name refers => ?_⟩
      · rintro inside rfl
        exact absurd (lone '(' rfl) (by decide)
      · rcases refersTo_dollar.1 refers with ⟨rest, front⟩ | refers
        · exact absurd lone front.not_lone
        · exact ih.2 name refers
  | char notDollar notProtecting _ ih =>
      have same := behindDollar_char notDollar notProtecting
      simpa only [isClosed_congr same, refersTo_congr same] using ih

/-- An expression can be replaced exactly when its brackets are closed and its names have
values. -/
theorem exists_replaced_iff {values : String → String → Prop} {s : List Char} :
    (∃ t, Replaced values s t) ↔
      IsClosed s ∧ ∀ name, RefersTo s name → ∃ v, values name v := by
  constructor
  · rintro ⟨t, h⟩
    exact h.isClosed_and_valued
  rintro ⟨closed, valued⟩
  -- the induction is on the reading of the expression
  fun_induction Piece.ofExpression s with
  | case1 => exact ⟨[], .nil⟩
  | case2 c rest isProtected ih =>
      obtain ⟨rfl, next⟩ := isProtected
      obtain ⟨tail, rfl⟩ := List.head?_eq_some_iff.1 next
      have same := behindDollar_protected tail
      simp only [isClosed_congr same, refersTo_congr same] at closed valued
      obtain ⟨t, h⟩ := ih closed valued
      exact ⟨_, .protectedDollar h⟩
  | case3 rest cause fault =>
      obtain ⟨⟨inside, rfl⟩, -⟩ := Reference.exists_bracket_of_read_error fault
      obtain ⟨name, behind, isWord, rfl⟩ := (isClosed_dollar.1 closed).1 inside rfl
      obtain ⟨r, found, -⟩ := Reference.exists_read_of_atFront (.bracketed isWord)
      rw [fault] at found
      cases found
  | case4 rest none _ ih =>
      obtain ⟨t, h⟩ := ih (isClosed_dollar.1 closed).2
        fun name refers => valued name (refersTo_dollar.2 (.inr refers))
      exact ⟨_, .loneDollar (Reference.begins_eq_false_of_read none) h⟩
  | case5 rest r after found _ _ ih =>
      have front := Reference.atFront_of_read found
      have same := behindDollar_atFront front
      obtain ⟨t, h⟩ := ih ((isClosed_congr same).1 (isClosed_dollar.1 closed).2)
        fun name refers =>
          valued name (refersTo_dollar.2 (.inr ((refersTo_congr same name).2 refers)))
      obtain ⟨v, value⟩ := valued (String.ofList r.name)
        (refersTo_dollar.2 (.inl ⟨after, by rwa [String.toList_ofList]⟩))
      exact ⟨_, .reference front value h⟩
  | case6 c rest notProtected notDollar ih =>
      have notProtecting : c = '\\' → rest.head? ≠ some '$' :=
        fun same next => notProtected ⟨same, next⟩
      have same := behindDollar_char notDollar notProtecting
      simp only [isClosed_congr same, refersTo_congr same] at closed valued
      obtain ⟨t, h⟩ := ih closed valued
      exact ⟨_, .char notDollar notProtecting h⟩

/-- Values that agree are put into an expression alike. -/
theorem Replaced.unique {values others : String → String → Prop}
    (agree : ∀ name v w, values name v → others name w → v = w) {s t u : List Char}
    (h : Replaced values s t) (again : Replaced others s u) : t = u := by
  induction h generalizing u with
  | nil =>
      cases again
      rfl
  | protectedDollar _ ih =>
      cases again with
      | protectedDollar behind => rw [ih behind]
      | char _ notProtecting => exact absurd rfl (notProtecting rfl)
  | @reference s name rest t v front value _ ih =>
      cases again with
      | reference front' value' behind =>
          obtain ⟨rfl, rfl⟩ := front.unique front'
          rw [agree _ _ _ value value', ih behind]
      | loneDollar lone => exact absurd lone front.not_lone
      | char notDollar => exact absurd rfl notDollar
  | @loneDollar s t lone _ ih =>
      cases again with
      | reference front => exact absurd lone front.not_lone
      | loneDollar _ behind => rw [ih behind]
      | char notDollar => exact absurd rfl notDollar
  | char notDollar notProtecting _ ih =>
      cases again with
      | protectedDollar => exact absurd rfl (notProtecting rfl)
      | reference => exact absurd rfl notDollar
      | loneDollar => exact absurd rfl notDollar
      | char _ _ behind => rw [ih behind]

end Expression

end PlotScript
