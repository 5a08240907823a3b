import PlotScript.Coercion.Builtin
import PlotScript.Proofs.Except
import PlotScript.Proofs.Tables
import PlotScript.Proofs.Text.Blank

/-!
# Axis transformations

A transformation is one expression, or two with a double colon between them. It is parted at
the first double colon of its text, and the blanks around an expression are dropped. Writing
it puts the expressions side by side without the blanks, and that may bring them next to what
the blanks kept away: a colon at the end of the first expression joins the double colon, and
an expression on its own may become a word that has a meaning of its own.
`coerce_render_bijection_iff` says that nothing else goes wrong.
-/

namespace PlotScript

/-! ## Double colons -/

namespace Text

variable {s front behind : List Char}

/-- Two colons stand side by side. -/
def HasDoubleColon (s : List Char) : Prop :=
  [':', ':'] <:+: s

/-- A colon behind a text makes a double colon only with one at its end. -/
theorem hasDoubleColon_concat :
    HasDoubleColon (s ++ [':']) ↔ s.getLast? = some ':' ∨ HasDoubleColon s := by
  have joined : [':', ':'] <:+ s ++ [':'] ↔ s.getLast? = some ':' := by
    rw [List.getLast?_eq_some_iff]
    constructor
    · rintro ⟨rest, same⟩
      have colonBehind : rest ++ [':'] ++ [':'] = s ++ [':'] := by
        rw [← same]
        simp
      exact ⟨rest, (List.append_cancel_right colonBehind).symm⟩
    · rintro ⟨rest, rfl⟩
      exact ⟨rest, by simp⟩
  rw [HasDoubleColon, List.infix_concat_iff, joined]
  rfl

theorem HasDoubleColon.mono {t : List Char} (h : HasDoubleColon s) (inside : s <:+: t) :
    HasDoubleColon t :=
  List.IsInfix.trans h inside

/-- A text is parted at its first double colon. -/
theorem splitOnce_eq_some_iff :
    splitOnce [':', ':'] s = some (front, behind) ↔
      s = front ++ ':' :: ':' :: behind ∧ ¬ HasDoubleColon (front ++ [':']) := by
  induction s generalizing front with
  | nil => simp [splitOnce]
  | cons c rest ih =>
      unfold splitOnce
      by_cases here : [':', ':'].isPrefixOf (c :: rest) = true
      · rw [if_pos here]
        obtain ⟨others, rfl, rfl⟩ : ∃ others, c = ':' ∧ rest = ':' :: others := by
          obtain ⟨others, begins⟩ := List.isPrefixOf_iff_prefix.1 here
          obtain ⟨isColon, begins⟩ := List.cons.inj begins
          exact ⟨others, isColon.symm, begins.symm⟩
        constructor
        · intro parted
          obtain ⟨rfl, rfl⟩ := Prod.mk.inj (Option.some.inj parted)
          exact ⟨rfl, fun double => absurd double.length_le (by simp)⟩
        · rintro ⟨whole, first⟩
          -- a longer front would begin with the double colon
          cases front with
          | nil =>
              obtain rfl : others = behind := by simpa using whole
              rfl
          | cons d front =>
              refine absurd ?_ first
              obtain ⟨isColon, whole⟩ := List.cons.inj whole
              rw [← isColon]
              cases front with
              | nil => exact List.infix_refl _
              | cons e front =>
                  obtain ⟨isColon, -⟩ := List.cons.inj whole
                  rw [← isColon]
                  exact ⟨[], front ++ [':'], rfl⟩
      · rw [if_neg here, Option.map_eq_some_iff]
        constructor
        · rintro ⟨⟨before, after⟩, found, same⟩
          obtain ⟨rfl, rfl⟩ := Prod.mk.inj same
          obtain ⟨rfl, first⟩ := ih.1 found
          refine ⟨rfl, fun double => ?_⟩
          rcases List.infix_cons_iff.1 double with ahead | inside
          · refine here (List.isPrefixOf_iff_prefix.2 (ahead.trans ?_))
            exact ⟨':' :: after, by simp⟩
          · exact first inside
        · rintro ⟨whole, first⟩
          cases front with
          | nil =>
              rw [whole] at here
              exact absurd rfl here
          | cons d front =>
              obtain ⟨rfl, rfl⟩ := List.cons.inj whole
              exact ⟨(front, behind),
                ih.2 ⟨rfl, fun double => first (List.infix_cons_iff.2 (.inr double))⟩, rfl⟩

theorem splitOnce_eq_none_iff :
    splitOnce [':', ':'] s = none ↔ ¬ HasDoubleColon s := by
  induction s with
  | nil => simp [splitOnce, HasDoubleColon]
  | cons c rest ih =>
      unfold splitOnce HasDoubleColon
      by_cases here : [':', ':'].isPrefixOf (c :: rest) = true
      · rw [if_pos here]
        have begins := List.isPrefixOf_iff_prefix.1 here
        exact iff_of_false nofun (not_not_intro begins.isInfix)
      · have notFront := mt List.isPrefixOf_iff_prefix.2 here
        rw [if_neg here, Option.map_eq_none_iff, ih, List.infix_cons_iff]
        exact not_congr (or_iff_right notFront).symm

end Text

/-! ## Reading and writing -/

namespace Coder

open Text

variable {text : String} {v : Value}

/-- A side of a transformation as it is kept. -/
structure IsExpression (e : List Char) : Prop where
  nonempty : e ≠ []
  trimmed : trim e = e

theorem IsExpression.of_trim {s : List Char} (h : trim s ≠ []) : IsExpression (trim s) :=
  ⟨h, trim_trim s⟩

/-- Reading a transformation gives sides that are expressions, the first one without a double
colon. -/
theorem exists_of_bijection (h : bijection.decode text = .ok v) :
    ∃ forward backward, v = .bijection forward backward ∧ IsExpression forward.toList ∧
      ¬ HasDoubleColon forward.toList ∧ ∀ b ∈ backward, IsExpression b.toList := by
  unfold bijection at h
  dsimp only at h
  split at h
  · rename_i front behind parted
    obtain ⟨-, first⟩ := splitOnce_eq_some_iff.1 parted
    split at h
    · cases h
    · rename_i sides
      obtain rfl := Except.ok.inj h
      obtain ⟨frontSide, behindSide⟩ : trim front ≠ [] ∧ trim behind ≠ [] := by
        simpa using sides
      refine ⟨_, _, rfl, ?_, ?_, ?_⟩
      · rw [String.toList_ofList]
        exact .of_trim frontSide
      · rw [String.toList_ofList]
        intro double
        exact first (hasDoubleColon_concat.2 (.inr (double.mono (trim_within front))))
      · rintro b ⟨⟩
        rw [String.toList_ofList]
        exact .of_trim behindSide
  · rename_i whole
    split at h
    · cases h
    · rename_i side
      obtain rfl := Except.ok.inj h
      refine ⟨_, _, rfl, ?_, ?_, nofun⟩
      · rw [String.toList_ofList]
        exact .of_trim (by simpa using side)
      · rw [String.toList_ofList]
        exact fun double => splitOnce_eq_none_iff.1 whole (double.mono (trim_within _))

variable {forward backward : String}

theorem decode_single (expression : IsExpression forward.toList)
    (whole : ¬ HasDoubleColon forward.toList) :
    bijection.decode forward = .ok (.bijection forward none) := by
  have parted := splitOnce_eq_none_iff.2 whole
  simp [bijection, parted, expression.trimmed, expression.nonempty]

/-- Two sides are read from what is written of them unless the first one ends with a colon. -/
theorem decode_pair (first : IsExpression forward.toList)
    (second : IsExpression backward.toList) (apart : ¬ HasDoubleColon (forward.toList ++ [':'])) :
    bijection.decode (forward ++ "::" ++ backward) =
      .ok (.bijection forward (some backward)) := by
  have written : (forward ++ "::" ++ backward).toList =
      forward.toList ++ ':' :: ':' :: backward.toList := by
    simp
  have parted := splitOnce_eq_some_iff.2 ⟨written, apart⟩
  unfold bijection
  dsimp only
  rw [parted]
  simp [first.trimmed, first.nonempty, second.trimmed, second.nonempty]

/-- A colon at the end of the first side is read as part of the double colon, and one of the
three goes to the second side. -/
theorem decode_pair_ne (whole : ¬ HasDoubleColon forward.toList)
    (second : IsExpression backward.toList) (ends : forward.toList.getLast? = some ':') :
    bijection.decode (forward ++ "::" ++ backward) ≠
      .ok (.bijection forward (some backward)) := by
  obtain ⟨front, shape⟩ := List.getLast?_eq_some_iff.1 ends
  have written : (forward ++ "::" ++ backward).toList =
      front ++ ':' :: ':' :: (':' :: backward.toList) := by
    simp [shape]
  rw [shape] at whole
  have parted := splitOnce_eq_some_iff.2 ⟨written, whole⟩
  have kept : trim (':' :: backward.toList) = ':' :: backward.toList := by
    have last : trimEnd backward.toList = backward.toList := by
      rw [← second.trimmed, trim, trimEnd_trimEnd]
    rw [trim, trimStart, List.dropWhile_cons_of_neg (by decide), trimEnd_cons, last,
      if_neg (by simpa using second.nonempty)]
  intro same
  unfold bijection at same
  simp only [parted, kept] at same
  split at same
  · cases same
  · have sides := Option.some.inj (Value.bijection.inj (Except.ok.inj same)).2
    have := congrArg (·.toList.length) sides
    simp at this

end Coder

/-- Whether a transformation is read again from what is written of it: an expression on its
own must not be the word `identity`, and the first one of two must not end with a colon. -/
def Value.isRereadable : Value → Bool
  | .bijection forward none => forward != "identity"
  | .bijection forward (some _) => forward.toList.getLast? != some ':'
  | _ => true

theorem Builtin.coerce_bijection (text : String) :
    Registry.standard.coerce "bijection" text =
      if text = "identity" then .ok (.bijection "x" (some "x"))
      else (Coder.bijection.decode text).mapError (.invalidLiteral text "bijection") := by
  have member : Builtin.bijection ∈ Registry.standard.specs := by
    simp [Registry.standard, Builtin.all]
  have found : Registry.standard.coerce "bijection" text = Builtin.bijection.coerce text :=
    Registry.coerce_of_mem member text
  rw [found, TypeSpec.coerce]
  by_cases isIdentity : text = "identity"
  · subst isIdentity
    rfl
  · have free : Builtin.bijection.fixed? text = none := by
      simp [TypeSpec.fixed?, TypeSpec.shortcut?, TypeSpec.pattern?, TypeSpec.constant?,
        Builtin.bijection, Ne.symm isIdentity]
    rw [if_neg isIdentity, free]
    rfl

/-- Writing undoes reading exactly on the transformations whose expressions do not run into
what is written beside them. -/
theorem coerce_render_bijection_iff {text : String} {v : Value}
    (read : Registry.standard.coerce "bijection" text = .ok v) :
    ∃ forward backward s, v = .bijection forward backward ∧
      Registry.standard.render "bijection" v = .ok s ∧
      (Registry.standard.coerce "bijection" s = .ok v ↔ v.isRereadable = true) := by
  have member : Builtin.bijection ∈ Registry.standard.specs := by
    simp [Registry.standard, Builtin.all]
  have written : Registry.standard.render "bijection" v = .ok v.display :=
    Registry.render_of_mem member v
  rw [Builtin.coerce_bijection] at read
  split at read
  · obtain rfl := Except.ok.inj read
    exact ⟨_, _, _, rfl, written, iff_of_true (by decide +kernel) (by decide)⟩
  · obtain ⟨forward, backward, rfl, first, whole, others⟩ :=
      Coder.exists_of_bijection (mapError_eq_ok_iff.1 read)
    refine ⟨forward, backward, _, rfl, written, ?_⟩
    rw [Builtin.coerce_bijection]
    cases backward with
    | none =>
        rw [Value.isRereadable, bne_iff_ne]
        by_cases isIdentity : forward = "identity"
        · refine iff_of_false ?_ (not_not_intro isIdentity)
          subst isIdentity
          exact by decide
        · rw [Value.display, if_neg isIdentity, Coder.decode_single first whole]
          exact iff_of_true rfl isIdentity
    | some backward =>
        have second := others backward rfl
        have notIdentity : forward ++ "::" ++ backward ≠ "identity" := by
          intro same
          have colon : ':' ∈ (forward ++ "::" ++ backward).toList := by simp
          rw [same] at colon
          revert colon
          decide
        rw [Value.isRereadable, bne_iff_ne, Value.display, if_neg notIdentity,
          mapError_eq_ok_iff]
        by_cases ends : forward.toList.getLast? = some ':'
        · exact iff_of_false (Coder.decode_pair_ne whole second ends) (not_not_intro ends)
        · have apart : ¬ Text.HasDoubleColon (forward.toList ++ [':']) :=
            mt Text.hasDoubleColon_concat.1 (not_or.2 ⟨ends, whole⟩)
          exact iff_of_true (Coder.decode_pair first second apart) ends

theorem coerce_render_bijection_of_blanks :
    let read := Value.bijection "10**x" (some ":x")
    Registry.standard.coerce "bijection" " 10**x:: :x" = .ok read ∧ read.isRereadable = true ∧
      ∃ s, Registry.standard.render "bijection" read = .ok s ∧
        Registry.standard.coerce "bijection" s = .ok read := by
  intro read
  have given : Registry.standard.coerce "bijection" " 10**x:: :x" = .ok read := by
    decide +kernel
  have faithful : read.isRereadable = true := by
    decide
  obtain ⟨_, _, s, -, written, again⟩ := coerce_render_bijection_iff given
  exact ⟨given, faithful, s, written, again.2 faithful⟩

/-- The blank that kept a colon away from the double colon is not written. -/
theorem coerce_render_bijection_fails :
    ¬ ∀ (text s : String) (v : Value), Registry.standard.coerce "bijection" text = .ok v →
      Registry.standard.render "bijection" v = .ok s →
      Registry.standard.coerce "bijection" s = .ok v := by
  intro undoes
  have again := undoes "a: ::b" "a:::b" (.bijection "a:" (some "b")) (by decide +kernel)
    (by decide +kernel)
  revert again
  decide +kernel

end PlotScript
