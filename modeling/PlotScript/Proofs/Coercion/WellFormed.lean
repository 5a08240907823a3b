import Mathlib.Algebra.Order.Field.Basic
import Mathlib.Algebra.Order.Field.Rat
import PlotScript.Command.Standard
import PlotScript.Proofs.Coercion.Bijection
import PlotScript.Proofs.Coercion.Values
import PlotScript.Proofs.Command.Invocation
import PlotScript.Proofs.Number.Rounding

/-!
# Well-formed values

What the drawing side may rely on. A value that is read under a tag belongs to the family of the
tag and keeps to the rules of the family, whichever stage it comes from. In particular every number
in it is finite, so no other number ever stands in an invocation.
-/

namespace PlotScript

/-! ## Shares -/

namespace Binary64

/-- The number that a finite floating-point number is. -/
def value? : Binary64 → Option ℚ
  | finite negative rank => some ((if negative then -1 else 1) * (units rank / 2 ^ 1074))
  | _ => none

/-- A number between zero and one. -/
def IsShare (x : Binary64) : Prop :=
  ∃ q, x.value? = some q ∧ 0 ≤ q ∧ q ≤ 1

/-- A rank up to that of one is of a magnitude up to one. -/
theorem units_le_of_le_rankOfOne {rank : Nat} (h : rank ≤ rankOfOne) : units rank ≤ 2 ^ 1074 := by
  rcases Nat.lt_or_eq_of_le h with less | rfl
  · have lowBinade : rank / binade ≤ 1021 + 1 := by
      unfold rankOfOne at less
      unfold binade
      omega
    have bounded : units rank < 2 ^ (53 + 1021) := units_lt lowBinade
    simpa only [Nat.reduceAdd] using Nat.le_of_lt bounded
  · decide +kernel

theorem IsShare.isFinite {x : Binary64} (h : x.IsShare) : x.isFinite = true := by
  obtain ⟨q, isValue, -⟩ := h
  cases x with
  | finite => rfl
  | nan => cases isValue
  | infinite => cases isValue

theorem isShare_of_inUnitInterval {x : Binary64} (h : x.inUnitInterval = true) : x.IsShare := by
  cases x with
  | nan => cases h
  | infinite => cases h
  | finite negative rank =>
    refine ⟨_, rfl, ?_⟩
    rw [inUnitInterval, Bool.or_eq_true, Bool.and_eq_true, decide_eq_true_eq,
      decide_eq_true_eq] at h
    rcases h with isZero | ⟨notNegative, upToOne⟩
    · -- plus and minus zero
      have nothing : units rank = 0 := by
        rw [isZero]
        rfl
      rw [nothing]
      simp
    · obtain rfl : negative = false := by simpa using notNegative
      have bounded : (units rank : ℚ) ≤ 2 ^ 1074 := by
        exact_mod_cast units_le_of_le_rankOfOne upToOne
      have positive : (0 : ℚ) < 2 ^ 1074 := pow_pos (by decide) 1074
      simp only [Bool.false_eq_true, if_false, one_mul]
      exact ⟨div_nonneg (Nat.cast_nonneg _) positive.le, (div_le_one positive).2 bounded⟩

end Binary64

/-! ## The rules of the families -/

/-- The spellings that an enumerated type declares. -/
def Builtin.choices : List (String × List String) :=
  [("alignment", ["left", "center", "right"]), ("valignment", ["top", "center", "bottom"]),
    ("line-style", ["solid", "dashes", "dots", "dash-dot", "none"]),
    ("marker", ["circle", "square", "triangle", "cross", "plus", "none"])]

namespace Value

/-- A value that a text may stand for under a tag. -/
inductive WellFormed (text : String) : String → Value → Prop
  | boolean (b : Bool) : WellFormed text "boolean" (.bool b)
  | integer (n : Int64) : WellFormed text "integer" (.integer n)
  | float {x : Binary64} (finite : x.isFinite = true) : WellFormed text "float" (.float x)
  /-- the text itself -/
  | text : WellFormed text "text" (.text text)
  | range {low high : Binary64} (first : low.isFinite = true) (second : high.isFinite = true) :
      WellFormed text "range" (.range (some low) (some high))
  | partialRange {low high : Option Binary64} (first : IsBound low) (second : IsBound high) :
      WellFormed text "partial-range" (.range low high)
  | symbol {tag s : String} {names : List String} (enumerated : (tag, names) ∈ Builtin.choices)
      (declared : s ∈ names) : WellFormed text tag (.symbol s)
  | color {r g b : Binary64} (shares : ∀ x ∈ [r, g, b], x.IsShare) :
      WellFormed text "color" (.color r g b)
  | dimension {x : Binary64} {unit : LengthUnit} (finite : x.isFinite = true)
      (known : unit ∈ LengthUnit.all) : WellFormed text "dimension" (.dimension x unit)
  | point {x y : Binary64} (finite : ∀ z ∈ [x, y], z.isFinite = true) :
      WellFormed text "point" (.point x y)
  | alignedPoint {x y : Binary64} {halign valign : String}
      (finite : ∀ z ∈ [x, y], z.isFinite = true) (horizontal : halign ∈ ["left", "center", "right"])
      (vertical : valign ∈ ["top", "center", "bottom"]) :
      WellFormed text "aligned-point" (.alignedPoint x y halign valign)
  | box {x1 y1 x2 y2 : Binary64} (finite : ∀ z ∈ [x1, y1, x2, y2], z.isFinite = true) :
      WellFormed text "box" (.box x1 y1 x2 y2)
  | margins {l r t b : Binary64} (finite : ∀ z ∈ [l, r, t, b], z.isFinite = true) :
      WellFormed text "margins" (.margins l r t b)
  | bijection {forward : String} {backward : Option String}
      (first : Coder.IsExpression forward.toList)
      (second : ∀ b ∈ backward, Coder.IsExpression b.toList) :
      WellFormed text "bijection" (.bijection forward backward)

/-- All floating-point numbers in a value. -/
def numbers : Value → List Binary64
  | float x => [x]
  | range low high => low.toList ++ high.toList
  | color r g b => [r, g, b]
  | dimension x _ => [x]
  | point x y => [x, y]
  | alignedPoint x y _ _ => [x, y]
  | box x1 y1 x2 y2 => [x1, y1, x2, y2]
  | margins left right top bottom => [left, right, top, bottom]
  | bool _ | integer _ | text _ | symbol _ | bijection _ _ => []

variable {tag text : String} {v : Value}

/-- A well-formed value holds finite numbers only. -/
theorem WellFormed.isFinite (h : WellFormed text tag v) : ∀ x ∈ v.numbers, x.isFinite = true := by
  cases h with
  | float finite => exact List.forall_mem_singleton.2 finite
  | range first second => simpa [numbers] using ⟨first, second⟩
  | partialRange first second =>
      intro x member
      rcases List.mem_append.1 member with inLow | inHigh
      · exact first x (Option.mem_toList.1 inLow)
      · exact second x (Option.mem_toList.1 inHigh)
  | color shares => exact fun x member => (shares x member).isFinite
  | dimension finite known => exact List.forall_mem_singleton.2 finite
  | point finite => exact finite
  | alignedPoint finite horizontal vertical => exact finite
  | box finite => exact finite
  | margins finite => exact finite
  | _ => exact fun x member => absurd member List.not_mem_nil

/-! ## Every stage keeps to the rules -/

theorem WellFormed.of_hasType (h : HasType tag v) (notText : tag ≠ "text") :
    WellFormed text tag v := by
  have listed : ∀ e ∈ Builtin.choices, e ∈ Builtin.choices := fun _ => id
  simp only [Builtin.choices, List.forall_mem_cons] at listed
  obtain ⟨alignments, valignments, lineStyles, markers, -⟩ := listed
  cases h with
  | text s => exact absurd rfl notText
  | boolean b => exact .boolean b
  | integer n => exact .integer n
  | float finite => exact .float finite
  | range first second => exact .range first second
  | partialRange first second => exact .partialRange first second
  | alignment named => exact .symbol alignments named
  | valignment named => exact .symbol valignments named
  | lineStyle named => exact .symbol lineStyles named
  | marker named => exact .symbol markers named
  | color inside =>
      refine .color fun x member => ?_
      exact Binary64.isShare_of_inUnitInterval (List.all_eq_true.1 inside x member)
  | dimension finite unit =>
      refine .dimension finite ?_
      cases unit <;> decide
  | point finite => exact .point finite
  | @alignedPoint x y vertical horizontal finite vertically horizontally =>
      have across : ∀ h ∈ ['l', 'c', 'r'],
          Coder.horizontalName h ∈ ["left", "center", "right"] := by
        simp [Coder.horizontalName]
      have upright : ∀ v ∈ ['t', 'c', 'b'],
          Coder.verticalName v ∈ ["top", "center", "bottom"] := by
        simp [Coder.verticalName]
      exact .alignedPoint finite (across _ horizontally) (upright _ vertically)
  | box finite => exact .box finite
  | margins finite => exact .margins finite

/-- A transformation is one that the coder reads, or the one that has a name. -/
theorem WellFormed.of_bijection (read : Registry.standard.coerce "bijection" text = .ok v) :
    WellFormed text "bijection" v := by
  rw [Builtin.coerce_bijection] at read
  split at read
  · obtain rfl := Except.ok.inj read
    have named : Coder.IsExpression "x".toList := ⟨by decide, by decide⟩
    refine .bijection named fun b member => ?_
    obtain rfl := Option.some.inj member
    exact named
  · obtain ⟨forward, backward, rfl, first, -, second⟩ :=
      Coder.exists_of_bijection (mapError_eq_ok_iff.1 read)
    exact .bijection first second

theorem wellFormed_of_coerce (read : Registry.standard.coerce tag text = .ok v) :
    WellFormed text tag v := by
  by_cases isText : tag = "text"
  · subst isText
    rw [Registry.coerce_text] at read
    obtain rfl := Except.ok.inj read
    exact .text
  by_cases isBijection : tag = "bijection"
  · subst isBijection
    exact .of_bijection read
  · exact .of_hasType (hasType_of_coerce isBijection read) isText

end Value

/-! ## Invocations -/

/-- The values of the arguments and of the options. -/
def Invocation.values (i : Invocation) : List Value :=
  i.arguments ++ i.options.entries.map (·.2)

/-- What is read under the built-in types is well-formed for its tag, and an invocation of any
command holds finite numbers only. -/
theorem coerced_values_are_wellFormed :
    (∀ (tag text : String) (v : Value), Registry.standard.coerce tag text = .ok v →
      v.WellFormed text tag) ∧
    ∀ (c : Command) (arguments : List String) (options : RawOptions) (i : Invocation),
      c.invocation Registry.standard arguments options = .ok i →
        ∀ v ∈ i.values, ∀ x ∈ v.numbers, x.isFinite = true := by
  refine ⟨fun _ _ _ => Value.wellFormed_of_coerce, ?_⟩
  intro c arguments options i read v member
  obtain ⟨-, positional, named⟩ := Command.exists_texts_of_invocation read
  rcases List.mem_append.1 member with isArgument | isOption
  · obtain ⟨p, text, coerced⟩ := exists_of_mem_right positional isArgument
    exact (Value.wellFormed_of_coerce coerced).isFinite
  · obtain ⟨o, inside, rfl⟩ := List.mem_map.1 isOption
    obtain ⟨tag, text, -, coerced⟩ := named o inside
    exact (Value.wellFormed_of_coerce coerced).isFinite

/-- The word for an infinity is a title like any other. -/
theorem coerced_values_of_title :
    let title := StandardCommands.caption "title" 't' "Sets the plot title."
    let pink := Coder.rgb 255 192 203
    let i : Invocation := ⟨"title", [.text "inf"], NameMap.ofList [("color", pink)]⟩
    Registry.standard.coerce "color" "Pink" = .ok pink ∧ pink.WellFormed "Pink" "color" ∧
      title.invocation Registry.standard ["inf"] (NameMap.ofList [("color", "Pink")]) = .ok i ∧
      ∀ v ∈ i.values, ∀ x ∈ v.numbers, x.isFinite = true := by
  intro title pink i
  have named : Registry.standard.coerce "color" "Pink" = .ok pink := by decide +kernel
  have read : title.invocation Registry.standard ["inf"] (NameMap.ofList [("color", "Pink")]) =
      .ok i := by decide +kernel
  exact ⟨named, coerced_values_are_wellFormed.1 _ _ _ named, read,
    coerced_values_are_wellFormed.2 _ _ _ _ read⟩

end PlotScript
