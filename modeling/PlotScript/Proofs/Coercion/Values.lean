import PlotScript.Coercion.Builtin
import PlotScript.Proofs.Coercion.Number
import PlotScript.Proofs.Tables

/-!
# The values of the built-in types

Which values each built-in type reads, and that each of them is read back from its
display form.
-/

namespace PlotScript

open Text Coercion

/-! ## Typing -/

/-- A bound of a range that is open or finite. -/
def IsBound (side : Option Binary64) : Prop :=
  ∀ x, side = some x → x.isFinite = true

theorem IsBound.some {x : Binary64} (finite : x.isFinite = true) : IsBound (some x) := by
  rintro y ⟨⟩
  exact finite

/-- The values that a built-in type reads, but for the axis transformations. -/
inductive Value.HasType : String → Value → Prop where
  | boolean (b : Bool) : HasType "boolean" (.bool b)
  | integer (n : Int64) : HasType "integer" (.integer n)
  | float {x : Binary64} (finite : x.isFinite = true) : HasType "float" (.float x)
  | text (s : String) : HasType "text" (.text s)
  | range {low high : Binary64} (first : low.isFinite = true) (second : high.isFinite = true) :
      HasType "range" (.range (some low) (some high))
  | partialRange {low high : Option Binary64} (first : IsBound low) (second : IsBound high) :
      HasType "partial-range" (.range low high)
  | alignment {s : String} (named : s ∈ ["left", "center", "right"]) :
      HasType "alignment" (.symbol s)
  | valignment {s : String} (named : s ∈ ["top", "center", "bottom"]) :
      HasType "valignment" (.symbol s)
  | lineStyle {s : String} (named : s ∈ ["solid", "dashes", "dots", "dash-dot", "none"]) :
      HasType "line-style" (.symbol s)
  | marker {s : String}
      (named : s ∈ ["circle", "square", "triangle", "cross", "plus", "none"]) :
      HasType "marker" (.symbol s)
  | color {r g b : Binary64} (inside : [r, g, b].all Binary64.inUnitInterval = true) :
      HasType "color" (.color r g b)
  | dimension {x : Binary64} (finite : x.isFinite = true) (unit : LengthUnit) :
      HasType "dimension" (.dimension x unit)
  | point {x y : Binary64} (finite : ∀ z ∈ [x, y], z.isFinite = true) :
      HasType "point" (.point x y)
  | alignedPoint {x y : Binary64} {v h : Char} (finite : ∀ z ∈ [x, y], z.isFinite = true)
      (vertical : v ∈ ['t', 'c', 'b']) (horizontal : h ∈ ['l', 'c', 'r']) :
      HasType "aligned-point" (.alignedPoint x y (Coder.horizontalName h) (Coder.verticalName v))
  | box {x1 y1 x2 y2 : Binary64} (finite : ∀ z ∈ [x1, y1, x2, y2], z.isFinite = true) :
      HasType "box" (.box x1 y1 x2 y2)
  | margins {l r t b : Binary64} (finite : ∀ z ∈ [l, r, t, b], z.isFinite = true) :
      HasType "margins" (.margins l r t b)

namespace TypeSpec

variable {spec : TypeSpec} {text : String} {v : Value}

/-- The values that a type reads without asking its coder. -/
def fixedValues (spec : TypeSpec) : List Value :=
  spec.shortcuts.map (·.2) ++ spec.patterns.map (·.2) ++ spec.constants.map (·.2)

theorem mem_fixedValues (asks : spec.passthrough text = false)
    (h : spec.fixed? text = some v) : v ∈ spec.fixedValues := by
  have found : ∀ {α : Type} {l : List (α × Value)} {p : α × Value → Bool},
      (l.find? p).map (·.2) = some v → v ∈ l.map (·.2) := by
    intro α l p found
    obtain ⟨entry, first, rfl⟩ := Option.map_eq_some_iff.1 found
    exact List.mem_map_of_mem (List.mem_of_find?_eq_some first)
  simp only [fixedValues, List.mem_append]
  rw [fixed?, asks, if_neg (by decide), Option.or_eq_some_iff, Option.or_eq_some_iff] at h
  rcases h with shortcut | ⟨-, pattern | ⟨-, constant⟩⟩
  · exact .inl (.inl (found shortcut))
  · exact .inl (.inr (found pattern))
  · refine .inr ?_
    have member := found constant
    rw [List.map_reverse, List.mem_reverse] at member
    exact member

/-- A value that a type reads is fixed or comes from the coder. -/
theorem mem_fixedValues_or_decode (asks : spec.passthrough text = false)
    (h : spec.coerce text = .ok v) : v ∈ spec.fixedValues ∨ spec.coder.decode text = .ok v := by
  unfold coerce at h
  split at h
  · rename_i w fixed
    exact .inl (Except.ok.inj h ▸ mem_fixedValues asks fixed)
  · exact .inr (mapError_eq_ok_iff.1 h)

/-- The coder decides what nothing else decides. -/
theorem coerce_of_decode (free : spec.fixed? text = none)
    (decoded : spec.coder.decode text = .ok v) : spec.coerce text = .ok v := by
  rw [coerce, free, decoded]
  rfl

/-- A type without fixed values leaves every text to its coder. -/
theorem coerce_by_coder {coder : Coder} (decoded : coder.decode text = .ok v)
    (isCoder : spec.coder = coder) (asks : spec.passthrough text = false)
    (noFixed : spec.shortcuts = [] ∧ spec.patterns = [] ∧ spec.constants = []) :
    spec.coerce text = .ok v := by
  subst isCoder
  refine coerce_of_decode ?_ decoded
  obtain ⟨noShortcuts, noPatterns, noConstants⟩ := noFixed
  rw [fixed?, asks, shortcut?, pattern?, constant?, noShortcuts, noPatterns, noConstants]
  rfl

end TypeSpec

/-! ## What is read has its type -/

namespace Coder

open Value (HasType)

variable {text : String} {v : Value}

theorem isBound_of_bound {isPartial : Bool} {side : List Char} {b : Option Binary64}
    (h : bound isPartial side = .ok b) : IsBound b ∧ (isPartial = false → b ≠ none) := by
  unfold bound at h
  split at h
  · split at h
    · rename_i isOpen
      obtain rfl := Except.ok.inj h
      constructor
      · rintro x ⟨⟩
      · rintro rfl
        cases isOpen
    · cases h
  · obtain ⟨x, read, rfl⟩ := exists_of_map_eq_ok h
    refine ⟨fun y same => ?_, fun _ none => by cases none⟩
    exact Option.some.inj same ▸ isFinite_of_readNumber read

theorem exists_of_range {isPartial : Bool} (h : (range isPartial).decode text = .ok v) :
    ∃ low high, v = .range low high ∧ IsBound low ∧ IsBound high ∧
      (isPartial = false → low ≠ none ∧ high ≠ none) := by
  unfold range at h
  simp only at h
  split at h
  · cases h
  · obtain ⟨low, readLow, h⟩ := exists_of_bind_eq_ok h
    obtain ⟨high, readHigh, h⟩ := exists_of_bind_eq_ok h
    obtain ⟨first, someLow⟩ := isBound_of_bound readLow
    obtain ⟨second, someHigh⟩ := isBound_of_bound readHigh
    exact ⟨low, high, (Except.ok.inj h).symm, first, second,
      fun closed => ⟨someLow closed, someHigh closed⟩⟩

theorem hasType_range (h : (range false).decode text = .ok v) : HasType "range" v := by
  obtain ⟨low, high, rfl, first, second, closed⟩ := exists_of_range h
  obtain ⟨someLow, someHigh⟩ := closed rfl
  obtain ⟨x, rfl⟩ := Option.ne_none_iff_exists'.1 someLow
  obtain ⟨y, rfl⟩ := Option.ne_none_iff_exists'.1 someHigh
  exact .range (first x rfl) (second y rfl)

theorem hasType_partialRange (h : (range true).decode text = .ok v) :
    HasType "partial-range" v := by
  obtain ⟨low, high, rfl, first, second, -⟩ := exists_of_range h
  exact .partialRange first second

theorem exists_of_choice {choices : List String} {caseSensitive : Bool}
    (h : (choice choices caseSensitive).decode text = .ok v) :
    ∃ s ∈ choices, v = .symbol s := by
  unfold choice at h
  simp only at h
  split at h
  · rename_i symbol found
    exact ⟨symbol, List.mem_of_find?_eq_some found, (Except.ok.inj h).symm⟩
  · cases h

/-! ### Colors -/

theorem inUnitInterval_channel {step : Nat} (h : step < 256) :
    (channel step).inUnitInterval = true := by
  have upToOne : Binary64.nearestRank step 255 ≤ Binary64.rankOfOne :=
    Binary64.nearestRank_le_rankOfOne (by decide) (by omega)
  have finite : Binary64.nearestRank step 255 < magnitudeCount :=
    Nat.lt_of_le_of_lt upToOne (by decide)
  rw [channel, Binary64.ofRatio, Binary64.ofRank, dif_pos finite]
  simp [Binary64.inUnitInterval, upToOne]

theorem hasType_rgb {r g b : Nat} (red : r < 256) (green : g < 256) (blue : b < 256) :
    HasType "color" (rgb r g b) := by
  refine .color ?_
  simp only [List.all_cons, List.all_nil, Bool.and_true, Bool.and_eq_true]
  exact ⟨inUnitInterval_channel red, inUnitInterval_channel green, inUnitInterval_channel blue⟩

theorem hexValue_lt {c : Char} (h : isHexDigit c = true) : hexValue c < 16 := by
  have ascii : c.toNat < 128 := by
    simp only [isHexDigit, Char.isDigit, Bool.or_eq_true, Bool.and_eq_true, decide_eq_true_eq] at h
    change ((_ ∧ c.toNat ≤ 57) ∨ _ ∧ c.toNat ≤ 102) ∨ _ ∧ c.toNat ≤ 70 at h
    omega
  have small : ∀ n : Fin 128, isHexDigit (Char.ofNat n) = true → hexValue (Char.ofNat n) < 16 := by
    decide +kernel
  have atCode := small ⟨c.toNat, ascii⟩
  rw [Char.ofNat_toNat] at atCode
  exact atCode h

theorem hasType_readHexColor {digits : List Char} (h : readHexColor digits = .ok v) :
    HasType "color" v := by
  unfold readHexColor at h
  split at h
  · rename_i hexadecimal
    have small : ∀ n ∈ digits.map hexValue, n < 16 := by
      intro n member
      obtain ⟨c, inside, rfl⟩ := List.mem_map.1 member
      exact hexValue_lt (List.all_eq_true.1 hexadecimal c inside)
    split at h
    · rename_i r g b values
      obtain rfl := Except.ok.inj h
      simp only [values, List.forall_mem_cons] at small
      obtain ⟨red, green, blue, -⟩ := small
      exact hasType_rgb (by omega) (by omega) (by omega)
    · rename_i r₁ r₂ g₁ g₂ b₁ b₂ values
      obtain rfl := Except.ok.inj h
      simp only [values, List.forall_mem_cons] at small
      obtain ⟨_, _, _, _, _, _, -⟩ := small
      exact hasType_rgb (by omega) (by omega) (by omega)
    · cases h
  · cases h

theorem hasType_color (h : color.decode text = .ok v) : HasType "color" v := by
  unfold color at h
  simp only at h
  split at h
  · exact hasType_readHexColor h
  · obtain ⟨xs, read, h⟩ := exists_of_bind_eq_ok h
    split at h
    · split at h
      · rename_i inside
        exact Except.ok.inj h ▸ .color inside
      · cases h
    · cases h

/-! ### Geometry -/

theorem hasType_dimension (h : dimension.decode text = .ok v) : HasType "dimension" v := by
  unfold dimension at h
  simp only at h
  split at h
  · cases h
  · obtain ⟨x, read, h⟩ := exists_of_bind_eq_ok h
    split at h
    · rename_i unit known
      exact Except.ok.inj h ▸ .dimension (isFinite_of_readNumber read) unit
    · cases h

theorem hasType_point (h : point.decode text = .ok v) : HasType "point" v := by
  obtain ⟨xs, read, h⟩ := exists_of_bind_eq_ok h
  split at h
  · exact Except.ok.inj h ▸ .point (isFinite_of_readNumbers read)
  · cases h

theorem letters_of_takeAlignment {s rest : List Char} {vertical horizontal : Char}
    (h : takeAlignment s = some (vertical, horizontal, rest)) :
    vertical ∈ ['t', 'c', 'b'] ∧ horizontal ∈ ['l', 'c', 'r'] := by
  unfold takeAlignment at h
  split at h
  · split at h
    · rename_i letters
      split at h
      · obtain ⟨rfl, rfl, -⟩ : _ ∧ _ ∧ _ := by simpa using h
        simpa using letters
      · cases h
    · cases h
  · cases h

theorem letters_of_alignedParts {s rest : List Char} {vertical horizontal : Char}
    (h : alignedParts s = some (vertical, horizontal, rest)) :
    vertical ∈ ['t', 'c', 'b'] ∧ horizontal ∈ ['l', 'c', 'r'] := by
  unfold alignedParts at h
  simp only [Option.or_eq_some_iff, Option.bind_eq_some_iff, Option.map_eq_some_iff] at h
  rcases h with ⟨⟨v, h, behind⟩, aligned, body, -, same⟩ | ⟨-, body, -, same⟩
  · obtain ⟨rfl, rfl, -⟩ : _ ∧ _ ∧ _ := by simpa using same
    exact letters_of_takeAlignment aligned
  · obtain ⟨rfl, rfl, -⟩ : _ ∧ _ ∧ _ := by simpa using same
    decide

theorem hasType_alignedPoint (h : alignedPoint.decode text = .ok v) :
    HasType "aligned-point" v := by
  unfold alignedPoint at h
  simp only at h
  split at h
  · cases h
  · rename_i vertical horizontal body parts
    obtain ⟨vertically, horizontally⟩ := letters_of_alignedParts parts
    obtain ⟨xs, read, h⟩ := exists_of_bind_eq_ok h
    split at h
    · exact Except.ok.inj h ▸
        .alignedPoint (isFinite_of_readNumbers read) vertically horizontally
    · cases h

theorem hasType_box (h : box.decode text = .ok v) : HasType "box" v := by
  obtain ⟨xs, read, h⟩ := exists_of_bind_eq_ok h
  split at h
  · exact Except.ok.inj h ▸ .box (isFinite_of_readNumbers read)
  · cases h

theorem hasType_margins (h : margins.decode text = .ok v) : HasType "margins" v := by
  obtain ⟨xs, read, h⟩ := exists_of_bind_eq_ok h
  have finite := isFinite_of_mapM read
  split at h
  · refine Except.ok.inj h ▸ .margins ?_
    simpa using finite
  · refine Except.ok.inj h ▸ .margins ?_
    simpa using finite
  · exact Except.ok.inj h ▸ .margins finite
  · cases h

end Coder

namespace Builtin

open Value (HasType)

variable {text : String} {v : Value}

/-- A type reads values of a kind if its fixed values and its coder do. -/
theorem hasType_of_coerce {spec : TypeSpec} {tag : String}
    (asks : spec.passthrough text = false) (fixed : ∀ w ∈ spec.fixedValues, HasType tag w)
    (decodes : spec.coder.decode text = .ok v → HasType tag v)
    (h : spec.coerce text = .ok v) : HasType tag v := by
  rcases TypeSpec.mem_fixedValues_or_decode asks h with member | decoded
  · exact fixed v member
  · exact decodes decoded

theorem hasType_boolean (h : boolean.coerce text = .ok v) : HasType "boolean" v := by
  refine hasType_of_coerce rfl (by rintro w ⟨⟩) (fun decoded => ?_) h
  exact Except.ok.inj decoded ▸ .boolean _

theorem hasType_integer (h : integer.coerce text = .ok v) : HasType "integer" v := by
  refine hasType_of_coerce rfl (by rintro w ⟨⟩) (fun decoded => ?_) h
  change Coder.integer.decode text = .ok v at decoded
  unfold Coder.integer at decoded
  simp only at decoded
  split at decoded
  · exact Except.ok.inj decoded ▸ .integer _
  · cases decoded

theorem hasType_float (h : float.coerce text = .ok v) : HasType "float" v := by
  refine hasType_of_coerce rfl (by rintro w ⟨⟩) (fun decoded => ?_) h
  obtain ⟨x, read, rfl⟩ := exists_of_map_eq_ok decoded
  exact .float (isFinite_of_readNumber read)

theorem hasType_text (h : Builtin.text.coerce text = .ok v) : HasType "text" v :=
  Except.ok.inj h ▸ .text _

theorem hasType_partialRange (h : partialRange.coerce text = .ok v) :
    HasType "partial-range" v := by
  refine hasType_of_coerce rfl (fun w member => ?_) Coder.hasType_partialRange h
  obtain rfl : w = .range none none := by
    simpa [TypeSpec.fixedValues, partialRange] using member
  exact .partialRange (by rintro x ⟨⟩) (by rintro x ⟨⟩)

theorem hasType_alignment (h : alignment.coerce text = .ok v) : HasType "alignment" v := by
  refine hasType_of_coerce rfl (fun w member => ?_) (fun decoded => ?_) h
  · obtain ⟨s, named, rfl⟩ : ∃ s ∈ ["left", "center", "right"], w = .symbol s := by
      simpa [TypeSpec.fixedValues, alignment] using member
    exact .alignment named
  · obtain ⟨s, named, rfl⟩ := Coder.exists_of_choice decoded
    exact .alignment named

theorem hasType_valignment (h : valignment.coerce text = .ok v) : HasType "valignment" v := by
  refine hasType_of_coerce rfl (fun w member => ?_) (fun decoded => ?_) h
  · obtain ⟨s, named, rfl⟩ : ∃ s ∈ ["top", "center", "bottom"], w = .symbol s := by
      simpa [TypeSpec.fixedValues, valignment] using member
    exact .valignment named
  · obtain ⟨s, named, rfl⟩ := Coder.exists_of_choice decoded
    exact .valignment named

theorem hasType_lineStyle (h : lineStyle.coerce text = .ok v) : HasType "line-style" v := by
  refine hasType_of_coerce rfl (fun w member => ?_) (fun decoded => ?_) h
  · obtain ⟨s, named, rfl⟩ : ∃ s ∈ ["solid", "dashes", "dots", "dash-dot"], w = .symbol s := by
      simpa [TypeSpec.fixedValues, lineStyle] using member
    exact .lineStyle (List.mem_append_left ["none"] named)
  · obtain ⟨s, named, rfl⟩ := Coder.exists_of_choice decoded
    exact .lineStyle named

theorem hasType_marker (h : marker.coerce text = .ok v) : HasType "marker" v := by
  refine hasType_of_coerce rfl (fun w member => ?_) (fun decoded => ?_) h
  · obtain rfl : w = .symbol "none" := by
      simpa [TypeSpec.fixedValues, marker] using member
    exact .marker (by decide)
  · obtain ⟨s, named, rfl⟩ := Coder.exists_of_choice decoded
    exact .marker named

theorem hasType_namedColors : ∀ c ∈ namedColors, HasType "color" c.2 := by
  unfold namedColors
  simp only [List.forall_mem_cons, List.not_mem_nil, false_implies, implies_true, and_true]
  refine ⟨?_, ?_, ?_, ?_, ?_, ?_, ?_, ?_, ?_, ?_, ?_, ?_, ?_, ?_, ?_, ?_⟩
  all_goals exact Coder.hasType_rgb (by decide) (by decide) (by decide)

theorem hasType_color (h : color.coerce text = .ok v) : HasType "color" v := by
  refine hasType_of_coerce rfl (fun w member => ?_) Coder.hasType_color h
  obtain ⟨c, named, rfl⟩ : ∃ c ∈ namedColors, c.2 = w := by
    simpa [TypeSpec.fixedValues, color] using member
  exact hasType_namedColors c named

end Builtin

theorem Registry.coerce_text (text : String) :
    standard.coerce "text" text = .ok (.text text) := by
  have member : Builtin.text ∈ standard.specs := by simp [standard, Builtin.all]
  exact coerce_of_mem member text

/-- Every value that a type of the standard registry reads has that type. -/
theorem Value.hasType_of_coerce {tag text : String} {v : Value} (known : tag ≠ "bijection")
    (h : Registry.standard.coerce tag text = .ok v) : Value.HasType tag v := by
  unfold Registry.coerce at h
  split at h
  · rename_i spec found
    -- the tag names one of the built-in types, and each has a lemma of its own
    have member : spec ∈ Builtin.all := List.mem_of_find?_eq_some found
    obtain rfl : spec.tag = tag := by simpa using List.find?_some found
    simp only [Builtin.all, List.mem_cons, List.not_mem_nil, or_false] at member
    rcases member with rfl | rfl | rfl | rfl | rfl | rfl | rfl | rfl | rfl | rfl | rfl | rfl |
      rfl | rfl | rfl | rfl | rfl
    · exact Builtin.hasType_boolean h
    · exact Builtin.hasType_integer h
    · exact Builtin.hasType_float h
    · exact Builtin.hasType_text h
    · exact Builtin.hasType_of_coerce rfl (by rintro w ⟨⟩) Coder.hasType_range h
    · exact Builtin.hasType_partialRange h
    · exact Builtin.hasType_alignment h
    · exact Builtin.hasType_valignment h
    · exact Builtin.hasType_lineStyle h
    · exact Builtin.hasType_marker h
    · exact Builtin.hasType_color h
    · exact Builtin.hasType_of_coerce rfl (by rintro w ⟨⟩) Coder.hasType_dimension h
    · exact Builtin.hasType_of_coerce rfl (by rintro w ⟨⟩) Coder.hasType_point h
    · exact Builtin.hasType_of_coerce rfl (by rintro w ⟨⟩) Coder.hasType_alignedPoint h
    · exact Builtin.hasType_of_coerce rfl (by rintro w ⟨⟩) Coder.hasType_box h
    · exact Builtin.hasType_of_coerce rfl (by rintro w ⟨⟩) Coder.hasType_margins h
    · exact absurd rfl known
  · cases h

end PlotScript
