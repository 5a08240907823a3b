import PlotScript.Proofs.Coercion.Values
import PlotScript.Proofs.Tables

/-!
# Reading back what is displayed

Every value of a built-in type is read back from its display form.
-/

namespace PlotScript

open Text Coercion
open Value (HasType)
open TypeSpec (coerce_of_decode coerce_by_coder)

/-! ## Lists of numbers -/

section PlainList

variable {x y : Binary64} {xs : List Binary64}

theorem toList_plainList_cons (x y : Binary64) (xs : List Binary64) :
    (Value.plainList (x :: y :: xs)).toList =
      x.plain.toList ++ ',' :: (Value.plainList (y :: xs)).toList := by
  simp [Value.plainList, List.intercalate]

theorem isBare_plain (finite : x.isFinite = true) : IsBare x.plain.toList :=
  fun _ member => (Binary64.isPlain_plain finite).isBareChar member

theorem isBare_plainList (finite : ∀ x ∈ xs, x.isFinite = true) :
    IsBare (Value.plainList xs).toList := by
  induction xs with
  | nil => rintro c ⟨⟩
  | cons x xs ih =>
      obtain ⟨first, others⟩ := List.forall_mem_cons.1 finite
      cases xs with
      | nil => simpa [Value.plainList] using isBare_plain first
      | cons y xs =>
          intro c member
          rw [toList_plainList_cons, List.mem_append, List.mem_cons] at member
          rcases member with member | rfl | member
          · exact isBare_plain first c member
          · decide
          · exact ih others c member

/-- A list of numbers begins with a digit or with a minus. -/
theorem exists_plainList_cons (finite : x.isFinite = true) (xs : List Binary64) :
    ∃ c rest, (Value.plainList (x :: xs)).toList = c :: rest ∧ (c.isDigit = true ∨ c = '-') := by
  obtain ⟨c, rest, written, first⟩ := (Binary64.isPlain_plain finite).exists_cons
  cases xs with
  | nil => exact ⟨c, rest, by simp [Value.plainList, written], first⟩
  | cons y xs =>
      rw [toList_plainList_cons, written]
      exact ⟨c, _, rfl, first⟩

theorem colon_not_mem_plainList (finite : ∀ x ∈ xs, x.isFinite = true) :
    ':' ∉ (Value.plainList xs).toList := by
  induction xs with
  | nil => rintro ⟨⟩
  | cons x xs ih =>
      obtain ⟨first, others⟩ := List.forall_mem_cons.1 finite
      cases xs with
      | nil => simpa [Value.plainList] using not_mem_plain first (c := ':') (by decide)
      | cons y xs =>
          rw [toList_plainList_cons, List.mem_append, List.mem_cons]
          rintro (member | same | member)
          · exact not_mem_plain first (by decide) member
          · cases same
          · exact ih others member

end PlainList

/-! ## Ranges -/

namespace Coercion

theorem cutAtColon_append {low : List Char} (plain : ∀ c ∈ low, c ≠ ':' ∧ c ≠ '\\')
    (high : List Char) : cutAtColon false (low ++ ':' :: high) = some (low, high) := by
  induction low with
  | nil => rfl
  | cons c low ih =>
      obtain ⟨⟨notColon, notBackslash⟩, others⟩ := List.forall_mem_cons.1 plain
      rw [List.cons_append, cutAtColon, if_neg (fun h => notBackslash h.1),
        if_neg (fun h => notColon h.1), ih others]
      rfl

end Coercion

namespace Coder

/-- The side of a range has no colon and no backslash in it. -/
theorem plain_of_mem_plainBound {side : Option Binary64} (h : IsBound side) {c : Char}
    (member : c ∈ (Value.plainBound side).toList) : c ≠ ':' ∧ c ≠ '\\' := by
  cases side with
  | none => cases member
  | some x =>
      constructor
      · rintro rfl
        exact not_mem_plain (h x rfl) (by decide) member
      · rintro rfl
        exact not_mem_plain (h x rfl) (by decide) member

theorem bound_plainBound {isPartial : Bool} {side : Option Binary64} (h : IsBound side)
    (closed : isPartial = false → side ≠ none) :
    bound isPartial (Value.plainBound side).toList = .ok side := by
  cases side with
  | none =>
      cases isPartial with
      | true => rfl
      | false => exact absurd rfl (closed rfl)
  | some x =>
      have finite := h x rfl
      obtain ⟨c, rest, written, -⟩ := (Binary64.isPlain_plain finite).exists_cons
      have notEmpty : (trim x.plain.toList).isEmpty = false := by
        rw [(isBare_plain finite).tight.trim, written]
        rfl
      rw [Value.plainBound, bound, notEmpty, if_neg (by decide), readNumber_plain finite]
      rfl

theorem decode_range {isPartial : Bool} {low high : Option Binary64} (first : IsBound low)
    (second : IsBound high) (closed : isPartial = false → low ≠ none ∧ high ≠ none) :
    (range isPartial).decode (Value.range low high).display = .ok (.range low high) := by
  have split : splitColon (Value.range low high).display.toList =
      some ((Value.plainBound low).toList, (Value.plainBound high).toList) := by
    have written : (Value.range low high).display.toList =
        (Value.plainBound low).toList ++ ':' :: (Value.plainBound high).toList := by
      simp [Value.display]
    have lowKept : unescapeColons (Value.plainBound low).toList = (Value.plainBound low).toList :=
      replacePair_of_not_mem fun member => (plain_of_mem_plainBound first member).2 rfl
    have highKept :
        unescapeColons (Value.plainBound high).toList = (Value.plainBound high).toList :=
      replacePair_of_not_mem fun member => (plain_of_mem_plainBound second member).2 rfl
    rw [splitColon, written,
      cutAtColon_append (fun c member => plain_of_mem_plainBound first member), Option.map_some]
    simp only [lowKept, highKept]
  simp only [range, split, bound_plainBound first fun h => (closed h).1,
    bound_plainBound second fun h => (closed h).2]
  rfl

/-! ## Whole numbers -/

theorem readInt64?_writeInt (n : Int64) : readInt64? (writeInt n.toInt).toList = some n := by
  have digits : ∀ c ∈ Nat.toDigits 10 n.toInt.natAbs, c.isDigit = true :=
    fun c member => Decimal.isDigit_of_mem_toDigits member
  have signOff : Binary64.takeSign (writeInt n.toInt).toList =
      (decide (n.toInt < 0), Nat.toDigits 10 n.toInt.natAbs) := by
    rw [writeInt, String.toList_ofList]
    exact Binary64.takeSign_signed _ (.whole Nat.toDigits_ne_nil digits)
  have value : (if decide (n.toInt < 0) = true then -(n.toInt.natAbs : Int)
      else (n.toInt.natAbs : Int)) = n.toInt := by
    split
    · rename_i negative
      have := of_decide_eq_true negative
      omega
    · rename_i nonneg
      have : ¬ n.toInt < 0 := fun h => nonneg (decide_eq_true h)
      omega
  have low := n.le_toInt
  have high := n.toInt_lt
  unfold readInt64?
  rw [signOff]
  simp only
  rw [if_pos ⟨Nat.toDigits_ne_nil, List.all_eq_true.2 digits⟩, Decimal.natFrom_toDigits, value,
    if_pos ⟨low, high⟩, Int64.ofInt_toInt]

theorem isBare_writeInt (n : Int) : IsBare (writeInt n).toList := by
  have plain : IsPlain (signed (n < 0) (Nat.toDigits 10 n.natAbs)) :=
    ⟨_, _, .whole Nat.toDigits_ne_nil fun c member => Decimal.isDigit_of_mem_toDigits member, rfl⟩
  rw [writeInt, String.toList_ofList]
  exact fun c member => plain.isBareChar member

theorem decode_integer (n : Int64) :
    integer.decode (Value.integer n).display = .ok (.integer n) := by
  have bare : IsBare (writeInt n.toInt).toList := isBare_writeInt n.toInt
  simp only [integer, Value.display, bare.tight.trim, readInt64?_writeInt]

theorem decode_float {x : Binary64} (finite : x.isFinite = true) :
    float.decode (Value.float x).display = .ok (.float x) := by
  simp only [float, Value.display, readNumber_plain finite]
  rfl

/-! ## Dimensions -/

theorem isDecimalDigit_of_isDigit {c : Char} (digit : c.isDigit = true) :
    isDecimalDigit c = true := by
  have ascii : c.toNat < 0x80 := by
    simp only [Char.isDigit, Bool.and_eq_true, decide_eq_true_eq] at digit
    change _ ∧ c.toNat ≤ 57 at digit
    omega
  rw [isDecimalDigit, if_pos ascii, digit]

theorem span_digits {digits tail : List Char} (h : ∀ c ∈ digits, c.isDigit = true)
    (stops : ∀ c, tail.head? = some c → isDecimalDigit c = false) :
    (digits ++ tail).takeWhile isDecimalDigit = digits ∧
      (digits ++ tail).dropWhile isDecimalDigit = tail := by
  have decimal : ∀ c ∈ digits, isDecimalDigit c = true := fun c member =>
    isDecimalDigit_of_isDigit (h c member)
  rw [List.takeWhile_append_of_pos decimal, List.dropWhile_append_of_pos decimal]
  cases tail with
  | nil => simp
  | cons c rest => simp [stops c rfl]

/-- A sign in front of a digit does not change how far the number goes. -/
theorem takeNumber_minus {c : Char} (digit : c.isDigit = true) (rest : List Char) :
    takeNumber ('-' :: c :: rest) =
      (takeNumber (c :: rest)).map fun p => ('-' :: p.1, p.2) := by
  have notPlus : c ≠ '+' := by
    rintro rfl
    exact absurd digit (by decide)
  have notMinus : c ≠ '-' := by
    rintro rfl
    exact absurd digit (by decide)
  simp [takeNumber, notPlus, notMinus, isDecimalDigit_of_isDigit digit]

theorem takeNumber_unsigned {body suffix : List Char} (h : IsPositional body)
    (stops : ∀ c, suffix.head? = some c → isDecimalDigit c = false)
    (noPoint : ∀ rest, suffix ≠ '.' :: rest)
    (noExponent : takeNumber.takeExponent suffix = ([], suffix)) :
    takeNumber (body ++ suffix) = some (body, suffix) := by
  have unsigned : ∀ sign rest, sign.isDigit = false → body ++ suffix ≠ sign :: rest := by
    intro sign rest notDigit same
    obtain ⟨c, others, rfl, digit⟩ := h.exists_cons
    rw [(List.cons.inj same).1, notDigit] at digit
    cases digit
  have noPlus := fun rest => unsigned '+' rest (by decide)
  have noMinus := fun rest => unsigned '-' rest (by decide)
  cases h with
  | whole nonempty digits =>
      obtain ⟨taken, left⟩ := span_digits digits stops
      simp [takeNumber, taken, left, noExponent, nonempty]
  | @pointed whole fraction nonempty digits more decimals =>
      have pointStops : ∀ c, ('.' :: (fraction ++ suffix)).head? = some c →
          isDecimalDigit c = false := by
        rintro c ⟨⟩
        decide
      obtain ⟨taken, left⟩ := span_digits digits pointStops
      obtain ⟨takenBehind, leftBehind⟩ := span_digits decimals stops
      rw [List.append_assoc, List.cons_append] at noPlus noMinus ⊢
      simp [takeNumber, taken, left, takenBehind, leftBehind, noExponent, nonempty]

/-- Behind a number no unit is taken for more of it. -/
theorem takeNumber_append {number : List Char} (h : IsPlain number) (unit : LengthUnit) :
    takeNumber (number ++ unit.suffix.toList) = some (number, unit.suffix.toList) := by
  have stops : ∀ c, unit.suffix.toList.head? = some c → isDecimalDigit c = false := by
    cases unit <;> rintro c ⟨⟩ <;> decide
  have noPoint : ∀ rest, unit.suffix.toList ≠ '.' :: rest := by
    cases unit <;> rintro rest ⟨⟩
  have noExponent : takeNumber.takeExponent unit.suffix.toList = ([], unit.suffix.toList) := by
    cases unit <;> rfl
  obtain ⟨negative, body, positional, rfl⟩ := h
  have unsigned := takeNumber_unsigned positional stops noPoint noExponent
  cases negative with
  | false => exact unsigned
  | true =>
      obtain ⟨c, rest, rfl, digit⟩ := positional.exists_cons
      have signedOff := takeNumber_minus digit (rest ++ unit.suffix.toList)
      rw [← List.cons_append, unsigned] at signedOff
      exact signedOff

theorem dimensionParts_display {x : Binary64} (finite : x.isFinite = true) (unit : LengthUnit) :
    dimensionParts (Value.dimension x unit).display.toList =
      some (x.plain.toList, unit.suffix.toList) := by
  have plain := Binary64.isPlain_plain finite
  obtain ⟨c, rest, written, first⟩ := plain.exists_cons
  have notBlank : isBlank c = false := by
    refine isBlank_of_isBareChar (plain.isBareChar (c := c) ?_)
    rw [written]
    exact List.mem_cons_self
  have kept : trimStart (x.plain.toList ++ unit.suffix.toList) =
      x.plain.toList ++ unit.suffix.toList := by
    rw [written]
    exact List.dropWhile_cons_of_neg (by simp [notBlank])
  have suffixKept : trimStart unit.suffix.toList = unit.suffix.toList := by
    cases unit <;> decide
  have letters : unit.suffix.toList.takeWhile isUnitLetter = unit.suffix.toList := by
    cases unit <;> decide
  have nothing : (trimStart (unit.suffix.toList.dropWhile isUnitLetter)).isEmpty = true := by
    cases unit <;> decide
  rw [Value.display, String.toList_append, dimensionParts, kept, takeNumber_append plain,
    Option.bind_some]
  simp only [suffixKept, nothing, letters, if_true]

theorem decode_dimension {x : Binary64} (finite : x.isFinite = true) (unit : LengthUnit) :
    dimension.decode (Value.dimension x unit).display = .ok (.dimension x unit) := by
  simp only [dimension, dimensionParts_display finite]
  rw [readNumber_plain finite, String.ofList_toList, LengthUnit.ofSuffix?_suffix]
  rfl

/-! ## Points, boxes and margins -/

theorem decode_point {x y : Binary64} (finite : ∀ z ∈ [x, y], z.isFinite = true) :
    point.decode (Value.point x y).display = .ok (.point x y) := by
  have read := readNumbers_plainList finite (List.cons_ne_nil x [y])
  simp only [point, Value.display]
  rw [show 2 = [x, y].length from rfl, read]
  rfl

theorem decode_box {x1 y1 x2 y2 : Binary64} (finite : ∀ z ∈ [x1, y1, x2, y2], z.isFinite = true) :
    box.decode (Value.box x1 y1 x2 y2).display = .ok (.box x1 y1 x2 y2) := by
  have read := readNumbers_plainList finite (List.cons_ne_nil x1 [y1, x2, y2])
  simp only [box, Value.display]
  rw [replaceFirst_of_not_mem (colon_not_mem_plainList finite),
    show 4 = [x1, y1, x2, y2].length from rfl, read]
  rfl

theorem decode_margins {l r t b : Binary64} (finite : ∀ z ∈ [l, r, t, b], z.isFinite = true) :
    margins.decode (Value.margins l r t b).display = .ok (.margins l r t b) := by
  simp only [margins, Value.display]
  rw [mapM_readNumber_plainList finite (List.cons_ne_nil l [r, t, b])]
  rfl

/-- The letters of an alignment are taken off a text. -/
theorem takeAlignment_cons {v h : Char} (vertical : v ∈ ['t', 'c', 'b'])
    (horizontal : h ∈ ['l', 'c', 'r']) (rest : List Char) :
    takeAlignment (v :: h :: ':' :: rest) = some (v, h, rest) := by
  simp only [List.mem_cons, List.not_mem_nil, or_false] at vertical horizontal
  rcases vertical with rfl | rfl | rfl <;> rcases horizontal with rfl | rfl | rfl <;> rfl

theorem coordinates?_of_isBare {s : List Char} (bare : IsBare s) (nonempty : s ≠ []) :
    coordinates? s = some s := by
  obtain ⟨c, rest, rfl⟩ := List.exists_cons_of_ne_nil nonempty
  have noNewline : '\n' ∉ c :: rest := by
    intro member
    have := bare _ member
    revert this
    decide
  rw [coordinates?, bare.tight.trimStart]
  simp only
  rw [if_neg]
  simpa using noNewline

theorem toList_alignedPoint (x y : Binary64) {v h : Char} (vertical : v ∈ ['t', 'c', 'b'])
    (horizontal : h ∈ ['l', 'c', 'r']) :
    (Value.alignedPoint x y (horizontalName h) (verticalName v)).display.toList =
      v :: h :: ':' :: (Value.plainList [x, y]).toList := by
  have letters : Value.alignmentLetter (verticalName v) = v ∧
      Value.alignmentLetter (horizontalName h) = h := by
    simp only [List.mem_cons, List.not_mem_nil, or_false] at vertical horizontal
    constructor
    · rcases vertical with rfl | rfl | rfl <;> decide
    · rcases horizontal with rfl | rfl | rfl <;> decide
  simp [Value.display, letters.1, letters.2]

theorem decode_alignedPoint {x y : Binary64} {v h : Char}
    (finite : ∀ z ∈ [x, y], z.isFinite = true) (vertical : v ∈ ['t', 'c', 'b'])
    (horizontal : h ∈ ['l', 'c', 'r']) :
    alignedPoint.decode (Value.alignedPoint x y (horizontalName h) (verticalName v)).display =
      .ok (.alignedPoint x y (horizontalName h) (verticalName v)) := by
  have written := toList_alignedPoint x y vertical horizontal
  obtain ⟨c, rest, begins, -⟩ := exists_plainList_cons (finite x List.mem_cons_self) [y]
  have coordinates := coordinates?_of_isBare (isBare_plainList finite)
    (by rw [begins]; exact List.cons_ne_nil c rest)
  have parts : alignedParts (v :: h :: ':' :: (Value.plainList [x, y]).toList) =
      some (v, h, (Value.plainList [x, y]).toList) := by
    rw [alignedParts, takeAlignment_cons vertical horizontal, Option.bind_some]
    simp only [coordinates]
    rfl
  have read := readNumbers_plainList finite (List.cons_ne_nil x [y])
  simp only [alignedPoint, written, parts]
  rw [show 2 = [x, y].length from rfl, read]
  rfl

/-! ## Colors -/

theorem isFinite_of_inUnitInterval {x : Binary64} (h : x.inUnitInterval = true) :
    x.isFinite = true := by
  cases x with
  | finite negative rank => rfl
  | nan => cases h
  | infinite negative => cases h

theorem decode_color {r g b : Binary64} (inside : [r, g, b].all Binary64.inUnitInterval = true) :
    color.decode (Value.color r g b).display = .ok (.color r g b) := by
  have finite : ∀ z ∈ [r, g, b], z.isFinite = true := fun z member =>
    isFinite_of_inUnitInterval (List.all_eq_true.1 inside z member)
  have read := readNumbers_plainList finite (List.cons_ne_nil r [g, b])
  obtain ⟨c, rest, written, first⟩ := exists_plainList_cons (finite r List.mem_cons_self) [g, b]
  have kept := (isBare_plainList finite).tight.trim
  simp only [color, Value.display]
  rw [kept]
  split
  · rename_i hash
    rw [written] at hash
    rw [(List.cons.inj hash).1] at first
    exact absurd first (by decide)
  · rw [show 3 = [r, g, b].length from rfl, read]
    simp only [bind, Except.bind, inside, if_true]
    rfl

end Coder

/-! ## All types -/

namespace Builtin

theorem comma_mem_toLowerFrom {s : List Char} (h : ',' ∈ s) (before : List Char) :
    ',' ∈ toLowerFrom before s := by
  induction s generalizing before with
  | nil => cases h
  | cons c rest ih =>
      rw [toLowerFrom, List.mem_append]
      rcases List.mem_cons.1 h with rfl | later
      · exact .inl List.mem_cons_self
      · exact .inr (ih later _)

/-- A list of numbers is no name of a color. -/
theorem constant?_plainList (r g b : Binary64) :
    color.constant? (Value.plainList [r, g, b]) = none := by
  have comma : ',' ∈ toLower (Value.plainList [r, g, b]).toList := by
    refine comma_mem_toLowerFrom ?_ []
    rw [toList_plainList_cons]
    exact List.mem_append_right _ List.mem_cons_self
  -- a list of numbers has a comma in it, and the name of a color has none
  have noComma : ∀ c ∈ namedColors, ',' ∉ toLower c.1.toList := by
    decide +kernel
  rw [TypeSpec.constant?, Option.map_eq_none_iff, List.find?_eq_none]
  intro c member same
  rw [List.mem_reverse] at member
  exact noComma c member (beq_iff_eq.1 same ▸ comma)

theorem isBare_range {low high : Option Binary64} (first : IsBound low) (second : IsBound high) :
    IsBare (Value.range low high).display.toList := by
  have side : ∀ {b : Option Binary64}, IsBound b → IsBare (Value.plainBound b).toList := by
    intro b finite
    cases b with
    | none => rintro c ⟨⟩
    | some x => exact isBare_plain (finite x rfl)
  intro c member
  have written : (Value.range low high).display.toList =
      (Value.plainBound low).toList ++ ':' :: (Value.plainBound high).toList := by
    simp [Value.display]
  rw [written, List.mem_append, List.mem_cons] at member
  rcases member with member | rfl | member
  · exact side first c member
  · decide
  · exact side second c member

/-- A range is not the word for the open one. -/
theorem isAuto_range {low high : Option Binary64} (first : IsBound low) (second : IsBound high) :
    isAuto (Value.range low high).display = false := by
  have colon : ':' ∈ (Value.range low high).display.toList := by
    simp [Value.display]
  have notEmpty : (Value.range low high).display.toList.isEmpty = false := by
    cases written : (Value.range low high).display.toList with
    | nil =>
        rw [written] at colon
        cases colon
    | cons c rest => rfl
  have notWord : eqFolded (Value.range low high).display.toList "auto".toList = false := by
    refine Bool.eq_false_iff.2 fun same => ?_
    have folded := List.mem_map_of_mem (f := foldCase) colon
    rw [beq_iff_eq.1 same] at folded
    exact absurd folded (by decide)
  rw [isAuto, (isBare_range first second).tight.trim]
  simp only [notEmpty, notWord, Bool.or_self]

theorem coerce_partialRange {low high : Option Binary64} (first : IsBound low)
    (second : IsBound high) :
    partialRange.coerce (Value.range low high).display = .ok (.range low high) := by
  refine coerce_of_decode ?_ (Coder.decode_range first second (by rintro ⟨⟩))
  have noPattern : partialRange.pattern? (Value.range low high).display = none := by
    simp [TypeSpec.pattern?, partialRange, isAuto_range first second]
  rw [TypeSpec.fixed?, noPattern]
  rfl

theorem coerce_color {r g b : Binary64} (inside : [r, g, b].all Binary64.inUnitInterval = true) :
    color.coerce (Value.color r g b).display = .ok (.color r g b) := by
  refine coerce_of_decode ?_ (Coder.decode_color inside)
  rw [TypeSpec.fixed?, Value.display, constant?_plainList]
  rfl

end Builtin

/-- Every value of a built-in type is read back from its display form. -/
theorem coerce_display {tag : String} {v : Value} (h : HasType tag v) :
    Registry.standard.coerce tag v.display = .ok v := by
  have reads : ∀ spec ∈ Builtin.all, spec.coerce v.display = .ok v →
      Registry.standard.coerce spec.tag v.display = .ok v := fun spec member read =>
    (Registry.coerce_of_mem member _).trans read
  simp only [Builtin.all, List.forall_mem_cons] at reads
  obtain ⟨boolean, integer, float, text, range, partialRange, alignment, valignment, lineStyle,
    marker, color, dimension, point, alignedPoint, box, margins, -⟩ := reads
  cases h with
  | boolean b => exact boolean (by cases b <;> rfl)
  | integer n => exact integer (coerce_by_coder (Coder.decode_integer n) rfl rfl ⟨rfl, rfl, rfl⟩)
  | float finite =>
      exact float (coerce_by_coder (Coder.decode_float finite) rfl rfl ⟨rfl, rfl, rfl⟩)
  | text s => exact text rfl
  | range first second =>
      have closed := Coder.decode_range (.some first) (.some second)
        fun _ : false = false => ⟨Option.some_ne_none _, Option.some_ne_none _⟩
      exact range (coerce_by_coder closed rfl rfl ⟨rfl, rfl, rfl⟩)
  | partialRange first second => exact partialRange (Builtin.coerce_partialRange first second)
  | alignment named =>
      simp only [List.mem_cons, List.not_mem_nil, or_false] at named
      rcases named with rfl | rfl | rfl <;> exact alignment rfl
  | valignment named =>
      simp only [List.mem_cons, List.not_mem_nil, or_false] at named
      rcases named with rfl | rfl | rfl <;> exact valignment rfl
  | lineStyle named =>
      simp only [List.mem_cons, List.not_mem_nil, or_false] at named
      rcases named with rfl | rfl | rfl | rfl | rfl <;> exact lineStyle rfl
  | marker named =>
      simp only [List.mem_cons, List.not_mem_nil, or_false] at named
      rcases named with rfl | rfl | rfl | rfl | rfl | rfl <;> exact marker rfl
  | color inside => exact color (Builtin.coerce_color inside)
  | dimension finite unit =>
      exact dimension (coerce_by_coder (Coder.decode_dimension finite unit) rfl rfl
        ⟨rfl, rfl, rfl⟩)
  | point finite =>
      exact point (coerce_by_coder (Coder.decode_point finite) rfl rfl ⟨rfl, rfl, rfl⟩)
  | alignedPoint finite vertical horizontal =>
      exact alignedPoint (coerce_by_coder
        (Coder.decode_alignedPoint finite vertical horizontal) rfl rfl ⟨rfl, rfl, rfl⟩)
  | box finite => exact box (coerce_by_coder (Coder.decode_box finite) rfl rfl ⟨rfl, rfl, rfl⟩)
  | margins finite =>
      exact margins (coerce_by_coder (Coder.decode_margins finite) rfl rfl ⟨rfl, rfl, rfl⟩)

/-- But for texts, values are displayed in bare characters. -/
theorem isBare_display {tag : String} {v : Value} (h : HasType tag v) (notText : tag ≠ "text") :
    IsBare v.display.toList := by
  have oneOf : ∀ {s : String} {names : List String}, s ∈ names →
      (∀ name ∈ names, IsBare name.toList) → IsBare s.toList :=
    fun member bare => bare _ member
  cases h with
  | boolean b => cases b <;> decide
  | integer n => exact Coder.isBare_writeInt n.toInt
  | float finite => exact isBare_plain finite
  | text s => exact absurd rfl notText
  | range first second => exact Builtin.isBare_range (.some first) (.some second)
  | partialRange first second => exact Builtin.isBare_range first second
  | alignment named => exact oneOf named (by decide)
  | valignment named => exact oneOf named (by decide)
  | lineStyle named => exact oneOf named (by decide)
  | marker named => exact oneOf named (by decide)
  | color inside =>
      exact isBare_plainList fun z member =>
        Coder.isFinite_of_inUnitInterval (List.all_eq_true.1 inside z member)
  | @dimension x finite unit =>
      have suffix : IsBare unit.suffix.toList := by
        cases unit <;> decide
      intro c member
      rw [Value.display, String.toList_append, List.mem_append] at member
      exact member.elim (isBare_plain finite c) (suffix c)
  | point finite => exact isBare_plainList finite
  | @alignedPoint x y v h finite vertical horizontal =>
      have verticals : IsBare ['t', 'c', 'b'] := by decide
      have horizontals : IsBare ['l', 'c', 'r'] := by decide
      intro c member
      rw [Coder.toList_alignedPoint x y vertical horizontal] at member
      simp only [List.mem_cons] at member
      rcases member with rfl | rfl | rfl | member
      · exact verticals c vertical
      · exact horizontals c horizontal
      · decide
      · exact isBare_plainList finite c member
  | box finite => exact isBare_plainList finite
  | margins finite => exact isBare_plainList finite

end PlotScript
