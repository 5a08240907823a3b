import PlotScript.Coercion.Builtin
import PlotScript.Proofs.Except

/-!
# The stages of reading

Five things compete for a text: the passthrough, the shortcuts, the patterns, the constants and the
coder of a type. `Reads` says of each what has to fail in front of it and which entry of its list
decides, and `coerce_eq_iff_reads` that reading comes to nothing else. A text that passes through
is its own value. The coder is not asked for it, whatever values the coder makes.
-/

namespace PlotScript

/-! ## The entry that decides -/

section Entries

variable {α : Type}

/-- The value of the first entry whose key has a property. -/
def IsFirst (has : α → Prop) (entries : List (α × Value)) (v : Value) : Prop :=
  ∃ before key behind, entries = before ++ (key, v) :: behind ∧ has key ∧
    ∀ e ∈ before, ¬ has e.1

/-- The value of the last entry whose key has a property. -/
def IsLast (has : α → Prop) (entries : List (α × Value)) (v : Value) : Prop :=
  ∃ before key behind, entries = before ++ (key, v) :: behind ∧ has key ∧
    ∀ e ∈ behind, ¬ has e.1

/-- The last entry is the first one from behind. -/
theorem isFirst_reverse_iff {has : α → Prop} {entries : List (α × Value)} {v : Value} :
    IsFirst has entries.reverse v ↔ IsLast has entries v := by
  constructor
  · rintro ⟨before, key, behind, whole, here, none⟩
    refine ⟨behind.reverse, key, before.reverse, ?_, here, fun e member => ?_⟩
    · rw [← List.reverse_reverse entries, whole]
      simp
    · exact none e (List.mem_reverse.1 member)
  · rintro ⟨before, key, behind, rfl, here, none⟩
    refine ⟨behind.reverse, key, before.reverse, by simp, here, fun e member => ?_⟩
    exact none e (List.mem_reverse.1 member)

variable (has : α → Prop) {p : α × Value → Bool} (decides : ∀ e, p e = true ↔ has e.1)
  {entries : List (α × Value)}
include decides

theorem find?_eq_some_iff_isFirst {v : Value} :
    (entries.find? p).map (·.2) = some v ↔ IsFirst has entries v := by
  constructor
  · intro found
    obtain ⟨⟨key, w⟩, first, rfl⟩ := Option.map_eq_some_iff.1 found
    obtain ⟨here, before, behind, whole, none⟩ := List.find?_eq_some_iff_append.1 first
    refine ⟨before, key, behind, whole, (decides _).1 here, fun e member holds => ?_⟩
    have fails := none e member
    rw [(decides e).2 holds] at fails
    cases fails
  · rintro ⟨before, key, behind, whole, here, none⟩
    refine Option.map_eq_some_iff.2 ⟨(key, v), ?_, rfl⟩
    refine List.find?_eq_some_iff_append.2 ⟨(decides _).2 here, before, behind, whole, ?_⟩
    intro e member
    rw [Bool.not_eq_true', Bool.eq_false_iff]
    exact fun holds => none e member ((decides e).1 holds)

theorem find?_eq_none_iff_forall :
    (entries.find? p).map (·.2) = none ↔ ∀ e ∈ entries, ¬ has e.1 := by
  rw [Option.map_eq_none_iff, List.find?_eq_none]
  exact forall₂_congr fun e _ => not_congr (decides e)

end Entries

/-! ## What becomes of a text -/

namespace TypeSpec

variable {spec : TypeSpec} {text : String}

/-- Two names that differ in nothing but case. -/
def SameName (name text : String) : Prop :=
  Text.toLower name.toList = Text.toLower text.toList

/-- A text that does not pass through. -/
def Asks (spec : TypeSpec) (text : String) : Prop :=
  spec.passthrough text = false

/-- A text that is no shortcut either. -/
structure IsNoShortcut (spec : TypeSpec) (text : String) : Prop where
  asks : spec.Asks text
  shortcuts : ∀ e ∈ spec.shortcuts, e.1 ≠ text

/-- A text that matches no pattern either. -/
structure IsUnmatched (spec : TypeSpec) (text : String) : Prop extends
    IsNoShortcut spec text where
  patterns : ∀ e ∈ spec.patterns, ¬ e.1 text = true

/-- A text that names no constant either. -/
structure IsUnnamed (spec : TypeSpec) (text : String) : Prop extends
    IsUnmatched spec text where
  constants : ∀ e ∈ spec.constants, ¬ SameName e.1 text

/-- What a type makes of a text, by the stage that decides. -/
inductive Reads (spec : TypeSpec) (text : String) : Except Cause Value → Prop
  /-- the text is in its final form -/
  | passed (passes : spec.passthrough text = true) : Reads spec text (.ok (.text text))
  | shortcut {v : Value} (asks : spec.Asks text)
      (first : IsFirst (· = text) spec.shortcuts v) : Reads spec text (.ok v)
  | pattern {v : Value} (others : spec.IsNoShortcut text)
      (first : IsFirst (fun matches? => matches? text = true) spec.patterns v) :
      Reads spec text (.ok v)
  | constant {v : Value} (others : spec.IsUnmatched text)
      (last : IsLast (SameName · text) spec.constants v) : Reads spec text (.ok v)
  | decoded {v : Value} (others : spec.IsUnnamed text)
      (decoded : spec.coder.decode text = .ok v) : Reads spec text (.ok v)
  | misread {reason : Misread} (others : spec.IsUnnamed text)
      (failed : spec.coder.decode text = .error reason) :
      Reads spec text (.error (.invalidLiteral text spec.tag reason))

/-! ## One stage at a time -/

theorem shortcut?_eq_some_iff {v : Value} :
    spec.shortcut? text = some v ↔ IsFirst (· = text) spec.shortcuts v := by
  unfold shortcut?
  exact find?_eq_some_iff_isFirst (· = text) fun _ => decide_eq_true_iff

theorem shortcut?_eq_none_iff :
    spec.shortcut? text = none ↔ ∀ e ∈ spec.shortcuts, e.1 ≠ text := by
  unfold shortcut?
  exact find?_eq_none_iff_forall (· = text) fun _ => decide_eq_true_iff

theorem pattern?_eq_some_iff {v : Value} :
    spec.pattern? text = some v ↔
      IsFirst (fun matches? => matches? text = true) spec.patterns v := by
  unfold pattern?
  exact find?_eq_some_iff_isFirst (fun matches? : String → Bool => matches? text = true)
    fun _ => Iff.rfl

theorem pattern?_eq_none_iff :
    spec.pattern? text = none ↔ ∀ e ∈ spec.patterns, ¬ e.1 text = true := by
  unfold pattern?
  exact find?_eq_none_iff_forall (fun matches? : String → Bool => matches? text = true)
    fun _ => Iff.rfl

theorem constant?_eq_some_iff {v : Value} :
    spec.constant? text = some v ↔ IsLast (SameName · text) spec.constants v := by
  unfold constant?
  rw [← isFirst_reverse_iff]
  exact find?_eq_some_iff_isFirst (SameName · text) fun _ => beq_iff_eq

theorem constant?_eq_none_iff :
    spec.constant? text = none ↔ ∀ e ∈ spec.constants, ¬ SameName e.1 text := by
  have reversed : spec.constant? text = none ↔
      ∀ e ∈ spec.constants.reverse, ¬ SameName e.1 text := by
    unfold constant?
    exact find?_eq_none_iff_forall (SameName · text) fun _ => beq_iff_eq
  simpa using reversed

/-! ## One stage behind the other -/

theorem Asks.fixed? (asks : spec.Asks text) :
    spec.fixed? text =
      (spec.shortcut? text).or ((spec.pattern? text).or (spec.constant? text)) := by
  have notPassed : ¬ spec.passthrough text = true := by
    rw [asks]
    decide
  rw [TypeSpec.fixed?, if_neg notPassed]

theorem IsNoShortcut.fixed? (others : spec.IsNoShortcut text) :
    spec.fixed? text = (spec.pattern? text).or (spec.constant? text) := by
  rw [others.asks.fixed?, shortcut?_eq_none_iff.2 others.shortcuts, Option.none_or]

theorem IsUnmatched.fixed? (others : spec.IsUnmatched text) :
    spec.fixed? text = spec.constant? text := by
  rw [others.toIsNoShortcut.fixed?, pattern?_eq_none_iff.2 others.patterns, Option.none_or]

/-- The coder is asked for a text that nothing else decides. -/
theorem IsUnnamed.coerce (others : spec.IsUnnamed text) :
    spec.coerce text = (spec.coder.decode text).mapError (.invalidLiteral text spec.tag) := by
  rw [TypeSpec.coerce, others.toIsUnmatched.fixed?, constant?_eq_none_iff.2 others.constants]

theorem coerce_of_fixed {v : Value} (fixed : spec.fixed? text = some v) :
    spec.coerce text = .ok v := by
  rw [TypeSpec.coerce, fixed]

/-- What a stage decides is what comes of the text. -/
theorem Reads.coerce {outcome : Except Cause Value} (reads : spec.Reads text outcome) :
    spec.coerce text = outcome := by
  cases reads with
  | passed passes =>
      refine coerce_of_fixed ?_
      rw [TypeSpec.fixed?, if_pos passes]
  | shortcut asks first =>
      refine coerce_of_fixed ?_
      rw [asks.fixed?, shortcut?_eq_some_iff.2 first, Option.some_or]
  | pattern others first =>
      refine coerce_of_fixed ?_
      rw [others.fixed?, pattern?_eq_some_iff.2 first, Option.some_or]
  | constant others last =>
      refine coerce_of_fixed ?_
      rw [others.fixed?, constant?_eq_some_iff.2 last]
  | decoded others decoded =>
      rw [others.coerce, decoded]
      rfl
  | misread others failed =>
      rw [others.coerce, failed]
      rfl

/-- Some stage decides. -/
theorem reads_coerce (spec : TypeSpec) (text : String) : spec.Reads text (spec.coerce text) := by
  suffices some : ∃ outcome, spec.Reads text outcome by
    obtain ⟨outcome, reads⟩ := some
    rw [reads.coerce]
    exact reads
  by_cases passes : spec.passthrough text = true
  · exact ⟨_, .passed passes⟩
  have asks : spec.Asks text := Bool.eq_false_iff.2 passes
  cases shortcut : spec.shortcut? text with
  | some v => exact ⟨_, .shortcut asks (shortcut?_eq_some_iff.1 shortcut)⟩
  | none =>
    have noShortcut : spec.IsNoShortcut text := ⟨asks, shortcut?_eq_none_iff.1 shortcut⟩
    cases pattern : spec.pattern? text with
    | some v => exact ⟨_, .pattern noShortcut (pattern?_eq_some_iff.1 pattern)⟩
    | none =>
      have unmatched : spec.IsUnmatched text := ⟨noShortcut, pattern?_eq_none_iff.1 pattern⟩
      cases constant : spec.constant? text with
      | some v => exact ⟨_, .constant unmatched (constant?_eq_some_iff.1 constant)⟩
      | none =>
        have unnamed : spec.IsUnnamed text := ⟨unmatched, constant?_eq_none_iff.1 constant⟩
        cases decoded : spec.coder.decode text with
        | ok v => exact ⟨_, .decoded unnamed decoded⟩
        | error reason => exact ⟨_, .misread unnamed decoded⟩

/-- Reading follows the stages. It fails only with what the coder says of a text that no stage in
front of it decides, and then the error names the text and the tag. -/
theorem coerce_follows_stages (spec : TypeSpec) (text : String) :
    (∀ outcome, spec.coerce text = outcome ↔ spec.Reads text outcome) ∧
      ∀ cause, spec.coerce text = .error cause →
        spec.IsUnnamed text ∧ ∃ reason, spec.coder.decode text = .error reason ∧
          cause.kind = .coercion ∧
          cause.message =
            "invalid literal '" ++ text ++ "' for type " ++ spec.tag ++ ": " ++ reason.reason := by
  refine ⟨fun outcome => ⟨?_, Reads.coerce⟩, fun cause failed => ?_⟩
  · rintro rfl
    exact reads_coerce spec text
  · have reads := reads_coerce spec text
    rw [failed] at reads
    cases reads with
    | @misread reason others decoded => exact ⟨others, reason, decoded, rfl, rfl⟩

/-- The second of two constants of one name decides, and an empty text is left to the coder, which
cannot read it. -/
theorem coerce_of_renamed_constant :
    let answer : TypeSpec :=
      { tag := "answer"
        coder := Coder.integer
        shortcuts := [("one", .integer 1)]
        patterns := [((·.startsWith "h"), .integer 2)]
        constants := [("Answer", .integer 41), ("ANSWER", .integer 42)] }
    answer.coerce "answer" = .ok (.integer 42) ∧
      answer.Reads "answer" (.ok (.integer 42)) ∧
      ∃ cause, answer.coerce "" = .error cause ∧ answer.IsUnnamed "" ∧
        cause.message = "invalid literal '' for type answer: not an integer" := by
  intro answer
  have found : answer.coerce "answer" = .ok (.integer 42) := by decide +kernel
  have failed : answer.coerce "" = .error (.invalidLiteral "" "answer" .notInteger) := by
    decide +kernel
  obtain ⟨unnamed, -⟩ := (coerce_follows_stages answer "").2 _ failed
  exact ⟨found, ((coerce_follows_stages answer "answer").1 _).1 found, _, failed, unnamed, rfl⟩

/-- A text that passes through a type of whole numbers does not become a whole number. -/
theorem passthrough_is_not_decoded :
    ¬ ∀ (spec : TypeSpec) (text : String), spec.passthrough text = true →
      spec.coerce text =
        (spec.coder.decode text).mapError (.invalidLiteral text spec.tag) := by
  intro decodes
  have number := decodes
    { tag := "count", coder := Coder.integer, passthrough := fun _ => true } "5" rfl
  revert number
  decide +kernel

end TypeSpec

end PlotScript
