import Mathlib
import PlotScript.Proofs.Variables.Piece
import PlotScript.Proofs.Variables.Loops

/-!
# Deferred values

A deferred assignment keeps its value as an expression: references stay as they
are written, and dollar signs that quotes or a backslash protected are protected
by a backslash. The expression knows no quotes, so two pieces that only a quote
kept apart may be read as one when it is expanded. A literal backslash swallows
the reference behind it, a reference grows by the name characters behind it, and a
dollar sign of its own turns into a reference.

`deferral_faithful_iff` says that this is all that can go wrong: a deferred value
agrees with the eager one in every scope exactly when no piece of it runs into
what is written behind it.
-/

namespace PlotScript

/-! ## Writing pieces and reading them again -/

namespace Piece

/-- How a piece is written in an expression. -/
def spelled : Piece → List Char
  | blank c | char c => [c]
  | quote | fault _ => []
  | dollar => ['\\', '$']
  | reference r _ => r.spelling

/-- What is read where a piece was written. -/
def reread : Piece → List Piece
  | blank c | char c => [char c]
  | quote | fault _ => []
  | dollar => [dollar]
  | reference r _ => [reference r true]

/-- Whether a piece and the text behind it are read as something else than the piece. -/
def runsInto (p : Piece) (text : List Char) : Bool :=
  match p, text with
  | char '\\', c :: _ => c == '$'
  | char '$', c :: _ => Reference.begins c
  | reference ⟨_, false⟩ _, c :: _ => Reference.isNameChar c
  | _, _ => false

/-- Pieces none of which runs into what is written behind it. -/
def seamless : List Piece → Bool
  | [] => true
  | p :: rest => !runsInto p (rest.flatMap spelled) && seamless rest

/-- Pieces that a text can be read into. -/
def IsSound : Piece → Prop
  | blank c => Text.isBlank c = true
  | reference r _ => r.IsSpelled
  | quote | char _ | dollar | fault _ => True

theorem isSound_shielded (c : Char) : (shielded c).IsSound := by
  unfold shielded
  split <;> trivial

theorem isSound_of_mem_ofText {quoted : Bool} {s : List Char} :
    ∀ p ∈ ofText quoted s, p.IsSound := by
  fun_induction ofText quoted s with
  | case1 => simp [IsSound]
  | case2 => simp
  | case3 => simp [IsSound]
  | case4 => simp [IsSound]
  | case5 quoted escaped rest ih =>
      exact List.forall_mem_cons.2 ⟨isSound_shielded escaped, ih⟩
  | case6 => simp [IsSound]
  | case7 quoted rest found notBackslash ih => exact List.forall_mem_cons.2 ⟨trivial, ih⟩
  | case8 quoted rest r after found shorter notBackslash ih =>
      exact List.forall_mem_cons.2 ⟨Reference.isSpelled_of_read found, ih⟩
  | case9 rest notBackslash notDollar ih => exact ih
  | case10 quoted rest bare notBackslash notDollar ih =>
      exact List.forall_mem_cons.2 ⟨trivial, ih⟩
  | case11 c rest notBackslash notDollar notQuote ih =>
      exact List.forall_mem_cons.2 ⟨trivial, ih⟩
  | case12 quoted rest bare closed shorter notBackslash notDollar notQuote ih =>
      rw [List.cons_append]
      refine List.forall_mem_cons.2 ⟨trivial, List.forall_mem_append.2 ⟨?_, ih⟩⟩
      exact List.forall_mem_map.2 fun c _ => isSound_shielded c
  | case13 => simp [IsSound]
  | case14 quoted c rest notBackslash notDollar notQuote bare notSingle ih =>
      refine List.forall_mem_cons.2 ⟨?_, ih⟩
      split
      · rename_i isBlank
        exact isBlank
      · trivial

/-! ### Reading what was written -/

theorem ofExpression_blank {c : Char} (isBlank : Text.isBlank c = true) (text : List Char) :
    ofExpression (c :: text) = char c :: ofExpression text := by
  apply ofExpression_char
  · rintro rfl
    exact absurd isBlank (by decide)
  · rintro rfl
    exact absurd isBlank (by decide)

theorem ofExpression_reference {r : Reference} (quoted : Bool) (valid : r.IsSpelled)
    {text : List Char} (h : runsInto (reference r quoted) text = false) :
    ofExpression (r.spelling ++ text) = reference r true :: ofExpression text := by
  obtain ⟨name, bracketed⟩ := r
  cases bracketed with
  | true =>
      simp only [Reference.spelling, if_true, List.cons_append, List.append_assoc,
        List.nil_append]
      rw [ofExpression_dollar, Reference.read_bracketed valid]
  | false =>
      obtain ⟨c, rest, rfl, start, inside⟩ := valid
      have ends : ∀ d ∈ text.head?, Reference.isNameChar d = false := by
        cases text with
        | nil => exact fun e first => by cases first
        | cons d text =>
            intro e first
            obtain rfl : d = e := by simpa using first
            exact h
      simp only [Reference.spelling, Bool.false_eq_true, if_false, List.cons_append]
      rw [ofExpression_dollar, Reference.read_bare_of_ends start inside ends]

/-- A piece that does not run into the text behind it is read as what it was. -/
theorem ofExpression_spelled_append {p : Piece} (sound : p.IsSound) {text : List Char}
    (h : runsInto p text = false) :
    ofExpression (p.spelled ++ text) = p.reread ++ ofExpression text := by
  cases p with
  | blank c => exact ofExpression_blank sound text
  | quote => rfl
  | char c =>
      rw [spelled, List.singleton_append]
      by_cases isDollar : c = '$'
      · subst isDollar
        have none : Reference.read text = .ok none := by
          refine Reference.read_eq_none fun d hd => ?_
          cases text with
          | nil => cases hd
          | cons e text =>
              obtain rfl : e = d := by simpa using hd
              exact h
        rw [ofExpression_dollar, none]
        rfl
      · refine ofExpression_char isDollar ?_
        rintro rfl next
        cases text with
        | nil => cases next
        | cons e text =>
            obtain rfl : e = '$' := by simpa using next
            exact absurd h (by simp [runsInto])
  | dollar => exact ofExpression_protected text
  | reference r quoted => exact ofExpression_reference quoted sound h
  | fault cause => rfl

/-- Pieces without a seam are read as what they were. -/
theorem ofExpression_flatMap_spelled {ps : List Piece} (sound : ∀ p ∈ ps, p.IsSound)
    (h : seamless ps = true) : ofExpression (ps.flatMap spelled) = ps.flatMap reread := by
  induction ps with
  | nil => exact ofExpression_nil
  | cons p rest ih =>
      obtain ⟨soundFirst, soundRest⟩ := List.forall_mem_cons.1 sound
      obtain ⟨first, others⟩ : runsInto p (rest.flatMap spelled) = false ∧
          seamless rest = true := by
        simpa [seamless] using h
      rw [List.flatMap_cons, List.flatMap_cons, ofExpression_spelled_append soundFirst first,
        ih soundRest others]

/-! ### The texts of pieces -/

/-- What a piece stands for when every variable has a value. -/
def valued (value : String → String) : Piece → List Char
  | blank c | char c => [c]
  | quote | fault _ => []
  | dollar => ['$']
  | reference r _ => (value (String.ofList r.name)).toList

/-- The names that pieces refer to. -/
def names (ps : List Piece) : List String :=
  ps.filterMap fun p =>
    match p with
    | reference r _ => some (String.ofList r.name)
    | _ => none

/-- The expression of a deferred value is its pieces as they are spelled, and there
is one only if the text is free of faults. -/
theorem concat_defer_eq_ok {ps : List Piece} {text : List Char}
    (h : concat defer ps = .ok text) :
    (∀ cause, fault cause ∉ ps) ∧ text = ps.flatMap spelled := by
  induction ps generalizing text with
  | nil =>
      obtain rfl : [] = text := Except.ok.inj h
      simp
  | cons p rest ih =>
      obtain ⟨front, back, first, others, rfl⟩ := concat_cons_eq_ok h
      obtain ⟨sound, rfl⟩ := ih others
      cases p with
      | fault cause => cases first
      | _ =>
          obtain rfl := Except.ok.inj first
          exact ⟨by simpa using sound, rfl⟩

/-- Pieces without a fault can be kept for later. -/
theorem concat_defer_of_noFault {ps : List Piece} (noFault : ∀ cause, fault cause ∉ ps) :
    concat defer ps = .ok (ps.flatMap spelled) := by
  induction ps with
  | nil => rfl
  | cons p rest ih =>
      have first : defer p = .ok p.spelled := by
        cases p with
        | fault cause => exact absurd List.mem_cons_self (noFault cause)
        | _ => rfl
      rw [concat, first, ih fun cause member => noFault cause (List.mem_cons_of_mem _ member)]
      rfl

theorem concat_expand_reread_append (lookup : String → Except Cause String) {p : Piece}
    (noFault : ∀ cause, p ≠ fault cause) (rest : List Piece) :
    concat (expand lookup) (p.reread ++ rest) = (do
      let front ← expand lookup p
      let back ← concat (expand lookup) rest
      return front ++ back) := by
  cases p with
  | fault cause => exact absurd rfl (noFault cause)
  | quote =>
      change concat (expand lookup) rest = (concat (expand lookup) rest >>= fun back => .ok back)
      cases concat (expand lookup) rest <;> rfl
  | _ => rfl

/-- Reading pieces again does not change what they stand for. -/
theorem concat_expand_flatMap_reread (lookup : String → Except Cause String)
    {ps : List Piece} (noFault : ∀ cause, fault cause ∉ ps) :
    concat (expand lookup) (ps.flatMap reread) = concat (expand lookup) ps := by
  induction ps with
  | nil => rfl
  | cons p rest ih =>
      rw [List.flatMap_cons, concat_expand_reread_append lookup
        (fun cause same => noFault cause (same ▸ List.mem_cons_self)),
        ih fun cause member => noFault cause (List.mem_cons_of_mem _ member), concat]

theorem expand_eq_valued (value : String → String) {p : Piece}
    (noFault : ∀ cause, p ≠ fault cause) :
    expand (fun name => .ok (value name)) p = .ok (p.valued value) := by
  cases p with
  | fault cause => exact absurd rfl (noFault cause)
  | _ => rfl

theorem concat_expand_of_noFault (value : String → String) {ps : List Piece}
    (noFault : ∀ cause, fault cause ∉ ps) :
    concat (expand fun name => .ok (value name)) ps = .ok (ps.flatMap (valued value)) := by
  induction ps with
  | nil => rfl
  | cons p rest ih =>
      rw [concat, expand_eq_valued value
        (fun cause same => noFault cause (same ▸ List.mem_cons_self)),
        ih fun cause member => noFault cause (List.mem_cons_of_mem _ member)]
      rfl

/-- Only the values of the names that occur matter. -/
theorem concat_expand_congr {lookup other : String → Except Cause String} {ps : List Piece}
    (h : ∀ name ∈ names ps, lookup name = other name) :
    concat (expand lookup) ps = concat (expand other) ps := by
  induction ps with
  | nil => rfl
  | cons p rest ih =>
      have first : expand lookup p = expand other p := by
        cases p with
        | reference r quoted =>
            have same : lookup (String.ofList r.name) = other (String.ofList r.name) :=
              h _ (by simp [names])
            rw [expand, expand, same]
        | _ => rfl
      have others : concat (expand lookup) rest = concat (expand other) rest := by
        refine ih fun name member => h name ?_
        obtain ⟨q, hq, hname⟩ := List.mem_filterMap.1 member
        exact List.mem_filterMap.2 ⟨q, List.mem_cons_of_mem _ hq, hname⟩
      rw [concat, concat, first, others]

/-! ### A seam shows -/

/-- Values that tell one name from all others. -/
def telling (special : List Char) (name : String) : String :=
  if name = String.ofList special then "x" else "y"

theorem head?_valued_reference (special : List Char) (r : Reference) (quoted : Bool)
    (back : List Char) :
    (valued (telling special) (reference r quoted) ++ back).head? =
      some (if r.name = special then 'x' else 'y') := by
  by_cases h : r.name = special
  · simp [valued, telling, h]
  · have other : String.ofList r.name ≠ String.ofList special :=
      fun same => h (String.ofList_injective same)
    simp [valued, telling, h, other]

theorem concat_reference_ne {special : List Char} {r : Reference} {rest : List Piece}
    {text : List Char}
    (other : text.head? ≠ some (if r.name = special then 'x' else 'y')) :
    concat (expand fun name => .ok (telling special name)) (reference r true :: rest) ≠
      .ok text := by
  intro h
  obtain ⟨front, back, first, -, rfl⟩ := concat_cons_eq_ok h
  obtain rfl := Except.ok.inj first
  exact other (head?_valued_reference special r true back)

/-- A piece that runs into the text behind it comes out as something else when
variables have telling values. -/
theorem seam_shows {p : Piece} (sound : p.IsSound) {text : List Char}
    (h : runsInto p text = true) :
    ∃ special, ∀ back,
      concat (expand fun name => .ok (telling special name))
          (ofExpression (p.spelled ++ text)) ≠
        .ok (p.valued (telling special) ++ back) := by
  unfold runsInto at h
  split at h
  · -- the backslash protects the dollar sign
    rename_i c text
    obtain rfl : c = '$' := by simpa using h
    refine ⟨[], fun back same => ?_⟩
    rw [spelled, List.cons_append, List.nil_append, ofExpression_protected] at same
    obtain ⟨front, behind, first, -, whole⟩ := concat_cons_eq_ok same
    obtain rfl := Except.ok.inj first
    simp [valued] at whole
  · -- the dollar sign begins a reference
    rename_i c text
    refine ⟨[], fun back => ?_⟩
    rw [spelled, List.cons_append, List.nil_append, ofExpression_dollar]
    split
    · intro same
      cases same
    · rename_i none
      exact absurd none (Reference.read_ne_none text h)
    · apply concat_reference_ne
      simp only [valued, List.cons_append, List.head?_cons]
      split <;> simp
  · -- the reference is read with a longer name
    rename_i name quoted d text
    obtain ⟨c, rest, rfl, start, inside⟩ := sound
    refine ⟨c :: rest, fun back => ?_⟩
    have grown : (d :: text).takeWhile Reference.isNameChar ≠ [] := by
      rw [List.takeWhile_cons_of_pos h]
      simp
    simp only [spelled, Reference.spelling, Bool.false_eq_true, if_false, List.cons_append]
    rw [ofExpression_dollar, Reference.read_bare start inside]
    apply concat_reference_ne
    rw [head?_valued_reference]
    simp [grown]
  · cases h

/-- Pieces with a seam come out as something else when variables have telling
values. -/
theorem ofExpression_flatMap_spelled_ne {ps : List Piece} (sound : ∀ p ∈ ps, p.IsSound)
    (noFault : ∀ cause, fault cause ∉ ps) (h : seamless ps = false) :
    ∃ special,
      concat (expand fun name => .ok (telling special name))
          (ofExpression (ps.flatMap spelled)) ≠
        .ok (ps.flatMap (valued (telling special))) := by
  induction ps with
  | nil => cases h
  | cons p rest ih =>
      obtain ⟨soundFirst, soundRest⟩ := List.forall_mem_cons.1 sound
      have noFaultFirst : ∀ cause, p ≠ fault cause :=
        fun cause same => noFault cause (same ▸ List.mem_cons_self)
      have noFaultRest : ∀ cause, fault cause ∉ rest :=
        fun cause member => noFault cause (List.mem_cons_of_mem _ member)
      cases first : runsInto p (rest.flatMap spelled) with
      | true =>
          obtain ⟨special, differs⟩ := seam_shows soundFirst first
          exact ⟨special, differs _⟩
      | false =>
          have seam : seamless rest = false := by simpa [seamless, first] using h
          obtain ⟨special, differs⟩ := ih soundRest noFaultRest seam
          refine ⟨special, fun same => differs ?_⟩
          rw [List.flatMap_cons, List.flatMap_cons, ofExpression_spelled_append soundFirst first,
            concat_expand_reread_append _ noFaultFirst,
            expand_eq_valued _ noFaultFirst] at same
          cases behind : concat (expand fun name => .ok (telling special name))
              (ofExpression (rest.flatMap spelled)) with
          | error cause =>
              rw [behind] at same
              cases same
          | ok back =>
              rw [behind] at same
              exact congrArg _ (List.append_cancel_left (Except.ok.inj same))

end Piece

/-! ## Deferred and eager values -/

namespace Scope

/-- The scope in which names are bound to texts. -/
def ofNames (value : String → String) (names : List String) : Scope :=
  names.foldr (fun name scope => scope.insert name (.eager (value name))) NameMap.empty

theorem get?_ofNames (value : String → String) {names : List String} {name : String}
    (h : name ∈ names) : (ofNames value names).get? name = some (.eager (value name)) := by
  induction names with
  | nil => cases h
  | cons first rest ih =>
      rw [ofNames, List.foldr_cons, NameMap.get?_insert]
      split
      · rename_i same
        rw [same]
      · rename_i different
        exact ih ((List.mem_cons.1 h).resolve_left different)

theorem lookup_ofNames (value : String → String) {names : List String} {name : String}
    (h : name ∈ names) : (ofNames value names).lookup name = .ok (value name) := by
  rw [lookup, required, resolve, resolveWithin, get?_ofNames value h]
  rfl

end Scope

theorem deferredValue_eq_ok {rest : List Char} {raw : String}
    (h : deferredValue rest = .ok raw) :
    (∀ cause, Piece.fault cause ∉ Piece.ofText false rest) ∧
      raw.toList = (Piece.ofText false rest).flatMap Piece.spelled := by
  rw [deferredValue_eq] at h
  cases text : Piece.concat Piece.defer (Piece.ofText false rest) with
  | error cause =>
      rw [text] at h
      cases h
  | ok text' =>
      rw [text] at h
      obtain rfl := Except.ok.inj h
      rw [String.toList_ofList]
      exact Piece.concat_defer_eq_ok text

/-- Without a seam the expression stands for what the pieces of the text stand for. -/
theorem concat_expand_deferred_of_seamless {rest : List Char} {raw : String}
    (deferred : deferredValue rest = .ok raw)
    (h : Piece.seamless (Piece.ofText false rest) = true)
    (lookup : String → Except Cause String) :
    Piece.concat (Piece.expand lookup) (Piece.ofExpression raw.toList) =
      Piece.concat (Piece.expand lookup) (Piece.ofText false rest) := by
  obtain ⟨noFault, written⟩ := deferredValue_eq_ok deferred
  rw [written, Piece.ofExpression_flatMap_spelled Piece.isSound_of_mem_ofText h,
    Piece.concat_expand_flatMap_reread _ noFault]

/-- Without a seam the expression is expanded to the eager value. -/
theorem expand_deferred_of_seamless {rest : List Char} {raw : String}
    (deferred : deferredValue rest = .ok raw)
    (h : Piece.seamless (Piece.ofText false rest) = true) (scope : Scope) :
    (scope.expand raw.toList).map String.ofList = eagerValue scope rest := by
  rw [eagerValue_eq]
  exact congrArg (Except.map String.ofList)
    (concat_expand_deferred_of_seamless deferred h scope.lookup)

/-- With a seam there is a scope in which the two values differ. -/
theorem exists_expand_deferred_ne {rest : List Char} {raw : String}
    (deferred : deferredValue rest = .ok raw)
    (h : Piece.seamless (Piece.ofText false rest) = false) :
    ∃ scope e, eagerValue scope rest = .ok e ∧ scope.expand raw.toList ≠ .ok e.toList := by
  obtain ⟨noFault, written⟩ := deferredValue_eq_ok deferred
  obtain ⟨special, differs⟩ :=
    Piece.ofExpression_flatMap_spelled_ne Piece.isSound_of_mem_ofText noFault h
  -- every name that either reading mentions is bound, so both have a value
  let mentioned := Piece.names (Piece.ofText false rest) ++
    Piece.names (Piece.ofExpression raw.toList)
  let scope := Scope.ofNames (Piece.telling special) mentioned
  have known : ∀ name ∈ mentioned, scope.lookup name = .ok (Piece.telling special name) :=
    fun name member => Scope.lookup_ofNames _ member
  have eager : Piece.concat (Piece.expand scope.lookup) (Piece.ofText false rest) =
      .ok ((Piece.ofText false rest).flatMap (Piece.valued (Piece.telling special))) := by
    rw [Piece.concat_expand_congr fun name member => known name (List.mem_append_left _ member)]
    exact Piece.concat_expand_of_noFault _ noFault
  have expanded : scope.expand raw.toList =
      Piece.concat (Piece.expand fun name => .ok (Piece.telling special name))
        (Piece.ofExpression raw.toList) :=
    Piece.concat_expand_congr fun name member => known name (List.mem_append_right _ member)
  have value := (eagerValue_eq scope rest).trans (congrArg (Except.map String.ofList) eager)
  refine ⟨scope, _, value, fun same => differs ?_⟩
  rw [← written, ← expanded, same, String.toList_ofList]

/-- A deferred value agrees with the eager one wherever that exists, in every scope,
exactly when no piece of it runs into what is written behind it. Then the two agree
in their failures, too. -/
theorem deferral_faithful_iff (rest : List Char) (raw : String)
    (deferred : deferredValue rest = .ok raw) :
    ((∀ scope e, eagerValue scope rest = .ok e → scope.expand raw.toList = .ok e.toList) ↔
      Piece.seamless (Piece.ofText false rest) = true) ∧
    (Piece.seamless (Piece.ofText false rest) = true →
      ∀ scope : Scope,
        (scope.expand raw.toList).map String.ofList = eagerValue scope rest) := by
  refine ⟨⟨fun agrees => ?_, fun h scope e eager => ?_⟩,
    fun h scope => expand_deferred_of_seamless deferred h scope⟩
  · cases h : Piece.seamless (Piece.ofText false rest) with
    | true => rfl
    | false =>
        obtain ⟨scope, e, eager, differs⟩ := exists_expand_deferred_ne deferred h
        exact absurd (agrees scope e eager) differs
  · have same := expand_deferred_of_seamless deferred h scope
    rw [eager] at same
    cases expanded : scope.expand raw.toList with
    | error cause =>
        rw [expanded] at same
        cases same
    | ok text =>
        rw [expanded] at same
        obtain rfl := Except.ok.inj same
        rw [String.toList_ofList]

theorem deferral_faithful_quoted_reference :
    deferredValue "\"data-$(run).dat\" '$cost'".toList = .ok "data-$(run).dat \\$cost" ∧
      ∀ scope e, eagerValue scope "\"data-$(run).dat\" '$cost'".toList = .ok e →
        scope.expand "data-$(run).dat \\$cost".toList = .ok e.toList := by
  have deferred : deferredValue "\"data-$(run).dat\" '$cost'".toList =
      .ok "data-$(run).dat \\$cost" := by
    decide +kernel
  refine ⟨deferred, (deferral_faithful_iff _ _ deferred).1.2 ?_⟩
  cbv

/-- A backslash between quotes swallows the reference behind it. -/
theorem deferral_swallows_reference :
    ¬ ∀ (scope : Scope) (rest : List Char) (e raw : String),
      eagerValue scope rest = .ok e → deferredValue rest = .ok raw →
        scope.expand raw.toList = .ok e.toList := by
  intro agrees
  have eager : eagerValue (NameMap.ofList [("a", .eager "1")]) "'\\'$a".toList =
      .ok "\\1" := by
    decide +kernel
  have deferred : deferredValue "'\\'$a".toList = .ok "\\$a" := by
    decide +kernel
  have expanded : Scope.expand (NameMap.ofList [("a", .eager "1")]) "\\$a".toList =
      .ok "$a".toList := by
    cbv
  have same := agrees _ _ _ _ eager deferred
  rw [expanded] at same
  exact absurd (Except.ok.inj same) (by decide)

end PlotScript
