import PlotScript.Proofs.Coercion.RoundTrip

/-!
# Rendered values

A type of the standard registry writes every value that it reads as a text that it
reads as the same value. So reading a text and writing its value brings the text to a
normal form, which reading and writing leave as it is. The axis transformations are
not among these types, for an expression is kept as it was typed.
-/

namespace PlotScript

open Value (HasType)

/-- A text that a type reads, written as the type writes its value. -/
def Registry.normalForm (r : Registry) (tag text : String) : Except Cause String := do
  let v ← r.coerce tag text
  r.render tag v

/-- A value of a built-in type is written in its display form. -/
theorem render_eq_display {tag : String} {v : Value} (h : HasType tag v) :
    Registry.standard.render tag v = .ok v.display := by
  have writes : ∀ spec ∈ Builtin.all, spec.render v = v.display →
      Registry.standard.render spec.tag v = .ok v.display := by
    intro spec member written
    rw [Registry.render_of_mem member, written]
  simp only [Builtin.all, List.forall_mem_cons] at writes
  obtain ⟨boolean, integer, float, text, range, partialRange, alignment, valignment, lineStyle,
    marker, color, dimension, point, alignedPoint, box, margins, -⟩ := writes
  cases h with
  | boolean b => exact boolean (by cases b <;> rfl)
  | integer n => exact integer rfl
  | float finite => exact float rfl
  | text s => exact text rfl
  | range first second => exact range rfl
  | partialRange first second => exact partialRange rfl
  | alignment named => exact alignment rfl
  | valignment named => exact valignment rfl
  | lineStyle named => exact lineStyle rfl
  | marker named => exact marker rfl
  | color inside => exact color rfl
  | dimension finite unit => exact dimension rfl
  | point finite => exact point rfl
  | alignedPoint finite vertical horizontal => exact alignedPoint rfl
  | box finite => exact box rfl
  | margins finite => exact margins rfl

/-- Rendering undoes coercion on everything that coercion produces: the rendered text
is read as the same value again, and is its own normal form. -/
theorem coerce_render_of_coerce {tag text : String} {v : Value} (known : tag ≠ "bijection")
    (read : Registry.standard.coerce tag text = .ok v) :
    ∃ s, Registry.standard.render tag v = .ok s ∧
      Registry.standard.coerce tag s = .ok v ∧
      Registry.standard.normalForm tag s = .ok s := by
  have typed := Value.hasType_of_coerce known read
  have written := render_eq_display typed
  have again := coerce_display typed
  refine ⟨v.display, written, again, ?_⟩
  rw [Registry.normalForm, again]
  exact written

theorem coerce_render_margins :
    let read := Value.margins (.ofRatio false 3 2) (.ofRatio false 3 2) (.ofInt 2) (.ofInt 2)
    Registry.standard.coerce "margins" " 1.50 ,2e0" = .ok read ∧
      ∃ s, Registry.standard.render "margins" read = .ok s ∧
        Registry.standard.coerce "margins" s = .ok read ∧
        Registry.standard.normalForm "margins" s = .ok s := by
  intro read
  have given : Registry.standard.coerce "margins" " 1.50 ,2e0" = .ok read := by
    decide +kernel
  exact ⟨given, coerce_render_of_coerce (by decide) given⟩

example : Registry.standard.normalForm "aligned-point" " tl : 0.10,9e-1" = .ok "tl:0.1,0.9" := by
  decide +kernel

end PlotScript
