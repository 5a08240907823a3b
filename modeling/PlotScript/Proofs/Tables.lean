import PlotScript.Coercion.Registry
import PlotScript.Command.Table

/-!
# Look-up in tables

An entry of a table with distinct keys is found under its key.
-/

namespace PlotScript

/-- In a list without equal keys an entry is found under its own key. -/
theorem find?_key_of_mem {α κ : Type} [DecidableEq κ] (key : α → κ) {l : List α} {a : α}
    (distinct : (l.map key).Nodup) (member : a ∈ l) :
    l.find? (fun b => decide (key b = key a)) = some a := by
  induction l with
  | nil => cases member
  | cons b l ih =>
      obtain ⟨fresh, others⟩ := List.nodup_cons.1 distinct
      rcases List.mem_cons.1 member with rfl | member
      · simp
      · have different : key b ≠ key a :=
          fun same => fresh (List.mem_map.2 ⟨a, member, same.symm⟩)
        rw [List.find?_cons_of_neg (by simpa using different)]
        exact ih others member

/-- A command is reached by its name. -/
theorem CommandTable.get?_of_mem {t : CommandTable} {c : Command} (member : c ∈ t.commands) :
    t.get? c.name = some c :=
  find?_key_of_mem Command.name t.distinct member

/-- A type is reached by its tag. -/
theorem Registry.get?_of_mem {r : Registry} {spec : TypeSpec} (member : spec ∈ r.specs) :
    r.get? spec.tag = some spec :=
  find?_key_of_mem TypeSpec.tag r.distinct member

theorem Registry.coerce_of_mem {r : Registry} {spec : TypeSpec} (member : spec ∈ r.specs)
    (text : String) : r.coerce spec.tag text = spec.coerce text := by
  rw [coerce, get?_of_mem member]

theorem Registry.render_of_mem {r : Registry} {spec : TypeSpec} (member : spec ∈ r.specs)
    (v : Value) : r.render spec.tag v = .ok (spec.render v) := by
  rw [render, get?_of_mem member]

end PlotScript
