import PlotScript.Coercion.TypeSpec

/-!
# The registry of types

Types in the order in which they were first registered, at most one for each
tag.
-/

namespace PlotScript

/-- A table of types. No two types have the same tag. -/
structure Registry where
  specs : List TypeSpec
  distinct : (specs.map (·.tag)).Nodup := by simp

namespace Registry

def empty : Registry :=
  ⟨[], by simp⟩

/-- The type of a tag. -/
def get? (r : Registry) (tag : String) : Option TypeSpec :=
  r.specs.find? (·.tag = tag)

def contains (r : Registry) (tag : String) : Bool :=
  r.specs.any (·.tag = tag)

def size (r : Registry) : Nat :=
  r.specs.length

/-- The tags in the order of the types. -/
def tags (r : Registry) : List String :=
  r.specs.map (·.tag)

/-- A type put behind all others. -/
def push (r : Registry) (spec : TypeSpec) (h : spec.tag ∉ r.tags) : Registry :=
  ⟨r.specs ++ [spec], by
    rw [List.map_append, List.nodup_append]
    refine ⟨r.distinct, by simp, ?_⟩
    intro a ha b hb
    simp only [List.map_cons, List.map_nil, List.mem_singleton] at hb
    rintro rfl
    exact h (hb ▸ ha)⟩

/-- A type put in the place of the one with its tag. -/
def swap (r : Registry) (spec : TypeSpec) : Registry :=
  ⟨r.specs.map fun old => if old.tag = spec.tag then spec else old, by
    have same : (r.specs.map fun old => if old.tag = spec.tag then spec else old).map
        (·.tag) = r.specs.map (·.tag) := by
      rw [List.map_map]
      refine List.map_congr_left fun old _ => ?_
      by_cases h : old.tag = spec.tag <;> simp [h]
    rw [same]
    exact r.distinct⟩

/-- Registers a type under a tag that is still free. -/
def register (r : Registry) (spec : TypeSpec) : Except Cause Registry :=
  if h : spec.tag ∈ r.tags then .error (.duplicateType spec.tag)
  else .ok (r.push spec h)

/-- Registers a type in any case, and tells whether it took the place of
another one. -/
def registerOrReplace (r : Registry) (spec : TypeSpec) : Registry × Bool :=
  if h : spec.tag ∈ r.tags then (r.swap spec, true) else (r.push spec h, false)

/-- Registers types one after another up to the first failure. The registry
keeps those that were accepted. -/
def registerAll (r : Registry) : List TypeSpec → Registry × Except Cause Unit
  | [] => (r, .ok ())
  | spec :: rest =>
      match r.register spec with
      | .ok r' => r'.registerAll rest
      | .error cause => (r, .error cause)

/-- Reads a text under the type of a tag. -/
def coerce (r : Registry) (tag text : String) : Except Cause Value :=
  match r.get? tag with
  | some spec => spec.coerce text
  | none => .error (.unknownType tag)

/-- Writes a value under the type of a tag. -/
def render (r : Registry) (tag : String) (v : Value) : Except Cause String :=
  match r.get? tag with
  | some spec => .ok (spec.render v)
  | none => .error (.unknownType tag)

/-- Whether a tag names the type of switches. -/
def isBoolean (tag : String) : Bool :=
  tag = "boolean"

/-- Tag, display name and description of every type. -/
def describe (r : Registry) : List (String × String × String) :=
  r.specs.map fun spec => (spec.tag, spec.name, spec.description.getD "")

end Registry

end PlotScript
