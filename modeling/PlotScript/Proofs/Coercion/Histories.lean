import PlotScript.Coercion.Builtin
import PlotScript.Proofs.Tables
import PlotScript.Proofs.NameMap

/-!
# Histories of a registry

A registry grows by requests: to register a type, to register one in any case, and to register
all built-in types. Whatever was requested and whatever failed, the registry is told by the
types that were accepted, in order. It lists every tag once, at the place of the first type
that was accepted for it, and the type that it has for the tag is the last one. A list of types
with an index of its own from tags to positions gives the same answers, and its index is never
wrong.
-/

namespace PlotScript

/-! ## Requests -/

/-- What a registry is asked to do. -/
inductive Registration where
  | register (spec : TypeSpec)
  | registerOrReplace (spec : TypeSpec)
  /-- registers the built-in types one after another, up to the first failure -/
  | registerBuiltins

/-- The types that a request gets accepted, where those of the log were accepted before. -/
def Registration.accepted (log : List TypeSpec) : Registration → List TypeSpec
  | register spec => if spec.tag ∈ log.map (·.tag) then [] else [spec]
  | registerOrReplace spec => [spec]
  | registerBuiltins => Builtin.all.takeWhile fun spec => spec.tag ∉ log.map (·.tag)

/-- All types that the requests of a history get accepted, in order. -/
def acceptedTypes (history : List Registration) : List TypeSpec :=
  history.foldl (fun log request => log ++ request.accepted log) []

namespace Registry

/-- Performs a request. A request that succeeds tells whether a type took the place of another
one. -/
def perform (r : Registry) : Registration → Registry × Except Cause Bool
  | .register spec =>
      match r.register spec with
      | .ok r' => (r', .ok false)
      | .error cause => (r, .error cause)
  | .registerOrReplace spec =>
      let (r', replaced) := r.registerOrReplace spec
      (r', .ok replaced)
  | .registerBuiltins =>
      let (r', outcome) := r.registerAll Builtin.all
      (r', outcome.map fun _ => false)

/-- The registry after a history that began without any type. -/
def after (history : List Registration) : Registry :=
  history.foldl (fun r request => (r.perform request).1) empty

/-- The registry lists what a log of accepted types tells. -/
structure Follows (r : Registry) (log : List TypeSpec) : Prop where
  distinct : r.tags.Nodup
  /-- Every tag is listed once, in the order in which the tags were accepted first. -/
  tags : r.tags = (log.map (·.tag)).eraseDups
  /-- The type of a tag is the one that was accepted last. -/
  latest : ∀ tag, r.get? tag = log.findRev? (·.tag = tag)
  /-- The listed types are those that are found under their tags. -/
  listed : r.specs.map some = r.tags.map r.get?
  found : ∀ tag spec, r.get? tag = some spec ↔ spec ∈ r.specs ∧ spec.tag = tag
  contains : ∀ tag, r.contains tag = true ↔ tag ∈ r.tags
  described : r.describe.map (·.1) = r.tags

/-- What a registry does with the next request. -/
structure Answers (r : Registry) : Prop where
  /-- A type of a listed tag is not registered, and nothing changes. -/
  refuses : ∀ spec, spec.tag ∈ r.tags →
    r.perform (.register spec) = (r, .error (.duplicateType spec.tag))
  /-- A type of another tag is put behind all others. -/
  adds : ∀ spec, spec.tag ∉ r.tags → ∀ request,
    request = .register spec ∨ request = .registerOrReplace spec →
      (r.perform request).2 = .ok false ∧ (r.perform request).1.specs = r.specs ++ [spec]
  /-- A type that is registered in any case is put at the position of its tag, and nothing else
  changes. -/
  replaces : ∀ spec slot, r.tags[slot]? = some spec.tag →
    (r.perform (.registerOrReplace spec)).2 = .ok true ∧
      (r.perform (.registerOrReplace spec)).1.specs = r.specs.set slot spec
  /-- The built-in types in front of the first one whose tag is listed are put behind all
  others. -/
  keeps : (r.perform .registerBuiltins).1.specs =
    r.specs ++ Builtin.all.takeWhile fun spec => spec.tag ∉ r.tags
  /-- Either no tag of a built-in type is listed, or the first one that is makes the request
  fail. -/
  answers : (r.perform .registerBuiltins).2 =
    match Builtin.all.find? fun spec => spec.tag ∈ r.tags with
    | none => .ok false
    | some spec => .error (.duplicateType spec.tag)
  succeeds : (r.perform .registerBuiltins).2.isOk = true ↔
    ∀ spec ∈ Builtin.all, spec.tag ∉ r.tags

end Registry

/-! ## Types with an index -/

/-- A list of types beside an index from their tags to their positions. Nothing keeps the two
together but the operations. -/
structure IndexedTypes where
  specs : List TypeSpec
  slots : NameMap Nat

namespace IndexedTypes

def empty : IndexedTypes :=
  ⟨[], NameMap.empty⟩

/-- A type put behind all others. -/
def push (t : IndexedTypes) (spec : TypeSpec) : IndexedTypes :=
  ⟨t.specs ++ [spec], t.slots.insert spec.tag t.specs.length⟩

def register (t : IndexedTypes) (spec : TypeSpec) : Except Cause IndexedTypes :=
  if t.slots.contains spec.tag then .error (.duplicateType spec.tag) else .ok (t.push spec)

def registerOrReplace (t : IndexedTypes) (spec : TypeSpec) : IndexedTypes × Bool :=
  match t.slots.get? spec.tag with
  | some slot => ({ t with specs := t.specs.set slot spec }, true)
  | none => (t.push spec, false)

def registerAll (t : IndexedTypes) : List TypeSpec → IndexedTypes × Except Cause Unit
  | [] => (t, .ok ())
  | spec :: rest =>
      match t.register spec with
      | .ok t' => t'.registerAll rest
      | .error cause => (t, .error cause)

/-- The type at the position of a tag. -/
def get? (t : IndexedTypes) (tag : String) : Option TypeSpec :=
  (t.slots.get? tag).bind (t.specs[·]?)

def contains (t : IndexedTypes) (tag : String) : Bool :=
  t.slots.contains tag

def perform (t : IndexedTypes) : Registration → IndexedTypes × Except Cause Bool
  | .register spec =>
      match t.register spec with
      | .ok t' => (t', .ok false)
      | .error cause => (t, .error cause)
  | .registerOrReplace spec =>
      let (t', replaced) := t.registerOrReplace spec
      (t', .ok replaced)
  | .registerBuiltins =>
      let (t', outcome) := t.registerAll Builtin.all
      (t', outcome.map fun _ => false)

def after (history : List Registration) : IndexedTypes :=
  history.foldl (fun t request => (t.perform request).1) empty

/-- Both list the same types, and the index has the position of every tag and no other. -/
structure Represents (t : IndexedTypes) (r : Registry) : Prop where
  specs : t.specs = r.specs
  slots : ∀ tag slot, t.slots.get? tag = some slot ↔ r.tags[slot]? = some tag

/-- Whatever one of them is asked, the other answers the same. -/
structure Mirrors (t : IndexedTypes) (r : Registry) : Prop extends t.Represents r where
  distinct : (t.specs.map (·.tag)).Nodup
  get? : ∀ tag, t.get? tag = r.get? tag
  contains : ∀ tag, t.contains tag = r.contains tag
  answers : ∀ request, (t.perform request).2 = (r.perform request).2

end IndexedTypes

/-! ## Lists with one more name -/

theorem eraseDups_concat (names : List String) (name : String) :
    (names ++ [name]).eraseDups =
      if name ∈ names then names.eraseDups else names.eraseDups ++ [name] := by
  rw [List.eraseDups_append, List.removeAll, List.filter_singleton]
  by_cases old : name ∈ names
  · simp [old]
  · simp [old, List.eraseDups_cons]

theorem getElem?_concat_eq_some_iff {names : List String} {last name : String} {i : Nat} :
    (names ++ [last])[i]? = some name ↔
      names[i]? = some name ∨ i = names.length ∧ last = name := by
  rcases Nat.lt_trichotomy i names.length with inside | rfl | outside
  · simp [List.getElem?_append_left inside, Nat.ne_of_lt inside]
  · simp
  · have beyond : (names ++ [last]).length ≤ i := by
      rw [List.length_append, List.length_singleton]
      exact outside
    simp [List.getElem?_eq_none beyond, List.getElem?_eq_none (Nat.le_of_lt outside),
      Nat.ne_of_gt outside]

/-! ## One request -/

namespace Registry

variable {r : Registry} {spec : TypeSpec} {log : List TypeSpec}

theorem tags_push (fresh : spec.tag ∉ r.tags) :
    (r.push spec fresh).tags = r.tags ++ [spec.tag] := by
  rw [tags, tags, push, List.map_append]
  rfl

theorem tags_swap : (r.swap spec).tags = r.tags := by
  rw [tags, tags, swap, List.map_map]
  refine List.map_congr_left fun old _ => ?_
  by_cases same : old.tag = spec.tag
  · simp [same]
  · simp [same]

/-- The types of other tags stay, and the one of the tag is replaced where it is. -/
theorem specs_swap {slot : Nat} (position : r.tags[slot]? = some spec.tag) :
    (r.swap spec).specs = r.specs.set slot spec := by
  obtain ⟨old, atSlot, same⟩ := Option.map_eq_some_iff.1 (List.getElem?_map .. ▸ position)
  refine List.ext_getElem? fun i => ?_
  rw [swap, List.getElem?_map, List.getElem?_set]
  obtain ⟨inside, -⟩ := List.getElem?_eq_some_iff.1 atSlot
  split
  · rename_i here
    subst here
    rw [atSlot, Option.map_some, if_pos same]
  · rename_i elsewhere
    cases atI : r.specs[i]? with
    | none => rfl
    | some other =>
        have different : other.tag ≠ spec.tag := by
          intro again
          have equal : r.tags[slot]? = r.tags[i]? := by
            rw [position, tags, List.getElem?_map, atI, Option.map_some, again]
          exact elsewhere ((List.getElem?_inj (by simpa [tags] using inside) r.distinct).1 equal)
        rw [Option.map_some, if_neg different]

theorem contains_iff {tag : String} : r.contains tag = true ↔ tag ∈ r.tags := by
  rw [contains, List.any_eq_true, tags, List.mem_map]
  simp

theorem get?_eq_none {tag : String} (fresh : tag ∉ r.tags) : r.get? tag = none := by
  refine List.find?_eq_none.2 fun other member => ?_
  simpa using fun same => fresh (List.mem_map.2 ⟨other, member, same⟩)

theorem get?_push (fresh : spec.tag ∉ r.tags) (tag : String) :
    (r.push spec fresh).get? tag = if spec.tag = tag then some spec else r.get? tag := by
  rw [get?, push, List.find?_append]
  split
  · rename_i same
    subst same
    have none : r.specs.find? (·.tag = spec.tag) = none := get?_eq_none fresh
    rw [none]
    simp
  · rename_i different
    simp [different, get?]

theorem get?_swap (known : spec.tag ∈ r.tags) (tag : String) :
    (r.swap spec).get? tag = if spec.tag = tag then some spec else r.get? tag := by
  have unchanged : ((fun other : TypeSpec => decide (other.tag = tag)) ∘ fun old =>
      if old.tag = spec.tag then spec else old) = fun other => decide (other.tag = tag) := by
    funext old
    by_cases same : old.tag = spec.tag
    · simp [same]
    · simp [same]
  rw [get?, swap, List.find?_map, unchanged]
  split
  · rename_i same
    subst same
    obtain ⟨old, member, same⟩ := List.mem_map.1 known
    have found : r.specs.find? (·.tag = spec.tag) = some old := same ▸ get?_of_mem member
    rw [found, Option.map_some, if_pos same]
  · rename_i different
    cases found : r.specs.find? (·.tag = tag) with
    | none => rw [get?, found, Option.map_none]
    | some old =>
        have same : old.tag = tag := by simpa using List.find?_some found
        rw [get?, found, Option.map_some, if_neg fun again => different (again.symm.trans same)]

theorem register_of_mem (known : spec.tag ∈ r.tags) :
    r.register spec = .error (.duplicateType spec.tag) :=
  dif_pos known

theorem register_of_not_mem (fresh : spec.tag ∉ r.tags) :
    r.register spec = .ok (r.push spec fresh) :=
  dif_neg fresh

/-- A type that is put behind the others does not make the tags of different types known. -/
theorem mem_tags_push_iff {rest : List TypeSpec} {known : List String}
    (fresh : spec.tag ∉ r.tags) (first : spec.tag ∉ rest.map (·.tag))
    (same : ∀ other ∈ rest, other.tag ∈ r.tags ↔ other.tag ∈ known) :
    ∀ other ∈ rest, other.tag ∈ (r.push spec fresh).tags ↔ other.tag ∈ known := by
  intro other member
  have different : other.tag ≠ spec.tag :=
    fun equal => first (List.mem_map.2 ⟨other, member, equal⟩)
  rw [tags_push, List.mem_append, List.mem_singleton, or_iff_left different, same other member]

/-- Types of different tags are registered up to the first one whose tag is known. The tags that
are known need not be those of the registry, as long as they tell the same about the types. -/
theorem registerAll_eq {specs : List TypeSpec} {known : List String}
    (distinct : (specs.map (·.tag)).Nodup)
    (same : ∀ spec ∈ specs, spec.tag ∈ r.tags ↔ spec.tag ∈ known) :
    (r.registerAll specs).1.specs = r.specs ++ specs.takeWhile (fun spec => spec.tag ∉ known) ∧
      (r.registerAll specs).2 =
        match specs.find? fun spec => spec.tag ∈ known with
        | none => .ok ()
        | some spec => .error (.duplicateType spec.tag) := by
  induction specs generalizing r with
  | nil => exact ⟨(List.append_nil _).symm, rfl⟩
  | cons spec rest ih =>
      obtain ⟨first, others⟩ := List.nodup_cons.1 distinct
      obtain ⟨here, behind⟩ := List.forall_mem_cons.1 same
      by_cases listed : spec.tag ∈ r.tags
      · have isKnown := here.1 listed
        rw [registerAll, register_of_mem listed]
        simp [isKnown]
      · have notKnown : spec.tag ∉ known := fun h => listed (here.2 h)
        obtain ⟨all, answer⟩ := ih others (mem_tags_push_iff listed first behind)
        rw [registerAll, register_of_not_mem listed]
        simp only
        rw [all, answer, push]
        simp [notKnown]

theorem nodup_builtins : (Builtin.all.map (·.tag)).Nodup :=
  standard.distinct

theorem answer_builtins (r : Registry) :
    (r.perform .registerBuiltins).2 =
      match Builtin.all.find? fun spec => spec.tag ∈ r.tags with
      | none => .ok false
      | some spec => .error (.duplicateType spec.tag) := by
  have answer := (registerAll_eq (r := r) nodup_builtins fun _ _ => Iff.rfl).2
  rw [perform]
  simp only
  rw [answer]
  cases Builtin.all.find? fun spec => spec.tag ∈ r.tags with
  | none => rfl
  | some spec => rfl

theorem answers (r : Registry) : r.Answers where
  refuses spec known := by
    rw [perform, register_of_mem known]
  adds spec fresh request either := by
    rcases either with rfl | rfl
    · rw [perform, register_of_not_mem fresh]
      exact ⟨rfl, rfl⟩
    · rw [perform, registerOrReplace, dif_neg fresh]
      exact ⟨rfl, rfl⟩
  replaces spec slot position := by
    rw [perform, registerOrReplace, dif_pos (List.mem_of_getElem? position)]
    exact ⟨rfl, specs_swap position⟩
  keeps := (registerAll_eq nodup_builtins fun _ _ => Iff.rfl).1
  answers := r.answer_builtins
  succeeds := by
    rw [answer_builtins]
    cases found : Builtin.all.find? fun spec => spec.tag ∈ r.tags with
    | none => simpa [Except.isOk, Except.toBool] using List.find?_eq_none.1 found
    | some spec =>
        have listed : spec.tag ∈ r.tags := by simpa using List.find?_some found
        simpa [Except.isOk, Except.toBool] using ⟨spec, List.mem_of_find?_eq_some found, listed⟩

/-! ## A log of accepted types -/

/-- What has to be kept of a log: the tags and the last type of each. -/
structure Recalls (r : Registry) (log : List TypeSpec) : Prop where
  tags : r.tags = (log.map (·.tag)).eraseDups
  latest : ∀ tag, r.get? tag = log.findRev? (·.tag = tag)

theorem Recalls.mem_tags (h : r.Recalls log) {tag : String} :
    tag ∈ r.tags ↔ tag ∈ log.map (·.tag) := by
  rw [h.tags, List.mem_eraseDups]

theorem findRev?_concat (tag : String) :
    (log ++ [spec]).findRev? (·.tag = tag) =
      if spec.tag = tag then some spec else log.findRev? (·.tag = tag) := by
  rw [List.findRev?_eq_find?_reverse, List.findRev?_eq_find?_reverse, List.reverse_concat,
    List.find?_cons]
  by_cases same : spec.tag = tag
  · simp [same]
  · simp [same]

theorem Recalls.push (h : r.Recalls log) (fresh : spec.tag ∉ r.tags) :
    (r.push spec fresh).Recalls (log ++ [spec]) where
  tags := by
    have new : spec.tag ∉ log.map (·.tag) := fun member => fresh (h.mem_tags.2 member)
    rw [tags_push, h.tags, List.map_append, List.map_singleton, eraseDups_concat, if_neg new]
  latest tag := by
    rw [findRev?_concat, ← h.latest, get?_push]

theorem Recalls.swap (h : r.Recalls log) (known : spec.tag ∈ r.tags) :
    (r.swap spec).Recalls (log ++ [spec]) where
  tags := by
    have old : spec.tag ∈ log.map (·.tag) := h.mem_tags.1 known
    rw [tags_swap, h.tags, List.map_append, List.map_singleton, eraseDups_concat, if_pos old]
  latest tag := by
    rw [findRev?_concat, ← h.latest, get?_swap known]

/-- Types that are registered one after another are accepted up to the first one whose tag the
log has. -/
theorem Recalls.registerAll {specs : List TypeSpec} {known : List String} (h : r.Recalls log)
    (distinct : (specs.map (·.tag)).Nodup)
    (same : ∀ spec ∈ specs, spec.tag ∈ r.tags ↔ spec.tag ∈ known) :
    (r.registerAll specs).1.Recalls (log ++ specs.takeWhile fun spec => spec.tag ∉ known) := by
  induction specs generalizing r log with
  | nil => rwa [List.takeWhile_nil, List.append_nil]
  | cons spec rest ih =>
      obtain ⟨first, others⟩ := List.nodup_cons.1 distinct
      obtain ⟨here, behind⟩ := List.forall_mem_cons.1 same
      by_cases listed : spec.tag ∈ r.tags
      · rw [Registry.registerAll, register_of_mem listed]
        simpa [here.1 listed] using h
      · have notKnown : spec.tag ∉ known := fun h => listed (here.2 h)
        have pushed := ih (h.push listed) others (mem_tags_push_iff listed first behind)
        rw [Registry.registerAll, register_of_not_mem listed]
        simpa [notKnown] using pushed

/-- The types that a request gets accepted go to the end of the log. -/
theorem Recalls.perform (h : r.Recalls log) (request : Registration) :
    (r.perform request).1.Recalls (log ++ request.accepted log) := by
  cases request with
  | register spec =>
      rw [Registration.accepted, Registry.perform]
      by_cases known : spec.tag ∈ r.tags
      · rw [register_of_mem known, if_pos (h.mem_tags.1 known), List.append_nil]
        exact h
      · rw [register_of_not_mem known, if_neg fun member => known (h.mem_tags.2 member)]
        exact h.push known
  | registerOrReplace spec =>
      rw [Registration.accepted, Registry.perform, registerOrReplace]
      by_cases known : spec.tag ∈ r.tags
      · rw [dif_pos known]
        exact h.swap known
      · rw [dif_neg known]
        exact h.push known
  | registerBuiltins => exact h.registerAll nodup_builtins fun _ _ => h.mem_tags

theorem recalls_empty : empty.Recalls [] :=
  ⟨rfl, fun _ => rfl⟩

/-- Going through a history, the registry and the log stay together. -/
theorem Recalls.foldl (h : r.Recalls log) (history : List Registration) :
    (history.foldl (fun r request => (r.perform request).1) r).Recalls
      (history.foldl (fun log request => log ++ request.accepted log) log) := by
  induction history generalizing r log with
  | nil => exact h
  | cons request rest ih => exact ih (h.perform request)

theorem Recalls.follows (h : r.Recalls log) : r.Follows log where
  distinct := r.distinct
  tags := h.tags
  latest := h.latest
  listed := by
    rw [Registry.tags, List.map_map]
    exact List.map_congr_left fun spec member => (get?_of_mem member).symm
  found tag spec := by
    constructor
    · intro found
      exact ⟨List.mem_of_find?_eq_some found, by simpa using List.find?_some found⟩
    · rintro ⟨member, rfl⟩
      exact get?_of_mem member
  contains tag := contains_iff
  described := by
    rw [describe, List.map_map]
    rfl

end Registry

/-! ## The index -/

namespace IndexedTypes

variable {t : IndexedTypes} {r : Registry} {spec : TypeSpec}

namespace Represents

theorem contains_slots (h : t.Represents r) (tag : String) :
    t.slots.contains tag = true ↔ tag ∈ r.tags := by
  rw [NameMap.contains, Option.isSome_iff_exists, List.mem_iff_getElem?]
  exact exists_congr fun slot => h.slots tag slot

theorem push (h : t.Represents r) (fresh : spec.tag ∉ r.tags) :
    (t.push spec).Represents (r.push spec fresh) where
  specs := by rw [IndexedTypes.push, h.specs, Registry.push]
  slots tag slot := by
    have size : r.tags.length = t.specs.length := by rw [h.specs, Registry.tags, List.length_map]
    rw [IndexedTypes.push, NameMap.get?_insert, Registry.tags_push, getElem?_concat_eq_some_iff,
      size]
    split
    · rename_i same
      subst same
      have nowhere : r.tags[slot]? ≠ some spec.tag := fun found =>
        fresh (List.mem_of_getElem? found)
      rw [or_iff_right nowhere, and_iff_left rfl, Option.some_inj, eq_comm]
    · rename_i different
      rw [h.slots, or_iff_left fun last => different last.2.symm]

theorem register_of_mem (h : t.Represents r) (known : spec.tag ∈ r.tags) :
    t.register spec = .error (.duplicateType spec.tag) :=
  if_pos ((h.contains_slots spec.tag).2 known)

theorem register_of_not_mem (h : t.Represents r) (fresh : spec.tag ∉ r.tags) :
    t.register spec = .ok (t.push spec) :=
  if_neg fun listed => fresh ((h.contains_slots spec.tag).1 listed)

theorem registerAll (h : t.Represents r) (specs : List TypeSpec) :
    (t.registerAll specs).1.Represents (r.registerAll specs).1 ∧
      (t.registerAll specs).2 = (r.registerAll specs).2 := by
  induction specs generalizing t r with
  | nil => exact ⟨h, rfl⟩
  | cons spec rest ih =>
      rw [IndexedTypes.registerAll, Registry.registerAll]
      by_cases known : spec.tag ∈ r.tags
      · rw [h.register_of_mem known, Registry.register_of_mem known]
        exact ⟨h, rfl⟩
      · rw [h.register_of_not_mem known, Registry.register_of_not_mem known]
        exact ih (h.push known)

theorem registerOrReplace (h : t.Represents r) (spec : TypeSpec) :
    (t.registerOrReplace spec).1.Represents (r.registerOrReplace spec).1 ∧
      (t.registerOrReplace spec).2 = (r.registerOrReplace spec).2 := by
  rw [IndexedTypes.registerOrReplace, Registry.registerOrReplace]
  cases found : t.slots.get? spec.tag with
  | none =>
      have fresh : spec.tag ∉ r.tags := by
        intro known
        rw [← h.contains_slots, NameMap.contains, found] at known
        cases known
      rw [dif_neg fresh]
      exact ⟨h.push fresh, rfl⟩
  | some slot =>
      have position := (h.slots spec.tag slot).1 found
      rw [dif_pos (List.mem_of_getElem? position)]
      refine ⟨⟨?_, fun tag other => ?_⟩, rfl⟩
      · rw [Registry.specs_swap position, h.specs]
      · rw [Registry.tags_swap, h.slots]

/-- A request keeps the two together and gets one answer from both. -/
theorem perform (h : t.Represents r) (request : Registration) :
    (t.perform request).1.Represents (r.perform request).1 ∧
      (t.perform request).2 = (r.perform request).2 := by
  cases request with
  | register spec =>
      rw [IndexedTypes.perform, Registry.perform]
      by_cases known : spec.tag ∈ r.tags
      · rw [h.register_of_mem known, Registry.register_of_mem known]
        exact ⟨h, rfl⟩
      · rw [h.register_of_not_mem known, Registry.register_of_not_mem known]
        exact ⟨h.push known, rfl⟩
  | registerOrReplace spec =>
      obtain ⟨represents, answer⟩ := h.registerOrReplace spec
      exact ⟨represents, congrArg Except.ok answer⟩
  | registerBuiltins =>
      obtain ⟨represents, answer⟩ := h.registerAll Builtin.all
      exact ⟨represents, congrArg (Except.map fun _ => false) answer⟩

theorem empty : IndexedTypes.empty.Represents Registry.empty :=
  ⟨rfl, fun _ _ => by simp [IndexedTypes.empty, Registry.empty, Registry.tags]⟩

theorem foldl (h : t.Represents r) (history : List Registration) :
    (history.foldl (fun t request => (t.perform request).1) t).Represents
      (history.foldl (fun r request => (r.perform request).1) r) := by
  induction history generalizing t r with
  | nil => exact h
  | cons request rest ih => exact ih (h.perform request).1

theorem get?_eq (h : t.Represents r) (tag : String) : t.get? tag = r.get? tag := by
  rw [IndexedTypes.get?]
  cases found : t.slots.get? tag with
  | none =>
      have fresh : tag ∉ r.tags := by
        rw [← h.contains_slots, NameMap.contains, found]
        exact nofun
      rw [Registry.get?_eq_none fresh, Option.bind_none]
  | some slot =>
      have position := (h.slots tag slot).1 found
      rw [Registry.tags, List.getElem?_map] at position
      obtain ⟨spec, atSlot, rfl⟩ := Option.map_eq_some_iff.1 position
      rw [Registry.get?_of_mem (List.mem_of_getElem? atSlot), Option.bind_some, h.specs, atSlot]

theorem mirrors (h : t.Represents r) : t.Mirrors r where
  toRepresents := h
  distinct := h.specs ▸ r.distinct
  get? := h.get?_eq
  contains tag := by
    rw [Bool.eq_iff_iff, IndexedTypes.contains, h.contains_slots, Registry.contains_iff]
  answers request := (h.perform request).2

end Represents

end IndexedTypes

/-! ## Histories -/

/-- After any history, requests that failed included, the registry lists every tag that was
accepted once and in the order in which the tags came first, it has the last type that was
accepted for each of them, and the next request does to it what it should. A list of types with
an index from tags to positions goes through the same history with the same answers, and its
index has the position of every tag. -/
theorem Registry.after_history (history : List Registration) :
    (Registry.after history).Follows (acceptedTypes history) ∧
      (Registry.after history).Answers ∧
      (IndexedTypes.after history).Mirrors (Registry.after history) :=
  ⟨(Registry.recalls_empty.foldl history).follows, Registry.answers _,
    (IndexedTypes.Represents.empty.foldl history).mirrors⟩

/-- The built-in types are registered up to the one whose tag was there. -/
example :
    (Registry.after [.register { tag := "float", coder := Coder.text }, .registerBuiltins]).tags =
      ["float", "boolean", "integer"] := by
  rfl

end PlotScript
