/-!
# Maps from names

Finite maps whose keys are names, kept in increasing order of the keys. Equal
look-ups make equal maps.
-/

namespace PlotScript

/-- A finite map as the list of its entries. -/
structure NameMap (α : Type) where
  entries : List (String × α)
  sorted : entries.Pairwise (·.1 < ·.1)
  deriving DecidableEq

namespace NameMap

variable {α β : Type}

/-- The entries with one more at its place, which takes the place of an entry of
the same name. -/
def insertEntry (name : String) (a : α) : List (String × α) → List (String × α)
  | [] => [(name, a)]
  | (other, b) :: rest =>
      if name < other then (name, a) :: (other, b) :: rest
      else if name = other then (name, a) :: rest
      else (other, b) :: insertEntry name a rest

theorem mem_insertEntry {name : String} {a : α} {p : String × α} {l : List (String × α)}
    (h : p ∈ insertEntry name a l) : p = (name, a) ∨ p ∈ l := by
  induction l with
  | nil => simpa [insertEntry] using h
  | cons q rest ih =>
      obtain ⟨other, b⟩ := q
      unfold insertEntry at h
      split at h
      · simpa using h
      · split at h
        · rcases List.mem_cons.1 h with h | h
          · exact .inl h
          · exact .inr (List.mem_cons_of_mem _ h)
        · rcases List.mem_cons.1 h with h | h
          · exact .inr (h ▸ List.mem_cons_self)
          · exact (ih h).imp id (List.mem_cons_of_mem _)

theorem sorted_insertEntry (name : String) (a : α) {l : List (String × α)}
    (h : l.Pairwise (·.1 < ·.1)) : (insertEntry name a l).Pairwise (·.1 < ·.1) := by
  induction l with
  | nil => simp [insertEntry]
  | cons q rest ih =>
      obtain ⟨other, b⟩ := q
      obtain ⟨first, tail⟩ := List.pairwise_cons.1 h
      unfold insertEntry
      split
      · rename_i before
        refine List.pairwise_cons.2 ⟨fun p hp => ?_, h⟩
        rcases List.mem_cons.1 hp with rfl | hp
        · exact before
        · exact String.lt_trans before (first p hp)
      · split
        · rename_i same
          subst same
          exact List.pairwise_cons.2 ⟨first, tail⟩
        · rename_i notBefore notSame
          refine List.pairwise_cons.2 ⟨fun p hp => ?_, ih tail⟩
          rcases mem_insertEntry hp with rfl | hp
          · rcases String.le_total other name with le | le
            · exact Decidable.byContradiction fun notAfter =>
                notSame (String.le_antisymm (String.not_lt.1 notAfter) le)
            · exact absurd (String.le_antisymm le (String.not_lt.1 notBefore)) notSame
          · exact first p hp

def empty : NameMap α :=
  ⟨[], .nil⟩

/-- The map with one more entry, or with another value for a name that it has. -/
def insert (m : NameMap α) (name : String) (a : α) : NameMap α :=
  ⟨insertEntry name a m.entries, sorted_insertEntry name a m.sorted⟩

/-- Entries inserted one after another, so that the last of a name stays. -/
def ofList (entries : List (String × α)) : NameMap α :=
  entries.foldl (fun m p => m.insert p.1 p.2) empty

/-- The value of a name. -/
def get? (m : NameMap α) (name : String) : Option α :=
  m.entries.lookup name

def contains (m : NameMap α) (name : String) : Bool :=
  (m.get? name).isSome

def size (m : NameMap α) : Nat :=
  m.entries.length

/-- The same names with the values that a function gives them, or its first
failure in the order of the names. -/
def mapExcept {ε : Type} (f : String → α → Except ε β) (m : NameMap α) :
    Except ε (NameMap β) :=
  (m.entries.mapM fun p => (f p.1 p.2).map fun b => (p.1, b)).map ofList

@[simp] theorem get?_empty (name : String) : (empty : NameMap α).get? name = none := rfl

theorem lookup_cons_ite (name key : String) (a : α) (l : List (String × α)) :
    ((key, a) :: l).lookup name = if name = key then some a else l.lookup name := by
  by_cases h : name = key
  · simp [h]
  · have : (name == key) = false := by simpa using h
    simp [List.lookup_cons, this, h]

theorem lookup_insertEntry (name other : String) (a : α) (l : List (String × α)) :
    (insertEntry name a l).lookup other = if other = name then some a else l.lookup other := by
  induction l with
  | nil => simp [insertEntry, lookup_cons_ite]
  | cons q rest ih =>
      obtain ⟨key, b⟩ := q
      unfold insertEntry
      split
      · rw [lookup_cons_ite]
      · split
        · rename_i same
          subst same
          simp only [lookup_cons_ite]
          split <;> rfl
        · rename_i notSame
          simp only [lookup_cons_ite, ih]
          by_cases h : other = name
          · subst h
            simp [notSame]
          · simp [h]

theorem get?_insert (m : NameMap α) (name other : String) (a : α) :
    (m.insert name a).get? other = if other = name then some a else m.get? other :=
  lookup_insertEntry name other a m.entries

end NameMap

end PlotScript
