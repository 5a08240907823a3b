import PlotScript.NameMap
import PlotScript.Proofs.Except

/-!
# Maps as lists

A map is what its own entries make when they are inserted in order. Reading the
values of a map keeps its names.
-/

namespace PlotScript.NameMap

variable {α β ε : Type}

/-- An entry whose name comes after all others goes to the end. -/
theorem insertEntry_of_all_before {name : String} {a : α} {l : List (String × α)}
    (before : ∀ p ∈ l, p.1 < name) : insertEntry name a l = l ++ [(name, a)] := by
  induction l with
  | nil => rfl
  | cons p rest ih =>
      obtain ⟨first, others⟩ := List.forall_mem_cons.1 before
      have notBefore : ¬ name < p.1 := fun h => String.lt_irrefl _ (String.lt_trans first h)
      have notSame : name ≠ p.1 := fun h => String.lt_irrefl _ (h ▸ first)
      rw [insertEntry, if_neg notBefore, if_neg notSame, ih others, List.cons_append]

/-- Entries in order that come after those of a map are put behind them. -/
theorem entries_foldl_insert {m : NameMap α} {l : List (String × α)}
    (sorted : (m.entries ++ l).Pairwise (·.1 < ·.1)) :
    (l.foldl (fun m p => m.insert p.1 p.2) m).entries = m.entries ++ l := by
  induction l generalizing m with
  | nil => simp
  | cons p rest ih =>
      have before : ∀ q ∈ m.entries, q.1 < p.1 := fun q hq =>
        (List.pairwise_append.1 sorted).2.2 q hq p List.mem_cons_self
      have inserted : (m.insert p.1 p.2).entries = m.entries ++ [p] :=
        insertEntry_of_all_before before
      rw [List.foldl_cons, ih (by rw [inserted]; simpa using sorted), inserted,
        List.append_assoc, List.singleton_append]

theorem ext_entries {m n : NameMap α} (h : m.entries = n.entries) : m = n := by
  cases m
  cases n
  subst h
  rfl

theorem entries_ofList {l : List (String × α)} (sorted : l.Pairwise (·.1 < ·.1)) :
    (ofList l).entries = l :=
  entries_foldl_insert (by simpa [empty] using sorted)

/-- A map is made of its own entries. -/
theorem ofList_entries (m : NameMap α) : ofList m.entries = m :=
  ext_entries (entries_ofList m.sorted)

/-- Of the entries that are inserted under a name the last one is kept. -/
theorem get?_foldl_insert (l : List (String × α)) (m : NameMap α) (name : String) :
    (l.foldl (fun m p => m.insert p.1 p.2) m).get? name =
      (l.reverse.lookup name).or (m.get? name) := by
  induction l generalizing m with
  | nil => rfl
  | cons p rest ih =>
      rw [List.foldl_cons, ih, get?_insert, List.reverse_cons, List.lookup_append, Option.or_assoc,
        lookup_cons_ite, List.lookup_nil]
      split
      · rfl
      · rw [Option.none_or]

theorem mem_of_get? {m : NameMap α} {name : String} {a : α} (h : m.get? name = some a) :
    (name, a) ∈ m.entries := by
  obtain ⟨before, behind, entries, -⟩ := List.lookup_eq_some_iff.1 h
  rw [entries]
  simp

theorem mem_entries_iff {m : NameMap α} {name : String} {a : α} :
    (name, a) ∈ m.entries ↔ m.get? name = some a := by
  refine ⟨fun member => ?_, mem_of_get?⟩
  obtain ⟨before, behind, entries⟩ := List.append_of_mem member
  refine List.lookup_eq_some_iff.2 ⟨before, behind, entries, fun p first => ?_⟩
  have sorted := m.sorted
  rw [entries] at sorted
  have less : p.1 < name := (List.pairwise_append.1 sorted).2.2 p first _ List.mem_cons_self
  rw [bne_iff_ne]
  rintro rfl
  exact String.lt_irrefl _ less

theorem nodup_entries (m : NameMap α) : m.entries.Nodup := by
  refine m.sorted.imp ?_
  rintro p q less rfl
  exact String.lt_irrefl _ less

/-- Equal look-ups make equal maps. -/
theorem ext_get? {m n : NameMap α} (h : ∀ name, m.get? name = n.get? name) : m = n := by
  have same : m.entries.Perm n.entries := by
    refine (List.perm_ext_iff_of_nodup m.nodup_entries n.nodup_entries).2 fun p => ?_
    rw [mem_entries_iff, mem_entries_iff, h]
  refine ext_entries (same.eq_of_pairwise (fun p q _ _ less more => ?_) m.sorted n.sorted)
  exact absurd (String.lt_trans less more) (String.lt_irrefl _)

/-! ## One map over another -/

/-- The entries of both maps. The second one gives the values of the names of both. -/
def override (m n : NameMap α) : NameMap α :=
  n.entries.foldl (fun m p => m.insert p.1 p.2) m

theorem get?_override (m n : NameMap α) (name : String) :
    (m.override n).get? name = (n.get? name).or (m.get? name) := by
  have own : n.get? name = n.entries.reverse.lookup name := by
    have made := get?_foldl_insert n.entries empty name
    rwa [get?_empty, Option.or_none, ← ofList, ofList_entries] at made
  rw [override, get?_foldl_insert, own]

theorem override_insert (m n : NameMap α) (name : String) (a : α) :
    m.override (n.insert name a) = (m.override n).insert name a := by
  refine ext_get? fun other => ?_
  rw [get?_override, get?_insert, get?_insert, get?_override]
  split
  · rfl
  · rfl

theorem override_empty (m : NameMap α) : m.override empty = m := rfl

/-! ## Maps of values -/

/-- The map of the same names with the values that a function gives. -/
def map (f : α → β) (m : NameMap α) : NameMap β where
  entries := m.entries.map fun p => (p.1, f p.2)
  sorted := List.pairwise_map.2 m.sorted

theorem names_eq_of_forall₂ {l : List (String × α)} {r : List (String × β)}
    (h : List.Forall₂ (fun p q => p.1 = q.1) l r) : l.map (·.1) = r.map (·.1) := by
  induction h with
  | nil => rfl
  | cons same _ ih => rw [List.map_cons, List.map_cons, same, ih]

/-- Reading the values of a map succeeds exactly when each is read, and keeps the
names. -/
theorem mapExcept_eq_ok_iff {f : String → α → Except ε β} {m : NameMap α} {n : NameMap β} :
    m.mapExcept f = .ok n ↔
      List.Forall₂ (fun p q => p.1 = q.1 ∧ f p.1 p.2 = .ok q.2) m.entries n.entries := by
  have entry : ∀ (p : String × α) (q : String × β),
      ((f p.1 p.2).map fun b => (p.1, b)) = .ok q ↔ p.1 = q.1 ∧ f p.1 p.2 = .ok q.2 := by
    rintro p ⟨name, b⟩
    cases f p.1 p.2 with
    | error e =>
        constructor
        · rintro ⟨⟩
        · rintro ⟨-, ⟨⟩⟩
    | ok a =>
        constructor
        · intro h
          obtain ⟨rfl, rfl⟩ := Prod.mk.inj (Except.ok.inj h)
          exact ⟨rfl, rfl⟩
        · rintro ⟨rfl, h⟩
          exact congrArg (fun b => Except.ok (p.1, b)) (Except.ok.inj h)
  constructor
  · intro h
    obtain ⟨l, read, rfl⟩ := exists_of_map_eq_ok h
    have each := (mapM_eq_ok_iff.1 read).imp fun p q => (entry p q).1
    -- the names are those of the map, so the new entries are in order already
    have sorted : l.Pairwise (·.1 < ·.1) := by
      rw [← List.pairwise_map (f := Prod.fst) (R := (· < ·)),
        ← names_eq_of_forall₂ (each.imp fun _ _ h => h.1), List.pairwise_map]
      exact m.sorted
    rw [entries_ofList sorted]
    exact each
  · intro h
    have read := mapM_eq_ok_iff.2 (h.imp fun p q => (entry p q).2)
    rw [mapExcept, read]
    exact congrArg Except.ok n.ofList_entries

end PlotScript.NameMap
