import Mathlib.Data.List.Forall2

/-!
# Computations that may fail

What follows from the success of a computation that is made of others.
-/

namespace PlotScript

variable {α β ε : Type}

theorem exists_of_bind_eq_ok {x : Except ε α} {f : α → Except ε β} {b : β}
    (h : x >>= f = .ok b) : ∃ a, x = .ok a ∧ f a = .ok b := by
  cases x with
  | error e => cases h
  | ok a => exact ⟨a, rfl, h⟩

theorem error_of_bind_eq_error {x : Except ε α} {f : α → Except ε β} {e : ε}
    (h : x >>= f = .error e) : x = .error e ∨ ∃ a, x = .ok a ∧ f a = .error e := by
  cases x with
  | error other =>
      obtain rfl := Except.error.inj h
      exact .inl rfl
  | ok a => exact .inr ⟨a, rfl, h⟩

theorem exists_of_map_eq_ok {x : Except ε α} {f : α → β} {b : β} (h : x.map f = .ok b) :
    ∃ a, x = .ok a ∧ f a = b := by
  cases x with
  | error e => cases h
  | ok a => exact ⟨a, rfl, Except.ok.inj h⟩

theorem error_of_map_eq_error {x : Except ε α} {f : α → β} {e : ε} (h : x.map f = .error e) :
    x = .error e := by
  cases x with
  | error other =>
      obtain rfl := Except.error.inj h
      rfl
  | ok a => cases h

theorem mapError_eq_ok_iff {δ : Type} {x : Except ε α} {f : ε → δ} {a : α} :
    x.mapError f = .ok a ↔ x = .ok a := by
  cases x with
  | error e =>
      constructor
      · rintro ⟨⟩
      · rintro ⟨⟩
  | ok b =>
      constructor
      · rintro ⟨⟩
        rfl
      · rintro ⟨⟩
        rfl

/-- Values and errors are changed apart from each other. -/
theorem map_mapError {δ : Type} (x : Except ε α) (f : α → β) (g : ε → δ) :
    (x.mapError g).map f = (x.map f).mapError g := by
  cases x with
  | error e => rfl
  | ok a => rfl

variable {f : α → Except ε β}

/-- All computations of a list succeed exactly when each one does. -/
theorem mapM_eq_ok_iff {l : List α} {results : List β} :
    l.mapM f = .ok results ↔ List.Forall₂ (fun a b => f a = .ok b) l results := by
  induction l generalizing results with
  | nil =>
      constructor
      · intro h
        obtain rfl : [] = results := Except.ok.inj h
        exact .nil
      · rintro ⟨⟩
        rfl
  | cons a rest ih =>
      rw [List.mapM_cons]
      constructor
      · intro h
        cases first : f a with
        | error e =>
            rw [first] at h
            cases h
        | ok b =>
            cases others : rest.mapM f with
            | error e =>
                rw [first, others] at h
                cases h
            | ok bs =>
                rw [first, others] at h
                obtain rfl : b :: bs = results := Except.ok.inj h
                exact .cons first (ih.1 others)
      · rintro (_ | ⟨first, others⟩)
        rw [first, ih.2 others]
        rfl

/-- The failure of a list of computations is the failure of one of them. -/
theorem exists_mem_of_mapM_eq_error {l : List α} {e : ε} (h : l.mapM f = .error e) :
    ∃ a ∈ l, f a = .error e := by
  induction l with
  | nil => cases h
  | cons a rest ih =>
      rw [List.mapM_cons] at h
      rcases error_of_bind_eq_error h with first | ⟨b, -, h⟩
      · exact ⟨a, List.mem_cons_self, first⟩
      · rcases error_of_bind_eq_error h with others | ⟨bs, -, ⟨⟩⟩
        obtain ⟨c, member, failed⟩ := ih others
        exact ⟨c, List.mem_cons_of_mem a member, failed⟩

end PlotScript
