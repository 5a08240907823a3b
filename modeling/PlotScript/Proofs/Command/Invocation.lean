import PlotScript.Command.Invocation
import PlotScript.Proofs.NameMap

/-!
# Calls and invocations

Every value of an invocation was read from a text under the type that the command
declares for it, and texts that are read as the values of an invocation make it
again.
-/

namespace PlotScript

section Lists

variable {α β γ : Type}

/-- What pairs of two lists are related to, the first of each pair is related to
for some second one. -/
theorem forall₂_of_zip {R : α × β → γ → Prop} {as : List α} {bs : List β} {cs : List γ}
    (sameLength : bs.length = as.length) (h : List.Forall₂ R (as.zip bs) cs) :
    List.Forall₂ (fun a c => ∃ b, R (a, b) c) as cs := by
  induction as generalizing bs cs with
  | nil =>
      cases h
      exact .nil
  | cons a as ih =>
      cases bs with
      | nil => cases sameLength
      | cons b bs =>
          cases h with
          | cons first others => exact .cons ⟨b, first⟩ (ih (Nat.succ.inj sameLength) others)

theorem exists_of_mem_right {R : α → β → Prop} {as : List α} {bs : List β}
    (h : List.Forall₂ R as bs) {b : β} (member : b ∈ bs) : ∃ a, R a b := by
  induction h with
  | nil => cases member
  | cons first _ ih =>
      rcases List.mem_cons.1 member with rfl | member
      · exact ⟨_, first⟩
      · exact ih member

end Lists

namespace Command

variable {c : Command} {types : Registry} {i : Invocation}

/-- The tag and the reading of every option of a call. -/
def readOption (c : Command) (types : Registry) (name text : String) :
    Except Diagnostic Value :=
  match c.options.get? name with
  | some tag => (types.coerce tag text).mapError Cause.unplaced
  | none => .error (Cause.undeclaredOption c.name name).unplaced

/-- The reading of the argument for a parameter. -/
def readArgument (types : Registry) (a : Parameter × String) : Except Diagnostic Value :=
  (types.coerce a.1.typeTag a.2).mapError Cause.unplaced

theorem invocation_of_complete {arguments : List String} {options : RawOptions}
    (complete : arguments.length = c.parameters.length) :
    c.invocation types arguments options = do
      let values ← (c.parameters.zip arguments).mapM (readArgument types)
      let named ← options.mapExcept (c.readOption types)
      return ⟨c.name, values, named⟩ := by
  unfold invocation
  rw [if_neg (Decidable.not_not.2 complete)]
  rfl

/-- An invocation is made exactly when the number of arguments is right and every
text is read. -/
theorem invocation_eq_ok_iff {arguments : List String} {options : RawOptions} :
    c.invocation types arguments options = .ok i ↔
      i.command = c.name ∧ arguments.length = c.parameters.length ∧
      List.Forall₂ (fun p v => types.coerce p.1.typeTag p.2 = .ok v)
        (c.parameters.zip arguments) i.arguments ∧
      List.Forall₂ (fun o v => o.1 = v.1 ∧ c.readOption types o.1 o.2 = .ok v.2)
        options.entries i.options.entries := by
  rw [← NameMap.mapExcept_eq_ok_iff]
  constructor
  · intro h
    have complete : arguments.length = c.parameters.length := by
      refine Decidable.not_not.1 fun incomplete => ?_
      rw [invocation, if_pos incomplete] at h
      cases h
    rw [invocation_of_complete complete] at h
    obtain ⟨values, read, h⟩ := exists_of_bind_eq_ok h
    obtain ⟨named, readNamed, h⟩ := exists_of_bind_eq_ok h
    obtain rfl := Except.ok.inj h
    refine ⟨rfl, complete, ?_, readNamed⟩
    exact (mapM_eq_ok_iff.1 read).imp fun p v => mapError_eq_ok_iff.1
  · rintro ⟨isCommand, complete, read, readNamed⟩
    have values : (c.parameters.zip arguments).mapM (readArgument types) = .ok i.arguments :=
      mapM_eq_ok_iff.2 (read.imp fun p v => mapError_eq_ok_iff.2)
    rw [invocation_of_complete complete, values, readNamed, ← isCommand]
    rfl

/-- The values of an invocation come from texts under the declared types. -/
theorem exists_texts_of_invocation {arguments : List String} {options : RawOptions}
    (h : c.invocation types arguments options = .ok i) :
    i.command = c.name ∧
      List.Forall₂ (fun p v => ∃ text, types.coerce p.typeTag text = .ok v) c.parameters
        i.arguments ∧
      ∀ o ∈ i.options.entries, ∃ tag text, c.options.get? o.1 = some tag ∧
        types.coerce tag text = .ok o.2 := by
  obtain ⟨isCommand, complete, read, readNamed⟩ := invocation_eq_ok_iff.1 h
  refine ⟨isCommand, forall₂_of_zip complete read, fun o member => ?_⟩
  obtain ⟨raw, sameName, readRaw⟩ := exists_of_mem_right readNamed member
  unfold readOption at readRaw
  split at readRaw
  · rename_i tag declared
    exact ⟨tag, raw.2, sameName ▸ declared, mapError_eq_ok_iff.1 readRaw⟩
  · cases readRaw

/-- Texts that are read as the values of an invocation make it. -/
theorem invocation_of_readings (write : Value → String) (isCommand : i.command = c.name)
    (arguments : List.Forall₂ (fun p v => types.coerce p.typeTag (write v) = .ok v) c.parameters
      i.arguments)
    (options : ∀ o ∈ i.options.entries, ∃ tag, c.options.get? o.1 = some tag ∧
      types.coerce tag (write o.2) = .ok o.2) :
    c.invocation types (i.arguments.map write) (i.options.map write) = .ok i := by
  refine invocation_eq_ok_iff.2 ⟨isCommand, ?_, ?_, ?_⟩
  · rw [List.length_map, arguments.length_eq]
  · clear options isCommand
    generalize c.parameters = ps at *
    generalize i.arguments = values at *
    induction arguments with
    | nil => exact .nil
    | cons first _ ih => exact .cons first ih
  · rw [NameMap.map, List.forall₂_map_left_iff, List.forall₂_same]
    intro o member
    obtain ⟨tag, declared, read⟩ := options o member
    refine ⟨rfl, ?_⟩
    rw [readOption, declared]
    exact mapError_eq_ok_iff.2 read

/-- A call cannot be read because of the number of its arguments, because a text is not read
under its type, or because of an option that the command does not declare. -/
theorem cases_of_invocation_eq_error {arguments : List String} {options : RawOptions}
    {d : Diagnostic} (h : c.invocation types arguments options = .error d) :
    d = (Cause.argumentCount c.name c.parameters.length arguments.length).unplaced.withHelp
        ("usage: " ++ c.synopsis) ∨
      (∃ tag text cause, types.coerce tag text = .error cause ∧ d = cause.unplaced) ∨
      ∃ name, d = (Cause.undeclaredOption c.name name).unplaced := by
  have ofText : ∀ {tag text : String},
      (types.coerce tag text).mapError Cause.unplaced = .error d →
        ∃ tag text cause, types.coerce tag text = .error cause ∧ d = cause.unplaced := by
    intro tag text failed
    cases read : types.coerce tag text with
    | error cause =>
        rw [read] at failed
        exact ⟨tag, text, cause, read, (Except.error.inj failed).symm⟩
    | ok v =>
        rw [read] at failed
        cases failed
  by_cases complete : arguments.length = c.parameters.length
  · rw [invocation_of_complete complete] at h
    rcases error_of_bind_eq_error h with failed | ⟨values, -, h⟩
    · obtain ⟨a, -, failed⟩ := exists_mem_of_mapM_eq_error failed
      exact .inr (.inl (ofText failed))
    · rcases error_of_bind_eq_error h with failed | ⟨named, -, ⟨⟩⟩
      obtain ⟨o, -, failed⟩ := exists_mem_of_mapM_eq_error (error_of_map_eq_error failed)
      have failed := error_of_map_eq_error failed
      unfold readOption at failed
      split at failed
      · exact .inr (.inl (ofText failed))
      · exact .inr (.inr ⟨o.1, (Except.error.inj failed).symm⟩)
  · rw [invocation, if_pos complete] at h
    exact .inl (Except.error.inj h).symm

/-- A call that cannot be read fails without a place. -/
theorem location_of_invocation_eq_error {arguments : List String} {options : RawOptions}
    {d : Diagnostic} (h : c.invocation types arguments options = .error d) :
    d.location = none := by
  rcases cases_of_invocation_eq_error h with rfl | ⟨tag, text, cause, -, rfl⟩ | ⟨name, rfl⟩
  · rfl
  · rfl
  · rfl

end Command

end PlotScript
