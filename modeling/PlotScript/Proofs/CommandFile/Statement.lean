import PlotScript.CommandFile.Statement

/-!
# What a line is read as

The forms that the readings of a line have, the names of variables that they give, and
the lines that are markers of script blocks.
-/

namespace PlotScript.Statement

open Text

/-- The variable that a line defines or runs over. -/
def definedName? : Statement → Option String
  | loopOpen name _ => some name
  | assignment name _ _ _ => some name
  | blank | scriptOpen | scriptClose | loopClose | command => none

/-- A text that a line may have in the place of the name of its variable. -/
def IsName (name : List Char) : Prop :=
  ∃ c rest, name = c :: rest ∧ isNameStart c = true ∧ ∀ d ∈ rest, isNameChar d = true

theorem isName_of_takeName {s name rest : List Char} (h : takeName s = some (name, rest)) :
    IsName name := by
  cases s with
  | nil => cases h
  | cons c tail =>
      by_cases start : isNameStart c = true
      · rw [takeName, if_pos start] at h
        obtain ⟨rfl, -⟩ := Prod.mk.inj (Option.some.inj h)
        refine ⟨c, _, rfl, start, ?_⟩
        intro d inside
        exact List.all_eq_true.1 List.all_takeWhile d inside
      · rw [takeName, if_neg start] at h
        cases h

/-- A name ends at a blank. -/
theorem IsName.takeName_append {name : List Char} (h : IsName name) (rest : List Char) :
    takeName (name ++ ' ' :: rest) = some (name, ' ' :: rest) := by
  obtain ⟨c, tail, rfl, start, inside⟩ := h
  have stops : ¬ Statement.isNameChar ' ' = true := by decide
  rw [List.cons_append, Statement.takeName, if_pos start, List.takeWhile_append_of_pos inside,
    List.takeWhile_cons_of_neg stops, List.dropWhile_append_of_pos inside,
    List.dropWhile_cons_of_neg stops, List.append_nil]

theorem exists_of_loop? {s : List Char} {statement : Statement} (h : loop? s = some statement) :
    ∃ name list, statement = loopOpen name list ∧ IsName name.toList := by
  simp only [loop?, Option.bind_eq_bind, Option.bind_eq_some_iff] at h
  obtain ⟨_, -, ⟨read, rest⟩, taken, h⟩ := h
  dsimp only at h
  split at h
  · split at h
    · obtain ⟨list, -, made⟩ := Option.bind_eq_some_iff.1 h
      refine ⟨String.ofList read, String.ofList list, (Option.some.inj made).symm, ?_⟩
      rw [String.toList_ofList]
      exact isName_of_takeName taken
    · cases h
  · cases h

theorem exists_of_assignment? {s : List Char} {statement : Statement}
    (h : assignment? s = some statement) :
    ∃ name soft deferred rest,
      statement = assignment name soft deferred rest ∧ IsName name.toList := by
  simp only [assignment?, Option.bind_eq_bind] at h
  obtain ⟨⟨read, rest⟩, taken, h⟩ := Option.bind_eq_some_iff.1 h
  have isName : IsName (String.ofList read).toList := by
    rw [String.toList_ofList]
    exact isName_of_takeName taken
  dsimp only at h
  -- whatever sign stands behind it, the name is the one that was taken
  split at h
  · exact ⟨_, _, _, _, (Option.some.inj h).symm, isName⟩
  · exact ⟨_, _, _, _, (Option.some.inj h).symm, isName⟩
  · cases h

/-- What a line may be read as. -/
theorem classify_cases (s : List Char) :
    classify s = blank ∨
      (classify s = scriptOpen ∧ trim s = "ruby".toList) ∨
      (classify s = scriptClose ∧ trim s = "ruby end".toList) ∨
      classify s = loopClose ∨
      (∃ name list, classify s = loopOpen name list ∧ IsName name.toList) ∨
      (∃ name soft deferred rest,
        classify s = assignment name soft deferred rest ∧ IsName name.toList) ∨
      classify s = command := by
  unfold classify
  dsimp only
  split
  · exact .inl rfl
  · split
    · rename_i opens
      exact .inr (.inl ⟨rfl, opens⟩)
    · split
      · rename_i closes
        exact .inr (.inr (.inl ⟨rfl, closes⟩))
      · split
        · exact .inr (.inr (.inr (.inl rfl)))
        · -- no marker is left, so the line is what its form is
          cases loop : loop? s with
          | some statement => exact .inr (.inr (.inr (.inr (.inl (exists_of_loop? loop)))))
          | none =>
              cases assigns : assignment? s with
              | some statement =>
                  exact .inr (.inr (.inr (.inr (.inr (.inl (exists_of_assignment? assigns))))))
              | none => exact .inr (.inr (.inr (.inr (.inr (.inr rfl)))))

theorem isName_of_classify {s : List Char} {name : String}
    (h : (classify s).definedName? = some name) : IsName name.toList := by
  rcases classify_cases s with same | ⟨same, -⟩ | ⟨same, -⟩ | same |
    ⟨read, list, same, isName⟩ | ⟨read, soft, deferred, rest, same, isName⟩ | same
  case inr.inr.inr.inr.inl | inr.inr.inr.inr.inr.inl =>
    rw [same] at h
    obtain rfl := Option.some.inj h
    exact isName
  all_goals
    rw [same] at h
    cases h

theorem classify_eq_scriptOpen_iff {s : List Char} :
    classify s = scriptOpen ↔ trim s = "ruby".toList := by
  constructor
  · intro h
    rcases classify_cases s with same | ⟨-, opens⟩ | ⟨same, -⟩ | same | ⟨_, _, same, -⟩ |
      ⟨_, _, _, _, same, -⟩ | same
    case inr.inl => exact opens
    all_goals
      rw [same] at h
      cases h
  · intro opens
    rw [classify, opens]
    rfl

theorem classify_eq_scriptClose_iff {s : List Char} :
    classify s = scriptClose ↔ trim s = "ruby end".toList := by
  constructor
  · intro h
    rcases classify_cases s with same | ⟨same, -⟩ | ⟨-, closes⟩ | same | ⟨_, _, same, -⟩ |
      ⟨_, _, _, _, same, -⟩ | same
    case inr.inr.inl => exact closes
    all_goals
      rw [same] at h
      cases h
  · intro closes
    rw [classify, closes]
    rfl

end PlotScript.Statement
