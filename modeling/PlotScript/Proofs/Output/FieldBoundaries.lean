import PlotScript.Proofs.Output.Transcript

/-!
# What a transcript line tells about its values

A text that is empty or holds white space stands between quotes in a transcript line, any other one
as it is. So the line tells where each of its fields ends, and what the field displays up to one
doubt: a text that is shown as it is may itself begin with a quote and then imitate a quoted one.
Two operations of one shape with the same line display the same values unless a value of the one
imitates the value of the other at its place (`displays_eq_iff_of_textLine`).
-/

namespace PlotScript

open Text

namespace Transcript

/-! ## Words -/

/-- A text that is shown as it is, and so with its own quote in the place of the opening quote of
the other text. -/
def Imitates (s t : String) : Prop :=
  ¬IsQuoted s ∧ s.toList.head? = some '"' ∧ IsQuoted t

instance (s t : String) : Decidable (Imitates s t) :=
  inferInstanceAs (Decidable (_ ∧ _))

theorem not_imitates_self (s : String) : ¬Imitates s s := fun ⟨shown, _, inQuotes⟩ =>
  shown inQuotes

/-- What stands behind a field: nothing, or the blank in front of the next field. -/
def EndsField (r : List Char) : Prop :=
  ∀ c, r.head? = some c → isBlank c = true

/-- A text that is shown as it is goes up to the first blank. -/
theorem takeWhile_of_not_isQuoted {s : String} {r : List Char} (shown : ¬IsQuoted s)
    (ends : EndsField r) : (s.toList ++ r).takeWhile (!isBlank ·) = s.toList := by
  have inside : ∀ c ∈ s.toList, (!isBlank c) = true := fun c member => by
    rw [isBlank_of_not_isQuoted shown member, Bool.not_false]
  have outside : r.takeWhile (!isBlank ·) = [] := by
    cases r with
    | nil => rfl
    | cons c rest => exact List.takeWhile_cons_of_neg (by simp [ends c rfl])
  rw [List.takeWhile_append_of_pos inside, outside, List.append_nil]

/-- A quoted text is imitated by no text but one that begins with a quote. -/
theorem imitates_of_append_eq {s t : String} {r r' : List Char} (shown : ¬IsQuoted s)
    (inQuotes : IsQuoted t) (same : (word s).toList ++ r = (word t).toList ++ r') :
    Imitates s t := by
  refine ⟨shown, ?_, inQuotes⟩
  rw [word_of_not_isQuoted shown, toList_word_of_isQuoted inQuotes] at same
  obtain ⟨c, rest, first⟩ := List.exists_cons_of_ne_nil (ne_nil_of_not_isQuoted shown)
  rw [first] at same ⊢
  exact congrArg some (List.cons.inj same).1

/-- Words with a field's end behind them are told apart, imitations aside. -/
theorem word_append_inj {s t : String} {r r' : List Char} (ends : EndsField r)
    (ends' : EndsField r') (sincere : ¬Imitates s t ∧ ¬Imitates t s)
    (same : (word s).toList ++ r = (word t).toList ++ r') : s = t ∧ r = r' := by
  by_cases first : IsQuoted s <;> by_cases second : IsQuoted t
  · rw [toList_word_of_isQuoted first, toList_word_of_isQuoted second] at same
    obtain ⟨texts, rest⟩ := quoted_append_inj same
    exact ⟨String.toList_inj.1 texts, rest⟩
  · exact absurd (imitates_of_append_eq second first same.symm) sincere.2
  · exact absurd (imitates_of_append_eq first second same) sincere.1
  · rw [word_of_not_isQuoted first, word_of_not_isQuoted second] at same
    have texts : s.toList = t.toList := by
      rw [← takeWhile_of_not_isQuoted first ends, same, takeWhile_of_not_isQuoted second ends']
    rw [texts] at same
    exact ⟨String.toList_inj.1 texts, List.append_cancel_left same⟩

/-! ## Fields -/

/-- What stands in front of the value of an option. -/
def optionFront (name : String) : List Char :=
  '/' :: (name.toList ++ ['='])

/-- What a line shows behind the command: what stands in front of each value, and what is
displayed of it. -/
def fields (i : Invocation) : List (List Char × String) :=
  i.arguments.map (fun v => ([], v.display)) ++
    i.options.entries.map fun o => (optionFront o.1, o.2.display)

/-- The display forms of the arguments and of the options, in the order of the line. -/
def displays (i : Invocation) : List String :=
  i.arguments.map Value.display ++ i.options.entries.map (·.2.display)

def fieldText (f : List Char × String) : List Char :=
  ' ' :: (f.1 ++ (word f.2).toList)

theorem displays_eq_map_fields (i : Invocation) : displays i = (fields i).map (·.2) := by
  simp [displays, fields, Function.comp_def]

/-- The shape of an operation tells what stands in front of its values. -/
theorem map_fst_fields (i : Invocation) :
    (fields i).map (·.1) =
      List.replicate i.arguments.length [] ++ (i.options.entries.map (·.1)).map optionFront := by
  simp [fields, Function.comp_def]

theorem toList_textLine_eq_fields (i : Invocation) :
    (textLine i).toList = i.command.toList ++ (fields i).flatMap fieldText := by
  have texts : (written i).map (·.1) =
      i.command.toList :: (fields i).map fun f => f.1 ++ (word f.2).toList := by
    simp [written, fields, optionFront, toList_optionText, Function.comp_def]
  rw [toList_textLine, texts, spaced_cons, List.flatMap_map]
  rfl

theorem endsField_flatMap (fs : List (List Char × String)) :
    EndsField (fs.flatMap fieldText) := by
  cases fs with
  | nil => rintro c ⟨⟩
  | cons f fs =>
      rintro c ⟨⟩
      decide

theorem flatMap_fieldText_inj {fs gs : List (List Char × String)}
    (fronts : fs.map (·.1) = gs.map (·.1))
    (sincere : ∀ p ∈ (fs.map (·.2)).zip (gs.map (·.2)), ¬Imitates p.1 p.2 ∧ ¬Imitates p.2 p.1)
    (same : fs.flatMap fieldText = gs.flatMap fieldText) : fs.map (·.2) = gs.map (·.2) := by
  induction fs generalizing gs with
  | nil =>
      rw [List.map_eq_nil_iff.1 fronts.symm]
  | cons f fs ih =>
      cases gs with
      | nil => cases fronts
      | cons g gs =>
          obtain ⟨front, fronts⟩ := List.cons.inj fronts
          rw [List.map_cons, List.map_cons, List.zip_cons_cons, List.forall_mem_cons] at sincere
          simp only [List.flatMap_cons, fieldText, List.cons_append, List.cons.injEq, true_and,
            List.append_assoc, front, List.append_cancel_left_eq] at same
          obtain ⟨display, rest⟩ :=
            word_append_inj (endsField_flatMap fs) (endsField_flatMap gs) sincere.1 same
          exact congrArg₂ List.cons display (ih fronts sincere.2 rest)

/-! ## Lines -/

/-- Two operations of one shape whose lines are the same display the same values, unless a value
of the one imitates the other's at its place. -/
theorem displays_eq_iff_of_textLine {i j : Invocation} (command : i.command = j.command)
    (number : i.arguments.length = j.arguments.length)
    (names : i.options.entries.map (·.1) = j.options.entries.map (·.1))
    (line : textLine i = textLine j) :
    displays i = displays j ↔
      ∀ p ∈ (displays i).zip (displays j), ¬Imitates p.1 p.2 ∧ ¬Imitates p.2 p.1 := by
  constructor
  · intro same p member
    obtain ⟨k, _, rfl⟩ := List.getElem_of_mem member
    simp only [same, List.getElem_zip]
    exact ⟨not_imitates_self _, not_imitates_self _⟩
  · intro sincere
    have fronts : (fields i).map (·.1) = (fields j).map (·.1) := by
      rw [map_fst_fields, map_fst_fields, number, names]
    have texts : (fields i).flatMap fieldText = (fields j).flatMap fieldText := by
      have whole := congrArg String.toList line
      rw [toList_textLine_eq_fields, toList_textLine_eq_fields, command] at whole
      exact List.append_cancel_left whole
    rw [displays_eq_map_fields, displays_eq_map_fields] at sincere ⊢
    exact flatMap_fieldText_inj fronts sincere texts

/-- A call of a label with a position and a color. -/
def label (position text color : Value) : Invocation :=
  ⟨"label", [position, text], NameMap.ofList [("color", color)]⟩

/-- Values of different types with the same display forms, quotes and blanks among them. -/
theorem displays_eq_of_label :
    textLine (label (.integer 2) (.text "say \"hi\"") (.symbol "")) =
        textLine (label (.text "2") (.symbol "say \"hi\"") (.text "")) ∧
      displays (label (.integer 2) (.text "say \"hi\"") (.symbol "")) =
        displays (label (.text "2") (.symbol "say \"hi\"") (.text "")) := by
  have line : textLine (label (.integer 2) (.text "say \"hi\"") (.symbol "")) =
      textLine (label (.text "2") (.symbol "say \"hi\"") (.text "")) := by
    decide +kernel
  exact ⟨line, (displays_eq_iff_of_textLine rfl rfl rfl line).2 (by decide +kernel)⟩

/-- A call of a title. -/
def title (text : String) : Invocation :=
  ⟨"title", [.text text], NameMap.empty⟩

/-- An empty title and one of two quotes have the same line. -/
theorem textLine_title_of_two_quotes :
    (title "").command = (title "\"\"").command ∧
      (title "").arguments.length = (title "\"\"").arguments.length ∧
      (title "").options.entries.map (·.1) = (title "\"\"").options.entries.map (·.1) ∧
      textLine (title "") = textLine (title "\"\"") ∧
      displays (title "") ≠ displays (title "\"\"") := by
  decide +kernel

end Transcript

end PlotScript
