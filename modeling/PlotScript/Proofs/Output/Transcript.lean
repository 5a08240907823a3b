import PlotScript.Output.Transcript
import PlotScript.Proofs.Command.InlineOption
import PlotScript.Proofs.CommandFile.SpacedLine
import PlotScript.Proofs.Text.Quoted

/-!
# Transcript lines as command lines

A transcript line whose texts are shown as they are calls the command that it
names, with the displayed values as its words.
-/

namespace PlotScript

open Text

namespace Transcript

/-! ## Words -/

/-- The texts that a transcript shows between quotes. -/
def IsQuoted (s : String) : Prop :=
  s = "" ∨ ∃ c ∈ s.toList, isBlank c = true

theorem isQuoted_iff {s : String} :
    IsQuoted s ↔ (s.isEmpty || s.toList.any isBlank) = true := by
  rw [IsQuoted, Bool.or_eq_true, String.isEmpty_iff, List.any_eq_true]

instance (s : String) : Decidable (IsQuoted s) :=
  decidable_of_iff _ isQuoted_iff.symm

theorem ne_nil_of_not_isQuoted {s : String} (shown : ¬IsQuoted s) : s.toList ≠ [] := fun nothing =>
  shown (.inl (String.toList_eq_nil_iff.1 nothing))

theorem isBlank_of_not_isQuoted {s : String} (shown : ¬IsQuoted s) {c : Char}
    (member : c ∈ s.toList) : isBlank c = false := by
  rw [← Bool.not_eq_true]
  exact fun blank => shown (.inr ⟨c, member, blank⟩)

theorem toList_word_of_isQuoted {s : String} (inQuotes : IsQuoted s) :
    (word s).toList = quoted s.toList := by
  rw [word, if_pos (isQuoted_iff.1 inQuotes), String.toList_ofList]

theorem word_of_not_isQuoted {s : String} (shown : ¬IsQuoted s) : word s = s := by
  rw [word, if_neg (mt isQuoted_iff.2 shown)]

theorem word_ne_nil (s : String) : (word s).toList ≠ [] := by
  by_cases inQuotes : IsQuoted s
  · rw [toList_word_of_isQuoted inQuotes]
    exact List.cons_ne_nil _ _
  · rw [word_of_not_isQuoted inQuotes]
    exact ne_nil_of_not_isQuoted inQuotes

/-- A text is shown on one line, whatever it holds. -/
theorem oneLine_word (s : String) : '\n' ∉ (word s).toList := by
  by_cases inQuotes : IsQuoted s
  · rw [toList_word_of_isQuoted inQuotes]
    exact newline_not_mem_quoted s.toList
  · rw [word_of_not_isQuoted inQuotes]
    exact fun member => absurd (isBlank_of_not_isQuoted inQuotes member) (by decide)

/-- Printable ASCII characters but the two quotes, the dollar sign and the
backslash. -/
def isShownChar (c : Char) : Bool :=
  0x20 ≤ c.toNat && c.toNat ≤ 0x7E && !(['\'', '"', '$', '\\'].contains c)

/-- A text that stands for itself in a transcript. -/
def IsShown (s : String) : Prop :=
  ∀ c ∈ s.toList, isShownChar c = true

instance (s : String) : Decidable (IsShown s) :=
  List.decidableBAll (isShownChar · = true) s.toList

theorem isShownChar_iff {c : Char} :
    isShownChar c = true ↔
      (0x20 ≤ c.toNat ∧ c.toNat ≤ 0x7E) ∧ c ≠ '\\' ∧ c ≠ '$' ∧ c ≠ '"' ∧ c ≠ '\'' := by
  simp only [isShownChar, List.contains_cons, List.contains_nil, Bool.or_false, Bool.not_or,
    Bool.and_eq_true, Bool.not_eq_true', decide_eq_true_eq, beq_eq_false_iff_ne]
  constructor
  · rintro ⟨range, single, double, dollar, backslash⟩
    exact ⟨range, backslash, dollar, double, single⟩
  · rintro ⟨range, backslash, dollar, double, single⟩
    exact ⟨range, single, double, dollar, backslash⟩

theorem isShownChar_of_isBareChar {c : Char} (bare : isBareChar c = true) :
    isShownChar c = true := by
  have range := toNat_of_isBareChar bare
  have other : ∀ d : Char, isBareChar d = false → c ≠ d := by
    rintro d notBare rfl
    rw [bare] at notBare
    cases notBare
  exact isShownChar_iff.2 ⟨by omega, other _ (by decide), other _ (by decide), other _ (by decide),
    other _ (by decide)⟩

theorem isShown_of_isBare {s : String} (bare : IsBare s.toList) : IsShown s :=
  fun c member => isShownChar_of_isBareChar (bare c member)

/-- Between the quotes of a transcript nothing is escaped. -/
theorem quoted_of_isShown {s : String} (shown : IsShown s) :
    quoted s.toList = Quotation.double s.toList := by
  have kept : ∀ c ∈ s.toList, escapeChar c = Quotation.escapeChar c := by
    intro c member
    obtain ⟨range, backslash, dollar, double, -⟩ := isShownChar_iff.1 (shown c member)
    -- what is escaped beyond the quote and the backslash is not printable
    have notControl : ∀ d : Char, d.toNat < 0x20 → c ≠ d := by
      rintro d control rfl
      omega
    have printable : isPrintable c = true := by
      rw [isPrintable, if_pos (by omega)]
      simp only [Bool.and_eq_true, decide_eq_true_eq]
      omega
    rw [escapeChar, if_neg double, if_neg backslash, if_neg (notControl _ (by decide)),
      if_neg (notControl _ (by decide)), if_neg (notControl _ (by decide)),
      if_neg (notControl _ (by decide)), if_pos printable, Quotation.escapeChar,
      if_neg (by simp [double, backslash, dollar])]
  have same : s.toList.flatMap escapeChar = s.toList.flatMap Quotation.escapeChar := by
    rw [List.flatMap_def, List.flatMap_def, List.map_congr_left kept]
  rw [quoted, Quotation.double, same]
  rfl

/-- A word of a transcript is the text between quotes or the text itself. -/
theorem toList_word {s : String} (shown : IsShown s) :
    (word s).toList = Quotation.double s.toList ∨
      s.toList ≠ [] ∧ (∀ c ∈ s.toList, isBlank c = false) ∧ (word s).toList = s.toList := by
  by_cases inQuotes : IsQuoted s
  · rw [toList_word_of_isQuoted inQuotes, quoted_of_isShown shown]
    exact .inl rfl
  · rw [word_of_not_isQuoted inQuotes]
    exact .inr ⟨ne_nil_of_not_isQuoted inQuotes, fun c => isBlank_of_not_isQuoted inQuotes, rfl⟩

theorem writes_word {s : String} (shown : IsShown s) : Writes (word s).toList s.toList := by
  rcases toList_word shown with quoted | ⟨nonempty, noBlank, bare⟩
  · rw [quoted]
    exact Quotation.writes_double s.toList
  · rw [bare]
    exact .bare nonempty fun c member => ⟨(isShownChar_iff.1 (shown c member)).2, noBlank c member⟩

theorem oneLine_of_isShown {s : String} (shown : IsShown s) : '\n' ∉ s.toList := fun member =>
  absurd (shown _ member) (by decide)

/-- A word of a transcript ends in a quote or in a character of its text. -/
theorem last_word {s : String} (shown : IsShown s) {c : Char}
    (last : (word s).toList.getLast? = some c) : isBlank c = false ∧ c ≠ '\\' := by
  rcases toList_word shown with quoted | ⟨-, noBlank, bare⟩
  · rw [quoted, Quotation.double, ← List.cons_append, List.getLast?_concat] at last
    obtain rfl := Option.some.inj last
    decide
  · rw [bare] at last
    have member := List.mem_of_getLast? last
    exact ⟨noBlank c member, (isShownChar_iff.1 (shown c member)).2.1⟩

/-- A word of a transcript stands as a word behind the name of a command. -/
theorem isWordText_word {s : String} (shown : IsShown s)
    (noSign : Statement.beginsWithSign s.toList = false) : IsWordText (word s).toList := by
  refine ⟨word_ne_nil s, ⟨?_, fun c last => (last_word shown last).1⟩, oneLine_word s,
    fun last => (last_word shown last).2 rfl, ?_, ?_⟩
  · intro c first
    rcases toList_word shown with quoted | ⟨-, noBlank, bare⟩
    · rw [quoted] at first
      obtain rfl := Option.some.inj first
      decide
    · rw [bare] at first
      exact noBlank c (List.mem_of_head? first)
  · rcases toList_word shown with quoted | ⟨-, -, bare⟩
    · rw [quoted]
      rfl
    · rw [bare]
      exact noSign
  · intro c rest soft
    rcases toList_word shown with quoted | ⟨-, noBlank, bare⟩
    · rw [quoted] at soft
      cases soft
    · refine noBlank c ?_
      rw [← bare, soft]
      exact List.mem_cons_of_mem _ List.mem_cons_self

/-! ## Options -/

/-- An option as it stands in a transcript. -/
def optionText (o : String × String) : String :=
  "/" ++ o.1 ++ "=" ++ word o.2

theorem toList_optionText (o : String × String) :
    (optionText o).toList = ('/' :: (o.1.toList ++ ['='])) ++ (word o.2).toList := by
  simp [optionText]

theorem writes_optionText {o : String × String} (named : IsBare o.1.toList) (shown : IsShown o.2) :
    Writes (optionText o).toList (OptionToken.attached o.1 o.2).toList := by
  have whole : (OptionToken.attached o.1 o.2).toList =
      ('/' :: (o.1.toList ++ ['='])) ++ o.2.toList := by
    rw [OptionToken.toList_attached]
    simp
  rw [toList_optionText, whole]
  refine Writes.append (.bare (List.cons_ne_nil _ _) fun c member => ?_) (writes_word shown)
  have shownChar : isShownChar c = true ∧ isBlank c = false := by
    simp only [List.mem_cons, List.mem_append, List.not_mem_nil, or_false] at member
    rcases member with rfl | member | rfl
    · decide
    · exact ⟨isShownChar_of_isBareChar (named c member), isBlank_of_isBareChar (named c member)⟩
    · decide
  exact ⟨(isShownChar_iff.1 shownChar.1).2, shownChar.2⟩

theorem isWordText_optionText {o : String × String} (named : IsBare o.1.toList)
    (shown : IsShown o.2) : IsWordText (optionText o).toList := by
  have last : ∀ c, (optionText o).toList.getLast? = some c → isBlank c = false ∧ c ≠ '\\' := by
    intro c isLast
    obtain ⟨d, ends⟩ : ∃ d, (word o.2).toList.getLast? = some d :=
      ⟨_, List.getLast?_eq_some_getLast (word_ne_nil o.2)⟩
    rw [toList_optionText, List.getLast?_append, ends] at isLast
    exact last_word shown (ends.trans isLast)
  rw [toList_optionText] at last ⊢
  refine ⟨List.cons_ne_nil _ _, ⟨?_, fun c isLast => (last c isLast).1⟩, ?_,
    fun isLast => (last _ isLast).2 rfl, rfl, ?_⟩
  · rintro c ⟨⟩
    decide
  · have nameOneLine : '\n' ∉ o.1.toList := fun member => absurd (named _ member) (by decide)
    simpa [nameOneLine] using oneLine_word o.2
  · rintro c rest ⟨⟩

/-! ## Lines -/

/-- An invocation whose line is made of texts that stand for themselves. -/
structure IsWritable (i : Invocation) : Prop where
  named : IsNameText i.command.toList
  someArgument : i.arguments ≠ []
  arguments : ∀ v ∈ i.arguments, IsShown v.display ∧
    Statement.beginsWithSign v.display.toList = false ∧ OptionToken.ofToken? v.display = none
  options : ∀ o ∈ i.options.entries, IsBare o.1.toList ∧ IsShown o.2.display

/-- The texts of a line and the words that they are read as. -/
def written (i : Invocation) : List (List Char × List Char) :=
  (i.command.toList, i.command.toList) ::
    (i.arguments.map (fun v => ((word v.display).toList, v.display.toList)) ++
      i.options.entries.map fun o =>
        ((optionText (o.1, o.2.display)).toList, (OptionToken.attached o.1 o.2.display).toList))

theorem toList_textLine (i : Invocation) :
    (textLine i).toList = spaced ((written i).map (·.1)) := by
  simp [textLine, written, spaced, optionText, Function.comp_def]

variable {i : Invocation} (writable : IsWritable i)
include writable

theorem isWordText_of_mem_written :
    ∀ text ∈ (written i).tail.map (·.1), IsWordText text := by
  intro text member
  simp only [written, List.tail_cons, List.map_append, List.map_map, List.mem_append,
    List.mem_map, Function.comp_apply] at member
  rcases member with ⟨v, inside, rfl⟩ | ⟨o, inside, rfl⟩
  · obtain ⟨shown, noSign, -⟩ := writable.arguments v inside
    exact isWordText_word shown noSign
  · obtain ⟨named, shown⟩ := writable.options o inside
    exact isWordText_optionText named shown

/-- The line of an operation calls a command. -/
theorem isCallLine_textLine : IsCallLine (textLine i).toList := by
  have isWord := isWordText_of_mem_written writable
  rw [toList_textLine]
  obtain ⟨v, rest, arguments⟩ := List.exists_cons_of_ne_nil writable.someArgument
  simp only [written, arguments, List.map_cons, List.cons_append, List.tail_cons] at isWord ⊢
  exact isCallLine_spaced writable.named isWord

theorem writes_written : ∀ p ∈ written i, Writes p.1 p.2 := by
  intro p member
  simp only [written, List.mem_cons, List.mem_append, List.mem_map] at member
  rcases member with rfl | ⟨v, inside, rfl⟩ | ⟨o, inside, rfl⟩
  · obtain ⟨c, rest, letters, -⟩ := writable.named.begins
    refine Writes.bare (letters ▸ List.cons_ne_nil c rest) fun d inside => ?_
    have bare := writable.named.isBare d inside
    exact ⟨(isShownChar_iff.1 (isShownChar_of_isBareChar bare)).2, isBlank_of_isBareChar bare⟩
  · exact writes_word (writable.arguments v inside).1
  · obtain ⟨named, shown⟩ := writable.options o inside
    exact writes_optionText named shown

/-- The words of a line are the displayed values. -/
theorem splitLine_textLine (scope : Scope) :
    splitLine scope (textLine i).toList =
      .ok (i.command :: (i.arguments.map Value.display ++
        RawOptions.tokens (i.options.map Value.display))) := by
  rw [toList_textLine, splitLine_spaced scope (writes_written writable)]
  simp [written, RawOptions.tokens, NameMap.map, Function.comp_def]

end Transcript

end PlotScript
