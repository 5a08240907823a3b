import PlotScript.Proofs.Output.JsonForm
import PlotScript.Proofs.Output.Transcript

/-!
# One line for every operation

A buffer puts a newline between two texts, so texts on one line each are its lines, as long as none
of them is empty. The line of an operation has no newline in it: what is displayed of its values is
quoted where it holds white space, and JSON has no control characters. So the lines of a transcript
are the lines of its operations, one for each.
-/

namespace PlotScript

open Text

namespace Output

/-- What stands between the newlines; an output without a text has no line. -/
def lines (o : Output) : List String :=
  if o.text.isEmpty then [] else (splitAt '\n' o.text.toList).map String.ofList

variable {o : Output} {text : String}

theorem sink_emit (o : Output) (text : String) : (o.emit text).sink = o.sink := by
  rw [emit]
  split <;> rfl

/-- Printing one line into a buffer adds it to the lines that are there. -/
theorem lines_emit (buffer : o.sink = .buffer) (nonempty : text ≠ "")
    (oneLine : '\n' ∉ text.toList) : (o.emit text).lines = o.lines ++ [text] := by
  have alone : splitAt '\n' text.toList = [text.toList] := splitAt_of_not_mem oneLine
  simp only [emit, buffer]
  by_cases first : o.text = ""
  · simp [lines, first, nonempty, alone]
  · have whole : (o.text ++ "\n" ++ text).toList = o.text.toList ++ '\n' :: text.toList := by
      simp
    simp [lines, first, whole, splitAt_append, alone]

end Output

namespace Transcript

/-! ## The line of an operation -/

/-- An operation of a command with a name, and no name goes over several lines. -/
structure IsNamed (i : Invocation) : Prop where
  nonempty : i.command ≠ ""
  command : '\n' ∉ i.command.toList
  options : ∀ o ∈ i.options.entries, '\n' ∉ o.1.toList

instance (i : Invocation) : Decidable (IsNamed i) :=
  decidable_of_iff (i.command ≠ "" ∧ '\n' ∉ i.command.toList ∧
      ∀ o ∈ i.options.entries, '\n' ∉ o.1.toList)
    ⟨fun ⟨nonempty, command, options⟩ => ⟨nonempty, command, options⟩,
      fun ⟨nonempty, command, options⟩ => ⟨nonempty, command, options⟩⟩

section

variable {i : Invocation} (named : IsNamed i)
include named

theorem oneLine_textLine : '\n' ∉ (textLine i).toList := by
  rw [toList_textLine]
  intro newline
  rcases mem_of_mem_spaced newline with blank | ⟨text, member, within⟩
  · exact absurd blank (by decide)
  · simp only [written, List.map_cons, List.map_append, List.map_map, List.mem_cons,
      List.mem_append, List.mem_map, Function.comp_apply] at member
    rcases member with rfl | ⟨v, -, rfl⟩ | ⟨o, inside, rfl⟩
    · exact named.command within
    · exact oneLine_word v.display within
    · have front : '\n' ∉ '/' :: (o.1.toList ++ ['=']) := by simp [named.options o inside]
      rw [toList_optionText, List.mem_append] at within
      rcases within with inFront | inWord
      · exact front inFront
      · exact oneLine_word o.2.display inWord

theorem textLine_ne_empty : textLine i ≠ "" := by
  intro empty
  have nothing := congrArg String.toList empty
  rw [toList_textLine] at nothing
  exact spaced_ne_nil (mt String.toList_eq_nil_iff.1 named.nonempty) nothing

/-- The line of an operation is one line in either form. -/
theorem oneLine_line (format : TranscriptFormat) : '\n' ∉ (line format i).toList := by
  cases format with
  | text => exact oneLine_textLine named
  | json => exact (noControl_jsonLine i).newline_not_mem

theorem line_ne_empty (format : TranscriptFormat) : line format i ≠ "" := by
  cases format with
  | text => exact textLine_ne_empty named
  | json => simp [line, jsonLine, Json.object]

end

/-! ## The lines of a transcript -/

/-- Recording an operation adds its line, and nothing else changes the lines. -/
theorem lines_apply {t : Transcript} {i : Invocation} (named : IsNamed i)
    (buffer : t.output.sink = .buffer) :
    (t.apply i).output.lines = t.output.lines ++ [line t.format i] :=
  Output.lines_emit buffer (line_ne_empty named t.format) (oneLine_line named t.format)

theorem lines_foldl_apply {is : List Invocation} (named : ∀ i ∈ is, IsNamed i) {t : Transcript}
    (buffer : t.output.sink = .buffer) :
    (is.foldl apply t).output.lines = t.output.lines ++ is.map (line t.format) := by
  induction is generalizing t with
  | nil => simp
  | cons i is ih =>
      obtain ⟨first, others⟩ := List.forall_mem_cons.1 named
      have still : (t.apply i).output.sink = .buffer := by rw [apply, Output.sink_emit, buffer]
      rw [List.foldl_cons, ih others still, lines_apply first buffer]
      simp [apply]

theorem operations_foldl_apply (is : List Invocation) (t : Transcript) :
    (is.foldl apply t).operations = t.operations + is.length := by
  induction is generalizing t with
  | nil => rfl
  | cons i is ih =>
      rw [List.foldl_cons, ih, List.length_cons]
      simp only [apply]
      omega

/-- The buffer of a transcript has one line for every operation, in their order, and as many as the
transcript has counted. -/
theorem lines_of_operations (format : TranscriptFormat) {is : List Invocation}
    (named : ∀ i ∈ is, IsNamed i) :
    (is.foldl apply (empty format .buffer)).output.lines = is.map (line format) ∧
      (is.foldl apply (empty format .buffer)).operations = is.length := by
  constructor
  · exact lines_foldl_apply named rfl
  · rw [operations_foldl_apply, empty, Nat.zero_add]

/-- A note with a legend. -/
def note (text legend : String) : Invocation :=
  ⟨"note", [.text text], NameMap.ofList [("legend", .text legend)]⟩

/-- Newlines in texts are escaped in both forms. -/
theorem lines_of_notes :
    ([note "a\nb" "", note "" "c\n"].foldl apply (empty .text .buffer)).output.lines =
        ["note \"a\\nb\" /legend=\"\"", "note \"\" /legend=\"c\\n\""] ∧
      ([note "a\nb" "", note "" "c\n"].foldl apply (empty .json .buffer)).output.lines =
        [jsonLine (note "a\nb" ""), jsonLine (note "" "c\n")] ∧
      ([note "a\nb" "", note "" "c\n"].foldl apply (empty .json .buffer)).operations = 2 := by
  have named : ∀ i ∈ [note "a\nb" "", note "" "c\n"], IsNamed i := by decide +kernel
  obtain ⟨texts, -⟩ := lines_of_operations .text named
  obtain ⟨objects, number⟩ := lines_of_operations .json named
  exact ⟨texts.trans (by decide +kernel), objects, number⟩

end Transcript

end PlotScript
