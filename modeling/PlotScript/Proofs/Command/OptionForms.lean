import Mathlib.Data.List.TakeWhile
import PlotScript.Command.Standard
import PlotScript.Proofs.Command.OptionReaders

/-!
# Three ways to write an option

The value of an option is attached to its name, stands behind it, or stands behind an equals
sign of its own. Apart from the equals sign itself any value at all can stand in a word of its
own, but an attached value has to stay on one line: a token with a newline in it has not the
shape of an option.
-/

namespace PlotScript

variable {c : Command} {name value : String} {rest : List String}

namespace OptionToken

/-- The token of an option without its value. -/
def alone (name : String) : String :=
  "/" ++ name

/-- A name has the shape of an option behind a slash. -/
theorem ofToken?_alone (named : IsName name) : ofToken? (alone name) = some ⟨name, none⟩ := by
  obtain ⟨d, others, letters, first, inside⟩ := named
  have spelled : (alone name).toList = '/' :: d :: others := by simp [alone, letters]
  have whole : String.ofList (d :: others) = name := by rw [← letters, String.ofList_toList]
  have taken : others.takeWhile isNameChar = others := List.takeWhile_eq_self_iff.2 inside
  have left : others.dropWhile isNameChar = [] := List.dropWhile_eq_nil_iff.2 inside
  rw [ofToken?, spelled]
  simp [first, taken, left, whole]

end OptionToken

/-- Tokens that both readers take for one option. On a command line they leave what is behind
them if that has not the shape of an option itself. Among the words of a call what is behind
them is parted as by itself, and the option keeps its value unless it is given another one
there. -/
structure Command.ReadsAs (c : Command) (form : List String) (name value : String) : Prop where
  harvested : ∀ rest, (∀ token ∈ rest.head?, OptionToken.ofToken? token = none) →
    harvestOptions c (form ++ rest) = .ok ⟨NameMap.ofList [(name, value)], rest, none⟩
  parted : ∀ rest, splitWords c (form ++ rest) =
    (splitWords c rest).map fun parted =>
      { parted with options := (NameMap.ofList [(name, value)]).override parted.options }

namespace Command.ReadsAs

variable {form : List String}

/-- Where options end by themselves nothing is taken. -/
theorem harvest_of_plain {options : RawOptions}
    (plain : ∀ token ∈ rest.head?, OptionToken.ofToken? token = none) :
    harvest c options rest = .ok ⟨options, rest, none⟩ := by
  cases rest with
  | nil => rw [harvest]
  | cons token rest => exact harvest_argument (plain token rfl)

theorem of_steps
    (harvests : ∀ rest, harvest c NameMap.empty (form ++ rest) =
      harvest c (NameMap.ofList [(name, value)]) rest)
    (parts : ∀ rest, partWords c NameMap.empty (form ++ rest) =
      partWords c (NameMap.ofList [(name, value)]) rest) : c.ReadsAs form name value where
  harvested rest plain := by rw [harvestOptions, harvests, harvest_of_plain plain]
  parted rest := by rw [splitWords, parts, partWords_eq_splitWords]

variable (declared : c.declaresOption name = true) (named : OptionToken.IsName name)

include declared named

theorem attached (oneLine : '\n' ∉ value.toList) :
    c.ReadsAs [OptionToken.attached name value] name value := by
  have shape := OptionToken.ofToken?_attached named oneLine
  exact of_steps (fun _ => harvest_attached_cons shape declared)
    fun _ => partWords_attached_cons shape declared

theorem spaced (isValue : value ≠ "=") :
    c.ReadsAs [OptionToken.alone name, value] name value := by
  have shape := OptionToken.ofToken?_alone named
  refine of_steps (fun rest => ?_) fun rest => ?_
  · rw [List.cons_append, harvest_separate shape declared, List.singleton_append,
      takeValue_spaced isValue]
    rfl
  · rw [List.cons_append, partWords_separate shape declared, List.singleton_append,
      takeValue_spaced isValue]
    rfl

theorem parted_by_equals : c.ReadsAs [OptionToken.alone name, "=", value] name value := by
  have shape := OptionToken.ofToken?_alone named
  exact of_steps (fun _ => harvest_separate shape declared)
    fun _ => partWords_separate shape declared

end Command.ReadsAs

/-- The three ways to write an option give the same for every value on one line. A value of
more lines can be written in a word of its own, behind an equals sign or not, but attached to
the name it is not taken for an option. -/
theorem optionForms_agree_iff (declared : c.declaresOption name = true)
    (named : OptionToken.IsName name) (isValue : value ≠ "=") :
    c.ReadsAs [OptionToken.alone name, value] name value ∧
      c.ReadsAs [OptionToken.alone name, "=", value] name value ∧
      (c.ReadsAs [OptionToken.attached name value] name value ↔ '\n' ∉ value.toList) := by
  refine ⟨.spaced declared named isValue, .parted_by_equals declared named, ?_,
    .attached declared named⟩
  intro reads newline
  have shape := OptionToken.ofToken?_attached_ite named value
  rw [if_pos newline] at shape
  have taken := reads.harvested [] nofun
  rw [List.append_nil, harvestOptions, harvest_argument shape] at taken
  cases congrArg Harvest.rest (Except.ok.inj taken)

theorem optionForms_agree_on_equation :
    let plot := StandardCommands.plot
    plot.declaresOption "legend" = true ∧ OptionToken.IsName "legend" ∧ "y = 2x" ≠ "=" ∧
      '\n' ∉ "y = 2x".toList ∧
      plot.ReadsAs ["/legend", "y = 2x"] "legend" "y = 2x" ∧
      plot.ReadsAs ["/legend", "=", "y = 2x"] "legend" "y = 2x" ∧
      plot.ReadsAs ["/legend=y = 2x"] "legend" "y = 2x" := by
  intro plot
  have declared : plot.declaresOption "legend" = true := by decide
  have named : OptionToken.IsName "legend" := by decide
  have isValue : "y = 2x" ≠ "=" := by decide
  have oneLine : '\n' ∉ "y = 2x".toList := by decide
  obtain ⟨spaced, parted, attached⟩ := optionForms_agree_iff declared named isValue
  exact ⟨declared, named, isValue, oneLine, spaced, parted, attached.2 oneLine⟩

/-- A legend of two lines is taken from a word of its own. Attached to the name of its option
it is left where it stands, and among the words of a call it is taken for an argument. -/
theorem attached_legend_of_two_lines_fails :
    let plot := StandardCommands.plot
    harvestOptions plot ["/legend=a\nb", "x"] =
        .ok ⟨NameMap.empty, ["/legend=a\nb", "x"], none⟩ ∧
      harvestOptions plot ["/legend", "a\nb", "x"] =
        .ok ⟨NameMap.ofList [("legend", "a\nb")], ["x"], none⟩ ∧
      splitWords plot ["/legend=a\nb", "x"] =
        .ok ⟨["/legend=a\nb", "x"], NameMap.empty, none⟩ ∧
      splitWords plot ["/legend", "a\nb", "x"] =
        .ok ⟨["x"], NameMap.ofList [("legend", "a\nb")], none⟩ := by
  intro plot
  have glued : OptionToken.ofToken? "/legend=a\nb" = none := by decide
  have plain : OptionToken.ofToken? "x" = none := by decide
  have alone : splitWords plot ["x"] = .ok ⟨["x"], NameMap.empty, none⟩ := by
    rw [splitWords, partWords_argument plain, partWords]
    rfl
  have declared : plot.declaresOption "legend" = true := by decide
  have named : OptionToken.IsName "legend" := by decide
  have isValue : "a\nb" ≠ "=" := by decide
  have spaced : plot.ReadsAs ["/legend", "a\nb"] "legend" "a\nb" :=
    .spaced declared named isValue
  refine ⟨harvest_argument glued, ?_, ?_, ?_⟩
  · exact spaced.harvested ["x"] (by simpa using plain)
  · rw [splitWords, partWords_argument glued, ← splitWords, alone]
    rfl
  · exact (spaced.parted ["x"]).trans (by rw [alone]; rfl)

end PlotScript
