import PlotScript.Command.Standard
import PlotScript.Proofs.CommandFile.CallLine
import PlotScript.Proofs.CommandLine.SingleCall
import PlotScript.Proofs.Execution.Recording
import PlotScript.Proofs.Variables.Quotation

/-!
# The two front ends agree

A call that is written on a command line behind the long flag of its command, and
the same call on a line of a file with every word between quotes, are recorded
alike whatever the words and the variables hold.
-/

namespace PlotScript

open Text

/-! ## Quoted calls -/

namespace Quotation

/-- A call on one line, its name and its words between quotes. -/
def callLine (name : String) (words : List String) : String :=
  String.ofList (spaced ((name :: words).map fun w => double w.toList))

variable {name : String} {words : List String}

/-- A line of quoted words calls a command. -/
theorem isCallLine_callLine (oneLine : ∀ w ∈ name :: words, '\n' ∉ w.toList) :
    IsCallLine (callLine name words).toList := by
  have written : (callLine name words).toList =
      spaced ((name.toList :: words.map String.toList).map double) := by
    simp [callLine, Function.comp_def]
  obtain ⟨middle, shape⟩ := exists_spaced_double name.toList (words.map String.toList)
  have last : ('"' :: (middle ++ ['"'])).getLast? = some '"' := by
    rw [← List.cons_append, List.getLast?_concat]
  rw [written, shape]
  have tight : Tight ('"' :: (middle ++ ['"'])) := by
    constructor
    · rintro c ⟨⟩
      decide
    · rw [last]
      rintro c ⟨⟩
      decide
  refine ⟨?_, by simp [last], tight, rfl, ?_⟩
  · intro newline
    rw [← shape] at newline
    rcases mem_of_mem_spaced newline with blank | ⟨text, member, here⟩
    · revert blank
      decide
    · simp only [List.map_cons, List.map_map, List.mem_cons, List.mem_map] at member
      obtain ⟨w, inLine, rfl⟩ : ∃ w ∈ name :: words, double w.toList = text := by
        rcases member with rfl | ⟨w, hw, rfl⟩
        · exact ⟨name, List.mem_cons_self, rfl⟩
        · exact ⟨w, List.mem_cons_of_mem _ hw, rfl⟩
      rcases mem_of_mem_double here with quote | backslash | inWord
      · revert quote
        decide
      · revert backslash
        decide
      · exact oneLine w inLine inWord
  · refine Statement.classify_eq_command tight (by decide) ?_ ?_ rfl
    · rw [List.takeWhile_cons_of_pos (by decide)]
      simp
    · rw [List.takeWhile_cons_of_pos (by decide)]
      simp

/-- The words of a line of quoted words are read as they are. -/
theorem splitLine_callLine (name : String) (words : List String) (scope : Scope) :
    splitLine scope (callLine name words).toList = .ok (name :: words) := by
  let written := (name :: words).map fun w => (double w.toList, w.toList)
  have writes : ∀ p ∈ written, Writes p.1 p.2 := by
    intro p hp
    obtain ⟨w, -, rfl⟩ := List.mem_map.1 hp
    exact writes_double w.toList
  have read := splitLine_spaced scope writes
  have words_eq : written.map (fun p => String.ofList p.2) = name :: words := by
    rw [List.map_map]
    exact List.map_id'' (fun w => String.ofList_toList) _
  rw [words_eq, List.map_map] at read
  rw [callLine, String.toList_ofList]
  exact read

end Quotation

/-! ## Recording a call -/

namespace Recorder

variable {s : Recorder} {c : Command} {options : RawOptions}

/-- A line of quoted words makes one call. -/
theorem record_callLine (member : c ∈ s.table.commands) {arguments : List String}
    (nameOneLine : '\n' ∉ c.name.toList)
    (oneLine : ∀ a ∈ arguments, '\n' ∉ a.toList)
    (plain : ∀ a ∈ arguments, OptionToken.ofToken? a = none)
    (takes : ∀ o ∈ options.entries, c.Takes o) (reader : FileReader) (stream : String) :
    s.record (reader.interpret stream
        (Quotation.callLine c.name (arguments ++ options.tokens))) =
      (.ok (), s.called ⟨c.name, c.completed arguments, options,
        Location.inFile c.name stream 1⟩) := by
  have callLine : IsCallLine
      (Quotation.callLine c.name (arguments ++ options.tokens)).toList := by
    refine Quotation.isCallLine_callLine fun w hw => ?_
    rcases List.mem_cons.1 hw with rfl | hw
    · exact nameOneLine
    · rcases List.mem_append.1 hw with hw | hw
      · exact oneLine w hw
      · exact RawOptions.oneLine_of_mem_tokens takes hw
  have split := Quotation.splitLine_callLine c.name (arguments ++ options.tokens)
  rw [record, CommandFile.run_interpret (tells.holds member) callLine split plain takes]
  rfl

/-- A long flag with what it takes behind it makes one call. -/
theorem record_longFlag {line : CommandLine} {flag : String} {arity : Arity}
    {tokens arguments : List String} (nonempty : flag ≠ "")
    (found : line.index.get? (.long flag) = some ⟨.long flag, arity, c⟩)
    (took : arity.take (Location.onCommandLine ("--" ++ flag) 1) tokens =
      .ok (arguments, options.tokens))
    (takes : ∀ o ∈ options.entries, c.Takes o) :
    s.record (line.interpret (("--" ++ flag) :: tokens)) =
      (.ok [], s.called ⟨c.name, arguments, options,
        Location.onCommandLine ("--" ++ flag) 1⟩) := by
  rw [record, CommandLine.run_interpret_longFlag _ _ nonempty found took
    (harvestOptions_tokens takes)]
  rfl

end Recorder

/-! ## Agreement -/

/-- The two front ends agree. A call of a command with its long flag on a command
line is recorded like the same call on a line of a file, with the same arguments
and options. A switch is turned on by its flag, by the word `true` and by a line
without arguments, and it is turned off by its `no-` flag and by the word
`false`. -/
theorem frontEnds_agree {t : CommandTable} {line : CommandLine}
    (accepted : CommandLine.ofTable t = .ok line) {c : Command} (member : c ∈ t.commands)
    {flag : String} (hasFlag : c.longFlag = some flag) (nonempty : flag ≠ "")
    (nameOneLine : '\n' ∉ c.name.toList) {options : RawOptions}
    (takes : ∀ o ∈ options.entries, c.Takes o) (reader : FileReader) (stream : String)
    (s : Recorder) (sameTable : s.table = t) :
    let typed := Location.onCommandLine ("--" ++ flag) 1
    let switchedOff := Location.onCommandLine ("--no-" ++ flag) 1
    let written := Location.inFile c.name stream 1
    let file := fun arguments => reader.interpret stream
      (Quotation.callLine c.name (arguments ++ options.tokens))
    (c.isSwitch = false → ∀ arguments : List String,
      arguments.length = c.parameters.length →
      (∀ a ∈ arguments, '\n' ∉ a.toList ∧ OptionToken.ofToken? a = none) →
        s.record (line.interpret (("--" ++ flag) :: (arguments ++ options.tokens))) =
            (.ok [], s.called ⟨c.name, arguments, options, typed⟩) ∧
          s.record (file arguments) =
            (.ok (), s.called ⟨c.name, arguments, options, written⟩)) ∧
    (c.isSwitch = true →
      s.record (line.interpret (("--" ++ flag) :: options.tokens)) =
          (.ok [], s.called ⟨c.name, ["true"], options, typed⟩) ∧
        s.record (file ["true"]) = (.ok (), s.called ⟨c.name, ["true"], options, written⟩) ∧
        s.record (file []) = (.ok (), s.called ⟨c.name, ["true"], options, written⟩) ∧
        s.record (line.interpret (("--no-" ++ flag) :: options.tokens)) =
          (.ok [], s.called ⟨c.name, ["false"], options, switchedOff⟩) ∧
        s.record (file ["false"]) =
          (.ok (), s.called ⟨c.name, ["false"], options, written⟩)) := by
  subst sameTable
  have found := CommandLine.get?_longFlag accepted member hasFlag
  intro typed switchedOff written file
  have fromFile : ∀ arguments : List String, (∀ a ∈ arguments, '\n' ∉ a.toList) →
      (∀ a ∈ arguments, OptionToken.ofToken? a = none) →
      s.record (file arguments) =
        (.ok (), s.called ⟨c.name, c.completed arguments, options, written⟩) :=
    fun arguments oneLine plain =>
      Recorder.record_callLine member nameOneLine oneLine plain takes reader stream
  constructor
  · intro notSwitch arguments complete texts
    constructor
    · refine Recorder.record_longFlag nonempty found ?_ takes
      simp [Command.arity, notSwitch, Arity.take, ← complete]
    · have asGiven : c.completed arguments = arguments := by
        simp [Command.completed, notSwitch]
      rw [fromFile arguments (fun a ha => (texts a ha).1) fun a ha => (texts a ha).2, asGiven]
  · intro isSwitch
    have foundOff := CommandLine.get?_switchOff accepted member hasFlag isSwitch
    have offFlag : "--no-" ++ flag = "--" ++ ("no-" ++ flag) := by
      rw [← String.append_assoc]
      rfl
    refine ⟨?_, ?_, ?_, ?_, ?_⟩
    · refine Recorder.record_longFlag nonempty found ?_ takes
      simp [Command.arity, isSwitch, Arity.take]
    · rw [fromFile ["true"] (by decide) (by decide), Command.completed_cons]
    · rw [fromFile [] (by simp) (by simp), Command.completed, if_pos ⟨isSwitch, rfl⟩]
    · unfold switchedOff
      rw [offFlag]
      exact Recorder.record_longFlag (by simp) foundOff rfl takes
    · rw [fromFile ["false"] (by decide) (by decide), Command.completed_cons]

theorem frontEnds_agree_title_and_grid :
    let s : Recorder := { table := CommandTable.standard }
    let options : RawOptions := NameMap.ofList [("color", "red")]
    ∃ line, CommandLine.ofTable CommandTable.standard = .ok line ∧
      s.record (line.interpret ["--title", "5 $", "/color=red"]) =
        (.ok [], s.called ⟨"title", ["5 $"], options, Location.onCommandLine "--title" 1⟩) ∧
      s.record (FileReader.interpret {} "figure" "\"title\" \"5 \\$\" \"/color=red\"") =
        (.ok (), s.called ⟨"title", ["5 $"], options, Location.inFile "title" "figure" 1⟩) ∧
      s.record (line.interpret ["--no-grid"]) =
        (.ok [], s.called ⟨"grid", ["false"], NameMap.empty,
          Location.onCommandLine "--no-grid" 1⟩) ∧
      s.record (FileReader.interpret {} "figure" "\"grid\"") =
        (.ok (), s.called ⟨"grid", ["true"], NameMap.empty,
          Location.inFile "grid" "figure" 1⟩) := by
  intro s options
  obtain ⟨line, accepted⟩ : ∃ line, CommandLine.ofTable CommandTable.standard = .ok line :=
    ⟨_, rfl⟩
  have titleMember : StandardCommands.caption "title" 't' "Sets the plot title." ∈
      CommandTable.standard.commands := by
    simp [CommandTable.standard, StandardCommands.all]
  have gridMember : StandardCommands.setting "grid" "boolean" "axes"
      "Draws a background grid." ∈ CommandTable.standard.commands := by
    simp [CommandTable.standard, StandardCommands.all]
  have takes : ∀ o ∈ options.entries,
      (StandardCommands.caption "title" 't' "Sets the plot title.").Takes o := by
    rintro o (_ | ⟨_, ⟨⟩⟩)
    exact ⟨by decide, by decide, by decide⟩
  have title := frontEnds_agree accepted titleMember rfl (by decide) (by decide) takes {}
    "figure" s rfl
  have noOptions : ∀ o ∈ (NameMap.empty : RawOptions).entries,
      (StandardCommands.setting "grid" "boolean" "axes" "Draws a background grid.").Takes o := by
    rintro o ⟨⟩
  have grid := frontEnds_agree accepted gridMember rfl (by decide) (by decide) noOptions {}
    "figure" s rfl
  obtain ⟨typed, written⟩ := title.1 (by decide) ["5 $"] rfl (by decide)
  obtain ⟨-, -, switchedOn, switchedOff, -⟩ := grid.2 (by decide)
  exact ⟨line, accepted, typed, written, switchedOff, switchedOn⟩
end PlotScript
