import PlotScript.Command.Standard
import PlotScript.Proofs.CommandFile.LineGroups
import PlotScript.Proofs.CommandFile.Passes

/-!
# Where calls and errors are placed

A call that is recorded of a command file has the place of the line that it is made by, and an
error that a file ends in has the place of the line that is at fault: the number is that of the
last physical line which makes the logical line, however often and in whatever order loops have
brought the run to it.
-/

namespace PlotScript.Recorder

/-- The places that are recorded of a file are true. Each new call has been made by a statement
that the run comes to, in the state in which just the calls in front of it have been recorded,
out of the words of that statement. Its place bears the name of its command, and the number of
the last of the physical lines that make the statement. An error has the place of the statement
that is at fault, or of the line that opens the block that is left open. -/
theorem record_interpret_places (s : Recorder) (stream text : String) :
    let physical := Text.lines text.toList
    let lines := Line.ofText text.toList
    let ran := s.record (FileReader.interpret ⟨false⟩ stream text)
    s.calls <+: ran.2.calls ∧
      (∀ earlier call, earlier ++ [call] <+: ran.2.calls → s.calls.length ≤ earlier.length →
        ∃ level line behind u, Reaches stream lines s level line behind u ∧
          line.IsStored physical ∧ u.calls = earlier ∧ line.Makes stream u call ∧
          call.location = ⟨call.command, stream, line.number, 0⟩) ∧
      ∀ d, ran.1 = .error d →
        ∃ level line behind u label cause, Reaches stream lines s level line behind u ∧
          line.IsStored physical ∧ 1 ≤ line.number ∧ line.number ≤ physical.length ∧
          line.Fault u behind label cause ∧
          d = cause.placed ⟨label, stream, line.number, 0⟩ := by
  intro physical lines ran
  have isRun : ran = s.record (CommandFile.runLines stream lines) :=
    congrArg s.record (FileReader.interpret_of_modern rfl stream text)
  have traced := traced_runLines stream lines s
  rw [isRun]
  refine ⟨traced.grows, fun earlier call grown before => ?_, fun d failed => ?_⟩
  · obtain ⟨line, behind, u, ⟨level, reaches⟩, same, makes⟩ :=
      traced.calls earlier call grown before
    have place : call.location = ⟨call.command, stream, line.number, 0⟩ := by
      obtain ⟨c, words, parted, -, -, -, -, rfl⟩ := makes
      rfl
    exact ⟨level, line, behind, u, reaches, Line.isStored_of_mem_ofText reaches.mem, same, makes,
      place⟩
  · obtain ⟨line, behind, u, ⟨level, reaches⟩, label, cause, fault, rfl⟩ := traced.errors d failed
    have bounds := Line.number_of_mem_ofText reaches.mem
    exact ⟨level, line, behind, u, label, cause, reaches, Line.isStored_of_mem_ofText reaches.mem,
      bounds.1, bounds.2, fault, rfl⟩

/-- A command on two lines is replayed behind a script block, and an end of a loop is left over. -/
theorem places_of_replayed_command :
    let s : Recorder := { table := CommandTable.standard }
    let text := "for x in 1 2\nruby\nfor end\nruby end\nplot \\\n$x\nfor end\nfor end\n"
    let ran := s.record (FileReader.interpret ⟨false⟩ "figure" text)
    let plotted (word : String) : RecordedCall := ⟨"plot", [word], .empty, ⟨"plot", "figure", 6, 0⟩⟩
    ran.2.calls = [plotted "1", plotted "2"] ∧
      (∃ level line behind u,
        Reaches "figure" (Line.ofText text.toList) s level line behind u ∧
          u.calls = [plotted "1"] ∧ line.Makes "figure" u (plotted "2") ∧ line.number = 6) ∧
      ∃ d line, ran.1 = .error d ∧ line ∈ Line.ofText text.toList ∧ line.number = 8 ∧
        d.location = some ⟨"for end", "figure", line.number, 0⟩ := by
  intro s text ran plotted
  obtain ⟨-, calls, errors⟩ := record_interpret_places s "figure" text
  have called : ran.2.calls = [plotted "1"] ++ [plotted "2"] := by decide +kernel
  refine ⟨called, ?_, ?_⟩
  · obtain ⟨level, line, behind, u, reaches, -, before, makes, place⟩ :=
      calls [plotted "1"] (plotted "2") (called ▸ List.prefix_refl _) (Nat.zero_le _)
    exact ⟨level, line, behind, u, reaches, before, makes,
      (congrArg Location.line place).symm⟩
  · let d := (Cause.strayBlockEnd .loop).placed ⟨"for end", "figure", 8, 0⟩
    have failed : ran.1 = .error d := by decide +kernel
    obtain ⟨level, line, behind, u, label, cause, reaches, -, -, -, -, isD⟩ := errors d failed
    have place := Option.some.inj (congrArg Diagnostic.location isD)
    have number : line.number = 8 := (congrArg Location.line place).symm
    exact ⟨d, line, failed, reaches.mem, number, number ▸ rfl⟩

end PlotScript.Recorder
