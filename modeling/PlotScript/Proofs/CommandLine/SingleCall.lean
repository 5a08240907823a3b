import PlotScript.CommandLine.Basic
import PlotScript.Proofs.CommandLine.FlagIndex
import PlotScript.Proofs.Command.InlineOption
import PlotScript.Proofs.Execution.Running

/-!
# Command lines of one call

A long flag with what it takes behind it is one call, and running it asks the
context for nothing but the place and the command.
-/

namespace PlotScript

theorem TokenShape.ofToken_long {name : String} (nonempty : name ≠ "") :
    ofToken ("--" ++ name) = .long name := by
  have letters : name.toList ≠ [] := by simpa using nonempty
  obtain ⟨c, rest, spelled⟩ := List.exists_cons_of_ne_nil letters
  have whole : String.ofList (c :: rest) = name := by
    rw [← spelled, String.ofList_toList]
  have token : ("--" ++ name).toList = '-' :: '-' :: c :: rest := by
    rw [String.toList_append, spelled]
    rfl
  rw [ofToken, token]
  simp only [whole]

namespace CommandLine

variable {line : CommandLine} {name : String} {entry : FlagEntry}
  {tokens arguments behind : List String} {options : RawOptions}

/-- A flag with its arguments and options in front of other tokens is the first call. -/
theorem plan_longFlag {taken : Harvest} (nonempty : name ≠ "")
    (found : line.index.get? (.long name) = some entry)
    (took : entry.arity.take (Location.onCommandLine ("--" ++ name) 1) tokens =
      .ok (arguments, behind))
    (harvested : harvestOptions entry.command behind = .ok taken) :
    line.plan 0 (("--" ++ name) :: tokens) =
      .call ⟨entry.command, arguments, taken.options, taken.undeclared,
        Location.onCommandLine ("--" ++ name) 1⟩ :: line.plan 1 taken.rest := by
  have read : line.readFlag 0 (.long name) tokens =
      .ok (⟨entry.command, arguments, taken.options, taken.undeclared,
        Location.onCommandLine ("--" ++ name) 1⟩, taken.rest) := by
    simp only [readFlag, found, Call.read, Flag.label, Nat.zero_add, took, harvested]
  rw [plan_cons, TokenShape.ofToken_long nonempty]
  simp only [read]

theorem run_interpret_longFlag {σ : Type} (context : Context σ) (s : σ) (nonempty : name ≠ "")
    (found : line.index.get? (.long name) = some entry)
    (took : entry.arity.take (Location.onCommandLine ("--" ++ name) 1) tokens =
      .ok (arguments, behind))
    (harvested : harvestOptions entry.command behind = .ok ⟨options, [], none⟩) :
    (line.interpret (("--" ++ name) :: tokens)).run.run context s =
      match context (.runCommand entry.command arguments options)
        (context (.setLocation (Location.onCommandLine ("--" ++ name) 1)) s).2 with
      | (.ok (), s') => (.ok [], s')
      | (.error d, s') => (.error d, s') := by
  rw [interpret, plan_longFlag nonempty found took harvested, plan_nil, Step.execute, Run.run_bind,
    Call.execute]
  simp only
  rw [Run.run_bind, Run.run_setLocation]
  simp only
  rw [Run.run_runCommand]
  rcases context (.runCommand entry.command arguments options) _ with ⟨_ | _, s'⟩ <;> rfl

/-! ## Flags of a table -/

section Table

variable {t : CommandTable} {c : Command}

theorem ofTable_eq_ok (accepted : ofTable t = .ok line) :
    FlagIndex.ofTable t = .ok line.index := by
  unfold ofTable at accepted
  cases indexed : FlagIndex.ofTable t with
  | error cause =>
      rw [indexed] at accepted
      cases accepted
  | ok index =>
      rw [indexed] at accepted
      obtain rfl := Except.ok.inj accepted
      rfl

/-- The long flag of a command reaches it. -/
theorem get?_longFlag (accepted : ofTable t = .ok line) (member : c ∈ t.commands)
    (hasFlag : c.longFlag = some name) :
    line.index.get? (.long name) = some ⟨.long name, c.arity, c⟩ := by
  have claimed : ⟨.long name, c.arity, c⟩ ∈ c.flagEntries := by
    simp [Command.flagEntries, hasFlag]
  exact FlagIndex.get?_of_mem_flagEntries (ofTable_eq_ok accepted) member claimed

/-- The `no-` flag of a switch reaches it. -/
theorem get?_switchOff (accepted : ofTable t = .ok line) (member : c ∈ t.commands)
    (hasFlag : c.longFlag = some name) (isSwitch : c.isSwitch = true) :
    line.index.get? (.long ("no-" ++ name)) =
      some ⟨.long ("no-" ++ name), .switchOff, c⟩ := by
  have claimed : ⟨.long ("no-" ++ name), .switchOff, c⟩ ∈ c.flagEntries := by
    simp [Command.flagEntries, hasFlag, isSwitch]
  exact FlagIndex.get?_of_mem_flagEntries (ofTable_eq_ok accepted) member claimed

end Table

end CommandLine

end PlotScript
