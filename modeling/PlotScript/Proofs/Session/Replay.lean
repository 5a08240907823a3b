import PlotScript.Command.Standard
import PlotScript.Proofs.Coercion.RoundTrip
import PlotScript.Proofs.Command.Invocation
import PlotScript.Proofs.Execution.Statements
import PlotScript.Proofs.Output.Transcript
import PlotScript.Session.Basic

/-!
# Replaying a transcript

The line that a session prints for a drawing operation, read as a command file of
one line, makes any session draw the same operation.
-/

namespace PlotScript

open Text
open Value (HasType)

/-! ## Bare words -/

/-- A bare word is neither the sign of an assignment nor an option. -/
theorem Statement.beginsWithSign_of_isBare {s : List Char} (bare : IsBare s) :
    beginsWithSign s = false := by
  have equals : ∀ sign ∈ signs, '=' ∈ sign.toList := by decide
  refine beginsWithSign_eq_false_iff.2 fun sign member front => ?_
  exact absurd (bare '=' (front.subset (equals sign member))) (by decide)

theorem OptionToken.ofToken?_of_isBare {s : String} (bare : IsBare s.toList) :
    ofToken? s = none := by
  unfold ofToken?
  split
  · rename_i c rest letters
    exact absurd (bare '/' (letters ▸ List.mem_cons_self)) (by decide)
  · rfl

/-- A value is a text or displayed in bare characters. -/
theorem Value.HasType.text_or_isBare {tag : String} {v : Value} (h : HasType tag v) :
    v = .text v.display ∨ IsBare v.display.toList := by
  by_cases isText : tag = "text"
  · refine .inl ?_
    cases h with
    | text s => rfl
    | _ => exact absurd isText (by decide)
  · exact .inr (isBare_display h isText)

/-! ## Operations that can be replayed -/

/-- The texts of an operation are not taken for anything else when they are shown
in a transcript. -/
structure Transcript.TextsShown (i : Invocation) : Prop where
  arguments : ∀ s, .text s ∈ i.arguments →
    IsShown s ∧ Statement.beginsWithSign s.toList = false ∧ OptionToken.ofToken? s = none
  options : ∀ name s, (name, .text s) ∈ i.options.entries → IsShown s

/-- A command whose name and options are written in bare characters and whose
values have a display form that is read back. -/
structure Command.IsReplayable (c : Command) : Prop where
  named : IsNameText c.name.toList
  someParameter : c.parameters ≠ []
  parameters : ∀ p ∈ c.parameters, p.typeTag ≠ "bijection"
  options : ∀ o ∈ c.options.entries,
    o.2 ≠ "bijection" ∧ IsBare o.1.toList ∧ OptionToken.IsName o.1

/-- Every standard drawing command but the axis transformation is replayable. -/
theorem StandardCommands.isReplayable {c : Command} (member : c ∈ StandardCommands.all)
    (draws : c.action = .draw) (other : c.name ≠ "xtransform") : c.IsReplayable := by
  -- a finite table of conditions that can be decided
  have facts : ∀ c ∈ StandardCommands.all, c.action = .draw → c.name ≠ "xtransform" →
      IsNameText c.name.toList ∧ c.parameters ≠ [] ∧
        (∀ p ∈ c.parameters, p.typeTag ≠ "bijection") ∧
        ∀ o ∈ c.options.entries,
          o.2 ≠ "bijection" ∧ IsBare o.1.toList ∧ OptionToken.IsName o.1 := by
    decide +kernel
  obtain ⟨named, someParameter, parameters, options⟩ := facts c member draws other
  exact ⟨named, someParameter, parameters, options⟩

namespace Command.IsReplayable

variable {c : Command} (replayable : c.IsReplayable) {i : Invocation} {arguments : List String}
  {options : RawOptions} (read : c.invocation Registry.standard arguments options = .ok i)
include replayable read

/-- The values of an operation have the types that the command declares. -/
theorem hasType_arguments :
    List.Forall₂ (fun p v => HasType p.typeTag v) c.parameters i.arguments := by
  obtain ⟨-, texts, -⟩ := exists_texts_of_invocation read
  have known := (List.forall₂_and_left c.parameters i.arguments).2 ⟨replayable.parameters, texts⟩
  exact known.imp fun p v ⟨known, text, coerced⟩ => Value.hasType_of_coerce known coerced

theorem hasType_options : ∀ o ∈ i.options.entries, ∃ tag, (o.1, tag) ∈ c.options.entries ∧
    c.options.get? o.1 = some tag ∧ HasType tag o.2 := by
  obtain ⟨-, -, texts⟩ := exists_texts_of_invocation read
  intro o member
  obtain ⟨tag, text, declared, coerced⟩ := texts o member
  have entry : (o.1, tag) ∈ c.options.entries := NameMap.mem_of_get? declared
  exact ⟨tag, entry, declared, Value.hasType_of_coerce (replayable.options _ entry).1 coerced⟩

theorem isWritable (shown : Transcript.TextsShown i) : Transcript.IsWritable i := by
  have typed := replayable.hasType_arguments read
  refine ⟨?_, ?_, fun v member => ?_, fun o member => ?_⟩
  · rw [(exists_texts_of_invocation read).1]
    exact replayable.named
  · intro none
    rw [none, List.forall₂_nil_right_iff] at typed
    exact replayable.someParameter typed
  · obtain ⟨p, hasType⟩ := exists_of_mem_right typed member
    rcases hasType.text_or_isBare with isText | bare
    · exact shown.arguments v.display (isText ▸ member)
    · exact ⟨Transcript.isShown_of_isBare bare, Statement.beginsWithSign_of_isBare bare,
        OptionToken.ofToken?_of_isBare bare⟩
  · obtain ⟨tag, entry, -, hasType⟩ := replayable.hasType_options read o member
    refine ⟨(replayable.options _ entry).2.1, ?_⟩
    rcases hasType.text_or_isBare with isText | bare
    · exact shown.options o.1 o.2.display (isText ▸ member)
    · exact Transcript.isShown_of_isBare bare

/-- What the values of an operation are displayed as makes the operation again. -/
theorem invocation_display :
    c.invocation Registry.standard (i.arguments.map Value.display)
      (i.options.map Value.display) = .ok i := by
  refine invocation_of_readings Value.display (exists_texts_of_invocation read).1 ?_ ?_
  · exact (replayable.hasType_arguments read).imp fun p v hasType => coerce_display hasType
  · intro o member
    obtain ⟨tag, -, declared, hasType⟩ := replayable.hasType_options read o member
    exact ⟨tag, declared, coerce_display hasType⟩

theorem takes (writable : Transcript.IsWritable i) :
    ∀ o ∈ (i.options.map Value.display).entries, c.Takes o := by
  intro o member
  obtain ⟨p, inside, rfl⟩ := List.mem_map.1 member
  obtain ⟨tag, entry, declared, -⟩ := replayable.hasType_options read p inside
  refine ⟨?_, (replayable.options _ entry).2.2,
    Transcript.oneLine_of_isShown (writable.options p inside).2⟩
  rw [Command.declaresOption, NameMap.contains, declared]
  rfl

/-- The line of an operation runs its command in every context that holds it, with
texts that make the operation again. -/
theorem run_interpret_textLine (shown : Transcript.TextsShown i) (reader : FileReader)
    (stream : String) {σ : Type} {context : Context σ} {t : σ} (holds : context.Holds t c) :
    (reader.interpret stream (Transcript.textLine i)).run.run context t =
      context (.runCommand c (i.arguments.map Value.display) (i.options.map Value.display))
        (context (.setLocation (Location.inFile c.name stream 1)) t).2 := by
  have writable := replayable.isWritable read shown
  have split := Transcript.splitLine_textLine writable
  rw [(exists_texts_of_invocation read).1] at split
  have plain : ∀ a ∈ i.arguments.map Value.display, OptionToken.ofToken? a = none := by
    intro a member
    obtain ⟨v, inside, rfl⟩ := List.mem_map.1 member
    exact (writable.arguments v inside).2.2
  have ran := CommandFile.run_interpret holds (Transcript.isCallLine_textLine writable) split
    plain (replayable.takes read writable) reader stream
  obtain ⟨v, rest, nonempty⟩ := List.exists_cons_of_ne_nil writable.someArgument
  rw [ran, nonempty, List.map_cons, c.completed_cons]

end Command.IsReplayable

/-! ## Replaying in a session -/

namespace Session

variable {setup : Setup} {room : Nat} {c : Command}

/-- However deep files are nested, a session answers requests alike. -/
theorem exists_respond (setup : Setup) (room : Nat) :
    ∃ includeFile startLegacy,
      contextWithin setup room = respond setup includeFile startLegacy := by
  cases room with
  | zero => exact ⟨_, _, rfl⟩
  | succ room => exact ⟨_, _, rfl⟩

/-- A session reads its answers about variables, commands and types off its state. -/
theorem tells : (contextWithin setup room).Tells (fun _ => setup.table) Session.scope := by
  obtain ⟨includeFile, startLegacy, isRespond⟩ := exists_respond setup room
  rw [isRespond]
  exact ⟨fun _ => rfl, fun _ _ => rfl, fun _ _ => rfl⟩

theorem holds (member : c ∈ setup.table.commands) (s : Session) :
    (contextWithin setup room).Holds s c :=
  tells.holds member

/-- A drawing command hands its invocation to the surface. -/
theorem runCommand_draw (draws : c.action = .draw) {i : Invocation} {arguments : List String}
    {options : RawOptions} (read : c.invocation setup.types arguments options = .ok i)
    (s : Session) :
    contextWithin setup room (.runCommand c arguments options) s = (.ok (), s.draw i) := by
  obtain ⟨includeFile, startLegacy, isRespond⟩ := exists_respond setup room
  rw [isRespond, respond, runCommand, read, draws]
  rfl

theorem setLocation (l : Location) (s : Session) :
    (contextWithin setup room (.setLocation l) s).2 = { s with location := l } := by
  obtain ⟨includeFile, startLegacy, isRespond⟩ := exists_respond setup room
  rw [isRespond]
  rfl

/-- Replaying a transcript reproduces it. The line of an operation of a standard
drawing command runs the command with texts that are read as the operation again,
whatever the context knows about the variables, and a session draws it again. -/
theorem replay_textLine (standardTable : setup.table = CommandTable.standard)
    (standardTypes : setup.types = Registry.standard)
    (member : c ∈ CommandTable.standard.commands) (draws : c.action = .draw)
    (other : c.name ≠ "xtransform") {arguments : List String} {options : RawOptions}
    {i : Invocation} (read : c.invocation Registry.standard arguments options = .ok i)
    (shown : Transcript.TextsShown i) (reader : FileReader) (stream : String) :
    let replayed := reader.interpret stream (Transcript.textLine i)
    let place := Location.inFile c.name stream 1
    ∃ arguments options, c.invocation Registry.standard arguments options = .ok i ∧
      (∀ {σ : Type} (context : Context σ) (t : σ), context.Holds t c →
        replayed.run.run context t =
          context (.runCommand c arguments options) (context (.setLocation place) t).2) ∧
      ∀ s, run setup replayed s = (.ok (), ({ s with location := place }).draw i) := by
  intro replayed place
  have replayable := StandardCommands.isReplayable member draws other
  have again := replayable.invocation_display read
  refine ⟨i.arguments.map Value.display, i.options.map Value.display, again, ?_, ?_⟩
  · intro σ context t holds
    exact replayable.run_interpret_textLine read shown reader stream holds
  · intro s
    rw [← standardTable] at member
    rw [← standardTypes] at again
    have inSession : (context setup).Holds s c := holds member s
    have ran := replayable.run_interpret_textLine read shown reader stream inSession
    rw [run, follow, ran, context, setLocation, runCommand_draw draws again]

theorem replay_textLine_title :
    let setup : Setup := { table := CommandTable.standard, types := Registry.standard }
    let s : Session := { transcript := Transcript.empty .text .console }
    let line := "title \"Growth per year\" /color=1,0,0"
    run setup (FileReader.interpret {} "figure" line) s =
      (.ok (), { s with
        location := Location.inFile "title" "figure" 1
        transcript := ⟨.text, 1, ⟨.console, line ++ "\n"⟩⟩ }) := by
  intro setup s line
  let title := StandardCommands.caption "title" 't' "Sets the plot title."
  let i : Invocation :=
    ⟨"title", [.text "Growth per year"], NameMap.ofList [("color", Coder.rgb 255 0 0)]⟩
  have read : title.invocation Registry.standard ["Growth per year"]
      (NameMap.ofList [("color", "red")]) = .ok i := by
    decide +kernel
  have member : title ∈ CommandTable.standard.commands := by
    simp [CommandTable.standard, StandardCommands.all, title]
  have shown : Transcript.TextsShown i := by
    refine ⟨fun text inside => ?_, fun name text inside => ?_⟩
    · obtain rfl : text = "Growth per year" := by simpa [i] using inside
      decide
    · rcases inside with _ | ⟨_, ⟨⟩⟩
  have isLine : Transcript.textLine i = line := by
    decide +kernel
  have standardTable : setup.table = CommandTable.standard := rfl
  obtain ⟨arguments, options, -, -, drawn⟩ :=
    replay_textLine standardTable rfl member rfl (by decide) read shown {} "figure"
  rw [isLine] at drawn
  rw [drawn]
  have printed : Transcript.line .text i = line := isLine
  simp only [draw, Transcript.apply, s, Transcript.empty, printed]
  rfl

end Session

end PlotScript
