import PlotScript.Coercion.Builtin
import PlotScript.Proofs.Session.Requests

/-!
# Legacy files and their parser

A session takes its legacy parser away while the parser runs. So whatever the parser asks for,
and whatever the files that it includes ask for, no parser is started below it, and however it
ends it is in its place again for the next legacy file.
-/

namespace PlotScript.Session

variable {setup : Setup} {room : Nat} {s : Session} {parser : LegacyParser}

/-- While the parser of a session runs it does not matter how a parser would be started below it,
and afterwards the session has it again. -/
theorem runLegacy_of_installed (installed : s.legacyParser = some parser)
    (start : Nat → LegacyParser → String → Act) (text : String) :
    let ended := (parser.parse text).run.run (contextStarting setup start room)
      { s with legacyParser := none }
    contextWithin setup room (.runLegacy text) s =
      (ended.1, { ended.2 with legacyParser := some parser }) := by
  intro ended
  have independent :
      startLegacy setup room parser text { s with legacyParser := none } = ended := by
    rw [startLegacy, follow, ← contextStarting_refuseLegacy]
    exact run_eq_of_none _ rfl
  rw [← contextStarting_startLegacy, contextStarting_eq, respond, runLegacy, installed]
  dsimp only
  rw [independent]

/-- A session starts its legacy parser for a legacy file and never inside a run of that parser.
The run ends as it would with any way to start parsers, because every further legacy file that
comes up in it, in the parser itself or in an included file, is refused where it comes up with a
syntax error and without any other effect. Behind the run, whether it succeeded or failed, the
session has the same parser, and whatever program it runs next, it starts this parser again for
the next legacy file. -/
theorem runLegacy_starts_parser_alone (setup : Setup) (room : Nat) {s : Session}
    {parser : LegacyParser} (installed : s.legacyParser = some parser) (text : String) :
    let begun := { s with legacyParser := none }
    let ran := contextWithin setup room (.runLegacy text) s
    (∀ start : Nat → LegacyParser → String → Act,
      let ended := (parser.parse text).run.run (contextStarting setup start room) begun
      ran = (ended.1, { ended.2 with legacyParser := some parser }) ∧
      ∀ within inner u,
        Asks setup start room (parser.parse text).run begun ⟨within, .runLegacy inner, u⟩ →
        ∃ d, contextStarting setup start within (.runLegacy inner) u = (.error d, u) ∧
          d.kind = .grammar ∧ d.cause = .noLegacyParser ∧ d.location = some u.location) ∧
    ∀ (α : Type) (program : Program α) (within : Nat) (later : String),
      let t := (program.run (contextWithin setup within) ran.2).2
      let again := (parser.parse later).run.run (legacyContext setup within)
        { t with legacyParser := none }
      t.legacyParser = some parser ∧
      contextWithin setup within (.runLegacy later) t =
        (again.1, { again.2 with legacyParser := some parser }) := by
  intro begun ran
  refine ⟨fun start => ⟨runLegacy_of_installed installed start text, ?_⟩, ?_⟩
  · intro within inner u asks
    -- nothing in the run gives the session a parser back
    have absent : u.legacyParser = none := asks.legacyParser
    exact ⟨_, contextStarting_runLegacy_of_none absent inner, rfl, rfl, rfl⟩
  · intro α program within later t again
    have kept : ran.2.legacyParser = some parser := by
      rw [← installed]
      show (contextWithin setup room (.runLegacy text) s).2.legacyParser = s.legacyParser
      rw [← contextStarting_startLegacy]
      exact legacyParser_contextStarting _ s
    have here : t.legacyParser = some parser := by
      rw [← kept]
      show (program.run (contextWithin setup within) ran.2).2.legacyParser = ran.2.legacyParser
      rw [← contextStarting_startLegacy]
      exact legacyParser_run program ran.2
    refine ⟨here, ?_⟩
    show _ = (again.1, { again.2 with legacyParser := some parser })
    rw [runLegacy_of_installed here (fun _ _ _ => refuseLegacy) later, contextStarting_refuseLegacy]

/-- A parser that hands its own text on, goes on when this fails, and includes a legacy file. -/
theorem runLegacy_of_nested_legacy_files :
    let setup : Setup :=
      { table := CommandTable.standard
        types := Registry.standard
        files := fun path =>
          if path = "old.plt" then .ok "title(x)\n".toUTF8 else .error .notFound }
    let parser : LegacyParser := ⟨fun text => ExceptT.mk (.ask (.runLegacy text) fun _ =>
      .ask (.runCommand StandardCommands.includeFile ["old.plt"] NameMap.empty) .done)⟩
    let s : Session :=
      { transcript := Transcript.empty .text .console, legacyParser := some parser }
    let refused : Diagnostic :=
      { cause := .noLegacyParser
        location := some Location.none
        help := some "rerun with --no-legacy to read it as a modern command file" }
    let ran := context setup (.runLegacy "plot(y)") s
    s.legacyParser = some parser ∧ ran.1 = .error refused ∧ ran.2.opened = ["old.plt"] ∧
      ran.2.legacyParser = some parser ∧
      Asks setup (startLegacy setup) maxIncludeDepth (parser.parse "plot(y)").run
        { s with legacyParser := none }
        ⟨maxIncludeDepth, .runLegacy "plot(y)", { s with legacyParser := none }⟩ ∧
      (context setup (.runLegacy "plot(z)") ran.2).1 = .error refused := by
  intro setup parser s refused ran
  have installed : s.legacyParser = some parser := rfl
  have alone := runLegacy_starts_parser_alone setup maxIncludeDepth installed "plot(y)"
  refine ⟨installed, by decide +kernel, by decide +kernel, ?_, .here, by decide +kernel⟩
  exact (alone.2 Unit (.done ()) maxIncludeDepth "plot(z)").1

end PlotScript.Session
