import PlotScript.Proofs.Session.Includes
import PlotScript.Proofs.Session.Origins

/-!
# Requests of a run

What a session is asked while it runs a program: the requests of the program and, at every call
that includes a file, those of the program of this file. How a legacy parser is started inside the
run is left open here. Whatever a parser may do when it is started, a session has the parser back
when it has answered a request, and a session without one answers the same whatever a parser
would do.
-/

namespace PlotScript

namespace Program

variable {σ α : Type} {context other : Context σ} {P : σ → Prop}

/-- What every answer keeps is kept by a whole run. -/
theorem run_keeps (keeps : ∀ r s, P s → P (context r s).2) (p : Program α) {s : σ} (begins : P s) :
    P (p.run context s).2 := by
  induction p generalizing s with
  | done a => exact begins
  | ask r next ih => exact ih _ (keeps r s begins)

/-- Two contexts that answer alike while something holds that they keep run programs alike. -/
theorem run_eq_of_keeps (same : ∀ r s, P s → context r s = other r s)
    (keeps : ∀ r s, P s → P (context r s).2) (p : Program α) {s : σ} (begins : P s) :
    p.run context s = p.run other s := by
  induction p generalizing s with
  | done a => rfl
  | ask r next ih =>
      rw [run_ask, run_ask, ← same r s begins]
      exact ih _ (keeps r s begins)

end Program

namespace Session

variable {setup : Setup} {start other : Nat → LegacyParser → String → Act} {room : Nat}

/-! ## Contexts -/

/-- The context of a session that starts legacy parsers as it is told to, when `room` more files
may be included one inside the other. -/
def contextStarting (setup : Setup) (start : Nat → LegacyParser → String → Act) :
    Nat → Context Session
  | 0 => respond setup includeTooDeep (start 0)
  | room + 1 => respond setup (nest setup (contextStarting setup start room)) (start (room + 1))

/-- How such a session includes a file. -/
def including (setup : Setup) (start : Nat → LegacyParser → String → Act) : Nat → String → Act
  | 0 => includeTooDeep
  | room + 1 => nest setup (contextStarting setup start room)

theorem contextStarting_eq :
    contextStarting setup start room = respond setup (including setup start room) (start room) := by
  cases room with
  | zero => rfl
  | succ room => rfl

theorem contextStarting_startLegacy :
    contextStarting setup (startLegacy setup) room = contextWithin setup room := by
  induction room with
  | zero => rfl
  | succ room ih => rw [contextStarting, contextWithin, ih]

theorem contextStarting_refuseLegacy :
    contextStarting setup (fun _ _ _ => refuseLegacy) room = legacyContext setup room := by
  induction room with
  | zero => rfl
  | succ room ih => rw [contextStarting, legacyContext, ih]

theorem nest_eq (context : Context Session) (path : String) (s : Session) :
    let ran := (setup.fileProgram path).run context (s.descended path)
    nest setup context path s =
      (ran.1, { ran.2 with includeDepth := ran.2.includeDepth - 1, location := s.location }) := by
  rw [nest, readFile_eq]
  rfl

/-! ## Requests -/

/-- A request as a session gets it, when `room` more files may be included one inside the
other. -/
structure Moment where
  room : Nat
  request : Request
  session : Session

/-- The moments of a run: its own requests, and those of every file that it includes. -/
inductive Asks (setup : Setup) (start : Nat → LegacyParser → String → Act) :
    {α : Type} → Nat → Program (Except Diagnostic α) → Session → Moment → Prop
  | here {α : Type} {room : Nat} {r : Request}
      {next : r.Answer → Program (Except Diagnostic α)} {s : Session} :
      Asks setup start room (.ask r next) s ⟨room, r, s⟩
  | later {α : Type} {room : Nat} {r : Request}
      {next : r.Answer → Program (Except Diagnostic α)} {s : Session} {m : Moment}
      (asks : Asks setup start room (next (contextStarting setup start room r s).1)
        (contextStarting setup start room r s).2 m) :
      Asks setup start room (.ask r next) s m
  | inside {α : Type} {room : Nat} {c : Command} {arguments : List String} {options : RawOptions}
      {next : Except Diagnostic Unit → Program (Except Diagnostic α)} {s : Session}
      {path : String} {m : Moment} (included : setup.included? c arguments options = some path)
      (asks : Asks setup start room (setup.fileProgram path) (s.descended path) m) :
      Asks setup start (room + 1) (.ask (.runCommand c arguments options) next) s m

/-! ## The parser of a session -/

/-- An act that leaves a session with the legacy parser that it had. -/
def KeepsParser (act : Act) : Prop :=
  ∀ s, (act s).2.legacyParser = s.legacyParser

theorem keepsParser_withText {i : Invocation} {position : Nat} {next : String → Act}
    (keeps : ∀ text, KeepsParser (next text)) : KeepsParser (withText i position next) := by
  intro s
  unfold withText
  cases i.textArgument position with
  | error cause => rfl
  | ok text => exact keeps text s

theorem keepsParser_perform {includeFile : String → Act}
    (keeps : ∀ path, KeepsParser (includeFile path)) (i : Invocation) (action : Action) :
    KeepsParser (perform includeFile i action) := by
  cases action with
  | includeFile => exact keepsParser_withText keeps
  | echo => exact keepsParser_withText fun _ _ => rfl
  | assign => exact keepsParser_withText fun _ => keepsParser_withText fun _ _ => rfl
  | printArgument position => exact keepsParser_withText fun _ _ => rfl
  | _ => exact fun _ => rfl

/-- A session has its parser back when it has answered, whatever the parser did meanwhile. -/
theorem legacyParser_respond {includeFile : String → Act}
    (keeps : ∀ path, KeepsParser (includeFile path)) (starts : LegacyParser → String → Act)
    (r : Request) (s : Session) :
    (respond setup includeFile starts r s).2.legacyParser = s.legacyParser := by
  cases r with
  | runCommand c arguments options =>
      rw [respond, runCommand]
      cases c.invocation setup.types arguments options with
      | error d => rfl
      | ok i => exact keepsParser_perform keeps i c.action s
  | runScript code =>
      rw [respond, runScript]
      cases setup.host with
      | none => rfl
      | some host => rfl
  | runLegacy text =>
      rw [respond, runLegacy]
      cases installed : s.legacyParser with
      | none => exact installed
      | some parser => rfl -- put back in the place of whatever the run left there
  | _ => rfl

/-- An included file leaves the parser where it is, if the context that reads it does. -/
theorem keepsParser_nest {context : Context Session}
    (keeps : ∀ r s, (context r s).2.legacyParser = s.legacyParser) (path : String) :
    KeepsParser (nest setup context path) := by
  intro s
  rw [nest_eq]
  exact Program.run_keeps (P := fun u => u.legacyParser = s.legacyParser)
    (fun r u same => (keeps r u).trans same) (setup.fileProgram path) (s := s.descended path) rfl

theorem legacyParser_contextStarting (r : Request) (s : Session) :
    (contextStarting setup start room r s).2.legacyParser = s.legacyParser := by
  induction room generalizing r s with
  | zero => exact legacyParser_respond (fun _ _ => rfl) (start 0) r s
  | succ room ih => exact legacyParser_respond (keepsParser_nest ih) (start (room + 1)) r s

/-- No run loses the parser of its session. -/
theorem legacyParser_run {α : Type} (p : Program α) (s : Session) :
    (p.run (contextStarting setup start room) s).2.legacyParser = s.legacyParser :=
  Program.run_keeps (P := fun u => u.legacyParser = s.legacyParser)
    (fun r u same => (legacyParser_contextStarting r u).trans same) p rfl

/-- At every moment of a run the session has the parser that it had when the run began. -/
theorem Asks.legacyParser {α : Type} {p : Program (Except Diagnostic α)} {s : Session} {m : Moment}
    (asks : Asks setup start room p s m) : m.session.legacyParser = s.legacyParser := by
  induction asks with
  | here => rfl
  | later _ ih => exact ih.trans (legacyParser_contextStarting _ _)
  | inside _ _ ih => exact ih

/-! ## Sessions without a parser -/

theorem perform_eq_of_eq {includeFile includeOther : String → Act} {s : Session}
    (same : ∀ path, includeFile path s = includeOther path s) (i : Invocation) (action : Action) :
    perform includeFile i action s = perform includeOther i action s := by
  by_cases isInclude : action = .includeFile
  · rw [isInclude, perform, perform, withText, withText]
    cases i.textArgument 0 with
    | error cause => rfl
    | ok path => exact same path
  · rw [perform_congr isInclude includeFile includeOther]

/-- Where no parser can be started it does not matter how one would be. -/
theorem respond_eq_of_none {includeFile includeOther : String → Act} {s : Session}
    (same : ∀ path, includeFile path s = includeOther path s) (absent : s.legacyParser = none)
    (starts startsOther : LegacyParser → String → Act) (r : Request) :
    respond setup includeFile starts r s = respond setup includeOther startsOther r s := by
  cases r with
  | runCommand c arguments options =>
      rw [respond, respond, runCommand, runCommand]
      cases c.invocation setup.types arguments options with
      | error d => rfl
      | ok i =>
          dsimp only
          rw [perform_eq_of_eq same]
  | runLegacy text => rw [respond, respond, runLegacy, runLegacy, absent]
  | _ => rfl

theorem contextStarting_eq_of_none (r : Request) {s : Session} (absent : s.legacyParser = none) :
    contextStarting setup start room r s = contextStarting setup other room r s := by
  induction room generalizing r s with
  | zero => exact respond_eq_of_none (fun _ => rfl) absent (start 0) (other 0) r
  | succ room ih =>
      -- an included file is read without a parser too, and nothing on the way brings one back
      refine respond_eq_of_none (fun path => ?_) absent (start (room + 1)) (other (room + 1)) r
      rw [nest_eq, nest_eq, Program.run_eq_of_keeps ih
        (fun r u absent => (legacyParser_contextStarting r u).trans absent) _
        (s := s.descended path) absent]

/-- A run that begins without a parser never depends on what one would do. -/
theorem run_eq_of_none {α : Type} (p : Program α) {s : Session} (absent : s.legacyParser = none) :
    p.run (contextStarting setup start room) s = p.run (contextStarting setup other room) s :=
  Program.run_eq_of_keeps (fun r _ => contextStarting_eq_of_none r)
    (fun r u absent => (legacyParser_contextStarting r u).trans absent) p absent

/-- A legacy file that comes up without a parser is refused where it comes up. -/
theorem contextStarting_runLegacy_of_none {s : Session} (absent : s.legacyParser = none)
    (text : String) :
    contextStarting setup start room (.runLegacy text) s = refuseLegacy s := by
  rw [contextStarting_eq, respond, runLegacy, absent]

end Session

end PlotScript
