import PlotScript.Proofs.Session.Machine

/-!
# Calls in a session

A session refuses a call that cannot be read, and one whose action lacks a text that it works
with. Any other call does what it does and succeeds, unless it includes a file. Neither kind
of refusal knows a place of its own, so it gets the place that the session has come to.
-/

namespace PlotScript

/-- The positions of the arguments that an action takes as texts. -/
def Action.textPositions : Action → List Nat
  | .includeFile | .echo => [0]
  | .assign => [0, 1]
  | .printArgument position => [position]
  | .nothing | .draw | .verbose | .printOption _ => []

/-- A call that is not carried out, why not, and how to mend it. -/
inductive Setup.Refuses (setup : Setup) (c : Command) (arguments : List String)
    (options : RawOptions) : Cause → Option String → Prop
  | unread {d : Diagnostic} (failed : c.invocation setup.types arguments options = .error d) :
      Refuses setup c arguments options d.cause d.help
  | noText {i : Invocation} {cause : Cause}
      (read : c.invocation setup.types arguments options = .ok i)
      (lacks : c.action.textPositions.mapM i.textArgument = .error cause) :
      Refuses setup c arguments options cause none

namespace Session

variable {setup : Setup} {room : Nat} {c : Command} {arguments : List String}
  {options : RawOptions}

/-! ## Requests that do not run a command -/

/-- The session that has come to a call, once it has been warned of an undeclared option. -/
def brought (s : Session) (place : Location) (c : Command) (undeclared : Option String) :
    Session :=
  { s with
    location := place
    warnings := s.warnings ++ (undeclared.map (Warning.notAnOption · c.name)).toList }

theorem context_brought (place : Location) (undeclared : Option String) (s : Session) :
    (contextWithin setup room).brought place c undeclared s = s.brought place c undeclared := by
  obtain ⟨includeFile, startLegacy, isRespond⟩ := exists_respond setup room
  rw [isRespond]
  cases undeclared with
  | none =>
      rw [brought, Option.map_none, Option.toList_none, List.append_nil]
      rfl
  | some option => rfl

theorem context_define (name : String) (binding : Binding) (override : Bool) (s : Session) :
    (contextWithin setup room (.define name binding override) s).2 =
      (s.define name binding override).2 := by
  obtain ⟨includeFile, startLegacy, isRespond⟩ := exists_respond setup room
  rw [isRespond]
  rfl

/-! ## Calls -/

/-- How a session includes a file when `room` more files may be included one inside the
other. -/
def includes (setup : Setup) : Nat → String → Act
  | 0 => includeTooDeep
  | room + 1 => nest setup (contextWithin setup room)

theorem context_runCommand (s : Session) :
    contextWithin setup room (.runCommand c arguments options) s =
      runCommand setup (includes setup room) c arguments options s := by
  cases room with
  | zero => rfl
  | succ room => rfl

/-- An action that lacks a text fails and does nothing. -/
theorem perform_of_noText {i : Invocation} {action : Action} {cause : Cause}
    (lacks : action.textPositions.mapM i.textArgument = .error cause)
    (includeFile : String → Act) (s : Session) :
    perform includeFile i action s = (.error cause.unplaced, s) := by
  have alone : ∀ (position : Nat) (next : String → Act),
      [position].mapM i.textArgument = .error cause →
        withText i position next s = (.error cause.unplaced, s) := by
    intro position next lacks
    rw [withText]
    cases argument : i.textArgument position with
    | error other =>
        rw [List.mapM_cons, argument] at lacks
        obtain rfl : other = cause := Except.error.inj lacks
        rfl
    | ok text =>
        rw [List.mapM_cons, argument] at lacks
        cases lacks
  cases action with
  | includeFile => exact alone 0 _ lacks
  | echo =>
      rw [perform]
      exact alone 0 _ lacks
  | printArgument position =>
      rw [perform]
      exact alone position _ lacks
  | assign =>
      rw [Action.textPositions, List.mapM_cons] at lacks
      rw [perform, withText]
      cases argument : i.textArgument 0 with
      | error other =>
          rw [argument] at lacks
          obtain rfl : other = cause := Except.error.inj lacks
          rfl
      | ok text =>
          rw [argument] at lacks
          rcases error_of_bind_eq_error lacks with absent | ⟨_, _, lacks⟩
          · cases absent
          · rcases error_of_bind_eq_error lacks with lacks | ⟨_, _, never⟩
            · exact alone 1 _ lacks
            · cases never
  | _ => cases lacks

/-- An action that has its texts succeeds, unless it includes a file. -/
theorem perform_of_texts {i : Invocation} {action : Action} {texts : List String}
    (has : action.textPositions.mapM i.textArgument = .ok texts)
    (other : action ≠ .includeFile) (includeFile : String → Act) (s : Session) :
    (perform includeFile i action s).1 = .ok () := by
  rw [mapM_eq_ok_iff] at has
  cases action with
  | includeFile => exact absurd rfl other
  | echo =>
      rw [Action.textPositions] at has
      obtain ⟨text, _, here, -, rfl⟩ := List.forall₂_cons_left_iff.1 has
      rw [perform, withText, here]
  | printArgument position =>
      rw [Action.textPositions] at has
      obtain ⟨text, _, here, -, rfl⟩ := List.forall₂_cons_left_iff.1 has
      rw [perform, withText, here]
  | assign =>
      rw [Action.textPositions] at has
      obtain ⟨name, _, first, others, rfl⟩ := List.forall₂_cons_left_iff.1 has
      obtain ⟨value, _, second, -, rfl⟩ := List.forall₂_cons_left_iff.1 others
      rw [perform, withText, first]
      dsimp only
      rw [withText, second]
  | _ => rfl

theorem runCommand_of_refuses {cause : Cause} {help : Option String}
    (refuses : setup.Refuses c arguments options cause help) (includeFile : String → Act)
    (s : Session) :
    runCommand setup includeFile c arguments options s =
      (.error ⟨cause, some s.location, help⟩, s) := by
  unfold runCommand
  cases refuses with
  | @unread d failed =>
      have unplaced := Command.location_of_invocation_eq_error failed
      rw [failed]
      dsimp only
      rw [Diagnostic.withLocation, unplaced]
  | noText read lacks =>
      rw [read]
      dsimp only
      rw [perform_of_noText lacks]
      rfl

/-- What may become of a call. -/
theorem call_cases (setup : Setup) (c : Command) (arguments : List String)
    (options : RawOptions) :
    (∃ cause help, setup.Refuses c arguments options cause help) ∨
      (∃ path, setup.included? c arguments options = some path) ∨
      ∀ includeFile s, (runCommand setup includeFile c arguments options s).1 = .ok () := by
  cases read : c.invocation setup.types arguments options with
  | error d => exact .inl ⟨d.cause, d.help, .unread read⟩
  | ok i =>
      cases texts : c.action.textPositions.mapM i.textArgument with
      | error cause => exact .inl ⟨cause, none, .noText read texts⟩
      | ok found =>
          by_cases isInclude : c.action = .includeFile
          · refine .inr (.inl ?_)
            rw [isInclude, Action.textPositions, List.mapM_cons] at texts
            obtain ⟨path, argument, -⟩ := exists_of_bind_eq_ok texts
            refine ⟨path, ?_⟩
            rw [Setup.included?, if_pos isInclude, read]
            show (i.textArgument 0).toOption = some path
            rw [argument]
            rfl
          · refine .inr (.inr fun includeFile s => ?_)
            rw [runCommand, read]
            dsimp only
            rw [perform_of_texts texts isInclude]
            rfl

end Session

end PlotScript
