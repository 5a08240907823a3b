import PlotScript.Proofs.CommandFile.Places
import PlotScript.Proofs.Session.Replay

/-!
# Reading files step by step

A machine that runs a command file one request at a time. A file that includes another one
waits on a stack until the other file has been read. Whether a file may be included is decided
by the counter of the session alone, at the moment when it is to be included, so nothing in the
steps bounds the stack or makes them come to an end.

A step is what a session does at one request: `runCommand_of_included` and
`respond_of_still` say that what the context of a session does besides including files is the
same however deep the files are nested.
-/

namespace PlotScript

/-! ## Calls that include files -/

/-- The path of the file that a call includes, if it includes one. -/
def Setup.included? (setup : Setup) (c : Command) (arguments : List String)
    (options : RawOptions) : Option String :=
  if c.action = .includeFile then
    (c.invocation setup.types arguments options).toOption.bind fun i =>
      (i.textArgument 0).toOption
  else none

namespace Session

variable {setup : Setup} {c : Command} {arguments : List String} {options : RawOptions}

/-- A call that includes a file does what the including does, at the location of the call. -/
theorem runCommand_of_included {path : String}
    (included : setup.included? c arguments options = some path) (includeFile : String → Act)
    (s : Session) :
    runCommand setup includeFile c arguments options s =
      ((includeFile path s).1.mapError (·.withLocation s.location), (includeFile path s).2) := by
  unfold Setup.included? at included
  by_cases isInclude : c.action = .includeFile
  · rw [if_pos isInclude] at included
    obtain ⟨i, read, text⟩ := Option.bind_eq_some_iff.1 included
    unfold runCommand
    cases invoked : c.invocation setup.types arguments options with
    | error d =>
        rw [invoked] at read
        cases read
    | ok j =>
        rw [invoked] at read
        obtain rfl : j = i := Option.some.inj read
        cases argument : j.textArgument 0 with
        | error cause =>
            rw [argument] at text
            cases text
        | ok found =>
            rw [argument] at text
            obtain rfl : found = path := Option.some.inj text
            simp only [isInclude, perform, withText, argument]
  · rw [if_neg isInclude] at included
    cases included

/-- An act that leaves the depth and the location alone. -/
def Stays (act : Act) : Prop :=
  ∀ s, (act s).2.includeDepth = s.includeDepth ∧ (act s).2.location = s.location

theorem stays_withText {i : Invocation} {position : Nat} {next : String → Act}
    (stays : ∀ text, Stays (next text)) : Stays (withText i position next) := by
  intro s
  unfold withText
  cases i.textArgument position with
  | error cause => exact ⟨rfl, rfl⟩
  | ok text => exact stays text s

/-- Only the including of a file moves a session. -/
theorem stays_perform {action : Action} (other : action ≠ .includeFile)
    (includeFile : String → Act) (i : Invocation) : Stays (perform includeFile i action) := by
  cases action with
  | includeFile => exact absurd rfl other
  | echo => exact stays_withText fun _ _ => ⟨rfl, rfl⟩
  | assign => exact stays_withText fun _ => stays_withText fun _ _ => ⟨rfl, rfl⟩
  | printArgument position => exact stays_withText fun _ _ => ⟨rfl, rfl⟩
  | _ => exact fun _ => ⟨rfl, rfl⟩

theorem perform_congr {action : Action} (other : action ≠ .includeFile)
    (includeFile includeOther : String → Act) (i : Invocation) :
    perform includeFile i action = perform includeOther i action := by
  cases action with
  | includeFile => exact absurd rfl other
  | _ => rfl

/-- Any other call leaves the depth and the location alone, however files are included. -/
theorem runCommand_of_not_included (none : setup.included? c arguments options = none)
    (includeFile includeOther : String → Act) (s : Session) :
    runCommand setup includeFile c arguments options s =
        runCommand setup includeOther c arguments options s ∧
      (runCommand setup includeFile c arguments options s).2.includeDepth = s.includeDepth ∧
      (runCommand setup includeFile c arguments options s).2.location = s.location := by
  unfold Setup.included? at none
  unfold runCommand
  cases invoked : c.invocation setup.types arguments options with
  | error d => exact ⟨rfl, rfl, rfl⟩
  | ok i =>
      by_cases isInclude : c.action = .includeFile
      · -- the call has no text for a path
        rw [if_pos isInclude, invoked] at none
        have noText : (i.textArgument 0).toOption = Option.none := none
        dsimp only
        rw [isInclude, perform, perform, withText, withText]
        cases argument : i.textArgument 0 with
        | error cause => exact ⟨rfl, rfl, rfl⟩
        | ok path =>
            rw [argument] at noText
            cases noText
      · dsimp only
        rw [perform_congr isInclude includeFile includeOther]
        exact ⟨rfl, stays_perform isInclude includeOther i s⟩

/-- A request that leaves the location alone is answered alike at every depth, fits the table
and changes neither depth nor location. -/
theorem respond_of_still {r : Request} (isStill : r.isStill = true)
    (includeFile other : String → Act) (startLegacy otherLegacy : LegacyParser → String → Act)
    (s : Session) :
    respond setup includeFile startLegacy r s = respond setup other otherLegacy r s ∧
      r.Fits setup.table (respond setup includeFile startLegacy r s).1 ∧
      (respond setup includeFile startLegacy r s).2.includeDepth = s.includeDepth ∧
      (respond setup includeFile startLegacy r s).2.location = s.location := by
  cases r with
  | runCommand => cases isStill
  | setLocation => cases isStill
  | runLegacy => cases isStill
  | runScript code =>
      refine ⟨rfl, trivial, ?_⟩
      unfold respond runScript
      cases setup.host with
      | none => exact ⟨rfl, rfl⟩
      | some host => exact ⟨rfl, rfl⟩
  | location => exact ⟨rfl, trivial, rfl, rfl⟩
  | lookupCommand name => exact ⟨rfl, rfl, rfl, rfl⟩
  | define name binding override => exact ⟨rfl, trivial, rfl, rfl⟩
  | scope => exact ⟨rfl, trivial, rfl, rfl⟩
  | isBoolean tag => exact ⟨rfl, rfl, rfl, rfl⟩
  | warn warning => exact ⟨rfl, trivial, rfl, rfl⟩

end Session

/-! ## The machine -/

/-- The program that reads the file at a path. -/
def Setup.fileProgram (setup : Setup) (path : String) : Program (Except Diagnostic Unit) :=
  match setup.files.text path with
  | .error fault =>
      .done (.error ((Cause.unreadable fault).unplaced.withHelp ("while reading " ++ path)))
  | .ok text => (setup.reader.interpret path text).run

/-- A file that waits for a file that it includes. -/
structure Waiting where
  path : String
  /-- what the file does when the included file has been read -/
  resume : Except Diagnostic Unit → Program (Except Diagnostic Unit)
  /-- the location of the session at the include -/
  location : Location

/-- A file that is being read, and the files that wait for it, the innermost one first. -/
structure Machine where
  path : String
  rest : Program (Except Diagnostic Unit)
  waiting : List Waiting
  session : Session

namespace Machine

open Session

/-- Begins to read the file at a path. -/
def start (setup : Setup) (path : String) (s : Session) : Machine where
  path := path
  rest := setup.fileProgram path
  waiting := []
  session := { s with opened := s.opened ++ [path] }

/-- Goes on with what the rest of the file does after an answer. -/
def goOn (m : Machine) (rest : Program (Except Diagnostic Unit)) (s : Session) : Machine :=
  { m with rest, session := s }

/-- Lets the file wait and begins to read another one. -/
def descend (setup : Setup) (m : Machine)
    (resume : Except Diagnostic Unit → Program (Except Diagnostic Unit)) (path : String) :
    Machine where
  path := path
  rest := setup.fileProgram path
  waiting := ⟨m.path, resume, m.session.location⟩ :: m.waiting
  session :=
    { m.session with
      includeDepth := m.session.includeDepth + 1
      opened := m.session.opened ++ [path] }

/-- Goes back to the file that waits for this one, with what this one came to. -/
def ascend (m : Machine) (w : Waiting) (waiting : List Waiting)
    (result : Except Diagnostic Unit) : Machine where
  path := w.path
  rest := w.resume (result.mapError (·.withLocation w.location))
  waiting := waiting
  session :=
    { m.session with
      includeDepth := m.session.includeDepth - 1
      location := w.location }

/-- The error of an include that would nest too deep. -/
def tooDeep (m : Machine) (path : String) : Diagnostic :=
  (Cause.includeTooDeep maxIncludeDepth path).placed m.session.location

/-- What a session does at one request. Behind its last request a file gives way to the one
that waits for it, and the machine stops when none does. There is no legacy parser to go to:
a file that is not looked at for the legacy syntax never asks for one. -/
def step (setup : Setup) (m : Machine) : Option Machine :=
  match m.rest with
  | .done result =>
      match m.waiting with
      | [] => none
      | w :: waiting => some (m.ascend w waiting result)
  | .ask (.runCommand c arguments options) next =>
      match setup.included? c arguments options with
      | some path =>
          if maxIncludeDepth ≤ m.session.includeDepth then
            some (m.goOn (next (.error (m.tooDeep path))) m.session)
          else some (m.descend setup next path)
      | none =>
          let (answer, s) := runCommand setup includeTooDeep c arguments options m.session
          some (m.goOn (next answer) s)
  | .ask r next =>
      let (answer, s) := respond setup includeTooDeep (fun _ _ => refuseLegacy) r m.session
      some (m.goOn (next answer) s)

/-- The machine after so many steps, or when it has stopped before. -/
def after (setup : Setup) (m : Machine) : Nat → Machine
  | 0 => m
  | n + 1 =>
      match m.step setup with
      | none => m
      | some m' => m'.after setup n

/-! ## Single steps -/

variable {setup : Setup} {path : String} {waiting : List Waiting} {s : Session}

theorem step_setLocation {place : Location} {next : Unit → Program (Except Diagnostic Unit)} :
    (Machine.mk path (.ask (.setLocation place) next) waiting s).step setup =
      some ⟨path, next (), waiting, { s with location := place }⟩ := rfl

theorem step_still {r : Request} {next : r.Answer → Program (Except Diagnostic Unit)}
    (isStill : r.isStill = true) :
    let answered := respond setup includeTooDeep (fun _ _ => refuseLegacy) r s
    (Machine.mk path (.ask r next) waiting s).step setup =
      some ⟨path, next answered.1, waiting, answered.2⟩ := by
  cases r with
  | runCommand => cases isStill
  | setLocation => cases isStill
  | runLegacy => cases isStill
  | _ => rfl

section Calls

variable {c : Command} {arguments : List String} {options : RawOptions}
  {next : Except Diagnostic Unit → Program (Except Diagnostic Unit)}

theorem step_call (none : setup.included? c arguments options = none) :
    let answered := runCommand setup includeTooDeep c arguments options s
    (Machine.mk path (.ask (.runCommand c arguments options) next) waiting s).step setup =
      some ⟨path, next answered.1, waiting, answered.2⟩ := by
  simp only [step, none]
  rfl

theorem step_tooDeep {included : String}
    (includes : setup.included? c arguments options = some included)
    (full : maxIncludeDepth ≤ s.includeDepth) :
    (Machine.mk path (.ask (.runCommand c arguments options) next) waiting s).step setup =
      some ⟨path, next (.error ((Cause.includeTooDeep maxIncludeDepth included).placed s.location)),
        waiting, s⟩ := by
  simp only [step, includes, if_pos full]
  rfl

theorem step_descend {included : String}
    (includes : setup.included? c arguments options = some included)
    (room : s.includeDepth < maxIncludeDepth) :
    (Machine.mk path (.ask (.runCommand c arguments options) next) waiting s).step setup =
      some (descend setup (Machine.mk path (.ask (.runCommand c arguments options) next) waiting s)
        next included) := by
  simp only [step, includes, if_neg (Nat.not_le.2 room)]

end Calls

/-! ## Many steps -/

theorem after_succ {m m' : Machine} (stepped : m.step setup = some m') (n : Nat) :
    m.after setup (n + 1) = m'.after setup n := by
  rw [after, stepped]

/-- A machine that has stopped stays as it is. -/
theorem after_of_stopped {m : Machine} (stopped : m.step setup = none) (n : Nat) :
    m.after setup n = m := by
  cases n with
  | zero => rfl
  | succ n => rw [after, stopped]

theorem after_add (m : Machine) (a b : Nat) :
    m.after setup (a + b) = (m.after setup a).after setup b := by
  induction a generalizing m with
  | zero =>
      rw [Nat.zero_add]
      rfl
  | succ a ih =>
      cases stepped : m.step setup with
      | none => rw [after_of_stopped stepped, after_of_stopped stepped, after_of_stopped stepped]
      | some m' => rw [Nat.succ_add, after_succ stepped, after_succ stepped, ih]

/-- What every step keeps holds after any number of steps. -/
theorem after_induction {P : Machine → Prop} (keeps : ∀ m m', P m → m.step setup = some m' → P m')
    {m : Machine} (begins : P m) (n : Nat) : P (m.after setup n) := by
  induction n generalizing m with
  | zero => exact begins
  | succ n ih =>
      cases stepped : m.step setup with
      | none =>
          rw [after_of_stopped stepped]
          exact begins
      | some m' =>
          rw [after_succ stepped]
          exact ih (keeps m m' begins stepped)

/-- The machine comes from one state to another while the given files wait. -/
def Reaches (setup : Setup) (waiting : List Waiting) (m m' : Machine) : Prop :=
  ∃ n, m.after setup n = m' ∧ ∀ k ≤ n, waiting <:+ (m.after setup k).waiting

namespace Reaches

variable {m m' m'' : Machine}

theorem refl (h : waiting <:+ m.waiting) : Reaches setup waiting m m := by
  refine ⟨0, rfl, fun k atStart => ?_⟩
  obtain rfl : k = 0 := Nat.le_zero.1 atStart
  exact h

theorem trans (first : Reaches setup waiting m m') (others : Reaches setup waiting m' m'') :
    Reaches setup waiting m m'' := by
  obtain ⟨a, rfl, firstWait⟩ := first
  obtain ⟨b, rfl, othersWait⟩ := others
  refine ⟨a + b, after_add m a b, fun k within => ?_⟩
  rcases Nat.le_total k a with early | late
  · exact firstWait k early
  · obtain ⟨j, rfl⟩ := Nat.exists_eq_add_of_le late
    rw [after_add]
    exact othersWait j (by omega)

theorem step (h : waiting <:+ m.waiting) (stepped : m.step setup = some m')
    (others : Reaches setup waiting m' m'') : Reaches setup waiting m m'' := by
  obtain ⟨b, rfl, othersWait⟩ := others
  refine ⟨b + 1, after_succ stepped b, fun k within => ?_⟩
  cases k with
  | zero => exact h
  | succ k =>
      rw [after_succ stepped]
      exact othersWait k (Nat.le_of_succ_le_succ within)

/-- While more files wait the fewer ones do. -/
theorem mono {fewer : List Waiting} (h : Reaches setup waiting m m') (suffix : fewer <:+ waiting) :
    Reaches setup fewer m m' := by
  obtain ⟨n, reached, wait⟩ := h
  exact ⟨n, reached, fun k within => suffix.trans (wait k within)⟩

end Reaches

end Machine

end PlotScript
