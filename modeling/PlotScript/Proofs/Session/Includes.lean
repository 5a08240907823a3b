import PlotScript.Proofs.Session.Machine

/-!
# Nested includes

The reading of a file comes to its end whatever the files include, themselves and each other
among them. The measure is the room that is left for includes and, below it, the program of the
file: an include uses up room, and every other step goes down a branch of a finite tree. On the
way back every included file, however it ends, passes the one step that restores depth and
location.
-/

namespace PlotScript

/-- A call at a place, made by one of the lines of the file at a path. -/
def Setup.CallsIn (setup : Setup) (path : String) (place : Location) (c : Command)
    (arguments : List String) (options : RawOptions) : Prop :=
  ∃ text, setup.files.text path = .ok text ∧
    Line.CallsFrom path (Line.ofText text.toList) place c arguments options

/-- Weaker demands on the calls of a program. -/
theorem Program.CallsAt.mono {t : CommandTable}
    {P P' : Location → Command → List String → RawOptions → Prop} {α : Type} {l : Location}
    {program : Program (Except Diagnostic α)} (h : CallsAt t P l program)
    (weaker : ∀ l c arguments options, P l c arguments options → P' l c arguments options) :
    CallsAt t P' l program := by
  induction h with
  | done result => exact .done result
  | setLocation _ ih => exact .setLocation ih
  | call calls _ ih => exact .call (weaker _ _ _ _ calls) ih
  | still isStill _ ih => exact .still isStill ih

variable {setup : Setup}

/-- A file runs every command at the place of one of its own lines. -/
theorem Setup.callsAt_fileProgram (modern : setup.reader.detectsLegacy = false) (path : String)
    (l : Location) :
    Program.CallsAt setup.table (setup.CallsIn path) l (setup.fileProgram path) := by
  unfold fileProgram
  cases found : setup.files.text path with
  | error fault => exact .done _
  | ok text =>
      refine (FileReader.callsAt_interpret modern path text).mono ?_
      intro l c arguments options calls
      exact ⟨text, found, calls⟩

namespace Session

theorem readFile_eq (context : Context Session) (path : String) (s : Session) :
    readFile setup context path s =
      (setup.fileProgram path).run context { s with opened := s.opened ++ [path] } := by
  unfold readFile Setup.fileProgram
  cases setup.files.text path with
  | error fault => rfl
  | ok text => rfl

end Session

namespace Machine

open Session

/-! ## The machine does what a session does -/

/-- In a session with room for so many files the machine answers every call as the session
does, while the same files wait, and the call leaves depth and location as they were. -/
def AnswersCalls (setup : Setup) (room : Nat) : Prop :=
  ∀ (c : Command) (arguments : List String) (options : RawOptions)
    (next : Except Diagnostic Unit → Program (Except Diagnostic Unit)) (path : String)
    (waiting : List Waiting) (s : Session), s.includeDepth + room = maxIncludeDepth →
    let answered := contextWithin setup room (.runCommand c arguments options) s
    Reaches setup waiting ⟨path, .ask (.runCommand c arguments options) next, waiting, s⟩
        ⟨path, next answered.1, waiting, answered.2⟩ ∧
      answered.2.includeDepth = s.includeDepth ∧ answered.2.location = s.location

/-- With calls answered so, a program runs in the machine as it does in the session. -/
theorem reaches_run {room : Nat} (answers : AnswersCalls setup room)
    {P : Location → Command → List String → RawOptions → Prop} {l : Location}
    {program : Program (Except Diagnostic Unit)}
    (calls : Program.CallsAt setup.table P l program) (path : String)
    (waiting : List Waiting) (s : Session) (fits : s.includeDepth + room = maxIncludeDepth) :
    let ended := program.run (contextWithin setup room) s
    Reaches setup waiting ⟨path, program, waiting, s⟩ ⟨path, .done ended.1, waiting, ended.2⟩ ∧
      ended.2.includeDepth = s.includeDepth := by
  obtain ⟨includeFile, startLegacy, isRespond⟩ := exists_respond setup room
  induction calls generalizing s with
  | done result => exact ⟨.refl (List.suffix_refl _), rfl⟩
  | @setLocation l place next _ ih =>
      obtain ⟨others, depth⟩ := ih { s with location := place } fits
      rw [Program.run_ask, isRespond]
      rw [isRespond] at others depth
      exact ⟨.step (List.suffix_refl _) step_setLocation others, depth⟩
  | @call l c arguments options next _ _ ih =>
      obtain ⟨here, depth, -⟩ := answers c arguments options next path waiting s fits
      obtain ⟨others, depthOthers⟩ := ih _ _ (depth ▸ fits)
      exact ⟨here.trans others, depthOthers.trans depth⟩
  | @still l r next isStill _ ih =>
      obtain ⟨same, fitsTable, depth, -⟩ := @respond_of_still setup r isStill includeFile
        includeTooDeep startLegacy (fun _ _ => refuseLegacy) s
      have stepped := @step_still setup path waiting s r next isStill
      rw [← same, ← isRespond] at stepped
      rw [← isRespond] at fitsTable depth
      obtain ⟨others, depthOthers⟩ := ih _ fitsTable _ (depth ▸ fits)
      exact ⟨.step (List.suffix_refl _) stepped others, depthOthers.trans depth⟩

/-- A call that includes no file is one step. -/
theorem answers_of_not_included {room : Nat} {c : Command} {arguments : List String}
    {options : RawOptions} (none : setup.included? c arguments options = none)
    (next : Except Diagnostic Unit → Program (Except Diagnostic Unit)) (path : String)
    (waiting : List Waiting) (s : Session) :
    let answered := contextWithin setup room (.runCommand c arguments options) s
    Reaches setup waiting ⟨path, .ask (.runCommand c arguments options) next, waiting, s⟩
        ⟨path, next answered.1, waiting, answered.2⟩ ∧
      answered.2.includeDepth = s.includeDepth ∧ answered.2.location = s.location := by
  obtain ⟨includeFile, startLegacy, isRespond⟩ := exists_respond setup room
  obtain ⟨same, stays⟩ := runCommand_of_not_included none includeFile includeTooDeep s
  have stepped := @step_call setup path waiting s c arguments options next none
  rw [← same] at stepped
  rw [isRespond]
  exact ⟨.step (List.suffix_refl _) stepped (.refl (List.suffix_refl _)), stays⟩

/-- Without room an include fails at once. -/
theorem answersCalls_zero (setup : Setup) : AnswersCalls setup 0 := by
  intro c arguments options next path waiting s fits
  cases included : setup.included? c arguments options with
  | none => exact answers_of_not_included included next path waiting s
  | some inner =>
      have full : maxIncludeDepth ≤ s.includeDepth := Nat.le_of_eq fits.symm
      have stepped :=
        @step_tooDeep setup path waiting s c arguments options next inner included full
      have answered : contextWithin setup 0 (.runCommand c arguments options) s =
          (.error ((Cause.includeTooDeep maxIncludeDepth inner).placed s.location), s) :=
        runCommand_of_included included includeTooDeep s
      rw [answered]
      exact ⟨.step (List.suffix_refl _) stepped (.refl (List.suffix_refl _)), rfl, rfl⟩

/-- An included file is read while the including one waits. The step behind its last one goes
back to the including file, with depth and location as they were. -/
theorem reaches_included (modern : setup.reader.detectsLegacy = false) {room : Nat}
    (nested : AnswersCalls setup room) (m : Machine)
    (fits : m.session.includeDepth + (room + 1) = maxIncludeDepth)
    (resume : Except Diagnostic Unit → Program (Except Diagnostic Unit)) (path : String) :
    let ended := nest setup (contextWithin setup room) path m.session
    let waits : Waiting := ⟨m.path, resume, m.session.location⟩
    ended.2.includeDepth = m.session.includeDepth ∧ ended.2.location = m.session.location ∧
      ∃ last, Reaches setup (waits :: m.waiting) (m.descend setup resume path) last ∧
        last.step setup = some ⟨m.path,
          resume (ended.1.mapError (·.withLocation m.session.location)), m.waiting, ended.2⟩ := by
  intro ended waits
  let begun := (m.descend setup resume path).session
  let ran := (setup.fileProgram path).run (contextWithin setup room) begun
  have nestedEnd : ended = (ran.1, { ran.2 with
      includeDepth := ran.2.includeDepth - 1
      location := m.session.location }) := by
    show nest setup (contextWithin setup room) path m.session = _
    rw [nest, readFile_eq]
    rfl
  have roomInside : begun.includeDepth + room = maxIncludeDepth := by
    show m.session.includeDepth + 1 + room = maxIncludeDepth
    omega
  obtain ⟨reached, depth⟩ := reaches_run nested
    (setup.callsAt_fileProgram modern path m.session.location) path (waits :: m.waiting) begun
    roomInside
  refine ⟨?_, ?_, ⟨path, .done ran.1, waits :: m.waiting, ran.2⟩, reached, ?_⟩
  · rw [nestedEnd]
    show ran.2.includeDepth - 1 = m.session.includeDepth
    rw [depth]
    rfl
  · rw [nestedEnd]
  · rw [nestedEnd]
    rfl

/-- An include for which there is room reads the file and comes back. -/
theorem answersCalls_succ (modern : setup.reader.detectsLegacy = false) {room : Nat}
    (nested : AnswersCalls setup room) : AnswersCalls setup (room + 1) := by
  intro c arguments options next path waiting s fits
  cases included : setup.included? c arguments options with
  | none => exact answers_of_not_included included next path waiting s
  | some inner =>
      have free : s.includeDepth < maxIncludeDepth := by omega
      have below := @step_descend setup path waiting s c arguments options next inner included free
      obtain ⟨depth, location, last, reached, back⟩ := reaches_included modern nested
        ⟨path, .ask (.runCommand c arguments options) next, waiting, s⟩ fits next inner
      have answered : contextWithin setup (room + 1) (.runCommand c arguments options) s = _ :=
        runCommand_of_included included (nest setup (contextWithin setup room)) s
      have lastWaits : waiting <:+ last.waiting := by
        obtain ⟨n, rfl, wait⟩ := reached
        exact (List.suffix_cons _ waiting).trans (wait n (Nat.le_refl n))
      rw [answered]
      refine ⟨?_, depth, location⟩
      refine .step (List.suffix_refl _) below ((reached.mono (List.suffix_cons _ waiting)).trans ?_)
      exact .step lastWaits back (.refl (List.suffix_refl _))

/-- Every call of a program that reads no legacy file is answered in finitely many steps. -/
theorem answersCalls (modern : setup.reader.detectsLegacy = false) (room : Nat) :
    AnswersCalls setup room := by
  induction room with
  | zero => exact answersCalls_zero setup
  | succ room ih => exact answersCalls_succ modern ih

/-! ## What every step keeps -/

/-- The stack is as high as the counter says, never too high, and every command is run at the
place of a line that calls it, now and when the waiting files go on. -/
structure Sound (setup : Setup) (m : Machine) : Prop where
  depth : m.session.includeDepth = m.waiting.length
  bounded : m.waiting.length ≤ maxIncludeDepth
  calls : Program.CallsAt setup.table (setup.CallsIn m.path) m.session.location m.rest
  resumed : ∀ w ∈ m.waiting, ∀ answer,
    Program.CallsAt setup.table (setup.CallsIn w.path) w.location (w.resume answer)

namespace Sound

theorem start (modern : setup.reader.detectsLegacy = false) {s : Session}
    (outside : s.includeDepth = 0) (path : String) : Sound setup (Machine.start setup path s) where
  depth := outside
  bounded := Nat.zero_le _
  calls := setup.callsAt_fileProgram modern path _
  resumed _ member := absurd member List.not_mem_nil

/-- A step that goes on in the same file. -/
theorem goOn {m : Machine} (sound : Sound setup m) {rest : Program (Except Diagnostic Unit)}
    {s : Session} (depth : s.includeDepth = m.session.includeDepth)
    (calls : Program.CallsAt setup.table (setup.CallsIn m.path) s.location rest) :
    Sound setup (m.goOn rest s) :=
  { sound with depth := depth.trans sound.depth, calls }

theorem step (modern : setup.reader.detectsLegacy = false) {m m' : Machine}
    (sound : Sound setup m) (stepped : m.step setup = some m') : Sound setup m' := by
  obtain ⟨path, rest, waiting, s⟩ := m
  have calls : Program.CallsAt setup.table (setup.CallsIn path) s.location rest := sound.calls
  have depth : s.includeDepth = waiting.length := sound.depth
  cases calls with
  | done result =>
      cases waiting with
      | nil => cases stepped
      | cons w waiting =>
          obtain rfl := Option.some.inj stepped
          refine ⟨?_, Nat.le_of_succ_le sound.bounded, ?_, ?_⟩
          · show s.includeDepth - 1 = waiting.length
            rw [depth]
            rfl
          · exact sound.resumed w List.mem_cons_self _
          · exact fun v member => sound.resumed v (List.mem_cons_of_mem w member)
  | @setLocation _ place next onward =>
      rw [step_setLocation] at stepped
      obtain rfl := Option.some.inj stepped
      exact sound.goOn (s := { s with location := place }) rfl onward
  | @call _ c arguments options next _ onward =>
      cases included : setup.included? c arguments options with
      | none =>
          obtain ⟨-, same, here⟩ :=
            runCommand_of_not_included included includeTooDeep includeTooDeep s
          rw [step_call included] at stepped
          obtain rfl := Option.some.inj stepped
          refine sound.goOn same ?_
          rw [here]
          exact onward _
      | some inner =>
          by_cases full : maxIncludeDepth ≤ s.includeDepth
          · rw [step_tooDeep included full] at stepped
            obtain rfl := Option.some.inj stepped
            exact sound.goOn rfl (onward _)
          · rw [step_descend included (Nat.not_le.1 full)] at stepped
            obtain rfl := Option.some.inj stepped
            refine ⟨congrArg (· + 1) depth, ?_, setup.callsAt_fileProgram modern inner _, ?_⟩
            · show waiting.length + 1 ≤ maxIncludeDepth
              omega
            · intro w member answer
              rcases List.mem_cons.1 member with rfl | member
              · exact onward answer
              · exact sound.resumed w member answer
  | @still _ r next isStill onward =>
      obtain ⟨-, fits, same, here⟩ := @respond_of_still setup r isStill includeTooDeep
        includeTooDeep (fun _ _ => refuseLegacy) (fun _ _ => refuseLegacy) s
      rw [step_still isStill] at stepped
      obtain rfl := Option.some.inj stepped
      refine sound.goOn same ?_
      rw [here]
      exact onward _ fits

end Sound

/-! ## Reading a file -/

/-- The machine is about to run a call that includes the file at a path. -/
structure Includes (setup : Setup) (m : Machine) (c : Command) (arguments : List String)
    (options : RawOptions) (next : Except Diagnostic Unit → Program (Except Diagnostic Unit))
    (path : String) : Prop where
  asks : m.rest = .ask (.runCommand c arguments options) next
  included : setup.included? c arguments options = some path

/-- What becomes of an include in a sound state. -/
structure Handles (setup : Setup) (m : Machine)
    (next : Except Diagnostic Unit → Program (Except Diagnostic Unit)) (path : String) :
    Prop where
  /-- While 32 files wait the call fails, and the session is as it was. -/
  refused : m.waiting.length = 32 →
    m.step setup = some (m.goOn
      (next (.error ((Cause.includeTooDeep 32 path).placed m.session.location))) m.session)
  /-- While fewer wait the file is read and comes back some steps later, whatever came of it,
  with depth and location as they were. More files wait in between. -/
  returns : m.waiting.length < 32 → ∃ k answer s,
    m.after setup (k + 1) = m.goOn (next answer) s ∧
      s.includeDepth = m.session.includeDepth ∧ s.location = m.session.location ∧
      ∀ j, 0 < j → j ≤ k → m.waiting.length < (m.after setup j).waiting.length

theorem Sound.handles (modern : setup.reader.detectsLegacy = false) {m : Machine}
    (sound : Sound setup m) {c : Command} {arguments : List String} {options : RawOptions}
    {next : Except Diagnostic Unit → Program (Except Diagnostic Unit)} {path : String}
    (includes : m.Includes setup c arguments options next path) : Handles setup m next path := by
  constructor
  · intro full
    obtain ⟨current, rest, waiting, s⟩ := m
    obtain rfl : rest = .ask (.runCommand c arguments options) next := includes.asks
    exact step_tooDeep includes.included (Nat.le_of_eq (full.symm.trans sound.depth.symm))
  · intro free
    have room : m.session.includeDepth < maxIncludeDepth := sound.depth ▸ free
    have below : m.step setup = some (m.descend setup next path) := by
      obtain ⟨current, rest, waiting, s⟩ := m
      obtain rfl : rest = .ask (.runCommand c arguments options) next := includes.asks
      exact step_descend includes.included room
    obtain ⟨others, fits⟩ := Nat.exists_eq_add_of_lt room
    obtain ⟨depth, location, last, ⟨n, rfl, wait⟩, back⟩ :=
      reaches_included modern (answersCalls modern others) m fits.symm next path
    let ended := nest setup (contextWithin setup others) path m.session
    refine ⟨n + 1, ended.1.mapError (·.withLocation m.session.location), ended.2, ?_, depth,
      location, fun j positive within => ?_⟩
    · rw [after_succ below, after_add, after_succ back]
      rfl
    · -- while the included file is read the including one waits on top of the others
      obtain ⟨i, rfl⟩ := Nat.exists_eq_succ_of_ne_zero (Nat.ne_of_gt positive)
      rw [after_succ below]
      exact (wait i (Nat.le_of_succ_le_succ within)).length_le

/-- Reading a file in a session that is not inside an include comes to its end, however the
files include each other. The machine comes to the result and the session that `runFile` gives,
and no step leads on from there. At no time do more than 32 files wait. Every include is made at
the place of a line of its own file: while 32 files wait it fails there, without reading
anything, and otherwise it comes back, whatever happened in between, with depth and location as
they were. So does an include that a session is asked for from outside. -/
theorem runFile_bounded (setup : Setup) (modern : setup.reader.detectsLegacy = false)
    (s : Session) (outside : s.includeDepth = 0) (path : String) :
    let m := Machine.start setup path s
    (∃ n, m.after setup n = ⟨path, .done (runFile setup path s).1, [], (runFile setup path s).2⟩ ∧
      (m.after setup n).step setup = none) ∧
    (∀ inner, (includeFile setup inner s).2.includeDepth = s.includeDepth ∧
      (includeFile setup inner s).2.location = s.location) ∧
    ∀ n, let now := m.after setup n
      now.session.includeDepth = now.waiting.length ∧ now.waiting.length ≤ 32 ∧
      ∀ c arguments options next inner, now.Includes setup c arguments options next inner →
        setup.CallsIn now.path now.session.location c arguments options ∧
          Handles setup now next inner := by
  intro m
  refine ⟨?_, fun inner => ?_, fun n => ?_⟩
  · have fits : m.session.includeDepth + maxIncludeDepth = maxIncludeDepth := by
      show s.includeDepth + maxIncludeDepth = maxIncludeDepth
      rw [outside, Nat.zero_add]
    obtain ⟨⟨n, reached, -⟩, -⟩ := reaches_run (answersCalls modern maxIncludeDepth)
      (setup.callsAt_fileProgram modern path s.location) path [] m.session fits
    rw [runFile, readFile_eq]
    exact ⟨n, reached, congrArg (Machine.step setup) reached⟩
  · have fits : s.includeDepth + (maxIncludeDepth - 1 + 1) = maxIncludeDepth := by
      rw [outside]
      rfl
    obtain ⟨depth, location, -⟩ := reaches_included modern (answersCalls modern _)
      ⟨path, .done (.ok ()), [], s⟩ fits .done inner
    exact ⟨depth, location⟩
  · intro now
    have sound : Sound setup now :=
      after_induction (fun _ _ => Sound.step modern) (Sound.start modern outside path) n
    refine ⟨sound.depth, sound.bounded, fun c arguments options next inner includes => ?_⟩
    refine ⟨?_, sound.handles modern includes⟩
    have calls := sound.calls
    rw [includes.asks] at calls
    cases calls with
    | call here _ => exact here
    | still isStill _ => cases isStill

/-- A file that includes itself is read 33 times, and then the include fails at its line. -/
theorem runFile_of_self_include :
    let setup : Setup :=
      { table := CommandTable.standard
        types := Registry.standard
        files := fun path =>
          if path = "loop.plt" then .ok "include loop.plt\n".toUTF8 else .error .notFound
        reader := ⟨false⟩ }
    let s : Session := { transcript := Transcript.empty .text .console }
    let ended := runFile setup "loop.plt" s
    let tooDeep := Cause.includeTooDeep 32 "loop.plt"
    setup.reader.detectsLegacy = false ∧ s.includeDepth = 0 ∧
      tooDeep.display = "Syntax error: include nested deeper than 32 files at 'loop.plt'" ∧
      ended.1 = .error (tooDeep.placed (Location.inFile "include" "loop.plt" 1)) ∧
      ended.2.opened = List.replicate 33 "loop.plt" ∧
      ∃ n, (Machine.start setup "loop.plt" s).after setup n =
          ⟨"loop.plt", .done ended.1, [], ended.2⟩ ∧
        ((Machine.start setup "loop.plt" s).after setup n).step setup = none := by
  intro setup s ended tooDeep
  have modern : setup.reader.detectsLegacy = false := rfl
  have outside : s.includeDepth = 0 := rfl
  refine ⟨modern, outside, by decide +kernel, by decide +kernel, by decide +kernel, ?_⟩
  exact (runFile_bounded setup modern s outside "loop.plt").1

end Machine

end PlotScript
