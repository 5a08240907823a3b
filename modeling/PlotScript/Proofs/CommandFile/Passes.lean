import PlotScript.Proofs.CommandFile.Sequence
import PlotScript.Proofs.Execution.Recording

/-!
# Passes over lines

A run goes over the lines of a file once, and over the body of a loop once for every word of the
list of the loop. `Pass` tells which passes a run makes, and `Reaches` which statements they come
to, in which states. Everything that is recorded of a run comes from such a statement:
`traced_runLines` finds the statement that makes a recorded call, in the state in which just the
calls before it have been recorded, and the statement that the run fails at.
-/

namespace PlotScript

open CommandFile

/-! ## Single statements -/

/-- A call that a line makes in a state, with the place of the line. -/
def Line.Makes (stream : String) (u : Recorder) (line : Line) (call : RecordedCall) : Prop :=
  ∃ c words parted, line.statement = .command ∧
    splitLine u.scope line.text.toList = .ok (c.name :: words) ∧
    u.table.get? c.name = some c ∧ splitWords c words = .ok parted ∧
    call = ⟨c.name, c.completed parted.arguments, parted.options,
      Location.inFile c.name stream line.number⟩

/-- What can be wrong with the blocks of a file at a line, with the given lines behind it, and
what a report calls the line. -/
inductive Line.Unmatched (line : Line) (behind : List Line) : String → Cause → Prop
  | openScript (opens : line.statement = .scriptOpen)
      (missing : Block.takeScript behind = none) :
      Unmatched line behind BlockKind.script.opener (.unterminatedBlock .script line.number)
  | openLoop {name list : String} (opens : line.statement = .loopOpen name list)
      (missing : Block.takeLoop {} behind = none) :
      Unmatched line behind BlockKind.loop.opener (.unterminatedBlock .loop line.number)
  | strayLoop (closes : line.statement = .loopClose) :
      Unmatched line behind BlockKind.loop.closer (.strayBlockEnd .loop)

/-- What can be wrong with a statement when no command fails, and what a report calls it. -/
inductive Line.Fault (u : Recorder) (line : Line) (behind : List Line) : String → Cause → Prop
  | words {cause : Cause} (isCommand : line.statement = .command)
      (split : splitLine u.scope line.text.toList = .error cause) :
      Fault u line behind (firstField line) cause
  | unknown {name : String} {words : List String} (isCommand : line.statement = .command)
      (split : splitLine u.scope line.text.toList = .ok (name :: words))
      (missing : u.table.get? name = none) : Fault u line behind name (.unknownCommand name)
  | option {c : Command} {words : List String} {cause : Cause}
      (isCommand : line.statement = .command)
      (split : splitLine u.scope line.text.toList = .ok (c.name :: words))
      (found : u.table.get? c.name = some c) (lacks : splitWords c words = .error cause) :
      Fault u line behind c.name cause
  | value {name value : String} {soft deferred : Bool} {cause : Cause}
      (assigns : line.statement = .assignment name soft deferred value)
      (failed : assigned u.scope deferred value = .error cause) : Fault u line behind name cause
  | list {name list : String} {cause : Cause} (opens : line.statement = .loopOpen name list)
      (split : splitLine u.scope list.toList = .error cause) :
      Fault u line behind BlockKind.loop.opener cause
  | strayScript (closes : line.statement = .scriptClose) :
      Fault u line behind BlockKind.script.closer (.strayBlockEnd .script)
  /-- The list of a loop is read before the loop is looked for its end. -/
  | unmatched {label : String} {cause : Cause} (fault : line.Unmatched behind label cause)
      (read : ∀ name list, line.statement = .loopOpen name list →
        ∃ words, splitLine u.scope list.toList = .ok words) : Fault u line behind label cause

/-- The error that is returned for a statement is placed at its line. -/
def Line.FailsWith (stream : String) (u : Recorder) (line : Line) (behind : List Line)
    (d : Diagnostic) : Prop :=
  ∃ label cause, line.Fault u behind label cause ∧
    d = cause.placed (Location.inFile label stream line.number)

namespace Recorder

variable {stream : String} {lines part front behind : List Line} {line : Line}
  {s t u v : Recorder} {level n : Nat} {α β : Type}

/-! ## The passes of a run -/

/-- A pass over some lines comes to one of them: those in front of it go through. -/
def Comes (stream : String) (part : List Line) (t : Recorder) (line : Line) (behind : List Line)
    (u : Recorder) : Prop :=
  ∃ front, part = front ++ line :: behind ∧ t.record (runLines stream front) = (.ok (), u)

/-- The passes that a run of some lines makes, how many loops each of them is inside, and the
state that it begins in. -/
inductive Pass (stream : String) (lines : List Line) (s : Recorder) :
    Nat → List Line → Recorder → Prop
  /-- the outermost pass, over all lines -/
  | outermost : Pass stream lines s 0 lines s
  /-- A pass comes to a loop. The body is replayed for a word of the list once it has gone
  through for the words in front. -/
  | replay {level : Nat} {part behind body rest : List Line} {opening : Line} {t u v : Recorder}
      {name list word : String} {done todo : List String}
      (around : Pass stream lines s level part t)
      (comes : Comes stream part t opening behind u)
      (opens : opening.statement = .loopOpen name list)
      (words : splitLine u.scope list.toList = .ok (done ++ word :: todo))
      (closed : Block.takeLoop {} behind = some (body, rest))
      (went : u.record (replay name done (runLines stream body)) = (.ok (), v)) :
      Pass stream lines s (level + 1) body (v.defined name (.eager word) true)

/-- A statement that a run comes to in one of its passes. -/
def Reaches (stream : String) (lines : List Line) (s : Recorder) (level : Nat) (line : Line)
    (behind : List Line) (u : Recorder) : Prop :=
  ∃ part t, Pass stream lines s level part t ∧ Comes stream part t line behind u

theorem record_runLines_append (more : List Line)
    (ran : s.record (runLines stream front) = (.ok (), t)) :
    s.record (runLines stream (front ++ more)) = t.record (runLines stream more) :=
  run_runLines_append more ran

theorem Comes.onward (ran : s.record (runLines stream front) = (.ok (), t))
    (comes : Comes stream part t line behind u) :
    Comes stream (front ++ part) s line behind u := by
  obtain ⟨before, rfl, went⟩ := comes
  refine ⟨front ++ before, by rw [List.append_assoc], ?_⟩
  rw [record_runLines_append before ran, went]

/-- What stands in front of some lines and goes through adds to the outermost pass alone. -/
theorem Pass.onward (ran : s.record (runLines stream front) = (.ok (), t))
    (pass : Pass stream lines t level part u) :
    (level = 0 ∧ part = lines ∧ u = t) ∨ Pass stream (front ++ lines) s level part u := by
  induction pass with
  | outermost => exact .inl ⟨rfl, rfl, rfl⟩
  | replay around comes opens words closed went ih =>
      right
      rcases ih with ⟨rfl, rfl, rfl⟩ | around
      · exact .replay .outermost (comes.onward ran) opens words closed went
      · exact .replay around comes opens words closed went

/-- The passes of a pass are passes of the run. -/
theorem Pass.trans (outer : Pass stream lines s level part t) {inner : List Line}
    (pass : Pass stream part t n inner u) : Pass stream lines s (level + n) inner u := by
  induction pass with
  | outermost => exact outer
  | replay _ comes opens words closed went ih => exact .replay ih comes opens words closed went

theorem Reaches.here : Reaches stream (line :: behind) s 0 line behind s := by
  refine ⟨_, _, .outermost, [], rfl, ?_⟩
  rw [runLines]
  rfl

theorem Reaches.onward (ran : s.record (runLines stream front) = (.ok (), t))
    (reaches : Reaches stream lines t level line behind u) :
    Reaches stream (front ++ lines) s level line behind u := by
  obtain ⟨part, v, pass, comes⟩ := reaches
  rcases pass.onward ran with ⟨rfl, rfl, rfl⟩ | pass
  · exact ⟨_, _, .outermost, comes.onward ran⟩
  · exact ⟨part, v, pass, comes⟩

theorem Reaches.within (outer : Pass stream lines s level part t)
    (reaches : Reaches stream part t n line behind u) :
    Reaches stream lines s (level + n) line behind u := by
  obtain ⟨inner, v, pass, comes⟩ := reaches
  exact ⟨inner, v, outer.trans pass, comes⟩

theorem Pass.subset (pass : Pass stream lines s level part t) : part ⊆ lines := by
  induction pass with
  | outermost => exact List.Subset.refl _
  | replay _ comes _ _ closed _ ih =>
      obtain ⟨front, rfl, -⟩ := comes
      have inBehind := (Block.subset_of_takeLoop closed).1
      exact fun l member => ih (List.mem_append_right _ (List.mem_cons_of_mem _ (inBehind member)))

theorem Reaches.mem (reaches : Reaches stream lines s level line behind u) : line ∈ lines := by
  obtain ⟨part, t, pass, front, rfl, -⟩ := reaches
  exact pass.subset (List.mem_append_right _ List.mem_cons_self)

/-! ## Where everything that is recorded comes from -/

/-- Every call that a program adds, and the error that it ends in, come from one of the given
statements. The call is made when just the calls in front of it have been recorded. -/
structure Traced (stream : String) (reached : Line → List Line → Recorder → Prop) (s : Recorder)
    (x : Run α) : Prop where
  grows : s.calls <+: (s.record x).2.calls
  calls : ∀ earlier call, earlier ++ [call] <+: (s.record x).2.calls →
    s.calls.length ≤ earlier.length →
      ∃ line behind u, reached line behind u ∧ u.calls = earlier ∧ line.Makes stream u call
  errors : ∀ d, (s.record x).1 = .error d →
    ∃ line behind u, reached line behind u ∧ line.FailsWith stream u behind d

namespace Traced

variable {reached wider : Line → List Line → Recorder → Prop}

theorem mono {x : Run α} (traced : Traced stream reached s x)
    (widens : ∀ line behind u, reached line behind u → wider line behind u) :
    Traced stream wider s x where
  grows := traced.grows
  calls earlier call grown before :=
    let ⟨line, behind, u, comes, made⟩ := traced.calls earlier call grown before
    ⟨line, behind, u, widens _ _ _ comes, made⟩
  errors d failed :=
    let ⟨line, behind, u, comes, fails⟩ := traced.errors d failed
    ⟨line, behind, u, widens _ _ _ comes, fails⟩

theorem bind {x : Run α} {f : α → Run β} (first : Traced stream reached s x)
    (others : ∀ a t, s.record x = (.ok a, t) → Traced stream reached t (f a)) :
    Traced stream reached s (x >>= f) := by
  rcases ran : s.record x with ⟨result, t⟩
  obtain ⟨grows, calls, errors⟩ := first
  rw [ran] at grows calls errors
  dsimp only at grows calls errors
  cases result with
  | error d =>
      have failed : s.record (x >>= f) = (.error d, t) := by
        rw [record] at ran ⊢
        rw [Run.run_bind, ran]
      constructor
      · rw [failed]
        exact grows
      · rw [failed]
        exact calls
      · rw [failed]
        exact fun d' same => errors d' (congrArg Except.error (Except.error.inj same))
  | ok a =>
      have onward : s.record (x >>= f) = t.record (f a) := Run.run_bind_of_ok ran f
      obtain ⟨growsOn, callsOn, errorsOn⟩ := others a t ran
      constructor
      · rw [onward]
        exact grows.trans growsOn
      · rw [onward]
        intro earlier call grown before
        by_cases inFirst : t.calls.length ≤ earlier.length
        · exact callsOn earlier call grown inFirst
        · -- the calls in front of `call` and `call` itself are there already
          refine calls earlier call (List.prefix_of_prefix_length_le grown growsOn ?_) before
          rw [List.length_append, List.length_singleton]
          omega
      · rw [onward]
        exact errorsOn

/-- A program that calls nothing. -/
theorem of_same_calls {x : Run α} (same : (s.record x).2.calls = s.calls)
    (errors : ∀ d, (s.record x).1 = .error d →
      ∃ line behind u, reached line behind u ∧ line.FailsWith stream u behind d) :
    Traced stream reached s x where
  grows := same ▸ List.prefix_refl _
  calls earlier call grown before := by
    have length := grown.length_le
    rw [same, List.length_append, List.length_singleton] at length
    omega
  errors := errors

/-- A program that calls nothing and does not fail. -/
theorem of_ok {x : Run α} {a : α} (ran : s.record x = (.ok a, t)) (same : t.calls = s.calls) :
    Traced stream reached s x := by
  refine of_same_calls (by rw [ran, same]) fun d failed => ?_
  rw [ran] at failed
  cases failed

/-- A program that calls nothing and fails at a statement. -/
theorem of_error {x : Run α} {d : Diagnostic} (ran : s.record x = (.error d, t))
    (same : t.calls = s.calls) (comes : reached line behind u)
    (fails : line.FailsWith stream u behind d) : Traced stream reached s x := by
  refine of_same_calls (by rw [ran, same]) fun d' failed => ?_
  rw [ran] at failed
  obtain rfl := Except.error.inj failed
  exact ⟨line, behind, u, comes, fails⟩

/-- A program that makes one call. -/
theorem of_call {x : Run α} {a : α} {call : RecordedCall} (ran : s.record x = (.ok a, t))
    (one : t.calls = s.calls ++ [call]) (comes : reached line behind s)
    (makes : line.Makes stream s call) : Traced stream reached s x := by
  constructor
  · rw [ran, one]
    exact List.prefix_append _ _
  · intro earlier other grown before
    rw [ran, one] at grown
    have length := grown.length_le
    rw [List.length_append, List.length_append, List.length_singleton,
      List.length_singleton] at length
    have whole := grown.eq_of_length (by
      rw [List.length_append, List.length_append, List.length_singleton, List.length_singleton]
      omega)
    obtain ⟨rfl, same⟩ := List.append_inj' whole rfl
    obtain rfl := List.singleton_injective same
    exact ⟨line, behind, s, comes, rfl, makes⟩
  · rw [ran]
    rintro d ⟨⟩

end Traced

variable {reached : Line → List Line → Recorder → Prop}

theorem traced_runCommand (comes : reached line behind s) (isCommand : line.statement = .command) :
    Traced stream reached s (runCommand stream line) := by
  have ran := record_runCommand s stream line
  cases split : splitLine s.scope line.text.toList with
  | error cause =>
      rw [split] at ran
      exact .of_error ran rfl comes ⟨_, _, .words isCommand split, rfl⟩
  | ok words =>
      rw [split] at ran
      rcases words with _ | ⟨name, words⟩
      · exact .of_ok ran rfl
      dsimp only at ran
      cases found : s.table.get? name with
      | none =>
          rw [found] at ran
          exact .of_error ran rfl comes ⟨_, _, .unknown isCommand split found, rfl⟩
      | some c =>
          obtain rfl : c.name = name := by simpa using List.find?_some found
          rw [found] at ran
          dsimp only at ran
          unfold call at ran
          cases parting : splitWords c words with
          | error cause =>
              rw [parting] at ran
              exact .of_error ran rfl comes ⟨_, _, .option isCommand split found parting, rfl⟩
          | ok parted =>
              rw [parting] at ran
              refine .of_call ran ?_ comes
                ⟨c, words, parted, isCommand, split, found, parting, rfl⟩
              cases parted.undeclared with
              | none => rfl
              | some option => rfl

theorem traced_assign {name value : String} {soft deferred : Bool} (comes : reached line behind s)
    (assigns : line.statement = .assignment name soft deferred value) :
    Traced stream reached s (assign stream line name soft deferred value) := by
  have ran := record_assign s stream line name soft deferred value
  cases result : assigned s.scope deferred value with
  | error cause =>
      rw [result] at ran
      exact .of_error ran rfl comes ⟨_, _, .value assigns result, rfl⟩
  | ok binding =>
      rw [result] at ran
      exact .of_ok ran rfl

theorem traced_loopWords {name list : String} (comes : reached line behind s)
    (opens : line.statement = .loopOpen name list) :
    Traced stream reached s (loopWords stream line list) := by
  have ran := record_loopWords s stream line list
  cases split : splitLine s.scope list.toList with
  | error cause =>
      rw [split] at ran
      exact .of_error ran rfl comes ⟨_, _, .list opens split, rfl⟩
  | ok words =>
      rw [split] at ran
      exact .of_ok ran rfl

theorem traced_runScript (opened : Nat) (code : String) :
    Traced stream reached s (runScript stream opened code) := by
  refine .of_ok (record_runScript s stream opened code) ?_
  cases s.scriptFailure with
  | none => rfl
  | some message => rfl

/-- The body of a loop is replayed for one word after the other. -/
theorem traced_replay {name : String} {words : List String} {body : List Line}
    (eachWord : ∀ done word todo v, words = done ++ word :: todo →
      s.record (replay name done (runLines stream body)) = (.ok (), v) →
        Traced stream reached (v.defined name (.eager word) true) (runLines stream body)) :
    Traced stream reached s (replay name words (runLines stream body)) := by
  induction words generalizing s with
  | nil => exact .of_ok rfl rfl
  | cons word rest ih =>
      have bound : s.record (Run.define name (.eager word) true) =
          (.ok (s.scope.define name (.eager word) true).2, s.defined name (.eager word) true) := rfl
      refine .bind (.of_ok bound rfl) fun _ t ran => ?_
      obtain ⟨-, rfl⟩ := Prod.mk.inj (bound.symm.trans ran)
      refine .bind (eachWord [] word rest s rfl rfl) fun _ v first => ih ?_
      intro done other todo w parts went
      refine eachWord (word :: done) other todo w (by rw [parts]; rfl) ?_
      rw [replay, record, Run.run_bind_of_ok bound, Run.run_bind_of_ok first]
      exact went

/-- Lines that do one thing and then come to their end. -/
theorem record_of_eq_bind {front : List Line} {x : Run Unit}
    (alone : runLines stream front = (do x; runLines stream []))
    (ran : s.record x = (.ok (), t)) : s.record (runLines stream front) = (.ok (), t) := by
  rw [alone, record, Run.run_bind_of_ok ran, runLines]
  rfl

/-- Everything that is recorded of a run comes from a statement that the run comes to. -/
theorem traced_runLines (stream : String) (lines : List Line) (s : Recorder) :
    Traced stream (fun line behind u => ∃ level, Reaches stream lines s level line behind u) s
      (runLines stream lines) := by
  -- what is reached behind lines that go through is reached in the whole run
  have behindFront : ∀ {front behind : List Line} {s t : Recorder},
      s.record (runLines stream front) = (.ok (), t) →
        Traced stream (fun line rest u => ∃ level, Reaches stream behind t level line rest u) t
          (runLines stream behind) →
        Traced stream (fun line rest u => ∃ level, Reaches stream (front ++ behind) s level line
          rest u) t (runLines stream behind) :=
    fun ran traced => traced.mono fun _ _ _ reached => reached.imp fun _ => Reaches.onward ran
  fun_induction runLines stream lines generalizing s with
  | case1 => exact .of_ok rfl rfl
  | case2 line rest isBlank ih =>
      have ran : s.record (runLines stream [line]) = (.ok (), s) := by
        rw [runLines_blank isBlank, runLines]
        rfl
      exact behindFront ran (ih s)
  | case3 line rest opens missing =>
      have fault : line.Unmatched rest _ _ := .openScript opens missing
      refine .of_error rfl rfl ⟨0, .here⟩ ⟨_, _, .unmatched fault ?_, rfl⟩
      intro name list isLoop
      rw [opens] at isLoop
      cases isLoop
  | case4 line rest opens code behind closed shorter ih =>
      obtain ⟨closing, rfl, closes, inside⟩ := Block.takeScript_eq_some_iff.1 closed
      have alone : Block.takeScript (code ++ [closing]) = some (code, []) :=
        Block.takeScript_eq_some_iff.2 ⟨closing, rfl, closes, inside⟩
      refine .bind (traced_runScript _ _) fun _ t ran => ?_
      have whole := record_of_eq_bind (runLines_script opens alone) ran
      simpa using behindFront whole (ih t)
  | case5 line rest closes => exact .of_error rfl rfl ⟨0, .here⟩ ⟨_, _, .strayScript closes, rfl⟩
  | case6 line rest name list opens inBody behindBody =>
      refine .bind (traced_loopWords ⟨0, .here⟩ opens) fun words t ran => ?_
      have read := ran
      rw [record_loopWords] at read
      obtain ⟨result, rfl⟩ := Prod.mk.inj read
      have split := mapError_eq_ok_iff.1 result
      split
      · rename_i missing
        have fault : line.Unmatched rest _ _ := .openLoop opens missing
        refine .of_error rfl rfl ⟨0, .here⟩ ⟨_, _, .unmatched fault ?_, rfl⟩
        intro other otherList isLoop
        rw [opens] at isLoop
        obtain ⟨rfl, rfl⟩ := Statement.loopOpen.inj isLoop
        exact ⟨words, split⟩
      · rename_i body behind closed
        obtain ⟨closing, m, rfl, through, closes⟩ := Block.takeLoop_eq_some_iff.1 closed
        have alone : Block.takeLoop {} (body ++ [closing]) = some (body, []) :=
          Block.takeLoop_eq_some_iff.2 ⟨closing, m, rfl, through, closes⟩
        refine .bind (traced_replay fun done word todo v parts went => ?_) fun _ v looped => ?_
        · have pass : Pass stream (line :: (body ++ closing :: behind)) s 1 body _ :=
            .replay .outermost ⟨[], rfl, by rw [runLines]; rfl⟩ opens
              (parts ▸ split) closed went
          refine (inBody body behind closed _).mono ?_
          rintro l b u ⟨level, reaches⟩
          exact ⟨1 + level, reaches.within pass⟩
        · have whole : s.record (runLines stream (line :: (body ++ [closing]))) = (.ok (), v) := by
            rw [runLines_loop stream opens alone, record, Run.run_bind_of_ok ran,
              Run.run_bind_of_ok looped, runLines]
            rfl
          simpa using behindFront whole (behindBody body behind closed v)
  | case7 line rest closes =>
      have fault : line.Unmatched rest _ _ := .strayLoop closes
      refine .of_error rfl rfl ⟨0, .here⟩ ⟨_, _, .unmatched fault ?_, rfl⟩
      intro name list isLoop
      rw [closes] at isLoop
      cases isLoop
  | case8 line rest name soft deferred value assigns ih =>
      refine .bind (traced_assign ⟨0, .here⟩ assigns) fun _ t ran => ?_
      exact behindFront (record_of_eq_bind (runLines_assignment assigns) ran) (ih t)
  | case9 line rest calls ih =>
      refine .bind (traced_runCommand ⟨0, .here⟩ calls) fun _ t ran => ?_
      exact behindFront (record_of_eq_bind (runLines_command calls) ran) (ih t)

end Recorder

end PlotScript
