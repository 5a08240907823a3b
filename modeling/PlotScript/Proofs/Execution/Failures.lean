import PlotScript.Proofs.CommandLine.Cutting
import PlotScript.Proofs.Execution.Confined
import PlotScript.Proofs.Variables.Faults

/-!
# Failures of the front ends

What a front end runs and fails with, in any context. It runs the commands of its table, and what
it fails with is the failure of a command or of a legacy file, or a complaint of its own about the
words of its input. It never complains itself that an action lacks a text.
-/

namespace PlotScript

/-- The cause of an action that finds no text where it works with one. -/
def Cause.lacksText : Cause → Bool
  | expectedText _ _ => true
  | _ => false

theorem Cause.lacksText_of_isOfWords {cause : Cause} (h : cause.isOfWords = true) :
    cause.lacksText = false := by
  cases cause with
  | expectedText command position => cases h
  | _ => rfl

/-- A result that is no failure but one of permitted cause. -/
def FailsWithin {α : Type} (may : Cause → Prop) (result : Except Diagnostic α) : Prop :=
  ∀ d, result = .error d → may d.cause

theorem FailsWithin.ok {α : Type} {may : Cause → Prop} (a : α) : FailsWithin may (.ok a) :=
  nofun

theorem FailsWithin.error {α : Type} {may : Cause → Prop} {d : Diagnostic} (h : may d.cause) :
    FailsWithin may (.error d : Except Diagnostic α) := by
  intro found same
  obtain rfl := Except.error.inj same
  exact h

/-- A command that is to be run is one of the table. -/
def Request.RunsFrom (t : CommandTable) : Request → Prop
  | .runCommand c _ _ => c ∈ t.commands
  | _ => True

theorem Request.runsFrom_of_isQuiet {t : CommandTable} {r : Request} (isQuiet : r.isQuiet = true) :
    r.RunsFrom t := by
  cases r with
  | runCommand => cases isQuiet
  | _ => trivial

/-- The answers that end a program by themselves fail with permitted causes. -/
def Request.FailsWithin (may : Cause → Prop) : (r : Request) → r.Answer → Prop
  | .runCommand _ _ _, result | .runLegacy _, result => PlotScript.FailsWithin may result
  | _, _ => True

/-- A program that runs commands of a table only and fails with permitted causes only, as long as
look-ups find commands of the table and the failures that it is answered with are permitted. -/
inductive Program.Respects (t : CommandTable) (may : Cause → Prop) {α : Type} :
    Program (Except Diagnostic α) → Prop
  | done {result : Except Diagnostic α} (permitted : FailsWithin may result) :
      Respects t may (.done result)
  | ask {r : Request} {next : r.Answer → Program (Except Diagnostic α)} (runs : r.RunsFrom t)
      (onward : ∀ answer, r.MayAnswer t answer → r.FailsWithin may answer →
        Respects t may (next answer)) :
      Respects t may (.ask r next)

namespace Run

variable {t : CommandTable} {may : Cause → Prop} {α β : Type}

def Respects (t : CommandTable) (may : Cause → Prop) (x : Run α) : Prop :=
  Program.Respects t may x.run

theorem Respects.bind {x : Run α} {f : α → Run β} (first : Respects t may x)
    (others : ∀ a, Respects t may (f a)) : Respects t may (x >>= f) := by
  have split : (x >>= f).run = x.run.bind (ExceptT.bindCont f) := rfl
  rw [Respects, split]
  rw [Respects] at first
  -- the failures that end the first program are those that the whole one ends with
  generalize x.run = program at first
  induction first with
  | @done result permitted =>
      cases result with
      | ok a => exact others a
      | error d => exact .done (.error (permitted d rfl))
  | ask runs _ ih => exact .ask runs fun answer found fails => ih answer found fails

theorem respects_pure (a : α) : Respects t may (pure a) :=
  .done (.ok a)

theorem respects_throw {d : Diagnostic} (own : may d.cause) :
    Respects t may (throw d : Run α) :=
  .done (.error own)

theorem respects_placed {l : Location} {x : Except Cause α}
    (own : ∀ cause, x = .error cause → may cause) : Respects t may (placed l x) := by
  refine .done fun d failed => ?_
  cases x with
  | error cause =>
      obtain rfl := Except.error.inj failed
      exact own cause rfl
  | ok a => cases failed

theorem respects_request {r : Request} (isQuiet : r.isQuiet = true) : Respects t may (request r) :=
  .ask (Request.runsFrom_of_isQuiet isQuiet) fun answer _ _ => .done (.ok answer)

theorem respects_runCommand {c : Command} (member : c ∈ t.commands) (arguments : List String)
    (options : RawOptions) : Respects t may (runCommand c arguments options) :=
  .ask member fun _ _ fails => .done fails

theorem respects_runLegacy (text : String) : Respects t may (runLegacy text) :=
  .ask trivial fun _ _ fails => .done fails

/-- What is done with a command that was looked up may rely on the table. -/
theorem respects_lookupCommand_bind {name : String} {f : Option Command → Run α}
    (unknown : Respects t may (f none)) (known : ∀ c ∈ t.commands, Respects t may (f (some c))) :
    Respects t may (lookupCommand name >>= f) := by
  refine .ask trivial fun answer found _ => ?_
  cases answer with
  | none => exact unknown
  | some c => exact known c found

end Run

/-- The causes that a front end may fail with by itself are permitted. -/
def PermitsOwn (may : Cause → Prop) : Prop :=
  ∀ cause : Cause, cause.lacksText = false → may cause

variable {t : CommandTable} {may : Cause → Prop}

theorem PermitsOwn.of_isOfWords (own : PermitsOwn may) {cause : Cause}
    (h : cause.isOfWords = true) : may cause :=
  own cause (Cause.lacksText_of_isOfWords h)

/-! ## Command files -/

namespace CommandFile

open Run

variable {stream : String}

theorem respects_completed (c : Command) (arguments : List String) :
    Respects t may (completed c arguments) := by
  unfold completed
  split
  · exact (respects_request rfl).bind fun _ => respects_pure _
  · exact respects_pure _

theorem respects_runCommand (own : PermitsOwn may) (line : Line) :
    Respects t may (runCommand stream line) := by
  unfold runCommand
  refine (respects_request rfl).bind fun scope => ?_
  refine (respects_placed fun cause failed => ?_).bind fun words => ?_
  · exact own.of_isOfWords (isOfWords_of_splitLine failed)
  cases words with
  | nil => exact respects_pure ()
  | cons name words =>
      refine respects_lookupCommand_bind (respects_throw (own _ rfl)) fun c member => ?_
      refine (respects_request rfl).bind fun _ => ?_
      refine (respects_placed fun cause failed => ?_).bind fun call => ?_
      · obtain ⟨option, rfl⟩ := exists_of_splitWords_eq_error failed
        exact own _ rfl
      have dispatch : Respects t may (do
          let arguments ← completed c call.arguments
          Run.runCommand c arguments call.options) :=
        (respects_completed c _).bind fun _ => Run.respects_runCommand member _ _
      dsimp only
      cases call.undeclared with
      | none => exact dispatch
      | some option => exact (respects_request rfl).bind fun _ => dispatch

theorem respects_assign (own : PermitsOwn may) (line : Line) (name : String)
    (soft deferred : Bool) (rest : String) :
    Respects t may (assign stream line name soft deferred rest) := by
  refine (respects_request rfl).bind fun scope => ?_
  refine (respects_placed fun cause failed => ?_).bind fun _ =>
    (respects_request rfl).bind fun _ => respects_pure ()
  split at failed
  · exact own.of_isOfWords (isOfWords_of_deferredValue (error_of_map_eq_error failed))
  · exact own.of_isOfWords (isOfWords_of_eagerValue (error_of_map_eq_error failed))

theorem respects_runScript (opened : Nat) (code : String) :
    Respects t may (runScript stream opened code) := by
  refine (respects_request rfl).bind fun _ => (respects_request rfl).bind fun outcome => ?_
  cases outcome with
  | ok => exact respects_pure ()
  | error d => exact respects_request rfl

theorem respects_loopWords (own : PermitsOwn may) (line : Line) (list : String) :
    Respects t may (loopWords stream line list) :=
  (respects_request rfl).bind fun _ => respects_placed fun _ failed =>
    own.of_isOfWords (isOfWords_of_splitLine failed)

theorem respects_replay (name : String) (words : List String) {body : Run Unit}
    (respects : Respects t may body) : Respects t may (replay name words body) := by
  induction words with
  | nil => exact respects_pure ()
  | cons word rest ih =>
      exact (respects_request rfl).bind fun _ => respects.bind fun _ => ih

theorem respects_runLines (own : PermitsOwn may) (lines : List Line) :
    Respects t may (runLines stream lines) := by
  fun_induction runLines stream lines with
  | case1 => exact respects_pure ()
  | case2 line rest blank ih => exact ih
  | case3 line rest opens unclosed => exact respects_throw (own _ rfl)
  | case4 line rest opens code behind closed shorter ih =>
      exact (respects_runScript _ _).bind fun _ => ih
  | case5 line rest closes => exact respects_throw (own _ rfl)
  | case6 line rest name list opens inBody behindBody =>
      refine (respects_loopWords own line list).bind fun words => ?_
      split
      · exact respects_throw (own _ rfl)
      · rename_i body behind closed
        exact (respects_replay name words (inBody body behind closed)).bind fun _ =>
          behindBody body behind closed
  | case7 line rest closes => exact respects_throw (own _ rfl)
  | case8 line rest name soft deferred value assigns ih =>
      exact (respects_assign own line name soft deferred value).bind fun _ => ih
  | case9 line rest calls ih => exact (respects_runCommand own line).bind fun _ => ih

end CommandFile

theorem FileReader.respects_interpret (own : PermitsOwn may) (reader : FileReader)
    (stream text : String) : Run.Respects t may (reader.interpret stream text) := by
  unfold interpret
  split
  · exact (Run.respects_request rfl).bind fun _ => Run.respects_runLegacy text
  · exact CommandFile.respects_runLines own _

theorem FileReader.respects_interpretBytes (own : PermitsOwn may) (reader : FileReader)
    (stream : String) (bytes : ByteArray) :
    Run.Respects t may (reader.interpretBytes stream bytes) := by
  unfold interpretBytes
  split
  · exact respects_interpret own reader stream _
  · exact Run.respects_throw (own _ rfl)

/-! ## Command lines -/

/-- A step that runs a command of the table, or ends the reading with a permitted cause. -/
def Step.Respects (t : CommandTable) (may : Cause → Prop) : Step → Prop
  | .bare _ => True
  | .call c => c.command ∈ t.commands
  | .fault d => may d.cause

theorem Step.respects_execute {steps : List Step} (respects : ∀ step ∈ steps, step.Respects t may) :
    Run.Respects t may (Step.execute steps) := by
  induction steps with
  | nil => exact Run.respects_pure _
  | cons step rest ih =>
      obtain ⟨here, behind⟩ := List.forall_mem_cons.1 respects
      cases step with
      | bare token => exact (ih behind).bind fun _ => Run.respects_pure _
      | fault d => exact Run.respects_throw here
      | call call =>
          refine Run.Respects.bind ?_ fun _ => ih behind
          have ran : Run.Respects t may (do
              Run.setLocation call.location
              Run.runCommand call.command call.arguments call.options) :=
            (Run.respects_request rfl).bind fun _ => Run.respects_runCommand here _ _
          unfold Call.execute
          cases call.undeclared with
          | none => exact ran
          | some option => exact (Run.respects_request rfl).bind fun _ => ran

theorem harvest_failsWithin (own : PermitsOwn may) {c : Command} {options : RawOptions}
    {tokens : List String} {cause : Cause} (h : harvest c options tokens = .error cause) : may cause := by
  fun_induction harvest c options tokens with
  | case1 => cases h
  | case2 => cases h
  | case3 options token rest o shape declared value attached ih => exact ih h
  | case4 options token rest o shape declared separate found missing =>
      obtain rfl := Except.error.inj h
      rw [eq_of_takeValue_eq_error missing]
      exact own _ rfl
  | case5 options token rest o shape declared separate value rest' took shorter ih => exact ih h
  | case6 => cases h

namespace Call

variable {label : String} {index : Nat} {arity : Arity} {c : Command} {tokens : List String}

theorem command_of_read {call : Call} {rest : List String}
    (h : read label index arity c tokens = .ok (call, rest)) : call.command = c := by
  unfold read at h
  dsimp only at h
  split at h
  · cases h
  · split at h
    · cases h
    · obtain ⟨rfl, -⟩ := Prod.mk.inj (Except.ok.inj h)
      rfl

theorem read_failsWithin (own : PermitsOwn may) {d : Diagnostic}
    (h : read label index arity c tokens = .error d) : may d.cause := by
  unfold read at h
  dsimp only at h
  split at h
  · rename_i found took
    obtain rfl := Except.error.inj h
    unfold Arity.take at took
    split at took
    · cases took
    · cases took
    · split at took
      · obtain rfl := Except.error.inj took
        exact own _ rfl
      · cases took
  · split at h
    · rename_i cause harvested
      obtain rfl := Except.error.inj h
      exact harvest_failsWithin own harvested
    · cases h

end Call

theorem CommandTable.Reaches.mem {flag : Flag} {arity : Arity} {c : Command}
    (reaches : t.Reaches flag arity c) : c ∈ t.commands := by
  cases reaches with
  | short member => exact member
  | long member => exact member
  | off member => exact member

namespace CommandLine

variable {line : CommandLine} {count : Nat} {tokens : List String}

theorem FollowsTable.mem_of_readFlag (follows : line.FollowsTable) {flag : Flag} {call : Call}
    {rest : List String} (h : line.readFlag count flag tokens = .ok (call, rest)) :
    call.command ∈ line.table.commands := by
  unfold readFlag at h
  split at h
  · cases h
  · rename_i entry found
    rw [Call.command_of_read h]
    exact (follows.reaches found).mem

theorem readFlag_failsWithin (own : PermitsOwn may) {flag : Flag} {d : Diagnostic}
    (h : line.readFlag count flag tokens = .error d) : may d.cause := by
  unfold readFlag at h
  split at h
  · obtain rfl := Except.error.inj h
    cases flag with
    | short letter => exact own _ rfl
    | long name => exact own _ rfl
  · exact Call.read_failsWithin own h

/-- What the letters of a bundle come to. -/
theorem FollowsTable.respects_readBundle (own : PermitsOwn may) (follows : line.FollowsTable)
    {letters : List Char} {calls : List Call} {behind : Except Diagnostic (List String)}
    (h : line.readBundle count letters tokens = (calls, behind)) :
    (∀ step ∈ calls.map Step.call, step.Respects line.table may) ∧ FailsWithin may behind := by
  induction letters generalizing count tokens calls with
  | nil =>
      obtain ⟨rfl, rfl⟩ := Prod.mk.inj h
      exact ⟨List.forall_mem_nil _, .ok tokens⟩
  | cons letter letters ih =>
      unfold readBundle at h
      split at h
      · rename_i d failed
        obtain ⟨rfl, rfl⟩ := Prod.mk.inj h
        exact ⟨List.forall_mem_nil _, .error (readFlag_failsWithin own failed)⟩
      · rename_i call rest found
        obtain ⟨rfl, last⟩ := Prod.mk.inj h
        obtain ⟨others, permitted⟩ := ih (Prod.ext rfl last)
        exact ⟨List.forall_mem_cons.2 ⟨follows.mem_of_readFlag found, others⟩, permitted⟩

theorem FollowsTable.respects_plan (own : PermitsOwn may) (follows : line.FollowsTable) :
    ∀ step ∈ line.plan count tokens, step.Respects line.table may := by
  fun_induction line.plan count tokens with
  | case1 => exact List.forall_mem_nil _
  | case2 count token rest name shape d fault =>
      exact List.forall_mem_singleton.2 (readFlag_failsWithin own fault)
  | case3 count token rest name shape call behind read shorter ih =>
      exact List.forall_mem_cons.2 ⟨follows.mem_of_readFlag read, ih⟩
  | case4 count token rest letters shape calls d fault =>
      obtain ⟨called, permitted⟩ := follows.respects_readBundle own fault
      exact List.forall_mem_append.2 ⟨called, List.forall_mem_singleton.2 (permitted d rfl)⟩
  | case5 count token rest letters shape calls behind read shorter ih =>
      exact List.forall_mem_append.2 ⟨(follows.respects_readBundle own read).1, ih⟩
  | case6 count token rest shape noDefault ih => exact List.forall_mem_cons.2 ⟨trivial, ih⟩
  | case7 count token rest shape c takesSome isDefault d fault =>
      exact List.forall_mem_singleton.2 (Call.read_failsWithin own fault)
  | case8 count token rest shape c takesSome isDefault call behind read shorter ih =>
      have member : call.command ∈ line.table.commands := by
        rw [Call.command_of_read read]
        exact follows.defaultMember _ isDefault
      exact List.forall_mem_cons.2 ⟨member, ih⟩

theorem respects_interpret (own : PermitsOwn may) (accepted : line.IsAccepted)
    (tokens : List String) : Run.Respects line.table may (line.interpret tokens) :=
  Step.respects_execute (accepted.followsTable.respects_plan own)

end CommandLine

/-! ## Both front ends -/

/-- The programs that the front ends make of their inputs: the text or the bytes of a command file,
and the tokens of a command line of the table. -/
inductive IsFrontEnd (t : CommandTable) : {α : Type} → Run α → Prop
  | text (reader : FileReader) (stream text : String) :
      IsFrontEnd t (reader.interpret stream text)
  | bytes (reader : FileReader) (stream : String) (bytes : ByteArray) :
      IsFrontEnd t (reader.interpretBytes stream bytes)
  | tokens {line : CommandLine} (accepted : line.IsAccepted) (sameTable : line.table = t)
      (tokens : List String) : IsFrontEnd t (line.interpret tokens)

/-- A front end runs commands of its table and never finds by itself that a text is lacking. -/
theorem IsFrontEnd.respects (own : PermitsOwn may) {α : Type} {x : Run α} (h : IsFrontEnd t x) :
    x.Respects t may := by
  cases h with
  | text reader stream text => exact reader.respects_interpret own stream text
  | bytes reader stream bytes => exact reader.respects_interpretBytes own stream bytes
  | tokens accepted sameTable tokens =>
      rw [← sameTable]
      exact CommandLine.respects_interpret own accepted tokens

end PlotScript
