import PlotScript.Proofs.Command.OptionForms
import PlotScript.Proofs.CommandFile.LineNumbers
import PlotScript.Proofs.CommandLine.Cutting

/-!
# Command lines one behind the other

Two lists of tokens of which the first one is read to its end are read as one list that is
both of them, except that the calls of the second list are counted on from those of the first
one. A call looks ahead of its own tokens in one way only: it goes on taking options until a
token has not the shape of one. So no call reaches across the seam when the second list does
not begin with a token of that shape.
-/

namespace PlotScript

/-! ## What is put behind a call -/

/-- Options end in front of these tokens, whatever command takes them. -/
def EndsOptions (tokens : List String) : Prop :=
  ∀ token ∈ tokens.head?, OptionToken.ofToken? token = none

instance (tokens : List String) : Decidable (EndsOptions tokens) :=
  inferInstanceAs (Decidable (∀ token ∈ tokens.head?, OptionToken.ofToken? token = none))

section Append

variable {c : Command} {tokens behind : List String}

theorem takeValue_append {name value : String} {rest : List String}
    (h : takeValue name tokens = .ok (value, rest)) (behind : List String) :
    takeValue name (tokens ++ behind) = .ok (value, rest ++ behind) := by
  rcases eq_of_takeValue h with rfl | ⟨isValue, rfl⟩
  · exact takeValue_parted name value (rest ++ behind)
  · exact takeValue_spaced isValue name (rest ++ behind)

theorem harvest_undeclared {options : RawOptions} {token : String} {rest : List String}
    {o : OptionToken} (shape : OptionToken.ofToken? token = some o)
    (foreign : c.declaresOption o.name = false) :
    harvest c options (token :: rest) = .ok ⟨options, token :: rest, some o.name⟩ := by
  rw [harvest, shape]
  simp [foreign]

/-- Options that are taken completely, or up to a token that is none, are taken alike when
something is put behind them. -/
theorem harvest_append (ends : EndsOptions behind) {options : RawOptions} {taken : Harvest}
    (h : harvest c options tokens = .ok taken) :
    harvest c options (tokens ++ behind) = .ok { taken with rest := taken.rest ++ behind } := by
  fun_induction harvest c options tokens with
  | case1 =>
      obtain rfl := Except.ok.inj h
      exact Command.ReadsAs.harvest_of_plain ends
  | case2 options token rest plain =>
      obtain rfl := Except.ok.inj h
      exact harvest_argument plain
  | case3 options token rest o shape declared value attached ih =>
      obtain ⟨name, given⟩ := o
      obtain rfl : given = some value := attached
      rw [List.cons_append, harvest_attached_cons shape declared]
      exact ih h
  | case4 => cases h
  | case5 options token rest o shape declared alone value rest' found shorter ih =>
      obtain ⟨name, given⟩ := o
      obtain rfl : given = none := alone
      rw [List.cons_append, harvest_separate shape declared, takeValue_append found]
      exact ih h
  | case6 options token rest o shape foreign =>
      obtain rfl := Except.ok.inj h
      exact harvest_undeclared shape (by simpa using foreign)

theorem Arity.take_append {arity : Arity} {location : Location} {arguments rest : List String}
    (h : arity.take location tokens = .ok (arguments, rest)) (behind : List String) :
    arity.take location (tokens ++ behind) = .ok (arguments, rest ++ behind) := by
  unfold Arity.take at h ⊢
  cases arity with
  | switchOn =>
      obtain ⟨rfl, rfl⟩ := Prod.mk.inj (Except.ok.inj h)
      rfl
  | switchOff =>
      obtain ⟨rfl, rfl⟩ := Prod.mk.inj (Except.ok.inj h)
      rfl
  | fixed count =>
      dsimp only at h ⊢
      split at h
      · cases h
      · rename_i enough
        obtain ⟨rfl, rfl⟩ := Prod.mk.inj (Except.ok.inj h)
        have still : ¬ (tokens ++ behind).length < count := by
          rw [List.length_append]
          omega
        rw [if_neg still, List.take_append_of_le_length (by omega),
          List.drop_append_of_le_length (by omega)]

/-- A call takes its arguments, then its options. -/
theorem Call.read_eq_ok_iff {label : String} {index : Nat} {arity : Arity} {call : Call}
    {rest : List String} :
    Call.read label index arity c tokens = .ok (call, rest) ↔
      ∃ arguments behind taken,
        arity.take (Location.onCommandLine label index) tokens = .ok (arguments, behind) ∧
        harvestOptions c behind = .ok taken ∧
        call = ⟨c, arguments, taken.options, taken.undeclared,
          Location.onCommandLine label index⟩ ∧ rest = taken.rest := by
  unfold Call.read
  dsimp only
  constructor
  · intro h
    split at h
    · cases h
    · rename_i arguments behind took
      split at h
      · cases h
      · rename_i taken harvested
        obtain ⟨rfl, rfl⟩ := Prod.mk.inj (Except.ok.inj h)
        exact ⟨arguments, behind, taken, took, harvested, rfl, rfl⟩
  · rintro ⟨arguments, behind, taken, took, harvested, rfl, rfl⟩
    simp only [took, harvested]

theorem Call.read_append (ends : EndsOptions behind) {label : String} {index : Nat}
    {arity : Arity} {call : Call} {rest : List String}
    (h : Call.read label index arity c tokens = .ok (call, rest)) :
    Call.read label index arity c (tokens ++ behind) = .ok (call, rest ++ behind) := by
  obtain ⟨arguments, others, taken, took, harvested, rfl, rfl⟩ := read_eq_ok_iff.1 h
  exact read_eq_ok_iff.2 ⟨arguments, others ++ behind, _, Arity.take_append took behind,
    harvest_append ends harvested, rfl, rfl⟩

end Append

theorem Step.calls_cons_call (call : Call) (steps : List Step) :
    calls (.call call :: steps) = call.recorded :: calls steps := rfl

namespace CommandLine

variable {line : CommandLine} {behind : List String}

theorem readFlag_append (ends : EndsOptions behind) {count : Nat} {flag : Flag}
    {tokens rest : List String} {call : Call}
    (h : line.readFlag count flag tokens = .ok (call, rest)) :
    line.readFlag count flag (tokens ++ behind) = .ok (call, rest ++ behind) := by
  unfold readFlag at h ⊢
  split at h
  · cases h
  · exact Call.read_append ends h

theorem readBundle_append (ends : EndsOptions behind) {count : Nat} {letters : List Char}
    {tokens rest : List String} {calls : List Call}
    (h : line.readBundle count letters tokens = (calls, .ok rest)) :
    line.readBundle count letters (tokens ++ behind) = (calls, .ok (rest ++ behind)) := by
  induction letters generalizing count tokens calls with
  | nil =>
      obtain ⟨rfl, last⟩ := Prod.mk.inj h
      obtain rfl := Except.ok.inj last
      rfl
  | cons letter letters ih =>
      rw [readBundle] at h ⊢
      cases read : line.readFlag count (.short letter) tokens with
      | error d =>
          rw [read] at h
          cases (Prod.mk.inj h).2
      | ok found =>
          obtain ⟨call, others⟩ := found
          rw [read] at h
          obtain ⟨rfl, last⟩ := Prod.mk.inj h
          rw [readFlag_append ends read]
          dsimp only
          rw [ih (Prod.ext rfl last)]

/-- Tokens that are read to their end are read alike in front of others, and those are read on
from the number of calls that were made. -/
theorem plan_append (ends : EndsOptions behind) {count : Nat} {front : List String}
    (faultless : ∀ d, Step.fault d ∉ line.plan count front) :
    line.plan count (front ++ behind) = line.plan count front ++
      line.plan (count + (Step.calls (line.plan count front)).length) behind := by
  fun_induction line.plan count front with
  | case1 => rfl
  | case2 count token rest name shape d fault => exact absurd List.mem_cons_self (faultless d)
  | case3 count token rest name shape call others read shorter ih =>
      rw [List.cons_append, plan_cons, shape]
      dsimp only
      rw [readFlag_append ends read]
      dsimp only
      rw [ih fun d => List.not_mem_of_not_mem_cons (faultless d), List.cons_append,
        Step.calls_cons_call, List.length_cons, Nat.add_assoc, Nat.add_comm 1]
  | case4 count token rest letters shape calls d fault =>
      exact absurd (List.mem_append_right _ List.mem_cons_self) (faultless d)
  | case5 count token rest letters shape calls others read shorter ih =>
      rw [List.cons_append, plan_cons, shape]
      dsimp only
      rw [readBundle_append ends read]
      dsimp only
      rw [ih fun d member => faultless d (List.mem_append_right _ member), List.append_assoc,
        Step.calls_append, Step.calls_map_call, List.length_append, List.length_map,
        ← Nat.add_assoc]
  | case6 count token rest shape noDefault ih =>
      rw [List.cons_append, plan_cons, shape, noDefault]
      dsimp only
      rw [ih fun d => List.not_mem_of_not_mem_cons (faultless d)]
      rfl
  | case7 count token rest shape c takesSome isDefault d fault =>
      exact absurd List.mem_cons_self (faultless d)
  | case8 count token rest shape c takesSome isDefault call others read shorter ih =>
      rw [List.cons_append, plan_cons, shape, isDefault]
      dsimp only
      rw [← List.cons_append, Call.read_append ends read]
      dsimp only
      rw [ih fun d => List.not_mem_of_not_mem_cons (faultless d), List.cons_append,
        Step.calls_cons_call, List.length_cons, Nat.add_assoc, Nat.add_comm 1]

end CommandLine

/-! ## Calls that are counted on -/

/-- The same place behind `m` more calls. -/
def Location.renumbered (m : Nat) (l : Location) : Location :=
  { l with index := l.index + m }

/-- The same error behind `m` more calls. -/
def Diagnostic.renumbered (m : Nat) (d : Diagnostic) : Diagnostic :=
  { d with location := d.location.map (·.renumbered m) }

/-- The same recorded call behind `m` more calls. -/
def RecordedCall.renumbered (m : Nat) (c : RecordedCall) : RecordedCall :=
  { c with location := c.location.renumbered m }

/-- The same call behind `m` more calls. -/
def Call.renumbered (m : Nat) (c : Call) : Call :=
  { c with location := c.location.renumbered m }

/-- The same step behind `m` more calls. -/
def Step.renumbered (m : Nat) : Step → Step
  | bare token => bare token
  | call c => call (c.renumbered m)
  | fault d => fault (d.renumbered m)

/-- What is read for a call behind `m` more calls. The tokens behind it are the same. -/
def renumberedReading (m : Nat) :
    Except Diagnostic (Call × List String) → Except Diagnostic (Call × List String)
  | .error d => .error (d.renumbered m)
  | .ok (call, rest) => .ok (call.renumbered m, rest)

section Renumbered

variable (m : Nat) (tokens : List String)

theorem Arity.take_renumbered (arity : Arity) (location : Location) :
    arity.take (location.renumbered m) tokens =
      (arity.take location tokens).mapError (·.renumbered m) := by
  cases arity with
  | switchOn => rfl
  | switchOff => rfl
  | fixed count =>
      unfold take
      dsimp only
      split
      · rfl
      · rfl

/-- How a call is read does not depend on its number. -/
theorem Call.read_renumbered (label : String) (index : Nat) (arity : Arity) (c : Command) :
    Call.read label (index + m) arity c tokens =
      renumberedReading m (Call.read label index arity c tokens) := by
  have place : Location.onCommandLine label (index + m) =
      (Location.onCommandLine label index).renumbered m := rfl
  unfold read
  dsimp only
  rw [place, Arity.take_renumbered]
  rcases arity.take (Location.onCommandLine label index) tokens with d | ⟨arguments, behind⟩
  · rfl
  · dsimp only [Except.mapError]
    cases harvestOptions c behind with
    | error cause => rfl
    | ok taken => rfl

namespace CommandLine

variable (line : CommandLine)

theorem readFlag_renumbered (count : Nat) (flag : Flag) :
    line.readFlag (count + m) flag tokens =
      renumberedReading m (line.readFlag count flag tokens) := by
  unfold readFlag
  cases line.index.get? flag with
  | none => cases flag <;> rfl
  | some entry =>
      rw [Nat.add_right_comm]
      exact Call.read_renumbered m tokens flag.label (count + 1) entry.arity entry.command

theorem readBundle_renumbered (count : Nat) (letters : List Char) :
    line.readBundle (count + m) letters tokens =
      ((line.readBundle count letters tokens).1.map (·.renumbered m),
        (line.readBundle count letters tokens).2.mapError (·.renumbered m)) := by
  induction letters generalizing count tokens with
  | nil => rfl
  | cons letter letters ih =>
      rw [readBundle, readBundle, readFlag_renumbered]
      rcases line.readFlag count (.short letter) tokens with d | ⟨call, behind⟩
      · rfl
      · have onward := ih behind (count + 1)
        rw [Nat.add_right_comm] at onward
        dsimp only [renumberedReading]
        rw [onward]
        rfl

/-- Tokens are read alike behind any number of calls, which shows in the numbers of their own
calls only. -/
theorem plan_renumbered (count : Nat) :
    line.plan (count + m) tokens = (line.plan count tokens).map (Step.renumbered m) := by
  fun_induction line.plan count tokens with
  | case1 => rw [plan_nil, List.map_nil]
  | case2 count token rest name shape d read =>
      rw [plan_cons, shape]
      dsimp only
      rw [readFlag_renumbered, read]
      rfl
  | case3 count token rest name shape call behind read shorter ih =>
      rw [plan_cons, shape]
      dsimp only
      rw [readFlag_renumbered, read]
      dsimp only [renumberedReading]
      rw [Nat.add_right_comm, ih]
      rfl
  | case4 count token rest letters shape calls d read =>
      rw [plan_cons, shape]
      dsimp only
      rw [readBundle_renumbered, read]
      simp [Except.mapError, Step.renumbered]
  | case5 count token rest letters shape calls behind read shorter ih =>
      rw [plan_cons, shape]
      dsimp only
      rw [readBundle_renumbered, read]
      simp only [Except.mapError, List.length_map]
      rw [Nat.add_right_comm, ih]
      simp [Step.renumbered]
  | case6 count token rest shape noDefault ih =>
      rw [plan_cons, shape, noDefault]
      dsimp only
      rw [ih]
      rfl
  | case7 count token rest shape c takesSome isDefault d read =>
      rw [plan_cons, shape, isDefault]
      dsimp only
      rw [Nat.add_right_comm, Call.read_renumbered, read]
      rfl
  | case8 count token rest shape c takesSome isDefault call behind read shorter ih =>
      rw [plan_cons, shape, isDefault]
      dsimp only
      rw [Nat.add_right_comm, Call.read_renumbered, read]
      dsimp only [renumberedReading]
      rw [ih]
      rfl

end CommandLine

end Renumbered

/-! ## Running both -/

/-- Steps that run to their end are followed by those behind them. -/
theorem Step.record_execute_append {before : List Step} {s t : Recorder} {bare : List String}
    (h : s.record (execute before) = (.ok bare, t)) (behind : List Step) :
    s.record (execute (before ++ behind)) =
      ((t.record (execute behind)).1.map (bare ++ ·), (t.record (execute behind)).2) := by
  induction before generalizing s bare with
  | nil =>
      obtain ⟨given, rfl⟩ := Prod.mk.inj h
      obtain rfl := Except.ok.inj given
      rw [List.nil_append]
      rcases s.record (execute behind) with ⟨_ | others, u⟩ <;> rfl
  | cons step rest ih =>
      rw [List.cons_append]
      cases step with
      | bare token =>
          rw [record_execute_bare] at h ⊢
          obtain ⟨given, rfl⟩ := Prod.mk.inj h
          obtain ⟨others, run, rfl⟩ := exists_of_map_eq_ok given
          rw [ih (Prod.ext run rfl)]
          rcases Recorder.record _ (execute behind) with ⟨_ | more, u⟩ <;> rfl
      | call c =>
          rw [record_execute_call] at h ⊢
          exact ih h
      | fault d => cases (Prod.mk.inj h).1

namespace Recorder

/-- Two recorders that were `base` once and have recorded the same since then, except that the
second one counts its calls from `m` on. -/
structure Renumbered (base : Recorder) (m : Nat) (s t : Recorder) : Prop where
  table : t.table = s.table
  scriptFailure : t.scriptFailure = s.scriptFailure
  scope : t.scope = s.scope
  scripts : t.scripts = s.scripts
  legacy : t.legacy = s.legacy
  warnings : t.warnings = s.warnings
  calls : GrownAlike (·.renumbered m) base.calls s.calls t.calls
  /-- Until a call has set the location it is the one of before. -/
  location : (s.location = base.location ∧ t.location = base.location) ∨
    t.location = s.location.renumbered m

/-- Two runs that have ended alike, except for the numbers of their calls. -/
structure EndsRenumbered {α : Type} (base : Recorder) (m : Nat)
    (one other : Except Diagnostic α × Recorder) : Prop where
  result : other.1 = one.1.mapError (·.renumbered m)
  recorder : base.Renumbered m one.2 other.2

namespace Renumbered

variable {base s t : Recorder} {m : Nat}

theorem start (base : Recorder) (m : Nat) : base.Renumbered m base base :=
  ⟨rfl, rfl, rfl, rfl, rfl, rfl, .start _, .inl ⟨rfl, rfl⟩⟩

theorem warned (h : base.Renumbered m s t) (warning : Warning) :
    base.Renumbered m (s.warned warning) (t.warned warning) :=
  { h with warnings := congrArg (· ++ [warning]) h.warnings }

theorem called (h : base.Renumbered m s t) (call : RecordedCall) :
    base.Renumbered m (s.called call) (t.called (call.renumbered m)) :=
  { h with calls := h.calls.snoc call, location := .inr rfl }

theorem made (h : base.Renumbered m s t) (call : Call) :
    base.Renumbered m (s.made call) (t.made (call.renumbered m)) := by
  obtain ⟨c, arguments, options, undeclared, location⟩ := call
  cases undeclared with
  | none => exact h.called ⟨c.name, arguments, options, location⟩
  | some option =>
      exact (h.warned (.notAnOption option c.name)).called ⟨c.name, arguments, options, location⟩

end Renumbered

end Recorder

/-- Steps behind `m` more calls do the same as by themselves. -/
theorem Step.record_execute_renumbered {base s t : Recorder} {m : Nat}
    (h : base.Renumbered m s t) (steps : List Step) :
    base.EndsRenumbered m (s.record (execute steps))
      (t.record (execute (steps.map (renumbered m)))) := by
  induction steps generalizing s t with
  | nil => exact ⟨rfl, h⟩
  | cons step rest ih =>
      rw [List.map_cons]
      cases step with
      | bare token =>
          obtain ⟨result, recorder⟩ := ih h
          rw [renumbered, record_execute_bare, record_execute_bare]
          refine ⟨?_, recorder⟩
          rw [result, map_mapError]
      | call c =>
          rw [renumbered, record_execute_call, record_execute_call]
          exact ih (h.made c)
      | fault d => exact ⟨rfl, h⟩

namespace CommandLine

/-- Command lines compose. When the first of two lists of tokens runs to its end and the second
one does not begin with a token that has the shape of an option, both lists as one do what the
second one does behind the first one: its bare tokens come behind those of the first one, it
warns of the same and makes the same calls, or ends in the same error, but its calls are counted
on from the number of those before it. -/
theorem record_interpret_append (line : CommandLine) (s : Recorder)
    {front behind bare : List String}
    (succeeds : (s.record (line.interpret front)).1 = .ok bare) (ends : EndsOptions behind) :
    let first := (s.record (line.interpret front)).2
    ∃ calls, first.calls = s.calls ++ calls ∧
      let alone := first.record (line.interpret behind)
      let both := s.record (line.interpret (front ++ behind))
      both.1 = (alone.1.map (bare ++ ·)).mapError (·.renumbered calls.length) ∧
        first.Renumbered calls.length alone.2 both.2 := by
  intro first
  obtain ⟨faultless, -, made⟩ := Step.record_execute succeeds
  refine ⟨_, made, ?_⟩
  intro alone both
  have ran : s.record (Step.execute (line.plan 0 front)) = (.ok bare, first) :=
    Prod.ext succeeds rfl
  obtain ⟨result, recorder⟩ := Step.record_execute_renumbered (.start first _) (line.plan 0 behind)
  have planned := plan_append ends faultless
  rw [plan_renumbered] at planned
  rw [show both = s.record (Step.execute (line.plan 0 (front ++ behind))) from rfl, planned,
    Step.record_execute_append ran]
  refine ⟨?_, recorder⟩
  rw [result, map_mapError]
  rfl

/-- A flag that lacks an argument is the second one of its own tokens and the third one behind a
title, whose undeclared option is warned of and handed back. -/
theorem interpret_page_size_behind_title :
    let line : CommandLine :=
      { table := .standard
        index := ⟨CommandTable.standard.commands.flatMap Command.flagEntries⟩ }
    let s : Recorder := { table := .standard }
    let front := ["-t", "A", "/size", "x.csv"]
    let behind := ["--no-grid", "--page-size", "1"]
    let first := (s.record (line.interpret front)).2
    (s.record (line.interpret front)).1 = .ok ["/size", "x.csv"] ∧ EndsOptions behind ∧
      (first.record (line.interpret behind)).1 =
        .error ((Cause.missingArgument "--page-size" 2 1).placed
          ⟨"--page-size", "command line", 0, 2⟩) ∧
      (s.record (line.interpret (front ++ behind))).1 =
        .error ((Cause.missingArgument "--page-size" 2 1).placed
          ⟨"--page-size", "command line", 0, 3⟩) ∧
      first.Renumbered 1 (first.record (line.interpret behind)).2
        (s.record (line.interpret (front ++ behind))).2 := by
  intro line s front behind first
  have succeeds : (s.record (line.interpret front)).1 = .ok ["/size", "x.csv"] := by
    decide +kernel
  have ends : EndsOptions behind := by decide
  have failed : (first.record (line.interpret behind)).1 =
      .error ((Cause.missingArgument "--page-size" 2 1).placed
        ⟨"--page-size", "command line", 0, 2⟩) := by
    decide +kernel
  obtain ⟨calls, made, result, recorder⟩ := record_interpret_append line s succeeds ends
  have count : calls.length = 1 := by
    have whole : first.calls.length = 1 := by decide +kernel
    have same : first.calls = calls := made
    rwa [same] at whole
  rw [count] at result recorder
  rw [show (first.record (line.interpret behind)).1 = _ from failed] at result
  exact ⟨succeeds, ends, failed, result, recorder⟩

end CommandLine

end PlotScript
