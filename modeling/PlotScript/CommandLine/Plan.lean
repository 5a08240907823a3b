import PlotScript.Command.InlineOption
import PlotScript.CommandLine.FlagIndex
import PlotScript.Diagnostic.Warning

/-!
# Reading a command line

A list of tokens is cut from left to right into bare tokens and calls. Flags are
written `--long`, `-s`, or bundled as `-abc`. A call takes as many tokens as its
command has parameters and then the options that the command declares. How the
tokens are cut depends on nothing but the commands, so it is settled before the
first call runs.
-/

namespace PlotScript

/-- What a command line is read with. -/
structure CommandLine where
  table : CommandTable
  index : FlagIndex
  /-- The command that bare tokens belong to. It takes at least one argument. -/
  defaultCommand : Option { c : Command // c.parameters ≠ [] } := none

namespace CommandLine

/-- The command line of a table without a default command. -/
def ofTable (t : CommandTable) : Except Cause CommandLine :=
  (FlagIndex.ofTable t).map fun index => { table := t, index }

/-- Gives bare tokens to a command of the table. -/
def withDefault (line : CommandLine) (name : String) : Except Cause CommandLine :=
  match line.table.get? name with
  | none => .error (.unknownCommand name)
  | some c =>
      if h : c.parameters ≠ [] then .ok { line with defaultCommand := some ⟨c, h⟩ }
      else .error (.defaultWithoutArguments name)

end CommandLine

/-- A call as it stands on the command line. -/
structure Call where
  command : Command
  arguments : List String
  options : RawOptions
  /-- the option that the command does not declare and that ended the call -/
  undeclared : Option String
  location : Location

/-- The arguments that an arity takes from the front of the tokens, and the
tokens behind them. -/
def Arity.take (arity : Arity) (location : Location) (tokens : List String) :
    Except Diagnostic (List String × List String) :=
  match arity with
  | switchOn => .ok (["true"], tokens)
  | switchOff => .ok (["false"], tokens)
  | fixed count =>
      if tokens.length < count then
        .error ((Cause.missingArgument location.label count tokens.length).placed location)
      else .ok (tokens.take count, tokens.drop count)

/-- The call at the front of the tokens, reached through `label` as the command
number `index`, and the tokens behind it. -/
def Call.read (label : String) (index : Nat) (arity : Arity) (c : Command)
    (tokens : List String) : Except Diagnostic (Call × List String) :=
  let location := Location.onCommandLine label index
  match arity.take location tokens with
  | .error d => .error d
  | .ok (arguments, behind) =>
      match harvestOptions c behind with
      | .error cause => .error cause.unplaced
      | .ok taken =>
          .ok (⟨c, arguments, taken.options, taken.undeclared, location⟩, taken.rest)

theorem Arity.length_of_take {arity : Arity} {location : Location}
    {tokens arguments behind : List String}
    (h : arity.take location tokens = .ok (arguments, behind)) :
    behind.length ≤ tokens.length := by
  unfold Arity.take at h
  split at h
  · obtain ⟨-, rfl⟩ : _ ∧ tokens = behind := by simpa using h
    exact Nat.le_refl _
  · obtain ⟨-, rfl⟩ : _ ∧ tokens = behind := by simpa using h
    exact Nat.le_refl _
  · split at h
    · cases h
    · obtain ⟨-, rfl⟩ : _ ∧ _ = behind := by simpa using h
      simp

theorem Call.length_of_read {label : String} {index : Nat} {arity : Arity} {c : Command}
    {tokens rest : List String} {call : Call}
    (h : Call.read label index arity c tokens = .ok (call, rest)) :
    rest.length ≤ tokens.length := by
  unfold Call.read at h
  dsimp only at h
  split at h
  · cases h
  · rename_i arguments behind took
    split at h
    · cases h
    · rename_i taken harvested
      obtain ⟨-, rfl⟩ : _ ∧ taken.rest = rest := by simpa using h
      exact Nat.le_trans (length_of_harvest harvested) (Arity.length_of_take took)

/-- A call of a command that takes at least one token leaves fewer tokens. -/
theorem Call.length_of_read_fixed {label : String} {index count : Nat} {c : Command}
    {tokens rest : List String} {call : Call} (positive : 0 < count)
    (h : Call.read label index (.fixed count) c tokens = .ok (call, rest)) :
    rest.length < tokens.length := by
  unfold Call.read at h
  dsimp only at h
  split at h
  · cases h
  · rename_i arguments behind took
    split at h
    · cases h
    · rename_i taken harvested
      obtain ⟨-, rfl⟩ : _ ∧ taken.rest = rest := by simpa using h
      refine Nat.lt_of_le_of_lt (length_of_harvest harvested) ?_
      unfold Arity.take at took
      dsimp only at took
      split at took
      · cases took
      · obtain ⟨-, rfl⟩ : _ ∧ _ = behind := by simpa using took
        simp only [List.length_drop]
        omega

/-- A stretch of a command line. -/
inductive Step where
  | bare (token : String)
  | call (call : Call)
  /-- the reading ends here -/
  | fault (d : Diagnostic)

/-- What a token is by its shape. -/
inductive TokenShape where
  | long (name : String)
  | bundle (letters : List Char)
  | bare

/-- Two hyphens and a name, or one hyphen and letters. Two hyphens alone are a
hyphen with the letter `-`, and one alone is bare. -/
def TokenShape.ofToken (token : String) : TokenShape :=
  match token.toList with
  | '-' :: '-' :: c :: name => .long (String.ofList (c :: name))
  | '-' :: c :: letters => .bundle (c :: letters)
  | _ => .bare

/-- A flag that no command claims. -/
def Flag.unknown : Flag → Cause
  | short letter => .unknownShortFlag letter
  | long name => .unknownLongFlag (long name).label

namespace CommandLine

/-- The call that a flag reaches behind `count` others, and the tokens behind
it. -/
def readFlag (line : CommandLine) (count : Nat) (flag : Flag) (tokens : List String) :
    Except Diagnostic (Call × List String) :=
  match line.index.get? flag with
  | none => .error flag.unknown.unplaced
  | some entry => Call.read flag.label (count + 1) entry.arity entry.command tokens

/-- The calls of a bundle of short flags, and the tokens behind the last one or
why there is none. -/
def readBundle (line : CommandLine) (count : Nat) :
    List Char → List String → List Call × Except Diagnostic (List String)
  | [], tokens => ([], .ok tokens)
  | letter :: letters, tokens =>
      match line.readFlag count (.short letter) tokens with
      | .error d => ([], .error d)
      | .ok (call, rest) =>
          let (calls, behind) := line.readBundle (count + 1) letters rest
          (call :: calls, behind)

theorem length_of_readFlag {line : CommandLine} {count : Nat} {flag : Flag}
    {tokens rest : List String} {call : Call}
    (h : line.readFlag count flag tokens = .ok (call, rest)) :
    rest.length ≤ tokens.length := by
  unfold readFlag at h
  split at h
  · cases h
  · exact Call.length_of_read h

theorem length_of_readBundle {line : CommandLine} {count : Nat} {letters : List Char}
    {tokens rest : List String} {calls : List Call}
    (h : line.readBundle count letters tokens = (calls, .ok rest)) :
    rest.length ≤ tokens.length := by
  induction letters generalizing count tokens calls with
  | nil =>
      obtain ⟨-, rfl⟩ : [] = calls ∧ tokens = rest := by simpa [readBundle] using h
      exact Nat.le_refl _
  | cons letter letters ih =>
      unfold readBundle at h
      split at h
      · simp at h
      · rename_i call behind found
        dsimp only at h
        obtain ⟨-, last⟩ := Prod.mk.inj h
        exact Nat.le_trans (ih (Prod.ext rfl last)) (length_of_readFlag found)

/-- Cuts tokens into steps. `count` is the number of calls read so far. -/
def plan (line : CommandLine) (count : Nat) (tokens : List String) : List Step :=
  match tokens with
  | [] => []
  | token :: rest =>
      match TokenShape.ofToken token with
      | .long name =>
          match h : line.readFlag count (.long name) rest with
          | .error d => [.fault d]
          | .ok (call, rest') =>
              have := length_of_readFlag h
              .call call :: line.plan (count + 1) rest'
      | .bundle letters =>
          match h : line.readBundle count letters rest with
          | (calls, .error d) => calls.map .call ++ [.fault d]
          | (calls, .ok rest') =>
              have := length_of_readBundle h
              calls.map .call ++ line.plan (count + calls.length) rest'
      | .bare =>
          match line.defaultCommand with
          | none => .bare token :: line.plan count rest
          | some ⟨c, takesSome⟩ =>
              match h : Call.read token (count + 1) (.fixed c.parameters.length) c
                (token :: rest) with
              | .error d => [.fault d]
              | .ok (call, rest') =>
                  have := Call.length_of_read_fixed (List.length_pos_iff.2 takesSome) h
                  .call call :: line.plan (count + 1) rest'
termination_by tokens.length
decreasing_by all_goals (simp only [List.length_cons] at *; omega)

@[simp] theorem plan_nil (line : CommandLine) (count : Nat) : line.plan count [] = [] := by
  rw [plan]

theorem plan_cons (line : CommandLine) (count : Nat) (token : String) (rest : List String) :
    line.plan count (token :: rest) =
      match TokenShape.ofToken token with
      | .long name =>
          match line.readFlag count (.long name) rest with
          | .error d => [.fault d]
          | .ok (call, behind) => .call call :: line.plan (count + 1) behind
      | .bundle letters =>
          match line.readBundle count letters rest with
          | (calls, .error d) => calls.map .call ++ [.fault d]
          | (calls, .ok behind) => calls.map .call ++ line.plan (count + calls.length) behind
      | .bare =>
          match line.defaultCommand with
          | none => .bare token :: line.plan count rest
          | some c =>
              match Call.read token (count + 1) (.fixed c.val.parameters.length) c.val
                (token :: rest) with
              | .error d => [.fault d]
              | .ok (call, behind) => .call call :: line.plan (count + 1) behind := by
  rw [plan]
  split
  · split <;> simp_all
  · split <;> simp_all
  · cases line.defaultCommand with
    | none => rfl
    | some c =>
        obtain ⟨c, takesSome⟩ := c
        dsimp only
        split <;> simp_all

end CommandLine

end PlotScript
