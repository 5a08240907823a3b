import PlotScript.Command.Invocation
import PlotScript.Text.Blank

/-!
# Inline options

Options are written `/name=value`, `/name value` or `/name = value` behind the
name of a command. Only options that the command declares are taken. The first
option-shaped token of another name ends their recognition.
-/

namespace PlotScript

/-- A token of the shape of an option. -/
structure OptionToken where
  name : String
  value : Option String
  deriving DecidableEq

namespace OptionToken

/-- Characters of the name of an option behind its first one. -/
def isNameChar (c : Char) : Bool :=
  Text.isWordChar c || c == '-'

/-- A slash, a name that begins with a word character, and perhaps an equals
sign with the rest of the line as the value. -/
def ofToken? (token : String) : Option OptionToken :=
  match token.toList with
  | '/' :: c :: rest =>
      if Text.isWordChar c then
        let name := String.ofList (c :: rest.takeWhile isNameChar)
        match rest.dropWhile isNameChar with
        | [] => some ⟨name, none⟩
        | '=' :: value => if value.contains '\n' then none else some ⟨name, some (String.ofList value)⟩
        | _ => none
      else none
  | _ => none

end OptionToken

/-- The value of an option that has none attached: the next token, or the one
behind it if the next one is an equals sign. -/
def takeValue (name : String) : List String → Except Cause (String × List String)
  | "=" :: value :: rest => .ok (value, rest)
  | ["="] => .error (.missingOptionText name)
  | value :: rest => .ok (value, rest)
  | [] => .error (.missingOptionText name)

theorem length_of_takeValue {name value : String} {tokens rest : List String}
    (h : takeValue name tokens = .ok (value, rest)) : rest.length < tokens.length := by
  unfold takeValue at h
  split at h
  · obtain ⟨-, rfl⟩ : _ ∧ _ = rest := by simpa using h
    simp only [List.length_cons]
    omega
  · simp at h
  · obtain ⟨-, rfl⟩ : _ ∧ _ = rest := by simpa using h
    simp
  · simp at h

/-- What was taken from the front of a list of tokens. -/
structure Harvest where
  options : RawOptions
  rest : List String
  /-- the option that the command does not declare and that ended recognition -/
  undeclared : Option String

/-- Takes options from the front of the tokens up to the first token that is no
declared option. -/
def harvest (c : Command) (options : RawOptions) (tokens : List String) :
    Except Cause Harvest :=
  match tokens with
  | [] => .ok ⟨options, [], none⟩
  | token :: rest =>
      match OptionToken.ofToken? token with
      | none => .ok ⟨options, tokens, none⟩
      | some o =>
          if c.declaresOption o.name then
            match o.value with
            | some value => harvest c (options.insert o.name value) rest
            | none =>
                match h : takeValue o.name rest with
                | .error cause => .error cause
                | .ok (value, rest') =>
                    have := length_of_takeValue h
                    harvest c (options.insert o.name value) rest'
          else .ok ⟨options, tokens, some o.name⟩
termination_by tokens.length
decreasing_by all_goals (simp_wf; try omega)

theorem length_of_harvest {c : Command} {options : RawOptions} {tokens : List String}
    {taken : Harvest} (h : harvest c options tokens = .ok taken) :
    taken.rest.length ≤ tokens.length := by
  fun_induction harvest c options tokens with
  | case1 =>
      obtain rfl := Except.ok.inj h
      exact Nat.le_refl _
  | case2 =>
      obtain rfl := Except.ok.inj h
      exact Nat.le_refl _
  | case3 options token rest o shape declared value attached ih =>
      exact Nat.le_succ_of_le (ih h)
  | case4 => cases h
  | case5 options token rest o shape declared attached value rest' found shorter ih =>
      have := ih h
      simp only [List.length_cons]
      omega
  | case6 =>
      obtain rfl := Except.ok.inj h
      exact Nat.le_refl _

/-- The options at the front of a list of tokens. -/
def harvestOptions (c : Command) (tokens : List String) : Except Cause Harvest :=
  harvest c NameMap.empty tokens

/-- The words of a call parted into arguments and options. -/
structure CallWords where
  arguments : List String
  options : RawOptions
  /-- the option that the command does not declare and that ended recognition -/
  undeclared : Option String

/-- Parts words into arguments and options, which may stand anywhere among
them. From an undeclared option on every word is an argument. -/
def partWords (c : Command) (options : RawOptions) (words : List String) :
    Except Cause CallWords :=
  match words with
  | [] => .ok ⟨[], options, none⟩
  | word :: rest =>
      match OptionToken.ofToken? word with
      | none => do
          let parted ← partWords c options rest
          return { parted with arguments := word :: parted.arguments }
      | some o =>
          if c.declaresOption o.name then
            match o.value with
            | some value => partWords c (options.insert o.name value) rest
            | none =>
                match h : takeValue o.name rest with
                | .error cause => .error cause
                | .ok (value, rest') =>
                    have := length_of_takeValue h
                    partWords c (options.insert o.name value) rest'
          else .ok ⟨words, options, some o.name⟩
termination_by words.length
decreasing_by all_goals (simp_wf; try omega)

/-- The arguments and options among the words of a call. -/
def splitWords (c : Command) (words : List String) : Except Cause CallWords :=
  partWords c NameMap.empty words

end PlotScript
