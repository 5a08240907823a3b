import PlotScript.Session.ScriptHost

/-!
# A small shell

The part of the command language of `sh` that short script blocks are written
in: simple commands parted by newlines, semicolons, `&&` and `||`, quotes,
comments, positional parameters, the status `$?`, redirection of one output to
the other, and the commands `echo`, `exit`, `true`, `false` and `:`.
-/

namespace PlotScript.Shell

/-- What parts two commands. -/
inductive Separator where
  | always
  | onSuccess
  | onFailure
  deriving DecidableEq

/-- The parts of a line once quotes and parameters are resolved. -/
inductive Token where
  | word (s : List Char)
  | redirect (fromError toError : Bool)
  | separator (s : Separator)

/-- A shell between two commands. -/
structure State where
  name : String
  parameters : List String
  status : Nat := 0
  line : Nat := 1
  printed : String := ""
  complaint : String := ""

/-- The value of a parameter that is named by one character. -/
def State.parameter (s : State) (c : Char) : Option (List Char) :=
  if c = '?' then some (Nat.toDigits 10 s.status)
  else if c = '#' then some (Nat.toDigits 10 s.parameters.length)
  else if c = '0' then some s.name.toList
  else if c.isDigit then
    some ((s.parameters[c.toNat - '1'.toNat]?).getD "").toList
  else none

/-- How a character is protected. -/
inductive Quote where
  | bare
  | single
  | double
  deriving DecidableEq

/-- A word that has begun, as a token in front of others. -/
def close (word : Option (List Char)) (more : Option (List Token)) : Option (List Token) :=
  more.map ((word.map .word).toList ++ ·)

/-- A word that has begun, with more characters in it. -/
def grow (word : Option (List Char)) (s : List Char) : Option (List Char) :=
  some (word.getD [] ++ s)

/-- What a backslash and the character behind it stand for. Between double quotes
it protects few characters. -/
def afterBackslash (quote : Quote) : List Char → List Char
  | [] => ['\\']
  | c :: _ => if quote = .bare ∨ ['$', '"', '\\'].contains c then [c] else ['\\', c]

/-- What a dollar sign in front of a text stands for, and how much of the text
belongs to it. -/
def afterDollar (s : State) : List Char → List Char × Nat
  | [] => (['$'], 0)
  | c :: _ =>
      match s.parameter c with
      | some value => (value, 1)
      | none => (['$'], 0)

/-- Whether a word in front of a redirection names the output to redirect. -/
def namesStream (word : Option (List Char)) : Bool :=
  word == some ['1'] || word == some ['2']

/-- The tokens of a line of at most `fuel` characters. `word` is what has been
read of a word that has begun. The result is `none` if a quote stays open. -/
def tokensWithin (s : State) (fuel : Nat) (quote : Quote) (word : Option (List Char))
    (line : List Char) : Option (List Token) :=
  match fuel, line with
  | _, [] => if quote = .bare then some (word.map .word).toList else none
  | 0, _ => none
  | fuel + 1, c :: rest =>
      let tokens := tokensWithin s fuel
      if quote = .single then
        if c = '\'' then tokens .bare word rest else tokens quote (grow word [c]) rest
      else if c = '"' then
        if quote = .double then tokens .bare word rest
        else tokens .double (grow word []) rest
      else if c = '\\' then
        tokens quote (grow word (afterBackslash quote rest)) (rest.drop 1)
      else if c = '$' then
        let (value, used) := afterDollar s rest
        tokens quote (if value.isEmpty then word else grow word value) (rest.drop used)
      else if quote = .double then tokens quote (grow word [c]) rest
      else if c = '\'' then tokens .single (grow word []) rest
      else if c = ' ' ∨ c = '\t' then close word (tokens .bare none rest)
      else if c = '#' ∧ word.isNone then some []
      else if c = ';' then
        close word ((tokens .bare none rest).map (.separator .always :: ·))
      else if c = '&' ∧ rest.head? = some '&' then
        close word ((tokens .bare none (rest.drop 1)).map (.separator .onSuccess :: ·))
      else if c = '|' ∧ rest.head? = some '|' then
        close word ((tokens .bare none (rest.drop 1)).map (.separator .onFailure :: ·))
      else if c = '>' ∧ rest.head? = some '&' then
        close (if namesStream word then none else word)
          ((tokens .bare none (rest.drop 2)).map
            (.redirect (word == some ['2']) ((rest.drop 1).head? == some '2') :: ·))
      else tokens quote (grow word [c]) rest

/-- The tokens of a line. -/
def tokens (s : State) (line : List Char) : Option (List Token) :=
  tokensWithin s line.length .bare none line

/-- The words of the command at the front of some tokens, whether its output
goes to the standard error, and the tokens behind it with what parts it from
them. -/
def takeCommand : List Token → List String × Bool × Option (Separator × List Token)
  | [] => ([], false, none)
  | .separator s :: rest => ([], false, some (s, rest))
  | .word w :: rest =>
      let (words, toError, behind) := takeCommand rest
      (String.ofList w :: words, toError, behind)
  | .redirect fromError toError :: rest =>
      let (words, alreadyToError, behind) := takeCommand rest
      (words, alreadyToError || (!fromError && toError), behind)

/-- The number that a word of digits is. -/
def digits? (s : String) : Option Nat :=
  if s ≠ "" ∧ s.toList.all Char.isDigit then some (Decimal.natFrom 0 s.toList) else none

/-- Runs one command. The answer tells whether the shell goes on. -/
def runCommand (s : State) (words : List String) (toError : Bool) : State × Bool :=
  let say (text : String) : State :=
    if toError then { s with complaint := s.complaint ++ text }
    else { s with printed := s.printed ++ text }
  match words with
  | [] => (s, true)
  | "echo" :: "-n" :: rest => ({ say (" ".intercalate rest) with status := 0 }, true)
  | "echo" :: rest => ({ say (" ".intercalate rest ++ "\n") with status := 0 }, true)
  | "true" :: _ => ({ s with status := 0 }, true)
  | ":" :: _ => ({ s with status := 0 }, true)
  | "false" :: _ => ({ s with status := 1 }, true)
  | ["exit"] => (s, false)
  | "exit" :: n :: _ =>
      match digits? n with
      | some n => ({ s with status := n % 256 }, false)
      | none =>
          ({ s with
            status := 2
            complaint := s.complaint ++ s.name ++ ": " ++ writeNat s.line ++
              ": exit: Illegal number: " ++ n ++ "\n" }, false)
  | name :: _ =>
      ({ s with
        status := 127
        complaint := s.complaint ++ s.name ++ ": " ++ writeNat s.line ++ ": " ++ name ++
          ": not found\n" }, true)

/-- Runs the commands of a line, at most `fuel` of them. -/
def runTokens (fuel : Nat) (s : State) (skip : Bool) (line : List Token) : State × Bool :=
  match fuel with
  | 0 => (s, true)
  | fuel + 1 =>
      let (words, toError, behind) := takeCommand line
      let (s, goesOn) := if skip then (s, true) else runCommand s words toError
      if !goesOn then (s, false)
      else
        match behind with
        | none => (s, true)
        | some (.always, rest) => runTokens fuel s false rest
        | some (.onSuccess, rest) => runTokens fuel s (s.status ≠ 0) rest
        | some (.onFailure, rest) => runTokens fuel s (s.status = 0) rest

/-- Runs lines one after another. A line with an open quote ends the run. -/
def runLines (s : State) : List (List Char) → State
  | [] => s
  | line :: rest =>
      match tokens s line with
      | none =>
          { s with
            status := 2
            complaint := s.complaint ++ s.name ++ ": " ++ writeNat s.line ++
              ": Syntax error: Unterminated quoted string\n" }
      | some line =>
          match runTokens (line.length + 1) s false line with
          | (s, true) => runLines { s with line := s.line + 1 } rest
          | (s, false) => s

/-- Runs the lines of a text to the end of the shell. -/
def runText (s : State) (code : String) : Exit :=
  let s := runLines s (Text.splitAt '\n' code.toList)
  ⟨s.status, s.printed, s.complaint⟩

/-- The shell as a program: it runs the text behind `-c`, or else its standard
input. -/
def program (arguments : List String) (input : String) : Exit :=
  match arguments with
  | "-c" :: code :: name :: parameters => runText { name, parameters } code
  | ["-c", code] => runText { name := "sh", parameters := [] } code
  | "-s" :: parameters => runText { name := "sh", parameters } input
  | _ => runText { name := "sh", parameters := [] } input

/-- A machine on which `sh` is the only program. -/
def programs : Programs := fun name =>
  if name = "sh" ∨ name = "/bin/sh" then some program else none

end PlotScript.Shell
