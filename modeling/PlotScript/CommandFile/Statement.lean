import PlotScript.Command.InlineOption

/-!
# Statements

What a line of a command file is, decided by its text alone.
-/

namespace PlotScript

/-- The kinds of lines. -/
inductive Statement where
  | blank
  | scriptOpen
  | scriptClose
  | loopOpen (name list : String)
  | loopClose
  /-- A soft assignment leaves a variable alone that is already defined. -/
  | assignment (name : String) (soft deferred : Bool) (rest : String)
  | command
  deriving DecidableEq

namespace Statement

/-- The name of a variable begins with an ASCII letter or an underscore. -/
def isNameStart (c : Char) : Bool :=
  c.isAlpha || c == '_'

/-- Characters of the name of a variable that a file defines. -/
def isNameChar (c : Char) : Bool :=
  Text.isWordChar c || c == '-'

/-- A name at the front of a text, and what follows it. -/
def takeName (s : List Char) : Option (List Char × List Char) :=
  match s with
  | c :: rest =>
      if isNameStart c then
        some (c :: rest.takeWhile isNameChar, rest.dropWhile isNameChar)
      else none
  | [] => none

/-- A word at the front of a text with at least one blank behind it, and what
follows the blanks. -/
def takeWord (word : List Char) (s : List Char) : Option (List Char) :=
  if word.isPrefixOf s then
    match s.drop word.length with
    | c :: rest => if Text.isBlank c then some (Text.trimStart rest) else none
    | [] => none
  else none

/-- `for NAME in LIST`. -/
def loop? (s : List Char) : Option Statement := do
  let s ← takeWord "for".toList (Text.trimStart s)
  let (name, s) ← takeName s
  match s with
  | c :: s =>
      if Text.isBlank c then
        let list ← takeWord "in".toList (Text.trimStart s)
        return .loopOpen (String.ofList name) (String.ofList list)
      else none
  | [] => none

/-- `NAME = VALUE`, where the sign may be `:=` for a deferred assignment and may
have a question mark in front for a soft one. -/
def assignment? (s : List Char) : Option Statement := do
  let (name, s) ← takeName (Text.trimStart s)
  let s := Text.trimStart s
  let (soft, s) :=
    match s with
    | '?' :: s => (true, Text.trimStart s)
    | s => (false, s)
  let (deferred, s) ←
    match s with
    | ':' :: '=' :: s => some (true, s)
    | '=' :: s => some (false, s)
    | _ => none
  return .assignment (String.ofList name) soft deferred (String.ofList (Text.trimStart s))

/-- Tells what a line is. Comments count as blank lines, and a line that is nothing else
calls a command. -/
def classify (s : List Char) : Statement :=
  let body := Text.trim s
  if body.isEmpty || body.head? == some '#' then blank
  else if body = "ruby".toList then scriptOpen
  else if body = "ruby end".toList then scriptClose
  else if Text.fields s = ["for".toList, "end".toList] then loopClose
  else ((loop? s).or (assignment? s)).getD command

end Statement

end PlotScript
