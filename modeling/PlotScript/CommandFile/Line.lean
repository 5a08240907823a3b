import PlotScript.CommandFile.Statement
import PlotScript.Text.Lines

/-!
# Logical lines

A line that ends in a backslash is joined with the next one. Lines of a script
block are left as they are. A logical line carries the number of its last
physical line.
-/

namespace PlotScript

/-- A logical line. -/
structure Line where
  number : Nat
  text : String
  deriving DecidableEq

namespace Line

/-- What a line is. Inside a script block nobody asks. -/
def statement (l : Line) : Statement :=
  Statement.classify l.text.toList

def ofChars (number : Nat) (s : List Char) : Line :=
  ⟨number, String.ofList s⟩

/-- A physical line without the backslash at its end, if it has one there. -/
def continued? (s : List Char) : Option (List Char) :=
  if s.getLast? = some '\\' then some s.dropLast else none

/-- Whether a physical line closes a script block. -/
def closesScript (s : List Char) : Bool :=
  Text.trim s = "ruby end".toList

/-- Joins physical lines that follow line `number`. `pending` is what the lines
before them have left to be continued. -/
def join (inScript : Bool) (pending : List Char) (number : Nat) :
    List (List Char) → List Line
  | [] => if pending.isEmpty then [] else [ofChars number (Text.trimEnd pending)]
  | raw :: rest =>
      if inScript then
        ofChars (number + 1) raw :: join (!closesScript raw) pending (number + 1) rest
      else
        match continued? raw with
        | some front => join false (pending ++ front) (number + 1) rest
        | none =>
            let line := ofChars (number + 1) (Text.trimEnd (pending ++ raw))
            line :: join (line.statement = .scriptOpen) [] (number + 1) rest

/-- The logical lines of a text. -/
def ofText (text : List Char) : List Line :=
  join false [] 0 (Text.lines text)

end Line

/-! ## Legacy files -/

namespace Legacy

/-- Characters of the name of a legacy call. -/
def isCallNameChar (c : Char) : Bool :=
  ('a' ≤ c && c ≤ 'z') || c.isDigit || c == '-'

/-- A name with an opening parenthesis right behind it. -/
def isCall (s : List Char) : Bool :=
  let body := Text.trimStart s
  !(body.takeWhile isCallNameChar).isEmpty &&
    (body.dropWhile isCallNameChar).head? == some '('

/-- The number of the first physical line behind line `number` that is a legacy
call outside a script block. -/
def findCall (inScript : Bool) (number : Nat) : List (List Char) → Option Nat
  | [] => none
  | raw :: rest =>
      let body := Text.trim raw
      if inScript then findCall (body ≠ "ruby end".toList) (number + 1) rest
      else if body = "ruby".toList then findCall true (number + 1) rest
      else if isCall raw then some (number + 1)
      else findCall false (number + 1) rest

/-- The first physical line of a text that uses the legacy call syntax. -/
def line? (text : List Char) : Option Nat :=
  findCall false 0 (Text.lines text)

end Legacy

end PlotScript
