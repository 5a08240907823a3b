import PlotScript.Text.CharRanges
import PlotScript.Text.CaseRuns

/-!
# Characters

Classes and case of single characters and of texts. ASCII is decided by plain
comparisons and everything above it by the tables, so statements about ASCII
texts never look at a table.
-/

namespace PlotScript.Text

/-- White space: the control characters from tab to carriage return, next line,
and the space, line and paragraph separators. -/
def isBlank (c : Char) : Bool :=
  let n := c.toNat
  (0x09 ≤ n && n ≤ 0x0D) || n == 0x20 || n == 0x85 || n == 0xA0 || n == 0x1680 ||
    (0x2000 ≤ n && n ≤ 0x200A) || n == 0x2028 || n == 0x2029 || n == 0x202F ||
    n == 0x205F || n == 0x3000

/-- Decimal digits of any script. -/
def isDecimalDigit (c : Char) : Bool :=
  if c.toNat < 0x80 then c.isDigit else CharRanges.contains CharRanges.decimalDigits c

/-- Characters that may stand inside a word: letters, marks, decimal digits,
connectors and join controls. -/
def isWordChar (c : Char) : Bool :=
  if c.toNat < 0x80 then c.isAlphanum || c == '_'
  else CharRanges.contains CharRanges.wordCharacters c

/-- Characters that a quoted text shows as themselves. -/
def isPrintable (c : Char) : Bool :=
  if c.toNat < 0x80 then 0x20 ≤ c.toNat && c.toNat < 0x7F
  else !CharRanges.contains CharRanges.unprintable c

/-- The lower-case form of one character, when it is one character. -/
def lowerChar (c : Char) : Char :=
  if c.toNat < 0x80 then c.toLower else CaseRun.apply CaseRun.lower c

/-- The upper-case form of one character, when it is one character. -/
def upperChar (c : Char) : Char :=
  if c.toNat < 0x80 then c.toUpper else CaseRun.apply CaseRun.upper c

/-- The full upper-case form of one character. -/
def upperExpansion (c : Char) : List Char :=
  if c.toNat < 0x80 then [c.toUpper]
  else
    match CaseRun.upperExpansions.lookup c.toNat with
    | some codes => codes.map Char.ofNat
    | none => [upperChar c]

/-- The full upper-case form of a text. -/
def toUpper (s : List Char) : List Char :=
  s.flatMap upperExpansion

/-- Letters that have a case. -/
def isCased (c : Char) : Bool :=
  if c.toNat < 0x80 then c.isAlpha else CharRanges.contains CharRanges.cased c

/-- Characters that do not end a word as far as its case goes. -/
def isCaseIgnorable (c : Char) : Bool :=
  CharRanges.contains CharRanges.caseIgnorable c

/-- Whether the nearest character that matters for case is a cased one. -/
def meetsCased (s : List Char) : Bool :=
  match s.dropWhile isCaseIgnorable with
  | c :: _ => isCased c
  | [] => false

/-- The full lower-case form of a character between `before` (nearest first)
and `after`. A capital sigma that ends a word takes its final form, and a
dotted capital I keeps its dot as a combining mark. -/
def lowerExpansion (before : List Char) (c : Char) (after : List Char) : List Char :=
  if c = 'Σ' then [if meetsCased before && !meetsCased after then 'ς' else 'σ']
  else if c = 'İ' then ['i', '\u0307']
  else [lowerChar c]

/-- The lower-case form of a text behind the characters `before` (nearest first). -/
def toLowerFrom (before : List Char) : List Char → List Char
  | [] => []
  | c :: after => lowerExpansion before c after ++ toLowerFrom (c :: before) after

/-- The full lower-case form of a text. -/
def toLower (s : List Char) : List Char :=
  toLowerFrom [] s

/-- The simple case folding of a character: letters that differ in case only
have one folding. The dotless i stays apart from the dotted one. -/
def foldCase (c : Char) : Char :=
  if c = 'ı' then c else lowerChar (upperChar c)

/-- Equality up to the simple case folding. -/
def eqFolded (a b : List Char) : Bool :=
  a.map foldCase == b.map foldCase

/-- Equality up to the case of ASCII letters. -/
def eqAsciiCase (a b : List Char) : Bool :=
  a.map Char.toLower == b.map Char.toLower

end PlotScript.Text
