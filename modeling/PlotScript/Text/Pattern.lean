import PlotScript.Text.Character

/-!
# Patterns

Regular expressions over texts, and the usual notation for them: literals, the
dot, classes in brackets, the escapes `\d`, `\s`, `\w` and their complements,
groups, alternatives, repetition, the anchors `^` and `$`, and `(?i)` for the
rest of a group that ignores case.
-/

namespace PlotScript.Text

/-- A regular expression with anchors. -/
inductive Pattern where
  | empty
  | one (accepts : Char → Bool)
  | textStart
  | textEnd
  | seq (first second : Pattern)
  | alt (left right : Pattern)
  | star (body : Pattern)

namespace Pattern

/-! ## Matching -/

/-- What `step` reaches from the given texts in any number of rounds, at most
`fuel` of which find something new. -/
def closure (step : List Char → List (List Char)) (fuel : Nat) (reached : List (List Char)) :
    List (List Char) :=
  match fuel with
  | 0 => reached
  | fuel + 1 =>
      match (reached.flatMap step).eraseDups.filter (!reached.contains ·) with
      | [] => reached
      | new => closure step fuel (reached ++ new)

/-- What may be left of a text after a match at its front. `size` is the length
of the whole text that it is the end of. -/
def rests (size : Nat) : Pattern → List Char → List (List Char)
  | empty, s => [s]
  | one accepts, c :: s => if accepts c then [s] else []
  | one _, [] => []
  | textStart, s => if s.length = size then [s] else []
  | textEnd, s => if s.isEmpty then [s] else []
  | seq first second, s => (rests size first s).flatMap (rests size second)
  | alt left right, s => rests size left s ++ rests size right s
  | star body, s => closure (rests size body) s.length [s]

/-- The texts that are ends of a text, from the whole one on. -/
def ends : List Char → List (List Char)
  | [] => [[]]
  | c :: s => (c :: s) :: ends s

/-- Whether the pattern matches anywhere in a text. -/
def occursIn (p : Pattern) (s : List Char) : Bool :=
  (ends s).any fun rest => !(rests s.length p rest).isEmpty

/-! ## Notation -/

/-- At least one match. -/
def plus (p : Pattern) : Pattern :=
  seq p (star p)

/-- At most one match. -/
def optional (p : Pattern) : Pattern :=
  alt p empty

/-- Exactly `n` matches one after another. -/
def times (p : Pattern) : Nat → Pattern
  | 0 => empty
  | n + 1 => seq p (times p n)

/-- Membership in a class, or of the other case of a character on request. -/
def inClass (caseless : Bool) (accepts : Char → Bool) (c : Char) : Bool :=
  accepts c || (caseless && (accepts (lowerChar c) || accepts (upperChar c) ||
    accepts (foldCase c)))

/-- One character, or one that differs from it in case only. -/
def literal (caseless : Bool) (c : Char) : Pattern :=
  one fun d => d == c || (caseless && foldCase d == foldCase c)

/-- The class of characters that a letter after a backslash stands for. -/
def classEscape (c : Char) : Option (Char → Bool) :=
  if c = 'd' then some isDecimalDigit
  else if c = 'D' then some (!isDecimalDigit ·)
  else if c = 's' then some isBlank
  else if c = 'S' then some (!isBlank ·)
  else if c = 'w' then some isWordChar
  else if c = 'W' then some (!isWordChar ·)
  else none

/-- The character that a character after a backslash stands for. -/
def charEscape (c : Char) : Option Char :=
  if c = 'n' then some '\n'
  else if c = 't' then some '\t'
  else if c = 'r' then some '\r'
  else if c = 'f' then some '\x0c'
  else if c = 'v' then some '\x0b'
  else if c.toNat < 0x80 && !c.isAlphanum then some c
  else none

/-- The members of a class up to its closing bracket, and what follows it. A
closing bracket that comes first is a member. -/
def classMembers (first : Bool) : List Char → Option ((Char → Bool) × List Char)
  | [] => none
  | '\\' :: c :: rest => do
      let (more, rest) ← classMembers false rest
      match classEscape c, charEscape c with
      | some accepts, _ => some (fun d => accepts d || more d, rest)
      | none, some e => some (fun d => d == e || more d, rest)
      | none, none => none
  | low :: '-' :: high :: rest =>
      if high = ']' ∨ high = '\\' ∨ (low = ']' ∧ !first) then
        plainMember first low ('-' :: high :: rest)
          (classMembers false ('-' :: high :: rest))
      else if high < low then none
      else do
        let (more, rest) ← classMembers false rest
        some (fun d => (low ≤ d && d ≤ high) || more d, rest)
  | c :: rest => plainMember first c rest (classMembers false rest)
where
  plainMember (first : Bool) (c : Char) (rest : List Char)
      (others : Option ((Char → Bool) × List Char)) :
      Option ((Char → Bool) × List Char) :=
    if c = ']' ∧ !first then some (fun _ => false, rest)
    else others.map fun (more, rest) => (fun d => d == c || more d, rest)

/-- The counts of a repetition in braces, and what follows it. -/
def repetition (s : List Char) : Option (Nat × Option Nat × List Char) :=
  let digits (s : List Char) : Option Nat :=
    if s ≠ [] ∧ s.all Char.isDigit then
      some (s.foldl (fun n c => 10 * n + (c.toNat - '0'.toNat)) 0)
    else none
  match s.dropWhile (· != '\x7d') with
  | [] => none
  | _ :: rest => do
      let inside := s.takeWhile (· != '\x7d')
      let low ← digits (inside.takeWhile (· != ','))
      match inside.dropWhile (· != ',') with
      | [] => some (low, some low, rest)
      | [_] => some (low, none, rest)
      | _ :: bound => do
          let high ← digits bound
          if low ≤ high then some (low, some high, rest) else none

/-- A pattern with the repetition signs behind it. -/
def repeated (fuel : Nat) (p : Pattern) (s : List Char) : Option (Pattern × List Char) :=
  match fuel, s with
  | 0, _ => none
  | fuel + 1, sign :: rest =>
      let lazily (rest : List Char) : List Char :=
        match rest with
        | '?' :: rest => rest
        | rest => rest
      if sign = '*' then repeated fuel (star p) (lazily rest)
      else if sign = '+' then repeated fuel (plus p) (lazily rest)
      else if sign = '?' then repeated fuel (optional p) (lazily rest)
      else if sign = '\x7b' then do
        let (low, high, rest) ← repetition rest
        let more := match high with
          | none => star p
          | some high => times (optional p) (high - low)
        repeated fuel (seq (times p low) more) (lazily rest)
      else some (p, s)
  | _ + 1, [] => some (p, [])

mutual

/-- Alternatives up to the end of the group. -/
def alternatives (fuel : Nat) (caseless : Bool) (s : List Char) :
    Option (Pattern × List Char) :=
  match fuel with
  | 0 => none
  | fuel + 1 => do
      let (left, caseless, rest) ← sequence fuel caseless empty s
      match rest with
      | '|' :: rest => do
          let (right, rest) ← alternatives fuel caseless rest
          some (alt left right, rest)
      | rest => some (left, rest)

/-- Patterns one after another up to a bar or the end of the group, behind the
pattern `before`. -/
def sequence (fuel : Nat) (caseless : Bool) (before : Pattern) (s : List Char) :
    Option (Pattern × Bool × List Char) :=
  match fuel with
  | 0 => none
  | fuel + 1 =>
      match s with
      | [] => some (before, caseless, [])
      | ')' :: _ => some (before, caseless, s)
      | '|' :: _ => some (before, caseless, s)
      | '(' :: '?' :: 'i' :: ')' :: rest => sequence fuel true before rest
      | '(' :: '?' :: '-' :: 'i' :: ')' :: rest => sequence fuel false before rest
      | s => do
          let (p, rest) ← atom fuel caseless s
          let (p, rest) ← repeated (rest.length + 1) p rest
          sequence fuel caseless (seq before p) rest

/-- One literal, class, anchor or group. -/
def atom (fuel : Nat) (caseless : Bool) (s : List Char) : Option (Pattern × List Char) :=
  match fuel with
  | 0 => none
  | fuel + 1 =>
      match s with
      | [] => none
      | '^' :: rest => some (textStart, rest)
      | '$' :: rest => some (textEnd, rest)
      | '.' :: rest => some (one (· != '\n'), rest)
      | '(' :: '?' :: ':' :: rest => group fuel caseless rest
      | '(' :: '?' :: 'i' :: ':' :: rest => group fuel true rest
      | '(' :: rest => group fuel caseless rest
      | '[' :: '^' :: rest => do
          let (accepts, rest) ← classMembers true rest
          some (one (!inClass caseless accepts ·), rest)
      | '[' :: rest => do
          let (accepts, rest) ← classMembers true rest
          some (one (inClass caseless accepts), rest)
      | '\\' :: c :: rest =>
          match classEscape c, charEscape c with
          | some accepts, _ => some (one accepts, rest)
          | none, some c => some (literal caseless c, rest)
          | none, none => none
      | c :: rest =>
          if ['\\', '*', '+', '?', '\x7b'].contains c then none
          else some (literal caseless c, rest)

/-- The inside of a group and its closing parenthesis. -/
def group (fuel : Nat) (caseless : Bool) (s : List Char) : Option (Pattern × List Char) :=
  match fuel with
  | 0 => none
  | fuel + 1 =>
      match alternatives fuel caseless s with
      | some (p, ')' :: rest) => some (p, rest)
      | _ => none

end

/-- The pattern that a text denotes. -/
def read? (expression : String) : Option Pattern :=
  let s := expression.toList
  match alternatives (4 * s.length + 4) false s with
  | some (p, []) => some p
  | _ => none

end Pattern

end PlotScript.Text
