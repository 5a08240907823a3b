import PlotScript.Coercion.Coder

/-!
# Colors and geometry

The small grammars of colors, dimensions, points, boxes, margins and axis
transformations.
-/

namespace PlotScript.Coder

open Coercion

/-! ## Colors -/

def isHexDigit (c : Char) : Bool :=
  c.isDigit || ('a' ≤ c && c ≤ 'f') || ('A' ≤ c && c ≤ 'F')

/-- The value of a hexadecimal digit. -/
def hexValue (c : Char) : Nat :=
  if c.isDigit then c.toNat - '0'.toNat else c.toLower.toNat - 'a'.toNat + 10

/-- A channel of 256 steps from nothing to full. -/
def channel (step : Nat) : Binary64 :=
  Binary64.ofRatio false step 255

/-- The color with three channels of 256 steps. -/
def rgb (r g b : Nat) : Value :=
  .color (channel r) (channel g) (channel b)

/-- Three or six hexadecimal digits; of three, each stands for two. -/
def readHexColor (digits : List Char) : Except Misread Value :=
  if digits.all isHexDigit then
    match digits.map hexValue with
    | [r, g, b] => .ok (rgb (17 * r) (17 * g) (17 * b))
    | [r₁, r₂, g₁, g₂, b₁, b₂] => .ok (rgb (16 * r₁ + r₂) (16 * g₁ + g₂) (16 * b₁ + b₂))
    | _ => .error .hexLength
  else .error (.notHexadecimal (String.ofList digits))

/-- `#RRGGBB`, `#RGB`, or three numbers between zero and one. -/
def color : Coder where
  decode text :=
    match Text.trim text.toList with
    | '#' :: digits => readHexColor digits
    | body => do
        match ← readNumbers 3 body with
        | [r, g, b] =>
            if [r, g, b].all Binary64.inUnitInterval then return .color r g b
            else throw .colorBounds
        | xs => throw (.numberCount 3 xs.length)

/-! ## Dimensions -/

/-- A decimal number at the front of a text, in digits of any script, and what
follows it. -/
def takeNumber (s : List Char) : Option (List Char × List Char) :=
  let (sign, body) :=
    match s with
    | '+' :: rest => (['+'], rest)
    | '-' :: rest => (['-'], rest)
    | _ => ([], s)
  let whole := body.takeWhile Text.isDecimalDigit
  let afterWhole := body.dropWhile Text.isDecimalDigit
  let (fraction, rest) :=
    match afterWhole with
    | '.' :: rest =>
        let digits := rest.takeWhile Text.isDecimalDigit
        if whole = [] ∧ digits = [] then ([], afterWhole)
        else ('.' :: digits, rest.dropWhile Text.isDecimalDigit)
    | _ => ([], afterWhole)
  if whole = [] ∧ fraction = [] then none
  else
    let (exponent, rest) := takeExponent rest
    some (sign ++ whole ++ fraction ++ exponent, rest)
where
  /-- The exponent part at the front of a text, empty if there is none. -/
  takeExponent (s : List Char) : List Char × List Char :=
    match s with
    | e :: rest =>
        if e = 'e' ∨ e = 'E' then
          let (sign, body) :=
            match rest with
            | '+' :: rest => (['+'], rest)
            | '-' :: rest => (['-'], rest)
            | _ => ([], rest)
          match body.takeWhile Text.isDecimalDigit with
          | [] => ([], s)
          | digits => (e :: sign ++ digits, body.dropWhile Text.isDecimalDigit)
        else ([], s)
    | [] => ([], s)

/-- Units are spelled in small ASCII letters. -/
def isUnitLetter (c : Char) : Bool :=
  'a' ≤ c && c ≤ 'z'

/-- The number and the unit suffix that a dimension is written with, blanks
around both ignored. -/
def dimensionParts (s : List Char) : Option (List Char × List Char) :=
  (takeNumber (Text.trimStart s)).bind fun (number, rest) =>
    let rest := Text.trimStart rest
    if (Text.trimStart (rest.dropWhile isUnitLetter)).isEmpty then
      some (number, rest.takeWhile isUnitLetter)
    else none

/-- A number with an optional unit suffix. -/
def dimension : Coder where
  decode text :=
    match dimensionParts text.toList with
    | none => .error .notDimension
    | some (number, suffix) => do
        let value ← readNumber number
        match LengthUnit.ofSuffix? (String.ofList suffix) with
        | some unit => return .dimension value unit
        | none => throw (.unknownUnit (String.ofList suffix))

/-! ## Points, boxes and margins -/

/-- Two numbers. -/
def point : Coder where
  decode text := do
    match ← readNumbers 2 text.toList with
    | [x, y] => return .point x y
    | xs => throw (.numberCount 2 xs.length)

/-- The vertical alignment that a letter stands for. -/
def verticalName (letter : Char) : String :=
  if letter = 't' then "top" else if letter = 'b' then "bottom" else "center"

/-- The horizontal alignment that a letter stands for. -/
def horizontalName (letter : Char) : String :=
  if letter = 'l' then "left" else if letter = 'r' then "right" else "center"

/-- What is left of a text behind its leading blanks, of blanks alone the last
one. It may not go over the end of a line. -/
def coordinates? (s : List Char) : Option (List Char) :=
  let body :=
    match Text.trimStart s with
    | [] => s.getLast?.toList
    | body => body
  if body = [] ∨ body.contains '\n' then none else some body

/-- The two letters and the colon of an alignment, and what follows them. -/
def takeAlignment (s : List Char) : Option (Char × Char × List Char) :=
  match Text.trimStart s with
  | v :: h :: rest =>
      if ['t', 'c', 'b'].contains v && ['l', 'c', 'r'].contains h then
        match Text.trimStart rest with
        | ':' :: rest => some (v, h, rest)
        | _ => none
      else none
  | _ => none

/-- The alignment letters and the coordinates of an aligned point. Letters that
no coordinates follow are no alignment. -/
def alignedParts (s : List Char) : Option (Char × Char × List Char) :=
  let aligned := (takeAlignment s).bind fun (v, h, rest) =>
    (coordinates? rest).map fun body => (v, h, body)
  aligned.or ((coordinates? s).map fun body => ('c', 'c', body))

/-- A point with an optional alignment in front of it; without one it is
centered both ways. -/
def alignedPoint : Coder where
  decode text :=
    match alignedParts text.toList with
    | none => .error .notAlignedPoint
    | some (v, h, body) => do
        match ← readNumbers 2 body with
        | [x, y] => return .alignedPoint x y (horizontalName h) (verticalName v)
        | xs => throw (.numberCount 2 xs.length)

/-- Four numbers; one of the commas may be a colon. -/
def box : Coder where
  decode text := do
    match ← readNumbers 4 (Text.replaceFirst ':' ',' text.toList) with
    | [x1, y1, x2, y2] => return .box x1 y1 x2 y2
    | xs => throw (.numberCount 4 xs.length)

/-- One number for all sides, two for the horizontal and the vertical ones, or
one for each side. -/
def margins : Coder where
  decode text := do
    match ← (Text.splitAt ',' text.toList).mapM readNumber with
    | [all] => return .margins all all all all
    | [h, v] => return .margins h h v v
    | [l, r, t, b] => return .margins l r t b
    | _ => throw .marginCount

/-! ## Axis transformations -/

/-- An expression, or two with a double colon between them. -/
def bijection : Coder where
  decode text :=
    match Text.splitOnce [':', ':'] text.toList with
    | some (forward, backward) =>
        let forward := Text.trim forward
        let backward := Text.trim backward
        if forward.isEmpty || backward.isEmpty then .error .emptyExpression
        else .ok (.bijection (String.ofList forward) (some (String.ofList backward)))
    | none =>
        let forward := Text.trim text.toList
        if forward.isEmpty then .error .emptyExpression
        else .ok (.bijection (String.ofList forward) none)

end PlotScript.Coder
