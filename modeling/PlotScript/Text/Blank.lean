import PlotScript.Text.Character

/-!
# Blanks and fields

Trimming, cutting at blanks, and cutting at a separator.
-/

namespace PlotScript.Text

/-- Drops the blanks at the front. -/
def trimStart (s : List Char) : List Char :=
  s.dropWhile isBlank

/-- Drops the blanks at the end. -/
def trimEnd (s : List Char) : List Char :=
  (s.reverse.dropWhile isBlank).reverse

/-- Drops the blanks at both ends. -/
def trim (s : List Char) : List Char :=
  trimEnd (trimStart s)

/-- The first maximal run of non-blank characters, if there is one. -/
def firstField (s : List Char) : Option (List Char) :=
  match (trimStart s).takeWhile (!isBlank ·) with
  | [] => none
  | field => some field

/-- The maximal runs of non-blank characters. `word` holds the run being read. -/
def fieldsFrom (word : List Char) : List Char → List (List Char)
  | [] => if word.isEmpty then [] else [word]
  | c :: rest =>
      if isBlank c then
        if word.isEmpty then fieldsFrom [] rest else word :: fieldsFrom [] rest
      else fieldsFrom (word ++ [c]) rest

/-- The maximal runs of non-blank characters. -/
def fields (s : List Char) : List (List Char) :=
  fieldsFrom [] s

/-- The pieces between the occurrences of a separator: one more than there are
separators. -/
def splitAt (sep : Char) : List Char → List (List Char)
  | [] => [[]]
  | c :: rest =>
      if c = sep then [] :: splitAt sep rest
      else
        match splitAt sep rest with
        | [] => [[c]]
        | piece :: pieces => (c :: piece) :: pieces

/-- The texts before and after the first occurrence of `mark`. -/
def splitOnce (mark : List Char) : List Char → Option (List Char × List Char)
  | [] => if mark.isEmpty then some ([], []) else none
  | c :: rest =>
      if mark.isPrefixOf (c :: rest) then some ([], (c :: rest).drop mark.length)
      else (splitOnce mark rest).map fun (before, after) => (c :: before, after)

/-- Every occurrence of the two characters `first second` becomes `single`. -/
def replacePair (first second single : Char) : List Char → List Char
  | a :: b :: rest =>
      if a = first ∧ b = second then single :: replacePair first second single rest
      else a :: replacePair first second single (b :: rest)
  | s => s

/-- The first occurrence of a character becomes another one. -/
def replaceFirst (old new : Char) : List Char → List Char
  | [] => []
  | c :: rest => if c = old then new :: rest else c :: replaceFirst old new rest

/-- A text without the blanks at its ends. -/
def trimmed (s : String) : String :=
  String.ofList (trim s.toList)

end PlotScript.Text
