import PlotScript.Coercion.Number
import PlotScript.Value.Basic

/-!
# Coders

A coder reads texts as values of one family and writes such values back. This
module holds the families that the parsers themselves depend on: booleans,
numbers, texts, ranges and enumerations.
-/

namespace PlotScript

/-- How texts become values of a family, and how values are written. -/
structure Coder where
  decode : String → Except Misread Value
  encode : Value → String := Value.display

namespace Coder

open Coercion

/-- The words for true. -/
def truthWords : List (List Char) :=
  ["true".toList, "yes".toList, "on".toList]

/-- `true`, `yes` and `on` in any case are true, all else is false. -/
def boolean : Coder where
  decode text :=
    let word := Text.trim text.toList
    .ok (.bool (truthWords.any (Text.eqFolded · word)))
  encode
    | .bool true => "true"
    | _ => "false"

/-- Whole numbers that fit in 64 bits. -/
def integer : Coder where
  decode text :=
    match readInt64? (Text.trim text.toList) with
    | some n => .ok (.integer n)
    | none => .error .notInteger

/-- Finite floating-point numbers. -/
def float : Coder where
  decode text := (readNumber text.toList).map .float

/-- Texts as they are. -/
def text : Coder where
  decode text := .ok (.text text)

/-- One side of a range. A blank side is an open one, which only a partial
range has. -/
def bound (isPartial : Bool) (side : List Char) : Except Misread (Option Binary64) :=
  if (Text.trim side).isEmpty then
    if isPartial then .ok none else .error .openBound
  else (readNumber side).map some

/-- Two bounds with a colon between them. -/
def range (isPartial : Bool) : Coder where
  decode text :=
    match splitColon text.toList with
    | none => .error .noColon
    | some (low, high) => do
        let low ← bound isPartial low
        let high ← bound isPartial high
        return .range low high

/-- Whether a word names a choice. -/
def sameChoice (caseSensitive : Bool) (choice : String) (word : List Char) : Bool :=
  if caseSensitive then choice.toList == word else Text.eqAsciiCase choice.toList word

/-- One of a fixed set of symbols, found in the order in which they are
listed. -/
def choice (choices : List String) (caseSensitive : Bool) : Coder where
  decode text :=
    match choices.find? (sameChoice caseSensitive · (Text.trim text.toList)) with
    | some symbol => .ok (.symbol symbol)
    | none => .error (.notChoice choices)

end Coder

end PlotScript
