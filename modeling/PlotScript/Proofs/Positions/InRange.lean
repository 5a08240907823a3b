import PlotScript.Proofs.Positions.Coders
import PlotScript.Proofs.Positions.Values
import PlotScript.Proofs.Positions.Words

/-!
# Accesses in range

What is read by positions is never asked for where the text has nothing, never begins or ends
inside a character, and is asked for by loops that move on with every turn. Each reading by
positions is therefore total, and it comes to what the program says of the text.
-/

namespace PlotScript.Positional

/-- All readings of a text by positions stay in its range: what they come to is what the program
yields or refuses (`lift`, `located`), and thus neither an access out of range nor a loop that
stands still. -/
structure InRange (scope : Scope) (text : String) : Prop where
  /-- wherever a reference is read from -/
  reference : ∀ pos, readReference text.toList pos =
    located text.toList (Reference.read (text.toList.drop pos))
  /-- the position behind a reference is ahead of its own one and inside the text -/
  behind : ∀ pos r next, readReference text.toList pos = .ok (some (r, next)) →
    pos < next ∧ next ≤ text.toList.length
  /-- the loop that cuts a line into words -/
  cutting : MovesOn text.toList (lineTurn scope text.toList)
  /-- and its inner one between double quotes -/
  cuttingQuoted : MovesOn text.toList (quotedTurn scope text.toList)
  /-- the loop that reads the value of an assignment -/
  assigning : ∀ interpolate, MovesOn text.toList (valueTurn scope interpolate text.toList)
  /-- and its inner one between double quotes -/
  assigningQuoted : ∀ interpolate,
    MovesOn text.toList (quotedValueTurn scope interpolate text.toList)
  /-- the loop that expands references, inside any number of expressions -/
  expanding : ∀ room,
    MovesOn text.toList (expressionTurn (required (resolveWithin scope room)) text.toList)
  words : splitLine scope text.toList = lift (PlotScript.splitLine scope text.toList)
  expansion : ∀ depth, expandAt scope depth text.toList = lift (scope.expandAt depth text.toList)
  value : ∀ interpolate, assignmentValue scope interpolate text.toList =
    lift (if interpolate then eagerValue scope text.toList else deferredValue text.toList)
  /-- the two sides of a colon are cut out between characters, so nothing is refused -/
  sides : (splitColon text : Checked Empty _) =
    .ok ((Coercion.splitColon text.toList).map fun (low, high) =>
      (String.ofList low, String.ofList high))
  /-- the channels are cut out between characters, whatever the number sign stands in front of -/
  hex : hexColor text = lift (Coder.readHexColor text.toList)
  /-- as many numbers as were asked for -/
  numbers : ∀ count xs, Coercion.readNumbers count text.toList = .ok xs → xs.length = count
  color : color text = lift (Coder.color.decode text)
  point : point text = lift (Coder.point.decode text)
  alignedPoint : alignedPoint text = lift (Coder.alignedPoint.decode text)
  box : box text = lift (Coder.box.decode text)

/-- **No access is out of range and every loop moves on**, for every text and every scope. -/
theorem in_range (scope : Scope) (text : String) : InRange scope text where
  reference := readReference_drop text.toList
  behind _ _ _ found := readReference_moves_on found
  cutting := movesOn_of_reads fun w here => reads_lineTurn w here
  cuttingQuoted := movesOn_of_reads fun w here => reads_quotedTurn w here
  assigning _ := movesOn_of_reads fun out here => reads_valueTurn out here
  assigningQuoted _ := movesOn_of_reads fun out here => reads_quotedValueTurn out here
  expanding room :=
    movesOn_of_reads (reads_expressionTurn (required_eq (resolveWithin_eq scope room)))
  words := splitLine_eq scope text.toList
  expansion depth := expandAt_eq scope depth text.toList
  value interpolate := (assignmentValue_eq scope interpolate text.toList).trans
    (congrArg lift (assignmentValue_eq_ite scope interpolate text.toList))
  sides := splitColon_eq text
  hex := hexColor_eq text
  numbers _ _ read := length_of_readNumbers read
  color := color_eq text
  point := point_eq text
  alignedPoint := alignedPoint_eq text
  box := box_eq text

end PlotScript.Positional
