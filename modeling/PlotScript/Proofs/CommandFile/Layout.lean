import PlotScript.Proofs.CommandFile.CallLine
import PlotScript.Proofs.CommandFile.Joining
import PlotScript.Proofs.CommandFile.PhysicalLines
import PlotScript.Proofs.CommandFile.Sequence

/-!
# The layout of a file

The physical lines of a file are laid out as single statements, script blocks and loops, which
may stand inside each other. `Remainder.Reads` and `Remainder.Ends` read the layout off the
physical lines, each of which they look at once. The interpreter joins lines first, then looks
for the ends of blocks, and looks through the body of a loop again for every word; still it runs
every file as the file is laid out.
-/

namespace PlotScript

open Line CommandFile

/-- What a stretch of a file is made of. -/
inductive Layout where
  | nil
  /-- a line that is a statement by itself -/
  | line (l : Line) (rest : Layout)
  /-- a script block with its physical lines as they are, opened on a line -/
  | script (opened : Nat) (code : List (List Char)) (rest : Layout)
  | loop (opening : Line) (name list : String) (body rest : Layout)

/-- The text of physical lines: each of them with a newline. -/
def blockText (code : List (List Char)) : String :=
  String.ofList (code.flatMap (· ++ ['\n']))

namespace Layout

/-- Runs what stands in a file. A script block is handed over as it is, and the body of a loop
runs once for every word. -/
def run (stream : String) : Layout → Run Unit
  | nil => pure ()
  | line l rest => do
      runLines stream [l]
      rest.run stream
  | script opened code rest => do
      runScript stream opened (blockText code)
      rest.run stream
  | loop opening name list body rest => do
      let words ← loopWords stream opening list
      replay name words (body.run stream)
      rest.run stream

end Layout

/-- What stands behind the layout of a file, where it cannot go on. -/
inductive Ending where
  /-- nothing -/
  | complete
  /-- a line that closes a loop where none is open -/
  | strayLoop (line : Line)
  /-- a script block that is not closed -/
  | openScript (opening : Line)
  /-- a loop that is not closed -/
  | openLoop (opening : Line) (list : String)

/-- The list of a loop is read before the loop is looked for its end. -/
def Ending.run (stream : String) : Ending → Run Unit
  | complete => pure ()
  | strayLoop line => stray stream .loop line
  | openScript opening => unterminated stream .script opening.number
  | openLoop opening list => do
      let _ ← loopWords stream opening list
      unterminated stream .loop opening.number

/-- Physical lines behind line `number`, at the beginning of a logical line outside script
blocks. -/
structure Remainder where
  number : Nat
  lines : List (List Char)

namespace Remainder

/-- The logical lines that the physical lines make. -/
def logical (r : Remainder) : List Line :=
  join false [] r.number r.lines

/-- The physical lines begin with those of a logical line: some that are continued and one that
is not, or the last line of the file, unless all of them are empty. -/
inductive Begins : Remainder → Line → Remainder → Prop
  | intro {number : Nat} {held : List (List Char)} {last : List Char} {behind : List (List Char)}
      (goOn : ∀ raw ∈ held, (continued? raw).isSome = true)
      (ends : continued? last = none ∨
        behind = [] ∧ (held ++ [last]).flatMap uncontinued ≠ []) :
      Begins ⟨number, held ++ last :: behind⟩
        (ofChars (number + held.length + 1)
          (Text.trimEnd ((held ++ [last]).flatMap uncontinued)))
        ⟨number + held.length + 1, behind⟩

/-- The physical lines begin with those of a layout. A script block goes from the logical line
that opens it to the first physical line that closes it. -/
inductive Reads : Remainder → Layout → Remainder → Prop
  | nil (r : Remainder) : Reads r .nil r
  | line {r s t : Remainder} {l : Line} {rest : Layout} (first : r.Begins l s)
      (single : l.statement.isSingle = true) (others : Reads s rest t) :
      Reads r (.line l rest) t
  | script {r t : Remainder} {opening : Line} {number : Nat} {code behind : List (List Char)}
      {closing : List Char} {rest : Layout}
      (first : r.Begins opening ⟨number, code ++ closing :: behind⟩)
      (opens : opening.statement = .scriptOpen)
      (inside : ∀ raw ∈ code, closesScript raw = false) (closes : closesScript closing = true)
      (others : Reads ⟨number + code.length + 1, behind⟩ rest t) :
      Reads r (.script opening.number code rest) t
  | loop {r s t u v : Remainder} {opening closing : Line} {name list : String}
      {body rest : Layout} (first : r.Begins opening s)
      (opens : opening.statement = .loopOpen name list) (inner : Reads s body t)
      (last : t.Begins closing u) (closes : closing.statement = .loopClose)
      (others : Reads u rest v) :
      Reads r (.loop opening name list body rest) v

/-- No layout goes on with the physical lines. -/
inductive Ends : Remainder → Ending → Prop
  | complete {r : Remainder} (goOn : ∀ raw ∈ r.lines, (continued? raw).isSome = true)
      (nothing : r.lines.flatMap uncontinued = []) : Ends r .complete
  | strayLoop {r s : Remainder} {line : Line} (first : r.Begins line s)
      (closes : line.statement = .loopClose) : Ends r (.strayLoop line)
  | openScript {r s : Remainder} {opening : Line} (first : r.Begins opening s)
      (opens : opening.statement = .scriptOpen)
      (inside : ∀ raw ∈ s.lines, closesScript raw = false) : Ends r (.openScript opening)
  | openLoop {r s t : Remainder} {opening : Line} {name list : String} {body : Layout}
      {ending : Ending} (first : r.Begins opening s)
      (opens : opening.statement = .loopOpen name list) (inner : Reads s body t)
      (ends : Ends t ending) (unclosed : ∀ line, ending ≠ .strayLoop line) :
      Ends r (.openLoop opening list)

end Remainder

/-! ## The logical lines of a remainder -/

namespace Line

/-- Continued lines are pending. -/
theorem join_continued {held : List (List Char)}
    (goOn : ∀ raw ∈ held, (continued? raw).isSome = true) (pending : List Char) (number : Nat)
    (behind : List (List Char)) :
    join false pending number (held ++ behind) =
      join false (pending ++ held.flatMap uncontinued) (number + held.length) behind := by
  induction held generalizing pending number with
  | nil => simp
  | cons raw held ih =>
      obtain ⟨first, others⟩ := List.forall_mem_cons.1 goOn
      obtain ⟨front, continued⟩ := Option.isSome_iff_exists.1 first
      have shift : number + 1 + held.length = number + (raw :: held).length := by
        rw [List.length_cons]
        omega
      rw [List.cons_append, join, if_neg Bool.false_ne_true, continued]
      dsimp only
      rw [ih others, List.flatMap_cons, uncontinued_of_continued continued, List.append_assoc,
        shift]

/-- The lines of a script block, each a logical line as it is. -/
def asItIs (number : Nat) : List (List Char) → List Line
  | [] => []
  | raw :: rest => ofChars (number + 1) raw :: asItIs (number + 1) rest

theorem join_code {code : List (List Char)} (inside : ∀ raw ∈ code, closesScript raw = false)
    (number : Nat) (behind : List (List Char)) :
    join true [] number (code ++ behind) =
      asItIs number code ++ join true [] (number + code.length) behind := by
  induction code generalizing number with
  | nil => rfl
  | cons raw code ih =>
      obtain ⟨stays, others⟩ := List.forall_mem_cons.1 inside
      have shift : number + 1 + code.length = number + (raw :: code).length := by
        rw [List.length_cons]
        omega
      rw [List.cons_append, join, if_pos rfl, stays, Bool.not_false, ih others, shift]
      rfl

theorem not_closes_of_mem_asItIs {code : List (List Char)}
    (inside : ∀ raw ∈ code, closesScript raw = false) {number : Nat} {line : Line}
    (member : line ∈ asItIs number code) : line.statement ≠ .scriptClose := by
  induction code generalizing number with
  | nil => cases member
  | cons raw code ih =>
      obtain ⟨stays, others⟩ := List.forall_mem_cons.1 inside
      rcases List.mem_cons.1 member with rfl | member
      · rw [Ne, statement_ofChars_eq_scriptClose_iff, stays]
        exact Bool.false_ne_true
      · exact ih others member

theorem code_asItIs (number : Nat) (code : List (List Char)) :
    Block.code (asItIs number code) = blockText code := by
  induction code generalizing number with
  | nil => rfl
  | cons raw code ih =>
      have first : blockText (raw :: code) = String.ofList raw ++ "\n" ++ blockText code := by
        rw [blockText, List.flatMap_cons, String.ofList_append, String.ofList_append]
        rfl
      rw [asItIs, Block.code, List.map_cons, String.join_cons, first, ← ih (number + 1)]
      rfl

end Line

namespace Remainder

variable {r s t : Remainder} {l : Line} {layout : Layout} {ending : Ending}

/-- Behind a logical line the joining goes on in a script block if the line opens one. -/
theorem Begins.logical (first : r.Begins l s) :
    r.logical = l :: join (l.statement = .scriptOpen) [] s.number s.lines := by
  obtain ⟨goOn, ends⟩ := first
  rename_i number held last behind
  have whole : (held ++ [last]).flatMap uncontinued =
      held.flatMap uncontinued ++ uncontinued last := by
    rw [List.flatMap_append, List.flatMap_singleton]
  rw [whole] at ends ⊢
  rw [Remainder.logical, join_continued goOn, List.nil_append, join, if_neg Bool.false_ne_true]
  cases continues : continued? last with
  | none =>
      rw [uncontinued_of_ended continues]
  | some front =>
      rw [uncontinued_of_continued continues] at ends ⊢
      rw [continues] at ends
      -- the file ends in a continued line
      rcases ends with ⟨⟨⟩⟩ | ⟨rfl, nonempty⟩
      simp [join, nonempty]

theorem Begins.logical_of_outside (first : r.Begins l s) (outside : l.statement ≠ .scriptOpen) :
    r.logical = l :: s.logical := by
  rw [first.logical, decide_eq_false outside]
  rfl

theorem Begins.length_lt (first : r.Begins l s) : s.lines.length < r.lines.length := by
  obtain ⟨-, -⟩ := first
  rename_i number held last behind
  show behind.length < (held ++ last :: behind).length
  rw [List.length_append, List.length_cons]
  omega

theorem Reads.length_le (reads : Reads r layout s) : s.lines.length ≤ r.lines.length := by
  induction reads with
  | nil r => exact Nat.le_refl _
  | line first _ _ ih => exact Nat.le_trans ih (Nat.le_of_lt first.length_lt)
  | @script r t opening number code behind closing rest first _ _ _ _ ih =>
      have shorter := first.length_lt
      simp only [List.length_append, List.length_cons] at shorter
      simp only at ih
      omega
  | loop first _ _ last _ _ ih ih' =>
      have := first.length_lt
      have := last.length_lt
      omega

end Remainder

/-! ## Lines in the order of a layout -/

/-- Logical lines that are made as a layout is: a loop around them passes over them, and they
run as the layout does whatever stands behind them. -/
structure Layout.Makes (layout : Layout) (front : List Line) : Prop where
  passed : ∀ depth, Block.Nesting.through? ⟨depth, false⟩ front = some ⟨depth, false⟩
  runs : ∀ stream more, runLines stream (front ++ more) = (do
    layout.run stream
    runLines stream more)

namespace Layout

variable {l opening closing : Line} {rest body : Layout} {front inner : List Line}

/-- Single statements run one after another. -/
theorem runLines_single_cons (single : l.statement.isSingle = true) (stream : String)
    (more : List Line) :
    runLines stream (l :: more) = (do
      runLines stream [l]
      runLines stream more) := by
  have alone : runLines stream [] = pure () := by rw [runLines]
  cases kind : l.statement with
  | blank => rw [runLines_blank kind, runLines_blank kind, alone, pure_bind]
  | scriptClose =>
      rw [runLines_scriptClose kind, runLines_scriptClose kind]
      rfl
  | assignment name soft deferred value =>
      rw [runLines_assignment kind, runLines_assignment kind, alone]
      simp only [bind_assoc, pure_bind]
  | command =>
      rw [runLines_command kind, runLines_command kind, alone]
      simp only [bind_assoc, pure_bind]
  | scriptOpen | loopOpen | loopClose =>
      rw [kind] at single
      cases single

theorem makes_nil : nil.Makes [] where
  passed _ := rfl
  runs stream more := by rw [List.nil_append, run, pure_bind]

theorem Makes.line (makes : rest.Makes front) (single : l.statement.isSingle = true) :
    (line l rest).Makes (l :: front) := by
  constructor
  · intro depth
    have step := Block.Nesting.after?_of_isSingle depth single
    rw [Block.Nesting.through?_cons step, makes.passed]
  · intro stream more
    rw [List.cons_append, runLines_single_cons single, makes.runs, run, bind_assoc]

theorem Makes.script {code : List (List Char)} {lines : List Line} (makes : rest.Makes front)
    (opens : opening.statement = .scriptOpen)
    (inside : ∀ line ∈ lines, line.statement ≠ .scriptClose)
    (closes : closing.statement = .scriptClose) (text : Block.code lines = blockText code) :
    (script opening.number code rest).Makes (opening :: (lines ++ closing :: front)) := by
  constructor
  · intro depth
    rw [Block.Nesting.through?_script opens inside closes, makes.passed]
  · intro stream more
    have cut : Block.takeScript (lines ++ closing :: front ++ more) =
        some (lines, front ++ more) :=
      Block.takeScript_eq_some_iff.2 ⟨closing, by simp, closes, inside⟩
    rw [List.cons_append, runLines_script opens cut, makes.runs, run, text, bind_assoc]

theorem Makes.loop {name list : String} (makes : rest.Makes front) (within : body.Makes inner)
    (opens : opening.statement = .loopOpen name list) (closes : closing.statement = .loopClose) :
    (loop opening name list body rest).Makes (opening :: (inner ++ closing :: front)) := by
  constructor
  · intro depth
    rw [Block.Nesting.through?_loop opens within.passed closes, makes.passed]
  · intro stream more
    have cut : Block.takeLoop {} (inner ++ closing :: front ++ more) =
        some (inner, front ++ more) := by
      rw [List.append_assoc]
      exact Block.takeLoop_of_passed (within.passed 0) closes (front ++ more)
    have alone : runLines stream inner = body.run stream := by
      have behind := within.runs stream []
      rw [List.append_nil, runLines] at behind
      rw [behind]
      exact bind_pure _
    rw [List.cons_append, runLines_loop stream opens cut, makes.runs, alone, run]
    simp only [bind_assoc]

end Layout

namespace Remainder

variable {r s t : Remainder} {l : Line} {layout : Layout} {ending : Ending}

/-- The logical lines of a remainder are those of its layout and those of what is left. -/
theorem Reads.exists_makes (reads : Reads r layout s) :
    ∃ front, r.logical = front ++ s.logical ∧ layout.Makes front := by
  induction reads with
  | nil r => exact ⟨[], rfl, Layout.makes_nil⟩
  | @line r s t l rest first single others ih =>
      obtain ⟨front, logical, makes⟩ := ih
      refine ⟨l :: front, ?_, makes.line single⟩
      rw [first.logical_of_outside, logical]
      · rfl
      · intro opens
        rw [opens] at single
        cases single
  | @script r t opening number code behind closing rest first opens inside closes others ih =>
      obtain ⟨front, logical, makes⟩ := ih
      let last := ofChars (number + code.length + 1) closing
      refine ⟨opening :: (asItIs number code ++ last :: front), ?_, ?_⟩
      · rw [first.logical, decide_eq_true opens, join_code inside, join, if_pos rfl, closes,
          List.cons_append, List.append_assoc, List.cons_append, ← logical]
        rfl
      · apply makes.script opens
        · exact fun line member => not_closes_of_mem_asItIs inside member
        · exact statement_ofChars_eq_scriptClose_iff.2 closes
        · exact code_asItIs number code
  | @loop r s t u v opening closing name list body rest first opens inner last closes others
      within behind =>
      obtain ⟨innerLines, innerLogical, innerMakes⟩ := within
      obtain ⟨front, logical, makes⟩ := behind
      refine ⟨opening :: (innerLines ++ closing :: front), ?_, makes.loop innerMakes opens closes⟩
      have outside : opening.statement ≠ .scriptOpen := by
        rw [opens]
        rintro ⟨⟩
      have outsideLast : closing.statement ≠ .scriptOpen := by
        rw [closes]
        rintro ⟨⟩
      rw [first.logical_of_outside outside, innerLogical, last.logical_of_outside outsideLast,
        logical]
      simp

/-! ## The lines behind a layout -/

theorem logical_of_continued (goOn : ∀ raw ∈ r.lines, (continued? raw).isSome = true)
    (nothing : r.lines.flatMap uncontinued = []) : r.logical = [] := by
  have all := join_continued goOn [] r.number []
  rw [List.append_nil, nothing] at all
  exact all

theorem Begins.logical_of_openScript (first : r.Begins l s) (opens : l.statement = .scriptOpen)
    (inside : ∀ raw ∈ s.lines, closesScript raw = false) :
    r.logical = l :: asItIs s.number s.lines := by
  have code := join_code inside s.number []
  rw [List.append_nil] at code
  rw [first.logical, decide_eq_true opens, code, join, if_pos List.isEmpty_nil, List.append_nil]

/-- What stands behind a layout closes no loop unless it begins with a line that does. -/
theorem Ends.takeLoop (ends : Ends r ending) (unclosed : ∀ line, ending ≠ .strayLoop line)
    (depth : Nat) : Block.takeLoop ⟨depth, false⟩ r.logical = none := by
  induction ends generalizing depth with
  | complete goOn nothing =>
      rw [logical_of_continued goOn nothing]
      rfl
  | strayLoop => exact absurd rfl (unclosed _)
  | @openScript r s opening first opens inside =>
      have enter : Block.Nesting.after? ⟨depth, false⟩ opening.statement = some ⟨depth, true⟩ := by
        rw [opens]
        rfl
      have noClosing : ∀ line ∈ asItIs s.number s.lines, line.statement ≠ .scriptClose :=
        fun line member => not_closes_of_mem_asItIs inside member
      have through := Block.takeLoop_through (Block.Nesting.through?_code noClosing depth) []
      rw [List.append_nil] at through
      rw [first.logical_of_openScript opens inside, Block.takeLoop_cons enter, through]
      rfl
  | @openLoop r s t opening name list body ending first opens inner _ stillUnclosed ih =>
      have enter : Block.Nesting.after? ⟨depth, false⟩ opening.statement =
          some ⟨depth + 1, false⟩ := by
        rw [opens]
        rfl
      have outside : opening.statement ≠ .scriptOpen := by
        rw [opens]
        nofun
      obtain ⟨front, logical, makes⟩ := inner.exists_makes
      rw [first.logical_of_outside outside, Block.takeLoop_cons enter, logical,
        Block.takeLoop_through (makes.passed _), ih stillUnclosed]
      rfl

theorem Ends.runLines (ends : Ends r ending) (stream : String) :
    CommandFile.runLines stream r.logical = ending.run stream := by
  cases ends with
  | complete goOn nothing =>
      rw [logical_of_continued goOn nothing, CommandFile.runLines]
      rfl
  | strayLoop first closes =>
      have outside := first.logical_of_outside (by rw [closes]; rintro ⟨⟩)
      rw [outside, runLines_loopClose closes]
      rfl
  | @openScript _ s opening first opens inside =>
      have missing : Block.takeScript (asItIs s.number s.lines) = none := by
        cases cut : Block.takeScript (asItIs s.number s.lines) with
        | none => rfl
        | some found =>
            obtain ⟨closing, split, closes, -⟩ := Block.takeScript_eq_some_iff.1 cut
            have member : closing ∈ asItIs s.number s.lines := by simp [split]
            exact absurd closes (not_closes_of_mem_asItIs inside member)
      rw [first.logical_of_openScript opens inside, runLines_openScript opens missing]
      rfl
  | openLoop first opens inner ends unclosed =>
      have outside := first.logical_of_outside (by rw [opens]; rintro ⟨⟩)
      obtain ⟨front, logical, makes⟩ := inner.exists_makes
      have missing : Block.takeLoop {} (front ++ _) = none :=
        (Block.takeLoop_through (makes.passed 0) _).trans
          (congrArg (Option.map _) (ends.takeLoop unclosed 0))
      rw [outside, logical, runLines_openLoop opens missing]
      rfl

/-! ## Every file is laid out -/

/-- Physical lines begin with a logical line unless all that they hold is continued and empty. -/
theorem exists_begins (r : Remainder) :
    (∃ line s, r.Begins line s) ∨
      (∀ raw ∈ r.lines, (continued? raw).isSome = true) ∧ r.lines.flatMap uncontinued = [] := by
  obtain ⟨number, lines⟩ := r
  cases found : lines.find? fun raw => (continued? raw).isNone with
  | some last =>
      left
      obtain ⟨ended, held, behind, rfl, goOn⟩ := List.find?_eq_some_iff_append.1 found
      have heldOn : ∀ raw ∈ held, (continued? raw).isSome = true := by
        intro raw member
        simpa using goOn raw member
      exact ⟨_, _, .intro heldOn (.inl (Option.isNone_iff_eq_none.1 ended))⟩
  | none =>
      have goOn : ∀ raw ∈ lines, (continued? raw).isSome = true := by
        intro raw member
        simpa [Option.isSome_iff_ne_none] using List.find?_eq_none.1 found raw member
      by_cases nothing : lines.flatMap uncontinued = []
      · exact .inr ⟨goOn, nothing⟩
      · left
        -- the last line of the file is continued, but nothing follows
        rcases lines.eq_nil_or_concat with rfl | ⟨held, last, rfl⟩
        · exact absurd rfl nothing
        · rw [List.concat_eq_append] at goOn nothing ⊢
          have heldOn : ∀ raw ∈ held, (continued? raw).isSome = true :=
            fun raw member => goOn raw (List.mem_append_left _ member)
          exact ⟨_, _, .intro heldOn (.inr ⟨rfl, nothing⟩)⟩

end Remainder

end PlotScript
