import PlotScript.Proofs.CommandFile.Enclosed
import PlotScript.Proofs.CommandFile.LineGroups

/-!
# Blocks that are left open

A file may end inside a script block or a loop. What stands in front of the opening line of the
outermost open block has run by then, and nothing behind it has: the file is run as far as the
opening line, and then it fails there.
-/

namespace PlotScript

open CommandFile

/-- The outermost block that is open behind some lines. Only a loop looks at what stands inside,
so that it is not closed by the end of another one. -/
inductive Outermost where
  | outside
  | script (opening : Line)
  | loop (opening : Line) (inner : Block.Nesting)

namespace Outermost

/-- The outermost open block behind one more line. -/
def after : Outermost → Line → Outermost
  | outside, line =>
      match line.statement with
      | .scriptOpen => script line
      | .loopOpen _ _ => loop line {}
      | _ => outside
  | script opening, line => if line.statement = .scriptClose then outside else script opening
  | loop opening inner, line =>
      match inner.after? line.statement with
      | none => outside
      | some inner => loop opening inner

/-- The outermost open block behind some lines. -/
def behind (lines : List Line) : Outermost :=
  lines.foldl after outside

/-- The kind of the open block, and the line that opens it. -/
def open? : Outermost → Option (BlockKind × Line)
  | outside => none
  | script opening => some (.script, opening)
  | loop opening _ => some (.loop, opening)

variable {lines front rest code body : List Line} {line opening closing : Line}
  {n m : Block.Nesting} {name list : String}

/-! ## Lines that close what they open -/

theorem after_outside_of_other (noScript : line.statement ≠ .scriptOpen)
    (noLoop : ∀ name list, line.statement ≠ .loopOpen name list) :
    after outside line = outside := by
  show (match line.statement with
        | .scriptOpen => script line
        | .loopOpen _ _ => loop line {}
        | _ => outside) = outside
  split
  · rename_i opens
    exact absurd opens noScript
  · rename_i opens
    exact absurd opens (noLoop _ _)
  · rfl

theorem behind_cons_of_other (noScript : line.statement ≠ .scriptOpen)
    (noLoop : ∀ name list, line.statement ≠ .loopOpen name list) :
    behind (line :: rest) = behind rest := by
  rw [behind, List.foldl_cons, after_outside_of_other noScript noLoop]
  rfl

theorem foldl_script (inside : ∀ line ∈ code, line.statement ≠ .scriptClose) :
    code.foldl after (script opening) = script opening := by
  induction code with
  | nil => rfl
  | cons line code ih =>
      obtain ⟨stays, others⟩ := List.forall_mem_cons.1 inside
      rw [List.foldl_cons, after, if_neg stays, ih others]

theorem foldl_loop (through : n.through? body = some m) :
    body.foldl after (loop opening n) = loop opening m := by
  induction body generalizing n with
  | nil =>
      obtain rfl := Option.some.inj through
      rfl
  | cons line body ih =>
      cases step : n.after? line.statement with
      | none =>
          rw [Block.Nesting.through?, List.foldlM_cons, step] at through
          cases through
      | some inner =>
          rw [Block.Nesting.through?_cons step] at through
          rw [List.foldl_cons, after, step]
          exact ih through

theorem behind_script_cons (opens : opening.statement = .scriptOpen) :
    behind (opening :: rest) = rest.foldl after (script opening) := by
  rw [behind, List.foldl_cons, after, opens]

theorem behind_loop_cons (opens : opening.statement = .loopOpen name list) :
    behind (opening :: rest) = rest.foldl after (loop opening {}) := by
  rw [behind, List.foldl_cons, after, opens]

theorem behind_script (opens : opening.statement = .scriptOpen)
    (cut : Block.takeScript rest = some (code, lines)) :
    behind (opening :: rest) = behind lines := by
  obtain ⟨closing, rfl, closes, inside⟩ := Block.takeScript_eq_some_iff.1 cut
  rw [behind_script_cons opens, List.foldl_append, foldl_script inside, List.foldl_cons, after,
    if_pos closes]
  rfl

theorem behind_loop (opens : opening.statement = .loopOpen name list)
    (cut : Block.takeLoop {} rest = some (body, lines)) :
    behind (opening :: rest) = behind lines := by
  obtain ⟨closing, m, rfl, through, closes⟩ := Block.takeLoop_eq_some_iff.1 cut
  rw [behind_loop_cons opens, List.foldl_append, foldl_loop through, List.foldl_cons, after, closes]
  rfl

/-- Lines that leave no block open run to their end or fail, whatever stands behind them. -/
theorem runLines_append_of_outside {stream : String} (closed : behind front = outside)
    (more : List Line) :
    runLines stream (front ++ more) = (do
      runLines stream front
      runLines stream more) := by
  fun_induction runLines stream front with
  | case1 => rw [List.nil_append, pure_bind]
  | case2 line rest isBlank ih =>
      rw [behind_cons_of_other (by simp [isBlank]) (by simp [isBlank])] at closed
      rw [List.cons_append, runLines_blank isBlank, ih closed]
  | case3 line rest opens missing =>
      have inside := Block.not_closes_of_takeScript_eq_none missing
      rw [behind_script_cons opens, foldl_script inside] at closed
      cases closed
  | case4 line rest opens code behindBlock cut shorter ih =>
      rw [behind_script opens cut] at closed
      rw [List.cons_append, runLines_script opens (Block.takeScript_append cut more), ih closed]
      simp only [bind_assoc]
  | case5 line rest closes =>
      rw [List.cons_append, runLines_scriptClose closes]
      rfl
  | case6 line rest name list opens inBody behindBody =>
      rcases Option.eq_none_or_eq_some (Block.takeLoop {} rest) with missing | ⟨⟨body, after⟩, cut⟩
      · obtain ⟨m, through⟩ := Block.takeLoop_eq_none_iff.1 missing
        rw [behind_loop_cons opens, foldl_loop through] at closed
        cases closed
      · rw [behind_loop opens cut] at closed
        rw [List.cons_append, runLines_loop stream opens (Block.takeLoop_append cut more),
          bind_assoc]
        congr 1
        funext words
        split
        · rename_i missing
          rw [cut] at missing
          cases missing
        · rename_i found
          rw [cut] at found
          obtain ⟨rfl, rfl⟩ := Prod.mk.inj (Option.some.inj found)
          rw [behindBody body after cut closed, bind_assoc]
  | case7 line rest closes =>
      rw [List.cons_append, runLines_loopClose closes]
      rfl
  | case8 line rest name soft deferred value assigns ih =>
      rw [behind_cons_of_other (by simp [assigns]) (by simp [assigns])] at closed
      rw [List.cons_append, runLines_assignment assigns, ih closed]
      simp only [bind_assoc]
  | case9 line rest calls ih =>
      rw [behind_cons_of_other (by simp [calls]) (by simp [calls])] at closed
      rw [List.cons_append, runLines_command calls, ih closed]
      simp only [bind_assoc]

/-! ## Where the open block begins -/

theorem behind_concat (lines : List Line) (line : Line) :
    behind (lines ++ [line]) = (behind lines).after line := by
  rw [behind, List.foldl_append]
  rfl

/-- One more line leaves no block open, opens the outermost block, or belongs to it. -/
theorem after_cases (o : Outermost) (line : Line) :
    o.after line = outside ∨
      (o = outside ∧ line.statement = .scriptOpen ∧ o.after line = script line) ∨
      (∃ name list, o = outside ∧ line.statement = .loopOpen name list ∧
        o.after line = loop line {}) ∨
      (∃ opening, o = script opening ∧ line.statement ≠ .scriptClose ∧
        o.after line = script opening) ∨
      ∃ opening n m, o = loop opening n ∧ n.after? line.statement = some m ∧
        o.after line = loop opening m := by
  cases o with
  | outside =>
      cases kind : line.statement with
      | scriptOpen => exact .inr (.inl ⟨rfl, rfl, by rw [after, kind]⟩)
      | loopOpen name list => exact .inr (.inr (.inl ⟨name, list, rfl, rfl, by rw [after, kind]⟩))
      | _ => exact .inl (after_outside_of_other (by simp [kind]) (by simp [kind]))
  | script opening =>
      by_cases closes : line.statement = .scriptClose
      · exact .inl (if_pos closes)
      · exact .inr (.inr (.inr (.inl ⟨opening, rfl, closes, if_neg closes⟩)))
  | loop opening n =>
      cases step : n.after? line.statement with
      | none => exact .inl (by rw [after, step])
      | some m =>
          exact .inr (.inr (.inr (.inr ⟨opening, n, m, rfl, step, by rw [after, step]⟩)))

/-- Where the open block begins: nothing is open in front of its opening line, and nothing behind
that line closes it. -/
def Begins (lines : List Line) : Outermost → Prop
  | outside => True
  | script opening => ∃ front inside, lines = front ++ opening :: inside ∧
      behind front = outside ∧ opening.statement = .scriptOpen ∧
      ∀ line ∈ inside, line.statement ≠ .scriptClose
  | loop opening n => ∃ front inside name list, lines = front ++ opening :: inside ∧
      behind front = outside ∧ opening.statement = .loopOpen name list ∧
      Block.Nesting.through? {} inside = some n

theorem begins_behind (lines : List Line) : Begins lines (behind lines) := by
  induction lines using List.reverseRecOn with
  | nil => exact trivial
  | append_singleton lines line ih =>
      rw [behind_concat]
      rcases after_cases (behind lines) line with closed | ⟨state, opens, after⟩ |
        ⟨name, list, state, opens, after⟩ | ⟨opening, state, stays, after⟩ |
        ⟨opening, n, m, state, step, after⟩
      · rw [closed]
        exact trivial
      · rw [after]
        exact ⟨lines, [], rfl, state, opens, List.forall_mem_nil _⟩
      · rw [after]
        exact ⟨lines, [], name, list, rfl, state, opens, rfl⟩
      · rw [state] at ih
        obtain ⟨front, inside, rfl, closed, opens, noClosing⟩ := ih
        rw [after]
        refine ⟨front, inside ++ [line], by simp, closed, opens, ?_⟩
        exact List.forall_mem_append.2 ⟨noClosing, List.forall_mem_singleton.2 stays⟩
      · rw [state] at ih
        obtain ⟨front, inside, name, list, rfl, closed, opens, through⟩ := ih
        rw [after]
        refine ⟨front, inside ++ [line], name, list, by simp, closed, opens, ?_⟩
        rw [Block.Nesting.through?_append through, Block.Nesting.through?_cons step]
        rfl

/-- What becomes of a block that is left open: its list is read, if it is a loop. -/
def fail (stream : String) (kind : BlockKind) (opening : Line) : Run Unit :=
  match opening.statement with
  | .loopOpen _ list => do
      let _ ← loopWords stream opening list
      unterminated stream kind opening.number
  | _ => unterminated stream kind opening.number

/-- Lines that leave a block open run as far as its opening line. -/
theorem exists_runLines_of_open {kind : BlockKind}
    (left : (behind lines).open? = some (kind, opening)) (stream : String) :
    ∃ front inside, lines = front ++ opening :: inside ∧
      runLines stream lines = (do
        runLines stream front
        fail stream kind opening) := by
  have begins := begins_behind lines
  generalize behind lines = state at left begins
  cases state with
  | outside => cases left
  | script opener =>
      obtain ⟨rfl, rfl⟩ := Prod.mk.inj (Option.some.inj left)
      obtain ⟨front, inside, rfl, closed, opens, noClosing⟩ := begins
      refine ⟨front, inside, rfl, ?_⟩
      have missing : Block.takeScript inside = none := by
        cases cut : Block.takeScript inside with
        | none => rfl
        | some parts =>
            obtain ⟨closing, rfl, closes, -⟩ := Block.takeScript_eq_some_iff.1 cut
            exact absurd closes (noClosing closing (by simp))
      rw [runLines_append_of_outside closed, runLines_openScript opens missing, fail, opens]
  | loop opener n =>
      obtain ⟨rfl, rfl⟩ := Prod.mk.inj (Option.some.inj left)
      obtain ⟨front, inside, name, list, rfl, closed, opens, through⟩ := begins
      refine ⟨front, inside, rfl, ?_⟩
      have missing := Block.takeLoop_eq_none_iff.2 ⟨n, through⟩
      rw [runLines_append_of_outside closed, runLines_openLoop opens missing, fail, opens]

end Outermost

namespace Recorder

variable {stream : String}

/-- The numbers of lines tell what stands in front of a line. -/
theorem filter_number_lt {front inside : List Line} {opening : Line}
    (increasing : (front ++ opening :: inside).Pairwise fun a b => a.number < b.number) :
    (front ++ opening :: inside).filter (·.number < opening.number) = front := by
  obtain ⟨-, others, before⟩ := List.pairwise_append.1 increasing
  rw [List.filter_append, List.filter_eq_self.2, List.filter_eq_nil_iff.2, List.append_nil]
  · intro line member
    rcases List.mem_cons.1 member with rfl | member
    · simp
    · simpa using Nat.le_of_lt (List.rel_of_pairwise_cons others member)
  · intro line member
    simpa using before line member opening List.mem_cons_self

/-- The calls that some lines make have the numbers of these lines. -/
theorem exists_new_calls (s : Recorder) (lines : List Line) :
    ∃ new, (s.record (runLines stream lines)).2.calls = s.calls ++ new ∧
      ∀ call ∈ new, ∃ line ∈ lines, call.location.line = line.number := by
  obtain ⟨⟨new, grown⟩, calls, -⟩ := traced_runLines stream lines s
  refine ⟨new, grown.symm, fun call member => ?_⟩
  obtain ⟨earlier, later, rfl⟩ := List.append_of_mem member
  obtain ⟨line, behind, u, ⟨level, reaches⟩, -, c, words, parted, -, -, -, -, rfl⟩ :=
    calls (s.calls ++ earlier) call (by rw [← grown]; exact ⟨later, by simp⟩) (by simp)
  exact ⟨line, reaches.mem, rfl⟩

/-- The failure of a block that is left open changes nothing. -/
theorem record_fail (s : Recorder) (stream : String) (kind : BlockKind) (opening : Line) :
    (∃ d, s.record (Outermost.fail stream kind opening) = (.error d, s)) ∧
      ((∀ name list, opening.statement = .loopOpen name list →
          ∃ words, splitLine s.scope list.toList = .ok words) →
        s.record (Outermost.fail stream kind opening) =
          (.error ((Cause.unterminatedBlock kind opening.number).placed
            ⟨kind.opener, stream, opening.number, 0⟩), s)) := by
  unfold Outermost.fail
  split
  · rename_i name list opens
    have read := record_loopWords s stream opening list
    cases split : splitLine s.scope list.toList with
    | error cause =>
        rw [split] at read
        refine ⟨⟨cause.placed (Location.inFile BlockKind.loop.opener stream opening.number), ?_⟩,
          fun readable => ?_⟩
        · rw [record] at read ⊢
          rw [Run.run_bind, read]
          rfl
        · obtain ⟨words, readable⟩ := readable name list opens
          rw [split] at readable
          cases readable
    | ok words =>
        rw [split] at read
        have failed : s.record (do
            let _ ← loopWords stream opening list
            unterminated stream kind opening.number : Run Unit) =
            s.record (unterminated stream kind opening.number : Run Unit) :=
          Run.run_bind_of_ok read _
        exact ⟨⟨_, failed⟩, fun _ => failed⟩
  · exact ⟨⟨_, rfl⟩, fun _ => rfl⟩

/-- Lines that leave a block open are recorded as far as its opening line, and fail there. -/
theorem record_of_open (s : Recorder) {lines : List Line} {kind : BlockKind} {opening : Line}
    (left : (Outermost.behind lines).open? = some (kind, opening))
    (increasing : lines.Pairwise fun a b => a.number < b.number) :
    let above := s.record (runLines stream (lines.filter (·.number < opening.number)))
    let ran := s.record (runLines stream lines)
    opening ∈ lines ∧ (∃ d, ran.1 = .error d) ∧ ran.2 = above.2 ∧
      (above.1 = .ok () →
        (∀ name list, opening.statement = .loopOpen name list →
          ∃ words, splitLine above.2.scope list.toList = .ok words) →
        ran.1 = .error ((Cause.unterminatedBlock kind opening.number).placed
          ⟨kind.opener, stream, opening.number, 0⟩)) := by
  obtain ⟨front, inside, rfl, asFront⟩ := Outermost.exists_runLines_of_open left stream
  intro above ran
  have isAbove : above = s.record (runLines stream front) := by
    show s.record (runLines stream (List.filter _ _)) = _
    rw [filter_number_lt increasing]
  have isRan : ran = s.record (do
      runLines stream front
      Outermost.fail stream kind opening) := congrArg s.record asFront
  refine ⟨List.mem_append_right _ List.mem_cons_self, ?_⟩
  rw [isAbove, isRan]
  rcases ranFront : s.record (runLines stream front) with ⟨result, t⟩
  cases result with
  | error d =>
      have failed : s.record (do runLines stream front; Outermost.fail stream kind opening) =
          (.error d, t) := by
        rw [record] at ranFront ⊢
        rw [Run.run_bind, ranFront]
      rw [failed]
      refine ⟨⟨d, rfl⟩, rfl, ?_⟩
      rintro ⟨⟩
  | ok =>
      have onward : s.record (do runLines stream front; Outermost.fail stream kind opening) =
          t.record (Outermost.fail stream kind opening) := Run.run_bind_of_ok ranFront _
      obtain ⟨⟨d, failed⟩, unread⟩ := record_fail t stream kind opening
      rw [onward]
      refine ⟨⟨d, ?_⟩, ?_, fun _ readable => ?_⟩
      · rw [failed]
      · rw [failed]
      · rw [unread readable]

/-- A block that is left open at the end of a file runs nothing of itself. What has been recorded
then is what the lines above the opening line record by themselves: calls, scripts, warnings and
variables. The file ends in an error, and that is the error about the open block, at the line that
opens it, if the lines above go through and the list of the loop can be read, should it be one. -/
theorem unterminated_block_runs_nothing (s : Recorder) (stream text : String) {kind : BlockKind}
    {opening : Line}
    (left : (Outermost.behind (Line.ofText text.toList)).open? = some (kind, opening)) :
    let lines := Line.ofText text.toList
    let above := s.record (runLines stream (lines.filter (·.number < opening.number)))
    let ran := s.record (FileReader.interpret ⟨false⟩ stream text)
    let cause := Cause.unterminatedBlock kind opening.number
    opening ∈ lines ∧ (∃ d, ran.1 = .error d) ∧ ran.2 = above.2 ∧
      (∃ new, ran.2.calls = s.calls ++ new ∧
        ∀ call ∈ new, call.location.line < opening.number) ∧
      (above.1 = .ok () →
        (∀ name list, opening.statement = .loopOpen name list →
          ∃ words, splitLine above.2.scope list.toList = .ok words) →
        ran.1 = .error (cause.placed ⟨kind.opener, stream, opening.number, 0⟩)) ∧
      cause.kind = .grammar ∧
      cause.message = "unterminated '" ++ kind.opener ++ "' block opened at line " ++
        writeNat opening.number := by
  intro lines above ran cause
  have isRan : ran = s.record (runLines stream lines) :=
    congrArg s.record (FileReader.interpret_of_modern rfl stream text)
  obtain ⟨member, failed, same, unread⟩ :=
    @record_of_open stream s lines kind opening left (Line.ofText_pairwise text.toList)
  rw [isRan]
  refine ⟨member, failed, same, ?_, unread, rfl, rfl⟩
  obtain ⟨new, grown, placed⟩ :=
    @exists_new_calls stream s (lines.filter (·.number < opening.number))
  refine ⟨new, same ▸ grown, fun call inNew => ?_⟩
  obtain ⟨line, isAbove, number⟩ := placed call inNew
  rw [number]
  simpa using (List.mem_filter.1 isAbove).2

/-- A loop over two lines behind another loop. The end of a loop in its script block does not
close it. -/
theorem unterminated_loop_runs_nothing :
    let s : Recorder := { table := CommandTable.standard }
    let text :=
      "for x in 1 2\nplot $x\nfor end\nfor y in \\\na b\nruby\nfor end\nruby end\nplot $y\n"
    let opening : Line := ⟨5, "for y in a b"⟩
    let ran := s.record (FileReader.interpret ⟨false⟩ "figure" text)
    (Outermost.behind (Line.ofText text.toList)).open? = some (.loop, opening) ∧
      ran.2.calls.map (fun call => (call.arguments, call.location.line)) =
        [(["1"], 2), (["2"], 2)] ∧
      ran.1 = .error ((Cause.unterminatedBlock .loop 5).placed ⟨"for", "figure", 5, 0⟩) := by
  intro s text opening ran
  have left : (Outermost.behind (Line.ofText text.toList)).open? = some (.loop, opening) := by
    decide +kernel
  obtain ⟨-, -, -, -, unread, -⟩ := unterminated_block_runs_nothing s "figure" text left
  refine ⟨left, by decide +kernel, unread (by decide +kernel) fun name list opens => ?_⟩
  have isLoop : opening.statement = .loopOpen "y" "a b" := by decide +kernel
  rw [isLoop] at opens
  obtain ⟨rfl, rfl⟩ := Statement.loopOpen.inj opens
  exact ⟨["a", "b"], by decide +kernel⟩

end Recorder

end PlotScript
