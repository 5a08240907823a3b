import PlotScript.Command.Standard
import PlotScript.Proofs.CommandFile.Passes
import PlotScript.Proofs.Variables.Faults

/-!
# What loops enclose

Where a loop ends is decided once, when its lines are collected. The account of open blocks that
is kept then is back at its beginning exactly behind lines in which all blocks are closed, so the
body that is replayed has nothing left open in it and closes no loop around it.
-/

namespace PlotScript

open CommandFile

/-- Whether an error is about a block that is left open or a loop that is not open. -/
def Cause.isOfBlocks : Cause → Bool
  | unterminatedBlock _ _ | strayBlockEnd .loop => true
  | _ => false

/-! ## Enclosed lines are those that loops pass over -/

open Block Block.Nesting

variable {lines body behind : List Line}

/-- A loop does not pass over a block that is left open, nor over its own end. -/
theorem Line.Unmatched.not_passed {line : Line} {label : String} {cause : Cause}
    (unmatched : line.Unmatched behind label cause) :
    through? {} (line :: behind) ≠ some {} := by
  intro passed
  cases unmatched with
  | openScript opens missing =>
      have enter : after? {} line.statement = some ⟨0, true⟩ := by
        rw [opens]
        rfl
      rw [through?_cons enter, through?_code (not_closes_of_takeScript_eq_none missing) 0] at passed
      cases passed
  | openLoop opens missing =>
      have enter : after? {} line.statement = some ⟨1, false⟩ := by
        rw [opens]
        rfl
      obtain ⟨m, through⟩ := takeLoop_eq_none_iff.1 missing
      have deep : through? ⟨1, false⟩ behind = some (m.deeper 1) := through?_deeper 1 through
      rw [through?_cons enter, deep] at passed
      cases congrArg (Option.map Nesting.depth) passed
  | strayLoop closes =>
      have ends : after? {} line.statement = none := by
        rw [closes]
        rfl
      rw [through?, List.foldlM_cons, ends] at passed
      cases passed

theorem enclosed_of_passed (passed : through? {} lines = some {}) : Enclosed lines := by
  -- a block is followed by fewer lines, and a loop encloses fewer
  induction length : lines.length using Nat.strongRecOn generalizing lines with
  | ind n ih =>
      subst length
      cases lines with
      | nil => exact .nil
      | cons line rest =>
          have single (isSingle : line.statement.isSingle = true) : Enclosed (line :: rest) := by
            rw [through?_cons (after?_of_isSingle 0 isSingle)] at passed
            exact .single isSingle (ih rest.length (Nat.lt_succ_self _) passed rfl)
          cases kind : line.statement with
          | blank | scriptClose | assignment | command => exact single (by rw [kind]; rfl)
          | loopClose => exact absurd passed (Line.Unmatched.strayLoop kind).not_passed
          | scriptOpen =>
              cases cut : takeScript rest with
              | none => exact absurd passed (Line.Unmatched.openScript kind cut).not_passed
              | some parts =>
                  obtain ⟨closing, rfl, closes, inside⟩ := takeScript_eq_some_iff.1 cut
                  rw [through?_script kind inside closes 0] at passed
                  refine .script kind inside closes (ih _ ?_ passed rfl)
                  simp only [List.length_cons, List.length_append]
                  omega
          | loopOpen name list =>
              cases cut : takeLoop {} rest with
              | none => exact absurd passed (Line.Unmatched.openLoop kind cut).not_passed
              | some parts =>
                  obtain ⟨inner, closing, closes, rfl⟩ := passed_of_takeLoop cut
                  rw [through?_loop kind (passed_of_passed inner) closes 0] at passed
                  refine .loop kind (ih _ ?_ inner rfl) closes (ih _ ?_ passed rfl)
                  · simp only [List.length_cons, List.length_append]
                    omega
                  · simp only [List.length_cons, List.length_append]
                    omega

theorem enclosed_of_takeLoop (closed : takeLoop {} lines = some (body, behind)) : Enclosed body :=
  enclosed_of_passed (passed_of_takeLoop closed).1

/-! ## Passes over enclosed lines -/

theorem Cause.isOfBlocks_of_isOfWords {cause : Cause} (ofWords : cause.isOfWords = true) :
    cause.isOfBlocks = false := by
  cases cause with
  | unterminatedBlock block line => cases ofWords
  | strayBlockEnd block => cases ofWords
  | _ => rfl

/-- Errors about blocks come from lines that open or close them. -/
theorem Line.Fault.unmatched_of_isOfBlocks {u : Recorder} {line : Line} {label : String}
    {cause : Cause}
    (fault : line.Fault u behind label cause) (ofBlocks : cause.isOfBlocks = true) :
    line.Unmatched behind label cause := by
  have notWords (ofWords : cause.isOfWords = true) : False := by
    rw [Cause.isOfBlocks_of_isOfWords ofWords] at ofBlocks
    cases ofBlocks
  cases fault with
  | words isCommand split => exact (notWords (isOfWords_of_splitLine split)).elim
  | unknown isCommand split missing => cases ofBlocks
  | option isCommand split found lacks =>
      obtain ⟨option, rfl⟩ := exists_of_splitWords_eq_error lacks
      cases ofBlocks
  | @value name value soft deferred cause assigns failed =>
      refine (notWords ?_).elim
      cases deferred with
      | true => exact isOfWords_of_deferredValue (error_of_map_eq_error failed)
      | false => exact isOfWords_of_eagerValue (error_of_map_eq_error failed)
  | list opens split => exact (notWords (isOfWords_of_splitLine split)).elim
  | strayScript closes => cases ofBlocks
  | unmatched fault read => exact fault

namespace Recorder

variable {stream : String} {part : List Line} {s t u : Recorder} {line : Line} {level : Nat}

theorem Comes.enclosed (comes : Comes stream part t line behind u) (enclosed : Enclosed part) :
    Enclosed (line :: behind) := by
  obtain ⟨front, rfl, ran⟩ := comes
  have passed := passed_of_enclosed enclosed 0
  rw [through?_append (CommandFile.passed_of_run_eq_ok ran 0)] at passed
  exact enclosed_of_passed passed

/-- A run that comes to the end of a script block, none of which is open, ends there. -/
theorem Comes.record_of_scriptClose (comes : Comes stream part t line behind u)
    (closes : line.statement = .scriptClose) :
    t.record (runLines stream part) =
      (.error ((Cause.strayBlockEnd .script).placed
        (Location.inFile BlockKind.script.closer stream line.number)), u) := by
  obtain ⟨front, rfl, ran⟩ := comes
  rw [record_runLines_append _ ran, runLines_scriptClose closes]
  rfl

theorem Pass.enclosed (pass : Pass stream lines s level part t)
    (within : 0 < level ∨ Enclosed lines) : Enclosed part := by
  cases pass with
  | outermost => exact within.resolve_left (Nat.lt_irrefl 0)
  | replay around comes opens words closed went => exact enclosed_of_takeLoop closed

/-- A run of enclosed lines finds nothing wrong with their blocks. -/
theorem not_isOfBlocks_of_enclosed (enclosed : Enclosed lines) {d : Diagnostic}
    (failed : (s.record (runLines stream lines)).1 = .error d) : d.cause.isOfBlocks = false := by
  obtain ⟨line, behind, u, ⟨level, part, t, pass, comes⟩, label, cause, fault, rfl⟩ :=
    (traced_runLines stream lines s).errors d failed
  refine Bool.eq_false_iff.2 fun ofBlocks => ?_
  have unmatched := fault.unmatched_of_isOfBlocks ofBlocks
  exact unmatched.not_passed (passed_of_enclosed (comes.enclosed (pass.enclosed (.inr enclosed))) 0)

/-- A body is shorter than the lines that it is cut from. -/
theorem exists_around_of_pass (pass : Pass stream lines s (level + 1) body t) :
    ∃ part u, Pass stream lines s level part u ∧ body <:+: part ∧ body.length < part.length := by
  cases pass with
  | @replay _ _ _ _ rest opening _ _ _ _ _ _ _ _ around comes opens words closed went =>
      obtain ⟨front, rfl, -⟩ := comes
      obtain ⟨-, closing, -, rfl⟩ := passed_of_takeLoop closed
      refine ⟨_, _, around, ⟨front ++ [opening], closing :: rest, by simp⟩, ?_⟩
      simp only [List.length_append, List.length_cons]
      omega

theorem Pass.length_add_le (pass : Pass stream lines s level part t) :
    part.length + level ≤ lines.length := by
  induction level generalizing part t with
  | zero =>
      cases pass
      exact Nat.le_refl _
  | succ level ih =>
      obtain ⟨around, u, outer, -, shorter⟩ := exists_around_of_pass pass
      have := ih outer
      omega

/-- The ends of loops are found once, when the lines of a loop are collected. Every body that is
replayed, inside however many loops, has all its blocks closed in it and closes no loop around
it, so it is run without an error about a block that is left open or a loop that is not open.
Such errors come from the outermost pass alone. Only a line that closes a script block may stand
where none is open: the collecting passes over it, and a replay that comes to it ends there. A
body is shorter than the lines that it is cut from, whence loops are nested no deeper than there
are lines. A line that closes a loop ends the collecting where no inner loop is open, and lowers
the account of inner loops by one where one is. -/
theorem block_structure_is_decided_once (stream : String) (lines : List Line) (s : Recorder) :
    (∀ level body t, Pass stream lines s (level + 1) body t →
      Enclosed body ∧
        (∃ part u, Pass stream lines s level part u ∧ body <:+: part ∧
          body.length < part.length) ∧
        body.length + (level + 1) ≤ lines.length ∧
        (∀ (v : Recorder) d, (v.record (runLines stream body)).1 = .error d →
          d.cause.isOfBlocks = false) ∧
        ∀ (v : Recorder) line behind u, Comes stream body v line behind u →
          line.statement = .scriptClose →
            v.record (runLines stream body) =
              (.error ((Cause.strayBlockEnd .script).placed
                (Location.inFile BlockKind.script.closer stream line.number)), u)) ∧
    (∀ d, (s.record (runLines stream lines)).1 = .error d → d.cause.isOfBlocks = true →
      ∃ line behind u label cause, Comes stream lines s line behind u ∧
        line.Unmatched behind label cause ∧
        d = cause.placed (Location.inFile label stream line.number)) ∧
    (∀ (line : Line) (n : Nesting), n.inScript = false → line.statement = .scriptClose →
      n.after? line.statement = some n) ∧
    ∀ front line behind n, through? {} front = some n → n.inScript = false →
      line.statement = .loopClose →
        (n.depth = 0 ∧ takeLoop {} (front ++ line :: behind) = some (front, behind)) ∨
          ∃ depth, n.depth = depth + 1 ∧ n.after? line.statement = some ⟨depth, false⟩ := by
  refine ⟨fun level body t pass => ?_, fun d failed ofBlocks => ?_, ?_, ?_⟩
  · have enclosed := pass.enclosed (.inl (Nat.succ_pos level))
    exact ⟨enclosed, exists_around_of_pass pass, pass.length_add_le,
      fun v d => not_isOfBlocks_of_enclosed enclosed,
      fun v line behind u comes => comes.record_of_scriptClose⟩
  · obtain ⟨line, behind, u, ⟨level, part, t, pass, comes⟩, label, cause, fault, rfl⟩ :=
      (traced_runLines stream lines s).errors d failed
    have unmatched := fault.unmatched_of_isOfBlocks ofBlocks
    cases pass with
    | outermost => exact ⟨line, behind, u, label, cause, comes, unmatched, rfl⟩
    | replay around outer opens words closed went =>
        have enclosed := comes.enclosed (enclosed_of_takeLoop closed)
        exact absurd (passed_of_enclosed enclosed 0) unmatched.not_passed
  · rintro line ⟨depth, inScript⟩ rfl closes
    rw [closes]
    rfl
  · rintro front line behind ⟨depth, inScript⟩ through rfl closes
    cases depth with
    | zero =>
        refine .inl ⟨rfl, takeLoop_eq_some_iff.2 ⟨line, _, rfl, through, ?_⟩⟩
        rw [closes]
        rfl
    | succ depth =>
        refine .inr ⟨depth, rfl, ?_⟩
        rw [closes]
        rfl

/-- Balanced lines do not begin with the end of a script block, nor does such an end stand behind
a plain line. -/
theorem not_balanced_of_scriptClose {line closing : Line} (isPlain : line.statement.isPlain = true)
    (closes : closing.statement = .scriptClose) : ¬ Balanced (line :: closing :: behind) := by
  intro balanced
  obtain ⟨rest, same⟩ : ∃ rest, closing :: behind = rest := ⟨_, rfl⟩
  rw [same] at balanced
  have tail : Balanced rest := by
    cases balanced with
    | plain _ tail => exact tail
    | script opens | loop opens =>
        rw [opens] at isPlain
        cases isPlain
  rw [← same] at tail
  cases tail with
  | plain isPlain =>
      rw [closes] at isPlain
      cases isPlain
  | script opens | loop opens =>
      rw [closes] at opens
      cases opens

/-- A body may close a script block that is not open in it. The collecting passes over the line,
and the replaying comes to it after the call in front of it. -/
theorem replayed_body_with_stray_script_end :
    let body : List Line := [⟨2, "plot $v"⟩, ⟨3, "ruby end"⟩]
    let lines : List Line := ⟨1, "for v in a b"⟩ :: (body ++ [⟨4, "for end"⟩])
    let s : Recorder := { table := CommandTable.standard }
    let ran := s.record (FileReader.interpret ⟨false⟩ "figure"
      "for v in a b\nplot $v\nruby end\nfor end\n")
    Line.ofText "for v in a b\nplot $v\nruby end\nfor end\n".toList = lines ∧
      Pass "figure" lines s 1 body (s.defined "v" (.eager "a") true) ∧ ¬ Balanced body ∧
      ran.1 = .error ((Cause.strayBlockEnd .script).placed ⟨"ruby end", "figure", 3, 0⟩) ∧
      ran.2.calls.map (·.arguments) = [["a"]] := by
  intro body lines s ran
  have first : Comes "figure" lines s ⟨1, "for v in a b"⟩ (body ++ [⟨4, "for end"⟩]) s :=
    ⟨[], rfl, by rw [runLines]; rfl⟩
  refine ⟨by decide +kernel, ?_, fun balanced => ?_, by decide +kernel, by decide +kernel⟩
  · exact @Pass.replay _ _ _ _ _ _ _ [] _ _ _ _ "v" "a b" "a" [] ["b"] .outermost first
      (by decide +kernel) (by decide +kernel) (by decide +kernel) rfl
  · exact not_balanced_of_scriptClose (by decide +kernel) (by decide +kernel) balanced

/-- The body of an inner loop, which holds a script block with a line like the end of a loop. -/
theorem block_structure_of_inner_loop :
    let body : List Line := [⟨3, "ruby"⟩, ⟨4, "for end"⟩, ⟨5, "ruby end"⟩]
    let around : List Line := ⟨2, "for y in a"⟩ :: (body ++ [⟨6, "for end"⟩])
    let lines : List Line := ⟨1, "for x in 1 2"⟩ :: (around ++ [⟨7, "for end"⟩])
    let s : Recorder := { table := .empty }
    ∃ t, Pass "figure" lines s 2 body t ∧ Enclosed body ∧ body.length + 2 ≤ lines.length := by
  intro body around lines s
  have first {opening : Line} {behind : List Line} {t : Recorder} :
      Comes "figure" (opening :: behind) t opening behind t :=
    ⟨[], rfl, by rw [runLines]; rfl⟩
  have outer : Pass "figure" lines s 1 around (s.defined "x" (.eager "1") true) :=
    @Pass.replay _ _ _ _ _ _ _ [] _ _ _ _ "x" "1 2" "1" [] ["2"] .outermost first
      (by decide +kernel) (by decide +kernel) (by decide +kernel) rfl
  have inner : Pass "figure" lines s 2 body
      ((s.defined "x" (.eager "1") true).defined "y" (.eager "a") true) :=
    @Pass.replay _ _ _ _ _ _ _ [] _ _ _ _ "y" "a" "a" [] [] outer first
      (by decide +kernel) (by decide +kernel) (by decide +kernel) rfl
  have decided := (block_structure_is_decided_once "figure" lines s).1 1 body _ inner
  exact ⟨_, inner, decided.1, decided.2.2.1⟩

end Recorder

end PlotScript
