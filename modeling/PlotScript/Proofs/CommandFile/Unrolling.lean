import PlotScript.CommandFile.Interpreter
import PlotScript.Proofs.CommandFile.Blocks
import PlotScript.Proofs.Execution.Running

/-!
# Loops unroll

A loop over given words is the straight program that binds the variable to the
first word, runs the body, binds it to the second word, and so on. The words are
those of the list at the opening line, so nothing that the body binds has a part
in choosing them.

The lines of a body are collected by counting the loops that are open and by
passing over script blocks. `takeLoop_of_balanced` says that this finds the end of
the loop whatever blocks the body is built from.
-/

namespace PlotScript

/-- Lines that neither open nor close a block. -/
def Statement.isPlain : Statement → Bool
  | blank | assignment _ _ _ _ | command => true
  | scriptOpen | scriptClose | loopOpen _ _ | loopClose => false

theorem Statement.isSingle_of_isPlain {s : Statement} (isPlain : s.isPlain = true) :
    s.isSingle = true := by
  cases s with
  | scriptOpen | scriptClose | loopOpen | loopClose => cases isPlain
  | _ => rfl

/-- Lines built from plain ones, whole script blocks and whole loops. What looks
like a loop inside a script block counts for nothing. -/
inductive Balanced : List Line → Prop
  | nil : Balanced []
  | plain {line : Line} {rest : List Line} (isPlain : line.statement.isPlain = true)
      (tail : Balanced rest) : Balanced (line :: rest)
  | script {opening closing : Line} {code rest : List Line}
      (opens : opening.statement = .scriptOpen)
      (inside : ∀ line ∈ code, line.statement ≠ .scriptClose)
      (closes : closing.statement = .scriptClose)
      (tail : Balanced rest) : Balanced (opening :: (code ++ closing :: rest))
  | loop {opening closing : Line} {name list : String} {body rest : List Line}
      (opens : opening.statement = .loopOpen name list)
      (inner : Balanced body)
      (closes : closing.statement = .loopClose)
      (tail : Balanced rest) : Balanced (opening :: (body ++ closing :: rest))

theorem Balanced.enclosed {lines : List Line} (balanced : Balanced lines) : Enclosed lines := by
  induction balanced with
  | nil => exact .nil
  | plain isPlain _ ih => exact .single (Statement.isSingle_of_isPlain isPlain) ih
  | script opens inside closes _ ih => exact .script opens inside closes ih
  | loop opens _ closes _ innerIH tailIH => exact .loop opens innerIH closes tailIH

/-! ## Where a loop ends -/

namespace Block

/-- A loop around them passes over balanced lines. -/
theorem passed_of_balanced {body : List Line} (balanced : Balanced body) (depth : Nat) :
    Nesting.through? ⟨depth, false⟩ body = some ⟨depth, false⟩ :=
  Nesting.passed_of_enclosed balanced.enclosed depth

/-- The body of a loop ends at the closing line behind balanced lines. -/
theorem takeLoop_of_balanced {body : List Line} {closing : Line} (balanced : Balanced body)
    (closes : closing.statement = .loopClose) (rest : List Line) :
    takeLoop {} (body ++ closing :: rest) = some (body, rest) :=
  takeLoop_of_passed (passed_of_balanced balanced 0) closes rest

end Block

/-! ## What a loop runs -/

namespace CommandFile

/-- The straight program of a loop over given words, with what comes behind it. -/
def unrolled (name : String) (words : List String) (body behind : Run Unit) : Run Unit :=
  words.foldr
    (fun word next => do
      let _ ← Run.define name (.eager word) true
      body
      next)
    behind

theorem unrolled_cons (name word : String) (words : List String) (body behind : Run Unit) :
    unrolled name (word :: words) body behind = (do
      let _ ← Run.define name (.eager word) true
      body
      unrolled name words body behind) := rfl

theorem replay_bind (name : String) (words : List String) (body behind : Run Unit) :
    (do replay name words body; behind) = unrolled name words body behind := by
  induction words with
  | nil =>
      rw [replay, pure_bind]
      rfl
  | cons word words ih =>
      rw [unrolled_cons, ← ih, replay]
      simp only [bind_assoc]

/-- A loop over some words goes on with the words behind them. -/
theorem replay_append (name : String) (front behind : List String) (body : Run Unit) :
    replay name (front ++ behind) body = (do
      replay name front body
      replay name behind body) := by
  induction front with
  | nil =>
      rw [List.nil_append, replay, pure_bind]
  | cons word front ih =>
      rw [List.cons_append, replay, ih, replay]
      simp only [bind_assoc]

/-- A loop fails in the body for one of its words, and the words in front of it go through. -/
theorem exists_of_replay_eq_error {σ : Type} {context : Context σ} {s t : σ} {name : String}
    {words : List String} {body : Run Unit} {d : Diagnostic}
    (failed : (replay name words body).run.run context s = (.error d, t)) :
    ∃ done word todo u, words = done ++ word :: todo ∧
      (replay name done body).run.run context s = (.ok (), u) ∧
      body.run.run context (context (.define name (.eager word) true) u).2 = (.error d, t) := by
  induction words generalizing s with
  | nil => cases congrArg Prod.fst failed
  | cons word rest ih =>
      rcases Run.of_run_bind_eq_error failed with defining | ⟨_, v, bound, failed⟩
      · cases congrArg Prod.fst defining
      · obtain rfl : (context (.define name (.eager word) true) s).2 = v :=
          congrArg Prod.snd bound
        rcases Run.of_run_bind_eq_error failed with failed | ⟨_, w, ran, failed⟩
        · exact ⟨[], word, rest, s, rfl, rfl, failed⟩
        · obtain ⟨done, other, todo, u, rfl, went, failed⟩ := ih failed
          refine ⟨word :: done, other, todo, u, rfl, ?_, failed⟩
          rw [replay, Run.run_bind_of_ok bound, Run.run_bind_of_ok ran, went]

theorem runLines_loop (stream : String) {line : Line} {name list : String}
    {rest body behind : List Line} (opens : line.statement = .loopOpen name list)
    (cut : Block.takeLoop {} rest = some (body, behind)) :
    runLines stream (line :: rest) = (do
      let words ← loopWords stream line list
      replay name words (runLines stream body)
      runLines stream behind) := by
  rw [runLines, opens]
  dsimp only
  congr 1
  funext words
  split
  · rename_i missing
    simp [cut] at missing
  · rename_i found
    obtain ⟨rfl, rfl⟩ : body = _ ∧ behind = _ := by simpa [cut] using found
    rfl

/-- Asking for the scope and reading the list in it. -/
theorem run_loopWords_bind {σ : Type} (stream : String) (line : Line) (list : String)
    (next : List String → Run Unit) (context : Context σ) (s : σ) :
    (do let words ← loopWords stream line list; next words : Run Unit).run.run context s =
      match splitLine (context .scope s).1 list.toList with
      | .error cause =>
          (.error (cause.placed (Location.inFile "for" stream line.number)),
            (context .scope s).2)
      | .ok words => (next words).run.run context (context .scope s).2 := by
  rw [loopWords, Run.run_bind, Run.run_bind, Run.run_scope]
  dsimp only
  cases splitLine (context .scope s).1 list.toList with
  | error cause => rfl
  | ok words => rfl

/-- A loop with balanced lines in it does what its unrolled program does: the same
requests in the same order, in every context. The list is read once, in the scope at
the opening line, and a list that cannot be read ends the run there. -/
theorem runLines_loop_eq_unrolled (stream : String) {opening closing : Line}
    {name list : String} {body : List Line} (rest : List Line)
    (opens : opening.statement = .loopOpen name list) (balanced : Balanced body)
    (closes : closing.statement = .loopClose) :
    runLines stream (opening :: (body ++ closing :: rest)) = (do
      let words ← loopWords stream opening list
      unrolled name words (runLines stream body) (runLines stream rest)) ∧
    ∀ {σ : Type} (context : Context σ) (s : σ),
      (runLines stream (opening :: (body ++ closing :: rest))).run.run context s =
        match splitLine (context .scope s).1 list.toList with
        | .error cause =>
            (.error (cause.placed (Location.inFile "for" stream opening.number)),
              (context .scope s).2)
        | .ok words =>
            (unrolled name words (runLines stream body) (runLines stream rest)).run.run
              context (context .scope s).2 := by
  have program : runLines stream (opening :: (body ++ closing :: rest)) = (do
      let words ← loopWords stream opening list
      unrolled name words (runLines stream body) (runLines stream rest)) := by
    rw [runLines_loop stream opens (Block.takeLoop_of_balanced balanced closes rest)]
    simp only [replay_bind]
  refine ⟨program, fun context s => ?_⟩
  rw [program, run_loopWords_bind]

/-- An inner loop, a script block with a line that looks like the end of a loop, and
an assignment to the variable of the outer loop. -/
def nestedBody : List Line :=
  [⟨2, "for y in c d"⟩, ⟨3, "plot $x$y"⟩, ⟨4, "for end"⟩, ⟨5, "ruby"⟩, ⟨6, "for end"⟩,
    ⟨7, "ruby end"⟩, ⟨8, "x = changed"⟩]

theorem balanced_nestedBody : Balanced nestedBody := by
  have assignment : Balanced [⟨8, "x = changed"⟩] := .plain (by decide) .nil
  have block : Balanced (⟨5, "ruby"⟩ :: ([⟨6, "for end"⟩] ++ ⟨7, "ruby end"⟩ ::
      [⟨8, "x = changed"⟩])) :=
    .script (by decide) (by decide) (by decide) assignment
  have inner : Balanced [⟨3, "plot $x$y"⟩] := .plain (by decide) .nil
  exact @Balanced.loop ⟨2, "for y in c d"⟩ ⟨4, "for end"⟩ "y" "c d" _ _ (by decide) inner
    (by decide) block

theorem runLines_nested_loop :
    Balanced nestedBody ∧
      runLines "figure" (⟨1, "for x in a b"⟩ ::
          (nestedBody ++ [⟨9, "for end"⟩, ⟨10, "plot done"⟩])) = (do
        let words ← loopWords "figure" ⟨1, "for x in a b"⟩ "a b"
        unrolled "x" words (runLines "figure" nestedBody)
          (runLines "figure" [⟨10, "plot done"⟩])) :=
  ⟨balanced_nestedBody,
    (runLines_loop_eq_unrolled "figure" [⟨10, "plot done"⟩] (by decide) balanced_nestedBody
      (by decide)).1⟩

end CommandFile

end PlotScript
