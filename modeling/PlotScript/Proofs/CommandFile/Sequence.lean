import PlotScript.Proofs.CommandFile.Unrolling

/-!
# Lines that run one after another

What each kind of line does in front of others, and that lines which run to their end
without an error run alike whatever stands behind them: every block that they open they
close.
-/

namespace PlotScript

namespace CommandFile

variable {stream : String} {line : Line} {rest body behind : List Line}

/-! ## One line in front of others -/

theorem runLines_blank (isBlank : line.statement = .blank) :
    runLines stream (line :: rest) = runLines stream rest := by
  rw [runLines, isBlank]

theorem runLines_script (opens : line.statement = .scriptOpen)
    (cut : Block.takeScript rest = some (body, behind)) :
    runLines stream (line :: rest) = (do
      runScript stream line.number (Block.code body)
      runLines stream behind) := by
  rw [runLines, opens]
  dsimp only
  split
  · rename_i missing
    rw [cut] at missing
    cases missing
  · rename_i found
    rw [cut] at found
    obtain ⟨rfl, rfl⟩ := Prod.mk.inj (Option.some.inj found)
    rfl

theorem runLines_openScript (opens : line.statement = .scriptOpen)
    (missing : Block.takeScript rest = none) :
    runLines stream (line :: rest) = unterminated stream .script line.number := by
  rw [runLines, opens]
  dsimp only
  split
  · rfl
  · rename_i found
    rw [missing] at found
    cases found

theorem runLines_scriptClose (closes : line.statement = .scriptClose) :
    runLines stream (line :: rest) = stray stream .script line := by
  rw [runLines, closes]

theorem runLines_openLoop {name list : String} (opens : line.statement = .loopOpen name list)
    (missing : Block.takeLoop {} rest = none) :
    runLines stream (line :: rest) = (do
      let _ ← loopWords stream line list
      unterminated stream .loop line.number) := by
  rw [runLines, opens]
  dsimp only
  congr 1
  funext words
  split
  · rfl
  · rename_i found
    rw [missing] at found
    cases found

theorem runLines_loopClose (closes : line.statement = .loopClose) :
    runLines stream (line :: rest) = stray stream .loop line := by
  rw [runLines, closes]

theorem runLines_assignment {name value : String} {soft deferred : Bool}
    (assigns : line.statement = .assignment name soft deferred value) :
    runLines stream (line :: rest) = (do
      assign stream line name soft deferred value
      runLines stream rest) := by
  rw [runLines, assigns]

theorem runLines_command (calls : line.statement = .command) :
    runLines stream (line :: rest) = (do
      runCommand stream line
      runLines stream rest) := by
  rw [runLines, calls]

/-! ## Lines that run to their end -/

variable {σ : Type} {context : Context σ} {s t : σ} {lines : List Line}

/-- Behind lines that run to their end the run goes on with whatever stands there. -/
theorem run_runLines_append (more : List Line)
    (ran : (runLines stream lines).run.run context s = (.ok (), t)) :
    (runLines stream (lines ++ more)).run.run context s =
      (runLines stream more).run.run context t := by
  fun_induction runLines stream lines generalizing s t with
  | case1 =>
      obtain rfl : s = t := congrArg Prod.snd ran
      rfl
  | case2 line rest isBlank ih =>
      rw [List.cons_append, runLines_blank isBlank]
      exact ih ran
  | case3 line rest opens missing => cases congrArg Prod.fst ran
  | case4 line rest opens code behind closed shorter ih =>
      obtain ⟨_, u, first, others⟩ := Run.exists_of_run_bind_eq_ok ran
      rw [List.cons_append, runLines_script opens (Block.takeScript_append closed more),
        Run.run_bind_of_ok first]
      exact ih others
  | case5 line rest closes => cases congrArg Prod.fst ran
  | case6 line rest name list opens inBody behindBody =>
      obtain ⟨words, u, expanded, others⟩ := Run.exists_of_run_bind_eq_ok ran
      split at others
      · cases congrArg Prod.fst others
      · rename_i body behind closed
        obtain ⟨_, v, looped, others⟩ := Run.exists_of_run_bind_eq_ok others
        rw [List.cons_append, runLines_loop stream opens (Block.takeLoop_append closed more),
          Run.run_bind_of_ok expanded, Run.run_bind_of_ok looped]
        exact behindBody body behind closed others
  | case7 line rest closes => cases congrArg Prod.fst ran
  | case8 line rest name soft deferred value assigns ih =>
      obtain ⟨_, u, first, others⟩ := Run.exists_of_run_bind_eq_ok ran
      rw [List.cons_append, runLines_assignment assigns, Run.run_bind_of_ok first]
      exact ih others
  | case9 line rest calls ih =>
      obtain ⟨_, u, first, others⟩ := Run.exists_of_run_bind_eq_ok ran
      rw [List.cons_append, runLines_command calls, Run.run_bind_of_ok first]
      exact ih others

/-! ## What they leave open -/

open Block Block.Nesting

/-- Lines that run to their end leave the account of open blocks as it is. -/
theorem passed_of_run_eq_ok
    (ran : (runLines stream lines).run.run context s = (.ok (), t)) :
    ∀ depth, through? ⟨depth, false⟩ lines = some ⟨depth, false⟩ := by
  have single {line : Line} {rest : List Line} (isSingle : line.statement.isSingle = true)
      (others : ∀ depth, through? ⟨depth, false⟩ rest = some ⟨depth, false⟩) (depth : Nat) :
      through? ⟨depth, false⟩ (line :: rest) = some ⟨depth, false⟩ :=
    (through?_cons (after?_of_isSingle depth isSingle) rest).trans (others depth)
  fun_induction runLines stream lines generalizing s t with
  | case1 => exact fun _ => rfl
  | case2 line rest isBlank ih => exact single (by rw [isBlank]; rfl) (ih ran)
  | case3 line rest opens missing => cases congrArg Prod.fst ran
  | case4 line rest opens code behind closed shorter ih =>
      obtain ⟨_, u, -, others⟩ := Run.exists_of_run_bind_eq_ok ran
      obtain ⟨closing, rfl, closes, inside⟩ := takeScript_eq_some_iff.1 closed
      exact fun depth => (through?_script opens inside closes depth).trans (ih others depth)
  | case5 line rest closes => cases congrArg Prod.fst ran
  | case6 line rest name list opens inBody behindBody =>
      obtain ⟨words, u, -, others⟩ := Run.exists_of_run_bind_eq_ok ran
      split at others
      · cases congrArg Prod.fst others
      · rename_i body behind closed
        obtain ⟨_, v, -, after⟩ := Run.exists_of_run_bind_eq_ok others
        obtain ⟨inner, closing, closes, rfl⟩ := passed_of_takeLoop closed
        exact fun depth => (through?_loop opens (passed_of_passed inner) closes depth).trans
          (behindBody body behind closed after depth)
  | case7 line rest closes => cases congrArg Prod.fst ran
  | case8 line rest name soft deferred value assigns ih =>
      obtain ⟨_, u, -, others⟩ := Run.exists_of_run_bind_eq_ok ran
      exact single (by rw [assigns]; rfl) (ih others)
  | case9 line rest calls ih =>
      obtain ⟨_, u, -, others⟩ := Run.exists_of_run_bind_eq_ok ran
      exact single (by rw [calls]; rfl) (ih others)

end CommandFile

end PlotScript
