import PlotScript.Execution.Recorder
import PlotScript.Proofs.CommandFile.Layout

/-!
# Script blocks

Whatever a script block holds, the script host gets its physical lines as they stand in the
file. They open and close nothing, they are not joined, and nothing in them is run: all that is
made of a block is one text, which is handed over whenever the run comes to the block.
-/

namespace PlotScript

open Line CommandFile

/-! ## What a program hands over -/

/-- Every request of a program is an allowed one, whatever the answers are. -/
def Program.AsksOnly {α : Type} (allowed : Request → Prop) : Program α → Prop
  | done _ => True
  | ask r next => allowed r ∧ ∀ answer, (next answer).AsksOnly allowed

/-- The text that a request hands to the script host. -/
def Request.script? : Request → Option String
  | runScript code => some code
  | _ => none

namespace Run

/-- Every text that a program hands to the script host may be handed over. -/
def HandsOver {α : Type} (may : String → Prop) (x : Run α) : Prop :=
  x.run.AsksOnly fun r => ∀ code, r.script? = some code → may code

variable {α β : Type} {may : String → Prop}

theorem HandsOver.bind {x : Run α} {f : α → Run β} (first : HandsOver may x)
    (others : ∀ a, HandsOver may (f a)) : HandsOver may (x >>= f) := by
  have split : (x >>= f).run = x.run.bind (ExceptT.bindCont f) := rfl
  rw [HandsOver, split]
  rw [HandsOver] at first
  generalize x.run = program at first ⊢
  induction program with
  | done result =>
      cases result with
      | ok a => exact others a
      | error d => trivial
  | ask r next ih => exact ⟨first.1, fun answer => ih answer (first.2 answer)⟩

end Run

namespace CommandFile

open Run

variable {may : String → Prop} {stream : String}

end CommandFile

namespace Layout

end Layout

namespace Line.Reading

theorem after_append (r : Reading) (front behind : List (List Char)) :
    r.after (front ++ behind) = (r.after front).after behind :=
  List.foldl_append

theorem after_continued {r : Reading} (outside : r.inScript = false) {held : List (List Char)}
    (goOn : ∀ raw ∈ held, (continued? raw).isSome = true) :
    r.after held = { r with pending := r.pending ++ held.flatMap uncontinued } := by
  induction held generalizing r with
  | nil =>
      rw [List.flatMap_nil, List.append_nil]
      rfl
  | cons raw held ih =>
      obtain ⟨first, others⟩ := List.forall_mem_cons.1 goOn
      obtain ⟨front, continued⟩ := Option.isSome_iff_exists.1 first
      have step : r.after (raw :: held) = (r.next raw).after held := rfl
      have onward := @ih { r with pending := r.pending ++ front } outside others
      rw [step, next_of_continued outside continued, onward, List.flatMap_cons,
        uncontinued_of_continued continued, List.append_assoc]

/-- Behind the physical lines of a logical line nothing is left to be continued. -/
theorem after_logical {held : List (List Char)} {last : List Char}
    (goOn : ∀ raw ∈ held, (continued? raw).isSome = true) (ended : continued? last = none) :
    Reading.after {} (held ++ [last]) =
      { inScript := Text.trim ((held ++ [last]).flatMap uncontinued) = "ruby".toList } := by
  have step : ∀ r : Reading, r.after [last] = r.next last := fun _ => rfl
  rw [after_append, after_continued rfl goOn, step, next_of_ended rfl ended, List.nil_append,
    List.flatMap_append, List.flatMap_singleton, uncontinued_of_ended ended]

end Line.Reading

namespace Remainder

variable {physical : List (List Char)} {r s : Remainder} {l : Line} {layout : Layout}

/-- The lines of a remainder stand in a file behind others, of which the joining is done. -/
def StandsIn (physical : List (List Char)) (r : Remainder) : Prop :=
  ∃ before, physical = before ++ r.lines ∧ (r.lines ≠ [] → Reading.after {} before = {})

/-- What stands in front of the lines behind a logical line. -/
theorem StandsIn.exists_of_begins (stands : r.StandsIn physical) (first : r.Begins l s) :
    ∃ before held last, physical = before ++ (held ++ last :: s.lines) ∧
      Reading.after {} before = {} ∧ (∀ raw ∈ held, (continued? raw).isSome = true) ∧
      (s.lines ≠ [] → continued? last = none) ∧
      (l.statement = .scriptOpen ↔
        Text.trim ((held ++ [last]).flatMap uncontinued) = "ruby".toList) := by
  obtain ⟨before, parts, done⟩ := stands
  obtain ⟨goOn, ends⟩ := first
  rename_i number held last behind
  refine ⟨before, held, last, parts, done (by simp), goOn, ?_, ?_⟩
  · intro more
    rcases ends with ended | ⟨nothing, -⟩
    · exact ended
    · exact absurd nothing more
  · rw [statement, ofChars, String.toList_ofList, Statement.classify_eq_scriptOpen_iff,
      Text.trim_trimEnd]

theorem StandsIn.behind (stands : r.StandsIn physical) (first : r.Begins l s)
    (outside : l.statement ≠ .scriptOpen) : s.StandsIn physical := by
  obtain ⟨before, held, last, parts, done, goOn, ends, opens⟩ := stands.exists_of_begins first
  refine ⟨before ++ (held ++ [last]), by simp [parts], fun more => ?_⟩
  rw [Reading.after_append, done, Reading.after_logical goOn (ends more),
    decide_eq_false fun same => outside (opens.2 same)]

end Remainder

/-! ## Whole files -/

/-- The opening line is continued, and nothing in the block counts for the loop around it. -/
example :
    let host : Recorder := { table := .empty }
    let file := "for x in 1 2\nru\\\nby\n  for end \\\n# $x\nruby\n ruby end\nfor end\n"
    let ran := host.record (FileReader.interpret ⟨false⟩ "figure" file)
    ran.1 = .ok () ∧
      ran.2.scripts = ["  for end \\\n# $x\nruby\n", "  for end \\\n# $x\nruby\n"] := by
  decide +kernel

end PlotScript
