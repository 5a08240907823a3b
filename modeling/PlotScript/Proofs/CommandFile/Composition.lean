import PlotScript.Proofs.CommandFile.Joining
import PlotScript.Proofs.CommandFile.LineNumbers

/-!
# Files one behind the other

Two files of which the first one ends well are interpreted as one file that is both of them.
Both passes over a file have to be at their beginning again behind the first one. The joining
of lines has nothing left to be continued, since the last line is not. And since the
interpreter closes every script block that it opens, the joining is not inside one either:
both keep the same account of script blocks.
-/

namespace PlotScript

/-! ## Script blocks as the interpreter sees them -/

/-- Whether a script block is open behind a logical line. -/
def Line.inScriptBehind (inScript : Bool) (line : Line) : Bool :=
  if inScript then line.statement ≠ .scriptClose else line.statement = .scriptOpen

namespace Block

theorem Nesting.inScript_of_after? {n inner : Nesting} {line : Line}
    (h : n.after? line.statement = some inner) :
    inner.inScript = line.inScriptBehind n.inScript := by
  unfold Line.inScriptBehind
  generalize line.statement = statement at h ⊢
  obtain ⟨depth, inScript⟩ := n
  cases inScript with
  | true =>
      obtain rfl := Option.some.inj h
      rfl
  | false =>
      cases statement with
      | loopClose =>
          cases depth with
          | zero => cases h
          | succ depth =>
              obtain rfl := Option.some.inj h
              rfl
      | _ =>
          obtain rfl := Option.some.inj h
          rfl

/-- The two accounts agree. -/
theorem foldl_of_through? {n m : Nesting} {body : List Line} (h : n.through? body = some m) :
    body.foldl Line.inScriptBehind n.inScript = m.inScript := by
  induction body generalizing n with
  | nil =>
      obtain rfl := Option.some.inj h
      rfl
  | cons line body ih =>
      cases after : n.after? line.statement with
      | none =>
          rw [Nesting.through?, List.foldlM_cons, after] at h
          cases h
      | some inner =>
          rw [Nesting.through?_cons after] at h
          rw [List.foldl_cons, ← Nesting.inScript_of_after? after]
          exact ih h

end Block

/-- Lines that run to their end leave no script block open. -/
theorem CommandFile.foldl_of_run_eq_ok {σ : Type} {context : Context σ} {s t : σ}
    {stream : String} {lines : List Line}
    (ran : (runLines stream lines).run.run context s = (.ok (), t)) :
    lines.foldl Line.inScriptBehind false = false :=
  Block.foldl_of_through? (passed_of_run_eq_ok ran 0)

/-! ## Script blocks as the joining of lines sees them -/

namespace Line

theorem Reading.foldl_joined (r : Reading) (number : Nat) (lines : List (List Char)) :
    (r.joined number lines).foldl inScriptBehind r.inScript = (r.after lines).inScript := by
  induction lines generalizing r number with
  | nil => rfl
  | cons raw rest ih =>
      have step : (r.line? (number + 1) raw).toList.foldl inScriptBehind r.inScript =
          (r.next raw).inScript := by
        unfold line? next
        cases inside : r.inScript with
        | true =>
            simp [inScriptBehind, statement_ofChars_eq_scriptClose_iff]
        | false =>
            cases continued? raw with
            | some front => simp
            | none => rfl
      rw [joined, List.foldl_append, step]
      exact ih (r.next raw) (number + 1)

/-- Whether the last physical line of a text is to be continued, outside script blocks. -/
def endsContinued (text : List Char) : Bool :=
  match (Text.lines text).getLast? with
  | none => false
  | some last =>
      !(Reading.after {} (Text.lines text).dropLast).inScript && (continued? last).isSome

theorem pending_of_not_endsContinued {text : List Char} (ended : endsContinued text = false) :
    (Reading.after {} (Text.lines text)).pending = [] := by
  unfold endsContinued at ended
  cases split : (Text.lines text).getLast? with
  | none =>
      rw [List.getLast?_eq_none_iff.1 split]
      rfl
  | some last =>
      have behind : Reading.after {} (Text.lines text) =
          (Reading.after {} (Text.lines text).dropLast).next last := by
        conv_lhs => rw [← List.dropLast_append_getLast? last split]
        rw [Reading.after, List.foldl_append]
        rfl
      have settled : (Reading.after {} (Text.lines text).dropLast).IsSettled :=
        Reading.IsSettled.after (fun _ => rfl) _
      rw [split] at ended
      rw [behind]
      cases inside : (Reading.after {} (Text.lines text).dropLast).inScript with
      | true =>
          rw [Reading.next_of_inScript inside]
          exact settled inside
      | false =>
          cases continued : continued? last with
          | none => rw [Reading.next_of_ended inside continued]
          | some part => simp [inside, continued] at ended

/-- Below other lines the same lines are joined. -/
theorem join_shift (k : Nat) (inScript : Bool) (pending : List Char) (number : Nat)
    (lines : List (List Char)) :
    join inScript pending (number + k) lines =
      (join inScript pending number lines).map (shift k) := by
  induction lines generalizing inScript pending number with
  | nil =>
      unfold join
      split
      · rfl
      · rfl
  | cons raw rest ih =>
      have up : number + k + 1 = number + 1 + k := Nat.add_right_comm number k 1
      unfold join
      cases inScript with
      | true =>
          rw [if_pos rfl, if_pos rfl, up, ih]
          rfl
      | false =>
          rw [if_neg (by decide), if_neg (by decide), up]
          cases continued? raw with
          | some front => exact ih false (pending ++ front) (number + 1)
          | none =>
              dsimp only
              rw [ih]
              rfl

/-- The logical lines of a text behind which the joining of lines begins anew. -/
theorem ofText_append {front : List Char} (ends : Text.IsWholeLines front)
    (anew : Reading.after {} (Text.lines front) = {}) (behind : List Char) :
    ofText (front ++ behind) =
      ofText front ++ (ofText behind).map (shift (Text.lines front).length) := by
  have both := join_append {} 0 (Text.lines front) (Text.lines behind)
  have alone := join_append {} 0 (Text.lines front) []
  rw [anew] at both alone
  rw [List.append_nil] at alone
  have below := join_shift (Text.lines front).length false [] 0 (Text.lines behind)
  rw [ofText, ofText, ofText, Text.lines_append ends, both, alone, ← below]
  simp [join]

end Line

/-! ## Interpreting both files -/

namespace Recorder

open CommandFile

variable {reader : FileReader}

theorem record_interpret (modern : reader.detectsLegacy = false) (s : Recorder)
    (stream text : String) :
    s.record (reader.interpret stream text) =
      s.record (runLines stream (Line.ofText text.toList)) := by
  rw [FileReader.interpret, modern]
  rfl

/-- Interpreting files composes. When the first of two files is made of whole lines, does not end
in a line that is to be continued and is interpreted without an error, both files in one are
interpreted like one after the other: with the same result, calls, scripts, warnings and
variables, except that all line numbers of the second file are larger by the number of lines of
the first one. -/
theorem record_append (modern : reader.detectsLegacy = false) (s : Recorder)
    (stream front behind : String) (ends : Text.IsWholeLines front.toList)
    (ended : Line.endsContinued front.toList = false)
    (succeeds : (s.record (reader.interpret stream front)).1 = .ok ()) :
    let first := (s.record (reader.interpret stream front)).2
    EndsAlike (Text.lines front.toList).length first
      (first.record (reader.interpret stream behind))
      (s.record (reader.interpret stream (front ++ behind))) := by
  intro first
  have ran : s.record (runLines stream (Line.ofText front.toList)) = (.ok (), first) := by
    rw [← record_interpret modern, ← succeeds]
  have noPending := Line.pending_of_not_endsContinued ended
  have joined : Line.ofText front.toList =
      Line.Reading.joined {} 0 (Text.lines front.toList) := by
    have alone := Line.join_append {} 0 (Text.lines front.toList) []
    rw [List.append_nil, noPending] at alone
    rw [Line.ofText, alone]
    simp [Line.join]
  have noScript : (Line.Reading.after {} (Text.lines front.toList)).inScript = false := by
    have closed := foldl_of_run_eq_ok ran
    rwa [joined, Line.Reading.foldl_joined {}] at closed
  have anew : Line.Reading.after {} (Text.lines front.toList) = {} := by
    cases reading : Line.Reading.after {} (Text.lines front.toList) with
    | mk inScript pending =>
        rw [reading] at noPending noScript
        obtain rfl : pending = [] := noPending
        obtain rfl : inScript = false := noScript
        rfl
  rw [record_interpret modern, record_interpret modern, String.toList_append,
    Line.ofText_append ends anew]
  have onward (more : List Line) :
      s.record (runLines stream (Line.ofText front.toList ++ more)) =
        first.record (runLines stream more) := run_runLines_append more ran
  rw [onward]
  exact runsAlike_runLines _ (.start _ first)

/-- A loop that is left open on line 4 of a file is reported for line 8 when four lines are put
above the file, and so is the warning of a failing block for line 5 instead of line 1. -/
theorem record_open_loop_below :
    let host : Recorder := { table := .empty, scriptFailure := some "exit 1" }
    let front := "size = 12\nruby\nputs 1\nruby end\n"
    let behind := "ruby\nputs $size\nruby end\nfor x in 1\n"
    let first := (host.record (FileReader.interpret ⟨false⟩ "figure" front)).2
    Text.IsWholeLines front.toList ∧ Line.endsContinued front.toList = false ∧
      (host.record (FileReader.interpret ⟨false⟩ "figure" front)).1 = .ok () ∧
      (first.record (FileReader.interpret ⟨false⟩ "figure" behind)).1 =
        .error ((Cause.unterminatedBlock .loop 4).placed ⟨"for", "figure", 4, 0⟩) ∧
      EndsAlike 4 first (first.record (FileReader.interpret ⟨false⟩ "figure" behind))
        (host.record (FileReader.interpret ⟨false⟩ "figure" (front ++ behind))) := by
  intro host front behind first
  have ends : Text.IsWholeLines front.toList := .inr (by decide +kernel)
  have ended : Line.endsContinued front.toList = false := by decide +kernel
  have succeeds : (host.record (FileReader.interpret ⟨false⟩ "figure" front)).1 = .ok () := by
    decide +kernel
  have count : (Text.lines front.toList).length = 4 := by decide +kernel
  have alike := record_append rfl host "figure" front behind ends ended succeeds
  rw [count] at alike
  exact ⟨ends, ended, succeeds, by decide +kernel, alike⟩

end Recorder

end PlotScript
