import PlotScript.Proofs.CommandFile.Joining

/-!
# Legacy calls outside script blocks

Whether a file is in the legacy syntax is told by its first call that stands outside script
blocks. The look for this call keeps an account of script blocks of its own, over physical
lines, while the joining of lines keeps another one, over logical lines. The two accounts
come apart at a logical line of several parts that opens a script block as a whole but not
with its last part, or the other way round. `findCall_faithful_iff` says that this is the only
reason for which the look may go wrong.
-/

namespace PlotScript

namespace Text

/-- What trimming takes away is blank. -/
theorem exists_of_trim (s : List Char) :
    ∃ before behind, s = before ++ trim s ++ behind ∧
      (∀ c ∈ before, isBlank c = true) ∧ ∀ c ∈ behind, isBlank c = true := by
  obtain ⟨behind, back, blankBehind⟩ := exists_of_trimEnd (trimStart s)
  refine ⟨s.takeWhile isBlank, behind, ?_, ?_, blankBehind⟩
  · rw [List.append_assoc, trim, ← back, trimStart, List.takeWhile_append_dropWhile]
  · intro c inside
    exact List.all_eq_true.1 List.all_takeWhile c inside

end Text

/-! ## Two accounts of script blocks -/

namespace Line.Reading

/-- The physical lines that follow line `number` and stand outside script blocks, with
their numbers. -/
def outside (r : Reading) (number : Nat) : List (List Char) → List (Nat × List Char)
  | [] => []
  | raw :: rest =>
      if r.inScript then (r.next raw).outside (number + 1) rest
      else (number + 1, raw) :: (r.next raw).outside (number + 1) rest

/-- A line that ends a logical line opens a script block with all of it or with none. -/
def OpensAlike (r : Reading) (raw : List Char) : Prop :=
  continued? raw = none →
    (Text.trim (r.pending ++ raw) = "ruby".toList ↔ Text.trim raw = "ruby".toList)

end Line.Reading

namespace Legacy

open Line Text

/-- The number of the first legacy call outside script blocks among the physical lines that
follow line `number`. -/
def outsideCall? (r : Reading) (number : Nat) (lines : List (List Char)) : Option Nat :=
  ((r.outside number lines).find? fun line => isCall line.2).map (·.1)

/-- Up to the first call outside script blocks every line opens a script block alike for a
reader of physical lines and for the joining of lines. -/
def Tracked (r : Reading) : List (List Char) → Prop
  | [] => True
  | raw :: rest =>
      if r.inScript then Tracked (r.next raw) rest
      else isCall raw = true ∨ (r.OpensAlike raw ∧ Tracked (r.next raw) rest)

variable {r : Reading} {raw : List Char} {number : Nat} {rest : List (List Char)}

/-! ## One line of each account -/

theorem trim_ne_of_isCall (call : isCall raw = true) : trim raw ≠ "ruby".toList := by
  intro marker
  obtain ⟨before, behind, split, blank, blankBehind⟩ := exists_of_trim raw
  rw [marker, List.append_assoc] at split
  have body : trimStart raw = "ruby".toList ++ behind := by
    rw [split, trimStart, List.dropWhile_append_of_pos blank]
    exact List.dropWhile_cons_of_neg (by decide)
  have named : ∀ c ∈ "ruby".toList, isCallNameChar c = true := List.all_eq_true.1 (by decide)
  have bracket : (behind.dropWhile isCallNameChar).head? = some '(' := by
    simp only [isCall, body, List.dropWhile_append_of_pos named, Bool.and_eq_true,
      beq_iff_eq] at call
    exact call.2
  -- only blanks stand behind the marker, and a bracket is none
  have inside : '(' ∈ behind :=
    (List.dropWhile_sublist isCallNameChar).mem (List.mem_of_mem_head? bracket)
  have absurdity := blankBehind _ inside
  revert absurdity
  decide

theorem trim_ne_of_continued {front : List Char} (h : continued? raw = some front) :
    trim raw ≠ "ruby".toList := by
  intro marker
  obtain ⟨before, behind, split, -, blankBehind⟩ := exists_of_trim raw
  have last : raw.getLast? = some '\\' := by
    by_cases last : raw.getLast? = some '\\'
    · exact last
    · rw [continued?, if_neg last] at h
      cases h
  rw [split, marker] at last
  rcases List.eq_nil_or_concat behind with rfl | ⟨others, c, rfl⟩
  · rw [List.append_nil, List.getLast?_append] at last
    revert last
    simp
  · rw [List.concat_eq_append, ← List.append_assoc, List.getLast?_concat] at last
    obtain rfl := Option.some.inj last
    have absurdity := blankBehind '\\' (by simp)
    revert absurdity
    decide

/-- The two accounts agree behind a line that opens a script block alike for both. -/
theorem opensAlike_iff (out : r.inScript = false) :
    r.OpensAlike raw ↔ (r.next raw).inScript = decide (trim raw = "ruby".toList) := by
  cases continued : continued? raw with
  | some front =>
      have noMarker := trim_ne_of_continued continued
      rw [Reading.next_of_continued out continued, decide_eq_false noMarker]
      constructor
      · intro _
        exact out
      · intro _ ended
        rw [continued] at ended
        cases ended
  | none =>
      rw [Reading.next_of_ended out continued, decide_eq_decide]
      constructor
      · intro alike
        exact alike continued
      · intro same _
        exact same

theorem findCall_of_inScript :
    findCall true number (raw :: rest) = findCall (!closesScript raw) (number + 1) rest := by
  rw [findCall, closesScript]
  simp only [if_true, ne_eq, decide_not]

theorem findCall_of_isCall (call : isCall raw = true) :
    findCall false number (raw :: rest) = some (number + 1) := by
  rw [findCall]
  simp only [Bool.false_eq_true, if_false]
  rw [if_neg (trim_ne_of_isCall call), if_pos call]

theorem findCall_of_notCall (noCall : isCall raw = false) :
    findCall false number (raw :: rest) =
      findCall (decide (trim raw = "ruby".toList)) (number + 1) rest := by
  rw [findCall]
  simp only [Bool.false_eq_true, if_false]
  by_cases opens : trim raw = "ruby".toList
  · rw [if_pos opens, decide_eq_true opens]
  · rw [if_neg opens, decide_eq_false opens, if_neg (by simp [noCall])]

theorem outsideCall?_of_inScript (inside : r.inScript = true) :
    outsideCall? r number (raw :: rest) = outsideCall? (r.next raw) (number + 1) rest := by
  rw [outsideCall?, Reading.outside, if_pos inside]
  rfl

theorem outsideCall?_of_isCall (out : r.inScript = false) (call : isCall raw = true) :
    outsideCall? r number (raw :: rest) = some (number + 1) := by
  rw [outsideCall?, Reading.outside, if_neg (by simp [out]), List.find?_cons, call]
  rfl

theorem outsideCall?_of_notCall (out : r.inScript = false) (noCall : isCall raw = false) :
    outsideCall? r number (raw :: rest) = outsideCall? (r.next raw) (number + 1) rest := by
  rw [outsideCall?, Reading.outside, if_neg (by simp [out]), List.find?_cons, noCall]
  rfl

theorem findCall_singleton (call : isCall raw = true) (inScript : Bool) :
    findCall inScript number [raw] = if inScript then none else some (number + 1) := by
  cases inScript with
  | true => rw [findCall_of_inScript, findCall, if_pos rfl]
  | false =>
      rw [findCall_of_isCall call]
      rfl

theorem outsideCall?_singleton (call : isCall raw = true) (r : Reading) :
    outsideCall? r number [raw] = if r.inScript then none else some (number + 1) := by
  cases inScript : r.inScript with
  | true =>
      rw [outsideCall?_of_inScript inScript]
      rfl
  | false =>
      rw [outsideCall?_of_isCall inScript call]
      rfl

/-! ## Whole files -/

variable {lines : List (List Char)}

/-- While the two accounts agree the look finds the call that it should find. -/
theorem findCall_of_tracked (tracked : Tracked r lines) (number : Nat) :
    findCall r.inScript number lines = outsideCall? r number lines := by
  induction lines generalizing r number with
  | nil => rfl
  | cons raw rest ih =>
      unfold Tracked at tracked
      cases inScript : r.inScript with
      | true =>
          rw [inScript, if_pos rfl] at tracked
          have closing : (r.next raw).inScript = !closesScript raw := by
            rw [Reading.next_of_inScript inScript]
          rw [findCall_of_inScript, outsideCall?_of_inScript inScript, ← closing, ih tracked]
      | false =>
          rw [inScript, if_neg (by decide)] at tracked
          cases call : isCall raw with
          | true => rw [findCall_of_isCall call, outsideCall?_of_isCall inScript call]
          | false =>
              rcases tracked with found | ⟨alike, onward⟩
              · rw [call] at found
                cases found
              · have opening := (opensAlike_iff inScript).1 alike
                rw [findCall_of_notCall call, outsideCall?_of_notCall inScript call, ← opening,
                  ih onward]

/-- A call behind some of the lines changes nothing about them. -/
theorem Tracked.take_append (tracked : Tracked r lines) {call : List Char}
    (isCall : isCall call = true) (k : Nat) : Tracked r (lines.take k ++ [call]) := by
  have last : ∀ r : Reading, Tracked r [call] := by
    intro r
    unfold Tracked
    split
    · trivial
    · exact .inl isCall
  induction lines generalizing r k with
  | nil =>
      rw [List.take_nil]
      exact last r
  | cons raw rest ih =>
      cases k with
      | zero => exact last r
      | succ k =>
          rw [List.take_succ_cons, List.cons_append]
          unfold Tracked at tracked ⊢
          split
          · rename_i inside
            rw [if_pos inside] at tracked
            exact ih tracked k
          · rename_i out
            rw [if_neg out] at tracked
            rcases tracked with found | ⟨alike, onward⟩
            · exact .inl found
            · exact .inr ⟨alike, ih onward k⟩

/-- A call right behind the line where the two accounts come apart is taken by one of them
alone. -/
theorem tracked_of_findCall {call : List Char} (isCall : isCall call = true)
    (agree : ∀ k, findCall r.inScript number (lines.take k ++ [call]) =
      outsideCall? r number (lines.take k ++ [call])) : Tracked r lines := by
  induction lines generalizing r number with
  | nil => trivial
  | cons raw rest ih =>
      unfold Tracked
      cases inScript : r.inScript with
      | true =>
          rw [if_pos rfl]
          refine @ih _ (number + 1) fun k => ?_
          have both := agree (k + 1)
          rw [List.take_succ_cons, List.cons_append, inScript, findCall_of_inScript,
            outsideCall?_of_inScript inScript] at both
          rw [Reading.next_of_inScript inScript] at both ⊢
          exact both
      | false =>
          rw [if_neg (by decide)]
          cases here : Legacy.isCall raw with
          | true => exact .inl rfl
          | false =>
              have onward : ∀ k, findCall (decide (trim raw = "ruby".toList)) (number + 1)
                  (rest.take k ++ [call]) =
                    outsideCall? (r.next raw) (number + 1) (rest.take k ++ [call]) := by
                intro k
                have both := agree (k + 1)
                rwa [List.take_succ_cons, List.cons_append, inScript, findCall_of_notCall here,
                  outsideCall?_of_notCall inScript here] at both
              have same : (r.next raw).inScript = decide (trim raw = "ruby".toList) := by
                have next := onward 0
                rw [List.take_zero, List.nil_append, findCall_singleton isCall,
                  outsideCall?_singleton isCall] at next
                cases opens : decide (trim raw = "ruby".toList) with
                | true =>
                    cases inside : (r.next raw).inScript with
                    | true => rfl
                    | false =>
                        rw [opens, inside] at next
                        cases next
                | false =>
                    cases inside : (r.next raw).inScript with
                    | true =>
                        rw [opens, inside] at next
                        cases next
                    | false => rfl
              refine .inr ⟨(opensAlike_iff inScript).2 same, @ih _ (number + 1) ?_⟩
              rw [same]
              exact onward

/-- Without continued lines outside script blocks the two accounts are the same. -/
theorem tracked_of_noContinuation (nothingPending : r.pending = [])
    (ended : ∀ line ∈ r.outside number lines, continued? line.2 = none) : Tracked r lines := by
  induction lines generalizing r number with
  | nil => trivial
  | cons raw rest ih =>
      unfold Tracked
      unfold Reading.outside at ended
      cases inScript : r.inScript with
      | true =>
          rw [inScript, if_pos rfl] at ended
          rw [if_pos rfl]
          refine @ih _ (number + 1) ?_ ended
          rw [Reading.next_of_inScript inScript]
          exact nothingPending
      | false =>
          rw [inScript, if_neg (by decide)] at ended
          obtain ⟨here, others⟩ := List.forall_mem_cons.1 ended
          rw [if_neg (by decide)]
          refine .inr ⟨fun _ => ?_, @ih _ (number + 1) ?_ others⟩
          · rw [nothingPending, List.nil_append]
          · rw [Reading.next_of_ended inScript here]

/-- When the look for legacy calls can be relied on. It finds the first legacy call outside
script blocks, wherever behind the lines of a text a call may stand, exactly when the lines in
front of the call open script blocks alike for a reader of physical lines and for the joining
of lines. They always do where no line outside a script block is continued. -/
theorem findCall_faithful_iff (text : List Char) :
    let lines := Text.lines text
    ((∀ call, isCall call = true → ∀ k,
        findCall false 0 (lines.take k ++ [call]) =
          outsideCall? {} 0 (lines.take k ++ [call])) ↔ Tracked {} lines) ∧
      (Tracked {} lines → line? text = outsideCall? {} 0 lines) ∧
      ((∀ line ∈ Reading.outside {} 0 lines, continued? line.2 = none) → Tracked {} lines) := by
  intro lines
  refine ⟨⟨?_, ?_⟩, ?_, tracked_of_noContinuation rfl⟩
  · intro agree
    have call : isCall "call(".toList = true := by decide
    exact tracked_of_findCall call (agree _ call)
  · intro tracked call isCall k
    exact findCall_of_tracked (tracked.take_append isCall k) 0
  · intro tracked
    exact findCall_of_tracked tracked 0

/-- A marker at the end of a continued line hides a call outside script blocks, and a marker
that is continued itself gives away a line of its block as a call. -/
theorem findCall_misled_by_continuation :
    let hidden := "plot a \\\nruby\nfoo(1,2)\n".toList
    let exposed := "ru\\\nby\nfoo(1,2)\nruby end\n".toList
    (line? hidden = none ∧ outsideCall? {} 0 (Text.lines hidden) = some 3) ∧
      line? exposed = some 3 ∧ outsideCall? {} 0 (Text.lines exposed) = none := by
  decide +kernel

end Legacy

end PlotScript
