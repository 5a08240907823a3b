import Mathlib.Data.List.Basic
import PlotScript.CommandFile.Line

/-!
# The physical lines of a logical line

A logical line is made of physical lines that stand one behind the other. All of them but
the last one are continued, and the number of the logical line is that of the last one.
-/

namespace PlotScript.Line

/-- What a physical line adds to the logical line that it belongs to. -/
def uncontinued (raw : List Char) : List Char :=
  (continued? raw).getD raw

/-- A logical line that some physical lines of a text make. -/
inductive MadeOf (physical : List (List Char)) : Line → Prop
  | joined {before continued : List (List Char)} {last : List Char} {after : List (List Char)}
      (parts : physical = before ++ (continued ++ last :: after))
      (goOn : ∀ raw ∈ continued, (continued? raw).isSome = true)
      (ends : continued? last = none ∨ after = []) :
      MadeOf physical (ofChars (before.length + continued.length + 1)
        (Text.trimEnd ((continued ++ [last]).flatMap uncontinued)))
  /-- A line of a script block is left as it is. -/
  | asItIs {before : List (List Char)} {raw : List Char} {after : List (List Char)}
      (parts : physical = before ++ raw :: after) :
      MadeOf physical (ofChars (before.length + 1) raw)

theorem uncontinued_of_continued {raw front : List Char} (h : continued? raw = some front) :
    uncontinued raw = front := by
  rw [uncontinued, h, Option.getD_some]

theorem uncontinued_of_ended {raw : List Char} (h : continued? raw = none) :
    uncontinued raw = raw := by
  rw [uncontinued, h, Option.getD_none]

/-- Only the end of a line tells whether it is continued. -/
theorem uncontinued_append (front : List Char) {rest : List Char} (nonempty : rest ≠ []) :
    uncontinued (front ++ rest) = front ++ uncontinued rest := by
  have sameEnd : (front ++ rest).getLast? = rest.getLast? := List.getLast?_append_of_ne_nil _ nonempty
  rw [uncontinued, uncontinued, continued?, continued?, sameEnd,
    List.dropLast_append_of_ne_nil nonempty]
  by_cases continues : rest.getLast? = some '\\'
  · rw [if_pos continues, if_pos continues]
    rfl
  · rw [if_neg continues, if_neg continues]
    rfl

/-- The last line of a text ends its logical line even if it is continued. -/
theorem ofText_of_singleton {text line : List Char} (only : Text.lines text = [line])
    (nonempty : uncontinued line ≠ []) :
    ofText text = [ofChars 1 (Text.trimEnd (uncontinued line))] := by
  rw [ofText, only, join, if_neg Bool.false_ne_true]
  cases continues : continued? line with
  | some front =>
      rw [uncontinued_of_continued continues] at nonempty ⊢
      simp [join, nonempty]
  | none =>
      rw [uncontinued_of_ended continues]
      rfl

/-- The joining goes on behind the lines `before` and the continued lines `held`, whose texts
are pending. -/
theorem madeOf_of_mem_join {inScript : Bool} {before held rest : List (List Char)} {line : Line}
    (goOn : ∀ raw ∈ held, (continued? raw).isSome = true) (settled : inScript = true → held = [])
    (member : line ∈ join inScript (held.flatMap uncontinued) (before.length + held.length) rest) :
    MadeOf (before ++ (held ++ rest)) line := by
  induction rest generalizing inScript before held with
  | nil =>
      rw [join] at member
      split at member
      · cases member
      · rename_i pending
        obtain rfl := List.mem_singleton.1 member
        -- the text ends in a continued line
        rcases held.eq_nil_or_concat with rfl | ⟨continued, last, rfl⟩
        · exact absurd rfl pending
        · rw [List.concat_eq_append] at goOn ⊢
          have shape : before ++ (continued ++ [last] ++ []) =
              before ++ (continued ++ last :: []) := by simp
          have number : before.length + (continued ++ [last]).length =
              before.length + continued.length + 1 := by
            rw [List.length_append]
            rfl
          rw [number]
          exact .joined shape (fun raw inside => goOn raw (List.mem_append_left _ inside))
            (.inr rfl)
  | cons raw rest ih =>
      cases inScript with
      | true =>
          obtain rfl := settled rfl
          rw [join, if_pos rfl] at member
          rcases List.mem_cons.1 member with rfl | member
          · exact .asItIs rfl
          · have others := @ih (!closesScript raw) (before ++ [raw]) [] nofun (fun _ => rfl)
              (by simpa using member)
            simpa using others
      | false =>
          rw [join, if_neg Bool.false_ne_true] at member
          cases continues : continued? raw with
          | some front =>
              rw [continues] at member
              have pending : held.flatMap uncontinued ++ front =
                  (held ++ [raw]).flatMap uncontinued := by
                simp [uncontinued_of_continued continues]
              have heldOn : ∀ r ∈ held ++ [raw], (continued? r).isSome = true := by
                intro r inside
                rcases List.mem_append.1 inside with inside | inside
                · exact goOn r inside
                · rw [List.mem_singleton.1 inside, continues]
                  rfl
              have others := @ih false before (held ++ [raw]) heldOn nofun (by
                rw [← pending, List.length_append]
                exact member)
              simpa using others
          | none =>
              rw [continues] at member
              have text : held.flatMap uncontinued ++ raw =
                  (held ++ [raw]).flatMap uncontinued := by
                simp [uncontinued_of_ended continues]
              rcases List.mem_cons.1 member with rfl | member
              · rw [text]
                exact .joined rfl goOn (.inl continues)
              · have others := @ih _ (before ++ (held ++ [raw])) [] nofun (fun _ => rfl)
                  (by simpa [Nat.add_assoc] using member)
                simpa using others

/-- Every logical line of a text is made of physical lines of the text. -/
theorem madeOf_of_mem_ofText {text : List Char} {line : Line} (member : line ∈ ofText text) :
    MadeOf (Text.lines text) line :=
  @madeOf_of_mem_join false [] [] (Text.lines text) line nofun nofun member

end PlotScript.Line
