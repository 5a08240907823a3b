import PlotScript.Command.InlineOption
import PlotScript.Proofs.Except
import PlotScript.Proofs.Variables.Piece
import PlotScript.Proofs.Variables.Loops

/-!
# What can be wrong with words

The reading of words fails in six ways. A name can be bad, unbound or bound in a circle, and
a bracket or a quotation can be left open. Nothing else is wrong with the words of a line, with
the value of an assignment or with the list of a loop, whatever the scope holds.
-/

namespace PlotScript

open Piece

/-- The failures of the reading of words. -/
def Cause.isOfWords : Cause → Bool
  | unterminatedReference | invalidVariableName _ | undefinedVariable _ | recursiveVariable _ _
  | unterminatedSingleQuote | unterminatedDoubleQuote => true
  | _ => false

variable {cause : Cause}

/-! ## Single pieces -/

theorem Reference.isOfWords_of_read {s : List Char} (h : read s = .error cause) :
    cause.isOfWords = true := by
  unfold read at h
  split at h
  · split at h
    · obtain rfl := Except.error.inj h
      rfl
    · dsimp only at h
      split at h
      · cases h
      · obtain rfl := Except.error.inj h
        rfl
  · split at h
    · cases h
    · cases h
  · cases h

namespace Piece

theorem fault_ne_shielded (c : Char) : fault cause ≠ shielded c := by
  unfold shielded
  split
  · nofun
  · nofun

theorem mem_of_mem_cons {p : Piece} {rest : List Piece} (member : fault cause ∈ p :: rest)
    (other : fault cause ≠ p) : fault cause ∈ rest :=
  (List.mem_cons.1 member).resolve_left other

theorem isOfWords_of_mem_ofText {quoted : Bool} {s : List Char}
    (member : fault cause ∈ ofText quoted s) : cause.isOfWords = true := by
  have alone : ∀ {found : Cause}, fault cause ∈ [fault found] → cause = found := by
    intro found inside
    exact Piece.fault.inj (List.mem_singleton.1 inside)
  fun_induction ofText quoted s with
  | case1 =>
      obtain rfl := alone member
      rfl
  | case2 => cases member
  | case3 =>
      obtain rfl := alone member
      rfl
  | case4 => exact absurd (List.mem_singleton.1 member) nofun
  | case5 quoted escaped rest ih => exact ih (mem_of_mem_cons member (fault_ne_shielded escaped))
  | case6 quoted rest found failed =>
      obtain rfl := alone member
      exact Reference.isOfWords_of_read failed
  | case7 quoted rest lone _ ih => exact ih (mem_of_mem_cons member nofun)
  | case8 quoted rest r after found shorter _ ih => exact ih (mem_of_mem_cons member nofun)
  | case9 rest _ _ ih => exact ih member
  | case10 quoted rest _ _ _ ih => exact ih (mem_of_mem_cons member nofun)
  | case11 c rest _ _ _ ih => exact ih (mem_of_mem_cons member nofun)
  | case12 quoted rest _ closed _ _ _ _ ih =>
      rcases List.mem_append.1 member with inside | behind
      · rcases List.mem_cons.1 inside with here | inside
        · cases here
        · obtain ⟨c, -, same⟩ := List.mem_map.1 inside
          exact absurd same.symm (fault_ne_shielded c)
      · exact ih behind
  | case13 =>
      obtain rfl := alone member
      rfl
  | case14 quoted c rest _ _ _ _ _ ih =>
      refine ih (mem_of_mem_cons member ?_)
      split
      · nofun
      · nofun

theorem isOfWords_of_mem_ofExpression {s : List Char} (member : fault cause ∈ ofExpression s) :
    cause.isOfWords = true := by
  fun_induction ofExpression s with
  | case1 => cases member
  | case2 c rest _ ih => exact ih (mem_of_mem_cons member nofun)
  | case3 rest found failed =>
      obtain rfl := Piece.fault.inj (List.mem_singleton.1 member)
      exact Reference.isOfWords_of_read failed
  | case4 rest lone _ ih => exact ih (mem_of_mem_cons member nofun)
  | case5 rest r after found shorter _ ih => exact ih (mem_of_mem_cons member nofun)
  | case6 c rest _ _ ih => exact ih (mem_of_mem_cons member nofun)

/-! ## Pieces one behind the other -/

/-- The failure of a text is the failure of one of its pieces. -/
theorem exists_of_concat_eq_error {text : Piece → Except Cause (List Char)} {pieces : List Piece}
    (h : concat text pieces = .error cause) : ∃ p ∈ pieces, text p = .error cause := by
  induction pieces with
  | nil => cases h
  | cons p rest ih =>
      rcases concat_cons_eq_error h with here | behind
      · exact ⟨p, List.mem_cons_self, here⟩
      · obtain ⟨q, member, failed⟩ := ih behind
        exact ⟨q, List.mem_cons_of_mem p member, failed⟩

end Piece

theorem Mark.exists_of_ofPieces_eq_error {lookup : String → Except Cause String}
    {pieces : List Piece} (h : ofPieces lookup pieces = .error cause) :
    ∃ p ∈ pieces, ofPiece lookup p = .error cause := by
  induction pieces with
  | nil => cases h
  | cons p rest ih =>
      rcases error_of_bind_eq_error h with here | ⟨front, -, h⟩
      · exact ⟨p, List.mem_cons_self, here⟩
      · rcases error_of_bind_eq_error h with behind | ⟨back, -, h⟩
        · obtain ⟨q, member, failed⟩ := ih behind
          exact ⟨q, List.mem_cons_of_mem p member, failed⟩
        · cases h

/-! ## Variables -/

namespace Scope

variable {scope : Scope} {name : String}

/-- A piece with its references expanded fails when a variable or the text itself does. -/
theorem isOfWords_of_expand {lookup : String → Except Cause String} {pieces : List Piece}
    (words : ∀ name cause, lookup name = .error cause → cause.isOfWords = true)
    (faults : ∀ cause, fault cause ∈ pieces → cause.isOfWords = true)
    (h : concat (Piece.expand lookup) pieces = .error cause) : cause.isOfWords = true := by
  obtain ⟨p, member, failed⟩ := exists_of_concat_eq_error h
  cases p with
  | reference r quoted => exact words _ cause (error_of_map_eq_error failed)
  | fault found =>
      obtain rfl := Except.error.inj failed
      exact faults found member
  | _ => cases failed

theorem isOfWords_of_required {resolve : String → Except Cause (Option String)}
    (words : ∀ cause, resolve name = .error cause → cause.isOfWords = true)
    (h : required resolve name = .error cause) : cause.isOfWords = true := by
  rcases error_of_bind_eq_error h with failed | ⟨found, -, h⟩
  · exact words cause failed
  · cases found with
    | none =>
        obtain rfl := Except.error.inj h
        rfl
    | some value => cases h

theorem isOfWords_of_resolveWithin {room : Nat}
    (h : scope.resolveWithin room name = .error cause) : cause.isOfWords = true := by
  induction room generalizing name cause with
  | zero =>
      unfold resolveWithin at h
      split at h
      · cases h
      · cases h
      · obtain rfl := Except.error.inj h
        rfl
  | succ room ih =>
      unfold resolveWithin at h
      split at h
      · cases h
      · cases h
      · exact isOfWords_of_expand (fun _ _ => isOfWords_of_required fun _ => ih)
          (fun _ => isOfWords_of_mem_ofExpression) (error_of_map_eq_error h)

theorem isOfWords_of_lookup (h : scope.lookup name = .error cause) : cause.isOfWords = true :=
  isOfWords_of_required (fun _ => isOfWords_of_resolveWithin) h

end Scope

/-! ## Lines and values -/

variable {scope : Scope} {text : List Char}

theorem isOfWords_of_splitLine (h : splitLine scope text = .error cause) :
    cause.isOfWords = true := by
  rw [splitLine_eq] at h
  obtain ⟨p, member, failed⟩ := Mark.exists_of_ofPieces_eq_error (error_of_map_eq_error h)
  cases p with
  | reference r quoted =>
      cases quoted with
      | true => exact Scope.isOfWords_of_lookup (error_of_map_eq_error failed)
      | false => exact Scope.isOfWords_of_lookup (error_of_map_eq_error failed)
  | fault found =>
      obtain rfl := Except.error.inj failed
      exact isOfWords_of_mem_ofText member
  | _ => cases failed

theorem isOfWords_of_eagerValue (h : eagerValue scope text = .error cause) :
    cause.isOfWords = true := by
  rw [eagerValue_eq] at h
  exact Scope.isOfWords_of_expand (fun _ _ => Scope.isOfWords_of_lookup)
    (fun _ => isOfWords_of_mem_ofText) (error_of_map_eq_error h)

theorem isOfWords_of_deferredValue (h : deferredValue text = .error cause) :
    cause.isOfWords = true := by
  rw [deferredValue_eq] at h
  obtain ⟨p, member, failed⟩ := exists_of_concat_eq_error (error_of_map_eq_error h)
  cases p with
  | fault found =>
      obtain rfl := Except.error.inj failed
      exact isOfWords_of_mem_ofText member
  | _ => cases failed

/-! ## Options among the words -/

theorem eq_of_takeValue_eq_error {name : String} {tokens : List String}
    (h : takeValue name tokens = .error cause) : cause = .missingOptionText name := by
  unfold takeValue at h
  split at h
  · cases h
  · exact (Except.error.inj h).symm
  · cases h
  · exact (Except.error.inj h).symm

/-- The words of a call fail to be parted only where an option has no text. -/
theorem exists_of_splitWords_eq_error {c : Command} {words : List String}
    (h : splitWords c words = .error cause) : ∃ option, cause = .missingOptionText option := by
  rw [splitWords] at h
  generalize (NameMap.empty : RawOptions) = options at h
  fun_induction partWords c options words with
  | case1 => cases h
  | case2 options word rest noOption ih =>
      rcases error_of_bind_eq_error h with failed | ⟨parted, -, h⟩
      · exact ih failed
      · cases h
  | case3 options word rest o shape declared value attached ih => exact ih h
  | case4 options word rest o shape declared separate found missing =>
      obtain rfl := Except.error.inj h
      exact ⟨_, eq_of_takeValue_eq_error missing⟩
  | case5 options word rest o shape declared separate value rest' took shorter ih => exact ih h
  | case6 => cases h

end PlotScript
