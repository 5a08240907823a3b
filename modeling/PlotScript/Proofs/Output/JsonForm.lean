import PlotScript.Output.Transcript
import PlotScript.Proofs.Number.Characters
import PlotScript.Proofs.Text.Blank
import PlotScript.Proofs.Text.Quoted

/-!
# Control characters in JSON

The control characters below the blank are escaped in texts, and nothing else that is written as
JSON brings any in. So the JSON form of a value and the JSON line of an operation are free of
control characters, whatever the texts in them hold.
-/

namespace PlotScript

namespace Text

/-- A text without the control characters below the blank. -/
def HasNoControl (s : String) : Prop :=
  ∀ c ∈ s.toList, 0x20 ≤ c.toNat

instance (s : String) : Decidable (HasNoControl s) :=
  List.decidableBAll (fun c : Char => 0x20 ≤ c.toNat) s.toList

namespace HasNoControl

variable {s t : String}

theorem newline_not_mem (h : HasNoControl s) : '\n' ∉ s.toList := fun member =>
  absurd (h _ member) (by decide)

theorem append (first : HasNoControl s) (second : HasNoControl t) : HasNoControl (s ++ t) := by
  intro c member
  rw [String.toList_append, List.mem_append] at member
  rcases member with inFirst | inSecond
  · exact first c inFirst
  · exact second c inSecond

theorem intercalate {parts : List String} (sep : HasNoControl s)
    (each : ∀ part ∈ parts, HasNoControl part) : HasNoControl (s.intercalate parts) := by
  intro c member
  rw [String.toList_intercalate] at member
  rcases mem_of_mem_intercalate member with inSep | ⟨_, inParts, inPart⟩
  · exact sep c inSep
  · obtain ⟨part, member, rfl⟩ := List.mem_map.1 inParts
    exact each part member c inPart

end HasNoControl

/-! ## Writers -/

namespace Json

theorem noControl_escapeChar (c : Char) : ∀ d ∈ escapeChar c, 0x20 ≤ d.toNat := by
  have digits : ∀ n, ∀ d ∈ Nat.toDigits 16 n, 0x20 ≤ d.toNat := by
    intro n d member
    obtain ⟨k, small, rfl⟩ := exists_of_mem_toDigits member
    have each : ∀ k < 16, 0x20 ≤ (Nat.digitChar k).toNat := by decide
    exact each k small
  unfold escapeChar
  split_ifs with quote backslash backspace formFeed newline carriageReturn tab oneDigit twoDigits
  · simp
  · simp
  · simp
  · simp
  · simp
  · simp
  · simp
  · exact List.forall_mem_append.2 ⟨by simp, digits c.toNat⟩
  · exact List.forall_mem_append.2 ⟨by simp, digits c.toNat⟩
  · exact List.forall_mem_singleton.2 (by omega)

@[simp] theorem noControl_string (s : String) : HasNoControl (string s) := by
  intro c member
  rw [string, String.toList_ofList, List.cons_append, List.mem_cons, List.mem_append,
    List.mem_singleton, List.mem_flatMap] at member
  rcases member with rfl | ⟨d, -, within⟩ | rfl
  · decide
  · exact noControl_escapeChar d c within
  · decide

theorem noControl_null : HasNoControl null := by
  decide

@[simp] theorem noControl_optString (s : Option String) : HasNoControl (optString s) := by
  cases s with
  | none => exact noControl_null
  | some s => exact noControl_string s

theorem noControl_array {items : List String} (each : ∀ item ∈ items, HasNoControl item) :
    HasNoControl (array items) :=
  (HasNoControl.append (by decide) (.intercalate (by decide) each)).append (by decide)

theorem noControl_object {fields : List (String × String)}
    (each : ∀ f ∈ fields, HasNoControl f.2) : HasNoControl (object fields) := by
  refine (HasNoControl.append (by decide) (.intercalate (by decide) ?_)).append (by decide)
  intro text member
  obtain ⟨f, inside, rfl⟩ := List.mem_map.1 member
  exact ((noControl_string f.1).append (by decide)).append (each f inside)

end Json

end Text

open Text

/-! ## Values -/

theorem hasNoControl_of_isNumeral {s : String} (numeral : IsNumeral s.toList) :
    HasNoControl s := by
  intro c member
  have allowed := numeral c member
  rw [isNumeralChar, Bool.or_eq_true] at allowed
  rcases allowed with digit | sign
  · have printable : 0x20 ≤ '0'.toNat := by decide
    exact printable.trans (Char.isDigit_iff_toNat.1 digit).1
  · simp only [List.contains_cons, List.contains_nil, Bool.or_false, Bool.or_eq_true,
      beq_iff_eq] at sign
    rcases sign with rfl | rfl | rfl | rfl | rfl <;> decide

@[simp] theorem Binary64.noControl_json (x : Binary64) : HasNoControl x.json := by
  cases finite : x.isFinite with
  | true => exact hasNoControl_of_isNumeral (isNumeral_json finite)
  | false =>
      cases x with
      | finite negative rank => cases finite
      | nan => exact Json.noControl_null
      | infinite negative => exact Json.noControl_null

namespace Value

@[simp] theorem noControl_jsonBound (bound : Option Binary64) : HasNoControl (jsonBound bound) := by
  cases bound with
  | none => exact Json.noControl_null
  | some x => exact x.noControl_json

theorem noControl_jsonParts (v : Value) : HasNoControl v.jsonParts.2 := by
  cases v with
  | bool b => cases b <;> decide
  | integer n => exact hasNoControl_of_isNumeral (isNumeral_writeInt n.toInt)
  | float x => exact x.noControl_json
  | text s => exact Json.noControl_string s
  | symbol s => exact Json.noControl_string s
  | range low high => exact Json.noControl_object (by simp)
  | color r g b => exact Json.noControl_object (by simp)
  | dimension value unit => exact Json.noControl_object (by simp)
  | point x y => exact Json.noControl_object (by simp)
  | alignedPoint x y halign valign => exact Json.noControl_object (by simp)
  | box x1 y1 x2 y2 => exact Json.noControl_object (by simp)
  | margins left right top bottom => exact Json.noControl_object (by simp)
  | bijection forward backward => exact Json.noControl_object (by simp)

theorem noControl_json (v : Value) : HasNoControl v.json := by
  refine Json.noControl_object ?_
  simp only [List.forall_mem_cons]
  exact ⟨Json.noControl_string _, v.noControl_jsonParts, nofun⟩

end Value

/-! ## Operations -/

theorem Transcript.noControl_jsonLine (i : Invocation) : HasNoControl (jsonLine i) := by
  have arguments : ∀ item ∈ i.arguments.map Value.json, HasNoControl item := by
    intro item member
    obtain ⟨v, -, rfl⟩ := List.mem_map.1 member
    exact v.noControl_json
  have options : ∀ f ∈ i.options.entries.map fun o => (o.1, o.2.json), HasNoControl f.2 := by
    intro f member
    obtain ⟨o, -, rfl⟩ := List.mem_map.1 member
    exact o.2.noControl_json
  refine Json.noControl_object ?_
  simp only [List.forall_mem_cons]
  exact ⟨Json.noControl_string _, Json.noControl_array arguments, Json.noControl_object options,
    nofun⟩

end PlotScript
