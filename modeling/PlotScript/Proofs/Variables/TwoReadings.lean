import PlotScript.Proofs.Except
import PlotScript.Proofs.Text.Blank
import PlotScript.Proofs.Variables.Deferral
import PlotScript.Proofs.Variables.Resolution

/-!
# Words and values of one text

A text may be read as the words of a line or as the value of an assignment. Two loops do so, and
both follow one set of quoting rules, since each of them reads the pieces of the text
(`splitLine_eq`, `eagerValue_eq`). They fail alike. Where they succeed, the words hold the
characters of the value except for blanks: a blank that nothing protects ends a word and is kept in
a value. Without any blank there is nothing to tell the two apart.
-/

namespace PlotScript

open Text (isBlank)

/-- A text without its blanks. -/
def Text.withoutBlanks (s : List Char) : List Char :=
  s.filter (!isBlank ·)

@[simp] theorem Text.withoutBlanks_append (s t : List Char) :
    withoutBlanks (s ++ t) = withoutBlanks s ++ withoutBlanks t :=
  List.filter_append ..

/-! ## Marks and the text that they are made of -/

namespace Mark

/-- What marks put into words. -/
def content : List Mark → List Char
  | [] => []
  | char c :: rest => c :: content rest
  | _ :: rest => content rest

@[simp] theorem content_append (front behind : List Mark) :
    content (front ++ behind) = content front ++ content behind := by
  induction front with
  | nil => rfl
  | cons mark front ih =>
      cases mark with
      | gap => exact ih
      | start => exact ih
      | char c => exact congrArg (c :: ·) ih

theorem content_chars (text : List Char) : content (text.map char) = text := by
  induction text with
  | nil => rfl
  | cons c text ih => exact congrArg (c :: ·) ih

theorem content_ofValue (value : List Char) :
    content (ofValue value) = Text.withoutBlanks value := by
  induction value with
  | nil => rfl
  | cons c value ih =>
      rw [ofValue, List.map_cons, ← ofValue, Text.withoutBlanks]
      by_cases blank : isBlank c = true
      · rw [if_pos blank, List.filter_cons_of_neg (by simp [blank])]
        exact ih
      · rw [if_neg blank, List.filter_cons_of_pos (by simp [blank])]
        exact congrArg (c :: ·) ih

/-- Gathering loses nothing. -/
theorem flatten_gather (begun : Option (List Char)) (marks : List Mark) :
    (gather begun marks).flatten = begun.getD [] ++ content marks := by
  induction marks generalizing begun with
  | nil => cases begun <;> simp [gather, content]
  | cons mark rest ih =>
      cases mark with
      | gap => cases begun <;> simp [gather, content, ih]
      | start => simp [gather, content, ih]
      | char c => simp [gather, content, ih]

theorem gather_some_of_noGap (begun : List Char) {marks : List Mark} (noGap : gap ∉ marks) :
    gather (some begun) marks = [begun ++ content marks] := by
  induction marks generalizing begun with
  | nil => simp [gather, content]
  | cons mark rest ih =>
      obtain ⟨notGap, others⟩ := not_or.1 (mt List.mem_cons.2 noGap)
      cases mark with
      | gap => exact absurd rfl notGap
      | start => exact ih begun others
      | char c =>
          rw [gather, Option.getD_some, ih _ others, content, List.append_assoc]
          rfl

/-- Marks without gaps make one word, unless there are none. -/
theorem gather_of_noGap {marks : List Mark} (noGap : gap ∉ marks) :
    gather none marks = [content marks] ∨ gather none marks = [] ∧ content marks = [] := by
  cases marks with
  | nil => exact .inr ⟨rfl, rfl⟩
  | cons mark rest =>
      obtain ⟨notGap, others⟩ := not_or.1 (mt List.mem_cons.2 noGap)
      cases mark with
      | gap => exact absurd rfl notGap
      | start => exact .inl (gather_some_of_noGap [] others)
      | char c => exact .inl (gather_some_of_noGap [c] others)

/-- Marks that are made of a text: they hold the text except for its blanks, and where there
are none they hold all of it and leave no gap. -/
structure MadeOf (marks : List Mark) (text : List Char) : Prop where
  solid : Text.withoutBlanks (content marks) = Text.withoutBlanks text
  whole : (∀ c ∈ text, isBlank c = false) → gap ∉ marks ∧ content marks = text

theorem MadeOf.append {front behind : List Mark} {s t : List Char} (first : MadeOf front s)
    (others : MadeOf behind t) : MadeOf (front ++ behind) (s ++ t) := by
  constructor
  · rw [content_append, Text.withoutBlanks_append, first.solid, others.solid,
      Text.withoutBlanks_append]
  · intro noBlank
    obtain ⟨noBlankFirst, noBlankOthers⟩ := List.forall_mem_append.1 noBlank
    obtain ⟨noGapFirst, sameFirst⟩ := first.whole noBlankFirst
    obtain ⟨noGapOthers, sameOthers⟩ := others.whole noBlankOthers
    constructor
    · intro member
      rcases List.mem_append.1 member with member | member
      · exact noGapFirst member
      · exact noGapOthers member
    · rw [content_append, sameFirst, sameOthers]

/-- A text whose blanks are protected. -/
theorem madeOf_chars (text : List Char) : MadeOf (text.map char) text := by
  constructor
  · rw [content_chars]
  · intro _
    exact ⟨by simp, content_chars text⟩

theorem madeOf_ofValue (value : List Char) : MadeOf (ofValue value) value := by
  constructor
  · rw [content_ofValue]
    show List.filter _ (List.filter _ value) = List.filter _ value
    rw [List.filter_filter]
    simp
  · intro noBlank
    constructor
    · intro member
      obtain ⟨c, inside, same⟩ := List.mem_map.1 member
      rw [noBlank c inside] at same
      cases same
    · rw [content_ofValue]
      apply List.filter_eq_self.2
      intro c inside
      rw [noBlank c inside]
      rfl

theorem madeOf_gap {c : Char} (blank : isBlank c = true) : MadeOf [gap] [c] := by
  constructor
  · show [] = List.filter _ [c]
    rw [List.filter_cons_of_neg (by simp [blank])]
    rfl
  · intro noBlank
    have notBlank := noBlank c List.mem_cons_self
    rw [blank] at notBlank
    cases notBlank

end Mark

/-! ## Two readings -/

/-- Two readings of one text that end alike: both fail for the same reason, or the marks of the
one are made of the text of the other. -/
inductive ReadAlike : Except Cause (List Mark) → Except Cause (List Char) → Prop
  | error (cause : Cause) : ReadAlike (.error cause) (.error cause)
  | ok {marks : List Mark} {text : List Char} (madeOf : Mark.MadeOf marks text) :
      ReadAlike (.ok marks) (.ok text)

variable {lookup : String → Except Cause String}

/-- A single piece is read alike. -/
theorem readAlike_piece {p : Piece} (sound : p.IsSound) :
    ReadAlike (Mark.ofPiece lookup p) (Piece.expand lookup p) := by
  cases p with
  | blank c => exact .ok (Mark.madeOf_gap sound)
  | quote => exact .ok ⟨rfl, fun _ => ⟨by simp, rfl⟩⟩
  | char c => exact .ok (Mark.madeOf_chars [c])
  | dollar => exact .ok (Mark.madeOf_chars ['$'])
  | reference r quoted =>
      cases quoted with
      | true =>
          show ReadAlike (Except.map _ _) (Except.map _ _)
          cases lookup (String.ofList r.name) with
          | error cause => exact .error cause
          | ok value => exact .ok (Mark.madeOf_chars value.toList)
      | false =>
          show ReadAlike (Except.map _ _) (Except.map _ _)
          cases lookup (String.ofList r.name) with
          | error cause => exact .error cause
          | ok value => exact .ok (Mark.madeOf_ofValue value.toList)
  | fault cause => exact .error cause

/-- So are pieces one behind the other, since the first failure ends both readings. -/
theorem readAlike_pieces {ps : List Piece} (sound : ∀ p ∈ ps, p.IsSound) :
    ReadAlike (Mark.ofPieces lookup ps) (Piece.concat (Piece.expand lookup) ps) := by
  induction ps with
  | nil => exact .ok (Mark.madeOf_chars [])
  | cons p rest ih =>
      obtain ⟨here, behind⟩ := List.forall_mem_cons.1 sound
      have first := @readAlike_piece lookup p here
      have others := ih behind
      rw [Mark.ofPieces, Piece.concat]
      revert first others
      generalize Mark.ofPiece lookup p = front
      generalize Piece.expand lookup p = text
      generalize Mark.ofPieces lookup rest = back
      generalize Piece.concat (Piece.expand lookup) rest = tail
      intro first others
      cases first with
      | error cause => exact .error cause
      | ok madeOfFirst =>
          cases others with
          | error cause => exact .error cause
          | ok madeOfOthers => exact .ok (madeOfFirst.append madeOfOthers)

/-! ## Where the characters of a value come from -/

namespace Piece

/-- The quoting rules read a reference to a variable in a text. -/
def RefersTo (text : List Char) (name : String) : Prop :=
  ∃ r quoted, reference r quoted ∈ ofText false text ∧ name = String.ofList r.name

/-- The character that a piece is, unless its text comes from elsewhere. -/
def own? : Piece → Option Char
  | blank c | char c => some c
  | quote | dollar | reference _ _ | fault _ => none

theorem eq_of_own?_shielded {c d : Char} (h : (shielded d).own? = some c) : c = d := by
  unfold shielded at h
  split at h
  · cases h
  · exact (Option.some.inj h).symm

/-- A piece that is a character stands in the text. -/
theorem mem_of_own? {quoted : Bool} {s : List Char} {p : Piece} {c : Char}
    (member : p ∈ ofText quoted s) (own : p.own? = some c) : c ∈ s := by
  fun_induction ofText quoted s with
  | case1 =>
      obtain rfl := List.mem_singleton.1 member
      cases own
  | case2 => cases member
  | case3 =>
      obtain rfl := List.mem_singleton.1 member
      cases own
  | case4 =>
      obtain rfl := List.mem_singleton.1 member
      obtain rfl := Option.some.inj own
      exact List.mem_cons_self
  | case5 quoted escaped rest ih =>
      apply List.mem_cons_of_mem
      rcases List.mem_cons.1 member with rfl | behind
      · rw [eq_of_own?_shielded own]
        exact List.mem_cons_self
      · exact List.mem_cons_of_mem _ (ih behind)
  | case6 =>
      obtain rfl := List.mem_singleton.1 member
      cases own
  | case7 quoted rest lone _ ih =>
      rcases List.mem_cons.1 member with rfl | behind
      · obtain rfl := Option.some.inj own
        exact List.mem_cons_self
      · exact List.mem_cons_of_mem _ (ih behind)
  | case8 quoted rest r after found shorter _ ih =>
      rcases List.mem_cons.1 member with rfl | behind
      · cases own
      · rw [(Reference.spelling_of_read found).1]
        exact List.mem_append_right _ (ih behind)
  | case9 rest _ _ ih => exact List.mem_cons_of_mem _ (ih member)
  | case10 quoted rest _ _ _ ih =>
      rcases List.mem_cons.1 member with rfl | behind
      · cases own
      · exact List.mem_cons_of_mem _ (ih behind)
  | case11 d rest _ _ _ ih =>
      rcases List.mem_cons.1 member with rfl | behind
      · obtain rfl := Option.some.inj own
        exact List.mem_cons_self
      · exact List.mem_cons_of_mem _ (ih behind)
  | case12 quoted rest _ closed _ _ _ _ ih =>
      apply List.mem_cons_of_mem
      rcases List.mem_append.1 member with inside | behind
      · rcases List.mem_cons.1 inside with rfl | inside
        · cases own
        · obtain ⟨d, within, rfl⟩ := List.mem_map.1 inside
          rw [eq_of_own?_shielded own]
          exact (List.takeWhile_sublist _).mem within
      · exact (List.dropWhile_sublist _).mem (List.mem_of_mem_drop (ih behind))
  | case13 =>
      obtain rfl := List.mem_singleton.1 member
      cases own
  | case14 quoted d rest _ _ _ _ _ ih =>
      rcases List.mem_cons.1 member with rfl | behind
      · have same : d = c := by
          split at own
          · exact Option.some.inj own
          · exact Option.some.inj own
        rw [same]
        exact List.mem_cons_self
      · exact List.mem_cons_of_mem _ (ih behind)

/-- Pieces that are no blanks, with values that hold none, have no blanks in their text. -/
theorem noBlank_of_concat_expand {ps : List Piece} {whole : List Char}
    (read : concat (expand lookup) ps = .ok whole)
    (own : ∀ p ∈ ps, ∀ c, p.own? = some c → isBlank c = false)
    (held : ∀ r quoted value, reference r quoted ∈ ps →
      lookup (String.ofList r.name) = .ok value → ∀ c ∈ value.toList, isBlank c = false) :
    ∀ c ∈ whole, isBlank c = false := by
  induction ps generalizing whole with
  | nil =>
      obtain rfl := Except.ok.inj read
      exact List.forall_mem_nil _
  | cons p rest ih =>
      obtain ⟨front, back, first, others, rfl⟩ := concat_cons_eq_ok read
      have behind := ih others (fun q member => own q (List.mem_cons_of_mem p member))
        (fun r quoted value member => held r quoted value (List.mem_cons_of_mem p member))
      refine List.forall_mem_append.2 ⟨?_, behind⟩
      have here := own p List.mem_cons_self
      cases p with
      | blank c =>
          obtain rfl := Except.ok.inj first
          exact List.forall_mem_singleton.2 (here c rfl)
      | quote =>
          obtain rfl := Except.ok.inj first
          exact List.forall_mem_nil _
      | char c =>
          obtain rfl := Except.ok.inj first
          exact List.forall_mem_singleton.2 (here c rfl)
      | dollar =>
          obtain rfl := Except.ok.inj first
          exact List.forall_mem_singleton.2 (by decide)
      | reference r quoted =>
          obtain ⟨value, found, rfl⟩ := exists_of_map_eq_ok first
          exact held r quoted value List.mem_cons_self found
      | fault cause => cases first

end Piece

/-! ## Lines and values -/

/-- The words of a text and its value follow the same rules. Either both readings fail for the
same reason, or both succeed. Then the words one behind the other are the value, except for
blanks, and a text without blanks that refers to no value with a blank is one word, its value,
unless both are empty. -/
theorem splitLine_agrees_with_eagerValue (scope : Scope) (text : List Char) :
    (∃ cause, splitLine scope text = .error cause ∧ eagerValue scope text = .error cause) ∨
    ∃ words value, splitLine scope text = .ok words ∧ eagerValue scope text = .ok value ∧
      Text.withoutBlanks (words.flatMap String.toList) = Text.withoutBlanks value.toList ∧
      ((∀ c ∈ text, isBlank c = false) →
        (∀ name held, Piece.RefersTo text name → scope.resolve name = .ok (some held) →
          ∀ c ∈ held.toList, isBlank c = false) →
        words = [value] ∨ words = [] ∧ value = "") := by
  have alike := @readAlike_pieces scope.lookup _ (@Piece.isSound_of_mem_ofText false text)
  rw [splitLine_eq, eagerValue_eq]
  revert alike
  generalize marked : Mark.ofPieces scope.lookup (Piece.ofText false text) = marks
  generalize read : Piece.concat (Piece.expand scope.lookup) (Piece.ofText false text) = value
  intro alike
  cases alike with
  | error cause => exact .inl ⟨cause, rfl, rfl⟩
  | @ok marks value madeOf =>
      refine .inr
        ⟨(Mark.gather none marks).map String.ofList, String.ofList value, rfl, rfl, ?_, ?_⟩
      · have lossless : ((Mark.gather none marks).map String.ofList).flatMap String.toList =
            Mark.content marks := by
          simpa [List.flatMap_map, List.flatMap_def] using Mark.flatten_gather none marks
        rw [lossless, String.toList_ofList, madeOf.solid]
      · intro noBlank noBlankHeld
        have solid : ∀ c ∈ value, isBlank c = false := by
          apply Piece.noBlank_of_concat_expand read
          · intro p member c own
            exact noBlank c (Piece.mem_of_own? member own)
          · intro r quoted held member found
            exact noBlankHeld _ held ⟨r, quoted, member, rfl⟩ (Scope.required_eq_ok_iff.1 found)
        obtain ⟨noGap, same⟩ := madeOf.whole solid
        rcases Mark.gather_of_noGap noGap with one | ⟨nothing, empty⟩
        · left
          rw [one, same]
          rfl
        · right
          rw [nothing, ← same, empty]
          exact ⟨rfl, rfl⟩

/-- A quoted reference to an empty text is a word, a bare one is none. -/
example :
    let scope : Scope := NameMap.ofList [("x", .eager "")]
    splitLine scope "\"$x\"".toList = .ok [""] ∧ splitLine scope "$x".toList = .ok [] ∧
      eagerValue scope "$x".toList = .ok "" := by
  decide +kernel

end PlotScript
