import Mathlib.Data.List.DropRight
import PlotScript.Text.Blank
import PlotScript.Text.Lines

/-!
# Trimmed texts and lines

Texts that trimming leaves alone, trimming what is trimmed already, and the lines of a
text that is one line or is cut between two lines.
-/

namespace PlotScript.Text

/-- Trimming at the end leaves alone what does not end with a blank. -/
theorem trimEnd_eq_self_iff {s : List Char} :
    trimEnd s = s ↔ ∀ c, s.getLast? = some c → isBlank c = false := by
  rw [trimEnd, List.reverse_eq_iff, List.getLast?_eq_head?_reverse]
  cases s.reverse with
  | nil => simp
  | cons d front =>
      simp only [List.head?_cons, Option.some.injEq, forall_eq']
      constructor
      · intro kept
        have first := List.head?_dropWhile_not isBlank (d :: front)
        rw [kept] at first
        exact first
      · intro notBlank
        exact List.dropWhile_cons_of_neg (by simp [notBlank])

/-- A text that neither begins nor ends with a blank. -/
structure Tight (s : List Char) : Prop where
  first : ∀ c, s.head? = some c → isBlank c = false
  last : ∀ c, s.getLast? = some c → isBlank c = false

namespace Tight

variable {s : List Char}

theorem trimStart (h : Tight s) : trimStart s = s := by
  cases s with
  | nil => rfl
  | cons c rest => exact List.dropWhile_cons_of_neg (by simp [h.first c rfl])

theorem trimEnd (h : Tight s) : trimEnd s = s :=
  trimEnd_eq_self_iff.2 h.last

theorem trim (h : Tight s) : trim s = s := by
  rw [Text.trim, h.trimStart, h.trimEnd]

/-- A text without blanks has none at its ends. -/
theorem of_noBlank (h : ∀ c ∈ s, isBlank c = false) : Tight s :=
  ⟨fun c hc => h c (List.mem_of_head? hc), fun c hc => h c (List.mem_of_getLast? hc)⟩

end Tight

/-! ## Trimming twice -/

/-- The blanks at the end of a text reach into its first character only if nothing else
is left behind it. -/
theorem trimEnd_cons (c : Char) (rest : List Char) :
    trimEnd (c :: rest) =
      if (trimEnd rest).isEmpty then (if isBlank c then [] else [c]) else c :: trimEnd rest := by
  rw [trimEnd, List.reverse_cons, List.dropWhile_append, trimEnd]
  cases reversed : rest.reverse.dropWhile isBlank with
  | nil =>
      by_cases blank : isBlank c = true
      · simp [blank]
      · simp [blank]
  | cons d others => simp

/-- Trimming stops at a character that is no blank. -/
theorem trimEnd_append (front : List Char) {c : Char} (notBlank : isBlank c = false)
    (rest : List Char) : trimEnd (front ++ c :: rest) = front ++ c :: trimEnd rest := by
  induction front with
  | nil =>
      rw [List.nil_append, List.nil_append, trimEnd_cons, notBlank]
      split
      · rename_i nothing
        rw [List.isEmpty_iff.1 nothing]
        rfl
      · rfl
  | cons d front ih =>
      rw [List.cons_append, List.cons_append, trimEnd_cons, ih, if_neg (by simp)]

theorem trimEnd_trimEnd (s : List Char) : trimEnd (trimEnd s) = trimEnd s := by
  rw [trimEnd, trimEnd, List.reverse_reverse, List.dropWhile_idempotent]

/-- It does not matter at which end the trimming begins. -/
theorem trimStart_trimEnd (s : List Char) : trimStart (trimEnd s) = trim s := by
  induction s with
  | nil => rfl
  | cons c rest ih =>
      by_cases blank : isBlank c = true
      · have shorter : ∀ others, trimStart (c :: others) = trimStart others := fun others =>
          List.dropWhile_cons_of_pos blank
        rw [trim, shorter, ← trim, ← ih, trimEnd_cons]
        split
        · rename_i nothing
          rw [List.isEmpty_iff.1 nothing]
        · exact shorter _
      · have kept : ∀ others, trimStart (c :: others) = c :: others := fun others =>
          List.dropWhile_cons_of_neg blank
        have notBlank : isBlank c = false := Bool.eq_false_iff.2 blank
        have first : trimEnd (c :: rest) = c :: trimEnd rest := trimEnd_append [] notBlank rest
        rw [trim, kept, first, kept]

/-- What is left without the blanks at both ends does not depend on those at the end. -/
theorem trim_trimEnd (s : List Char) : trim (trimEnd s) = trim s := by
  rw [trim, trimStart_trimEnd, trim, trimEnd_trimEnd]

theorem trim_trim (s : List Char) : trim (trim s) = trim s := by
  rw [trim.eq_def s, trim_trimEnd, trim, trimStart, trimStart, List.dropWhile_idempotent]

/-- What trimming takes away at the end is blank. -/
theorem exists_of_trimEnd (s : List Char) :
    ∃ gap, s = trimEnd s ++ gap ∧ ∀ c ∈ gap, isBlank c = true := by
  refine ⟨(s.reverse.takeWhile isBlank).reverse, ?_, ?_⟩
  · rw [trimEnd, ← List.reverse_append, List.takeWhile_append_dropWhile, List.reverse_reverse]
  · intro c member
    exact List.all_eq_true.1 List.all_takeWhile c (List.mem_reverse.1 member)

/-- Trimming a text leaves a stretch of it. -/
theorem trim_within (s : List Char) : trim s <:+: s := by
  have front : trim s <+: trimStart s := by
    rw [← List.reverse_suffix, trim, trimEnd, List.reverse_reverse]
    exact List.dropWhile_suffix isBlank
  exact front.isInfix.trans (List.dropWhile_suffix isBlank).isInfix

/-- Trimming takes away nothing but blanks. -/
theorem mem_trim {s : List Char} {c : Char} (member : c ∈ s) (notBlank : isBlank c = false) :
    c ∈ trim s := by
  have behind : c ∈ trimStart s := by
    rw [← List.takeWhile_append_dropWhile (p := isBlank) (l := s), List.mem_append] at member
    rcases member with inGap | kept
    · have blank := List.mem_takeWhile_imp inGap
      rw [notBlank] at blank
      cases blank
    · exact kept
  obtain ⟨gap, whole, blanks⟩ := exists_of_trimEnd (trimStart s)
  rw [whole, List.mem_append] at behind
  rcases behind with kept | inGap
  · exact kept
  · have blank := blanks c inGap
    rw [notBlank] at blank
    cases blank

/-! ## Bare texts -/

/-- The characters of numbers, words and points in the display form. -/
def isBareChar (c : Char) : Bool :=
  c.isAlphanum || c == '-' || c == '.' || c == ',' || c == ':'

theorem isBareChar_of_isDigit {c : Char} (digit : c.isDigit = true) : isBareChar c = true := by
  simp [isBareChar, Char.isAlphanum, digit]

theorem toNat_of_isAlphanum {c : Char} (h : c.isAlphanum = true) :
    0x30 ≤ c.toNat ∧ c.toNat ≤ 0x39 ∨ 0x41 ≤ c.toNat ∧ c.toNat ≤ 0x5A ∨
      0x61 ≤ c.toNat ∧ c.toNat ≤ 0x7A := by
  rcases Bool.or_eq_true_iff.1 h with alpha | digit
  · rcases Bool.or_eq_true_iff.1 alpha with upper | lower
    · obtain ⟨low, high⟩ := of_decide_eq_true upper
      exact .inr (.inl ⟨UInt32.le_iff_toNat_le.1 low, UInt32.le_iff_toNat_le.1 high⟩)
    · obtain ⟨low, high⟩ := Bool.and_eq_true_iff.1 lower
      exact .inr (.inr ⟨UInt32.le_iff_toNat_le.1 (of_decide_eq_true low),
        UInt32.le_iff_toNat_le.1 (of_decide_eq_true high)⟩)
  · exact .inl (Char.isDigit_iff_toNat.1 digit)

/-- None of these characters is a blank or means anything between quotes. -/
theorem toNat_of_isBareChar {c : Char} (bare : isBareChar c = true) :
    0x2C ≤ c.toNat ∧ c.toNat ≤ 0x3A ∧ c.toNat ≠ 0x2F ∨
      0x41 ≤ c.toNat ∧ c.toNat ≤ 0x5A ∨ 0x61 ≤ c.toNat ∧ c.toNat ≤ 0x7A := by
  simp only [isBareChar, Bool.or_eq_true, beq_iff_eq] at bare
  rcases bare with (((alphanum | rfl) | rfl) | rfl) | rfl
  · have range := toNat_of_isAlphanum alphanum
    omega
  all_goals decide

theorem isBlank_of_isBareChar {c : Char} (bare : isBareChar c = true) : isBlank c = false := by
  have range := toNat_of_isBareChar bare
  unfold isBlank
  simp only [Bool.or_eq_false_iff, Bool.and_eq_false_iff, decide_eq_false_iff_not,
    beq_eq_false_iff_ne]
  omega

theorem isWordChar_of_isAlphanum {c : Char} (h : c.isAlphanum = true) : isWordChar c = true := by
  have range := toNat_of_isAlphanum h
  have ascii : c.toNat < 0x80 := by omega
  rw [isWordChar, if_pos ascii, h, Bool.true_or]

/-- Texts in characters of the display form. -/
def IsBare (s : List Char) : Prop :=
  ∀ c ∈ s, isBareChar c = true

instance (s : List Char) : Decidable (IsBare s) :=
  List.decidableBAll (isBareChar · = true) s

theorem IsBare.tight {s : List Char} (h : IsBare s) : Tight s :=
  Tight.of_noBlank fun c member => isBlank_of_isBareChar (h c member)

/-- Characters of words are no blanks. -/
theorem isBlank_of_isWordChar {c : Char} (h : isWordChar c = true) : isBlank c = false := by
  by_cases ascii : c.toNat < 0x80
  · rw [isWordChar, if_pos ascii, Bool.or_eq_true, beq_iff_eq] at h
    rcases h with alphanum | rfl
    · exact isBlank_of_isBareChar (by simp [isBareChar, alphanum])
    · decide
  · rw [isWordChar, if_neg ascii] at h
    -- the blanks above ASCII are few enough to look each of them up
    have outside : ∀ n ∈ [0x85, 0xA0, 0x1680, 0x2028, 0x2029, 0x202F, 0x205F, 0x3000] ++
        List.range' 0x2000 11, CharRanges.wordCharacters.all (fun r => n < r.1 || r.2 < n) := by
      decide +kernel
    rw [← Bool.not_eq_true]
    intro blank
    have listed : c.toNat ∈ [0x85, 0xA0, 0x1680, 0x2028, 0x2029, 0x202F, 0x205F, 0x3000] ++
        List.range' 0x2000 11 := by
      simp [isBlank, List.mem_range'_1] at blank ⊢
      omega
    have none := outside c.toNat listed
    obtain ⟨r, member, inside⟩ := List.any_eq_true.1 h
    have other := List.all_eq_true.1 none r member
    simp at inside other
    omega

/-! ## Fields -/

/-- No character but the blanks is lost by cutting a text into fields. -/
theorem flatten_fieldsFrom (word s : List Char) :
    (fieldsFrom word s).flatten = word ++ s.filter (!isBlank ·) := by
  induction s generalizing word with
  | nil => cases word <;> simp [fieldsFrom]
  | cons c rest ih =>
      cases blank : isBlank c with
      | true => cases word <;> simp [fieldsFrom, blank, ih]
      | false => simp [fieldsFrom, blank, ih]

theorem mem_flatten_fields {c : Char} (notBlank : isBlank c = false) {s : List Char} :
    c ∈ (fields s).flatten ↔ c ∈ s := by
  simp [fields, flatten_fieldsFrom, notBlank]

/-- The word that is being read goes up to the next blank. -/
theorem fieldsFrom_of_ne_nil {word : List Char} (h : word ≠ []) (s : List Char) :
    ∃ others, fieldsFrom word s = (word ++ s.takeWhile (!isBlank ·)) :: others := by
  induction s generalizing word with
  | nil => exact ⟨[], by simp [fieldsFrom, h]⟩
  | cons c rest ih =>
      cases blank : isBlank c with
      | true => exact ⟨fieldsFrom [] rest, by simp [fieldsFrom, blank, h]⟩
      | false =>
          obtain ⟨others, read⟩ :=
            ih (List.append_ne_nil_of_right_ne_nil word (List.cons_ne_nil c []))
          exact ⟨others, by simp [fieldsFrom, blank, read]⟩

/-- The first field of a text that does not begin with a blank. -/
theorem fields_of_head {c : Char} (h : isBlank c = false) (s : List Char) :
    ∃ others, fields (c :: s) = ((c :: s).takeWhile (!isBlank ·)) :: others := by
  obtain ⟨others, read⟩ := fieldsFrom_of_ne_nil (List.cons_ne_nil c []) s
  exact ⟨others, by simp [fields, fieldsFrom, h, read]⟩

/-! ## Separators -/

theorem splitAt_eq_splitOn (sep : Char) (s : List Char) : splitAt sep s = s.splitOn sep := by
  induction s with
  | nil => rfl
  | cons c rest ih =>
      rw [splitAt, List.splitOn_cons_eq_if_modifyHead, ih]
      by_cases same : c = sep
      · rw [if_pos same, if_pos (beq_iff_eq.2 same)]
      · rw [if_neg same, if_neg (mt beq_iff_eq.1 same)]
        cases pieces : rest.splitOn sep with
        | nil => exact absurd pieces (List.splitOn_ne_nil sep rest)
        | cons piece pieces => rfl

theorem splitAt_of_not_mem {sep : Char} {s : List Char} (h : sep ∉ s) : splitAt sep s = [s] := by
  rw [splitAt_eq_splitOn, List.splitOn_eq_singleton h]

/-- A separator between two texts parts them, whatever they hold. -/
theorem splitAt_append (sep : Char) (s t : List Char) :
    splitAt sep (s ++ sep :: t) = splitAt sep s ++ splitAt sep t := by
  simp only [splitAt_eq_splitOn, List.splitOn_append_cons_self]

/-- Parts without the separator are found again between the separators, and nothing else gives
them. -/
theorem splitAt_eq_iff {sep : Char} {s : List Char} {parts : List (List Char)}
    (nonempty : parts ≠ []) (without : ∀ p ∈ parts, sep ∉ p) :
    splitAt sep s = parts ↔ s = [sep].intercalate parts := by
  rw [splitAt_eq_splitOn]
  constructor
  · rintro rfl
    exact (List.intercalate_splitOn sep).symm
  · rintro rfl
    exact List.splitOn_intercalate sep without nonempty

theorem mem_of_mem_intercalate {c : Char} {sep : List Char} {parts : List (List Char)}
    (h : c ∈ sep.intercalate parts) : c ∈ sep ∨ ∃ part ∈ parts, c ∈ part := by
  induction parts with
  | nil => cases h
  | cons part rest ih =>
      cases rest with
      | nil =>
          rw [List.intercalate_singleton] at h
          exact .inr ⟨part, List.mem_cons_self, h⟩
      | cons next rest =>
          rw [List.intercalate_cons_cons, List.mem_append, List.mem_append] at h
          rcases h with (inPart | inSep) | behind
          · exact .inr ⟨part, List.mem_cons_self, inPart⟩
          · exact .inl inSep
          · exact (ih behind).imp_right fun ⟨other, member, inOther⟩ =>
              ⟨other, List.mem_cons_of_mem part member, inOther⟩

/-- Of two places of a separator in a text one is the first. -/
theorem cases_of_two_separators {sep : Char} {s a b r t : List Char} (first : s = a ++ sep :: r)
    (second : s = b ++ sep :: t) :
    a = b ∨ (∃ between, b = a ++ sep :: between) ∨ ∃ between, a = b ++ sep :: between := by
  rw [first] at second
  rcases List.append_eq_append_iff.1 second with ⟨between, rfl, rest⟩ | ⟨between, rfl, rest⟩
  · cases between with
    | nil => exact .inl (List.append_nil a).symm
    | cons c between => exact .inr (.inl ⟨between, by rw [(List.cons.inj rest).1]⟩)
  · cases between with
    | nil => exact .inl (List.append_nil b)
    | cons c between => exact .inr (.inr ⟨between, by rw [(List.cons.inj rest).1]⟩)

/-- The first separator parts a text in one way. -/
theorem append_separator_inj {sep : Char} {a b r t : List Char} (first : sep ∉ a) (second : sep ∉ b)
    (same : a ++ sep :: r = b ++ sep :: t) : a = b ∧ r = t := by
  rcases cases_of_two_separators same rfl with rfl | ⟨between, rfl⟩ | ⟨between, rfl⟩
  · exact ⟨rfl, (List.cons.inj (List.append_cancel_left same)).2⟩
  · exact absurd (List.mem_append_right b List.mem_cons_self) first
  · exact absurd (List.mem_append_right a List.mem_cons_self) second

theorem replaceFirst_of_not_mem {old new : Char} {s : List Char} (h : old ∉ s) :
    replaceFirst old new s = s := by
  induction s with
  | nil => rfl
  | cons c rest ih =>
      obtain ⟨other, others⟩ := not_or.1 (mt List.mem_cons.2 h)
      rw [replaceFirst, if_neg (Ne.symm other), ih others]

theorem replacePair_of_not_mem {first second single : Char} {s : List Char} (h : first ∉ s) :
    replacePair first second single s = s := by
  fun_induction replacePair first second single s with
  | case1 a b rest same ih => exact absurd (same.1 ▸ List.mem_cons_self) h
  | case2 a b rest different ih => rw [ih (fun member => h (List.mem_cons_of_mem _ member))]
  | case3 => rfl

theorem mem_replaceFirst {old new : Char} {s : List Char} (h : old ∈ s) :
    new ∈ replaceFirst old new s := by
  induction s with
  | nil => cases h
  | cons c rest ih =>
      rw [replaceFirst]
      split
      · exact List.mem_cons_self
      · rename_i other
        exact List.mem_cons_of_mem c (ih (List.mem_of_ne_of_mem (Ne.symm other) h))

/-! ## Lines -/

theorem linePieces_of_oneLine {s : List Char} (nonempty : s ≠ []) (oneLine : '\n' ∉ s) :
    linePieces s = [s] := by
  induction s with
  | nil => exact absurd rfl nonempty
  | cons c rest ih =>
      obtain ⟨notNewline, others⟩ := not_or.1 (mt List.mem_cons.2 oneLine)
      rw [linePieces, if_neg (Ne.symm notNewline)]
      cases rest with
      | nil => rfl
      | cons d rest => rw [ih (List.cons_ne_nil d rest) others]

theorem linePieces_of_newline {s : List Char} (oneLine : '\n' ∉ s) :
    linePieces (s ++ ['\n']) = [s ++ ['\n']] := by
  induction s with
  | nil => rfl
  | cons c rest ih =>
      obtain ⟨notNewline, others⟩ := not_or.1 (mt List.mem_cons.2 oneLine)
      rw [List.cons_append, linePieces, if_neg (Ne.symm notNewline), ih others]

/-- A newline ends the line in front of it. -/
theorem lines_of_newline {s : List Char} (oneLine : '\n' ∉ s) (noReturn : s.getLast? ≠ some '\r') :
    lines (s ++ ['\n']) = [s] := by
  have cut : dropLineEnd (s ++ ['\n']) = s := by
    have shape : (s ++ ['\n']).reverse = '\n' :: s.reverse := by simp
    rw [dropLineEnd, shape]
    split
    · rename_i line reversed
      have returned : s.getLast? = some '\r' := by
        rw [← List.head?_reverse, (List.cons.inj reversed).2, List.head?_cons]
      exact absurd returned noReturn
    · rename_i line _ reversed
      rw [← (List.cons.inj reversed).2, List.reverse_reverse]
    · rename_i other
      exact absurd rfl (other s.reverse)
  rw [lines, linePieces_of_newline oneLine, List.map_singleton, cut]

/-- A text without newlines is one line. -/
theorem lines_of_oneLine {s : List Char} (nonempty : s ≠ []) (oneLine : '\n' ∉ s) :
    lines s = [s] := by
  have kept : dropLineEnd s = s := by
    have noNewline : '\n' ∉ s.reverse := by simpa using oneLine
    unfold dropLineEnd
    split
    · rename_i reversed
      exact absurd (by simp [reversed]) noNewline
    · rename_i reversed
      exact absurd (by simp [reversed]) noNewline
    · rfl
  rw [lines, linePieces_of_oneLine nonempty oneLine, List.map_singleton, kept]

/-- A text without a last line that goes on: it is empty or ends with a newline. -/
def IsWholeLines (s : List Char) : Prop :=
  s = [] ∨ s.getLast? = some '\n'

/-- A text that is cut behind a newline has the lines of its two parts. -/
theorem linePieces_append {s : List Char} (ends : IsWholeLines s) (t : List Char) :
    linePieces (s ++ t) = linePieces s ++ linePieces t := by
  induction s with
  | nil => rfl
  | cons c rest ih =>
      have last : (c :: rest).getLast? = some '\n' := by
        rcases ends with empty | last
        · cases empty
        · exact last
      by_cases newline : c = '\n'
      · have restEnds : IsWholeLines rest := by
          cases rest with
          | nil => exact .inl rfl
          | cons d others => exact .inr (by rwa [List.getLast?_cons_cons] at last)
        rw [List.cons_append, linePieces, if_pos newline, linePieces, if_pos newline, ih restEnds]
        rfl
      · -- a line that goes on has its newline further behind
        cases rest with
        | nil => exact absurd (Option.some.inj last) newline
        | cons d others =>
            rw [List.getLast?_cons_cons] at last
            have pieces := ih (.inr last)
            rw [List.cons_append, linePieces, if_neg newline, pieces, linePieces.eq_def (c :: _)]
            simp only [if_neg newline]
            cases first : linePieces (d :: others) with
            | nil =>
                have lost := flatten_linePieces (d :: others)
                rw [first] at lost
                cases lost
            | cons piece others => rfl

theorem lines_append {s : List Char} (ends : IsWholeLines s) (t : List Char) :
    lines (s ++ t) = lines s ++ lines t := by
  rw [lines, linePieces_append ends, List.map_append]
  rfl

end PlotScript.Text
