import PlotScript.Proofs.CommandFile.CallLine
import PlotScript.Proofs.CommandFile.Statement
import PlotScript.Proofs.Variables.Quotation

/-!
# Lines of a name and some words

A bare name with at least one word behind it calls a command, unless the first
words look like the sign of an assignment.
-/

namespace PlotScript

open Text

/-- A word as it stands on a line behind the name of a command. -/
structure IsWordText (text : List Char) : Prop where
  nonempty : text ≠ []
  tight : Tight text
  oneLine : '\n' ∉ text
  notContinued : text.getLast? ≠ some '\\'
  noSign : Statement.beginsWithSign text = false
  /-- A question mark at the front is no sign that is cut off by a blank. -/
  notSoft : ∀ c rest, text = '?' :: c :: rest → isBlank c = false

/-- A name as it stands at the front of a line. -/
structure IsNameText (name : List Char) : Prop where
  begins : ∃ c rest, name = c :: rest ∧ Statement.isNameStart c = true
  letters : ∀ c ∈ name, Legacy.isCallNameChar c = true
  notFor : name ≠ "for".toList
  notRuby : name ≠ "ruby".toList

instance (name : List Char) : Decidable (IsNameText name) :=
  match name with
  | [] => isFalse fun named => by simpa using named.begins
  | c :: rest =>
      decidable_of_iff
        (Statement.isNameStart c = true ∧ (c :: rest).all Legacy.isCallNameChar = true ∧
          c :: rest ≠ "for".toList ∧ c :: rest ≠ "ruby".toList)
        ⟨fun ⟨start, letters, notFor, notRuby⟩ =>
          ⟨⟨c, rest, rfl, start⟩, List.all_eq_true.1 letters, notFor, notRuby⟩,
          fun ⟨⟨_, _, same, start⟩, letters, notFor, notRuby⟩ =>
            ⟨(List.cons.inj same).1 ▸ start, List.all_eq_true.2 letters, notFor, notRuby⟩⟩

namespace IsNameText

variable {name : List Char} (named : IsNameText name)
include named

theorem isAlphanum_or_hyphen {c : Char} (member : c ∈ name) : c.isAlphanum = true ∨ c = '-' := by
  have letter := named.letters c member
  simp only [Legacy.isCallNameChar, Bool.or_eq_true, Bool.and_eq_true, decide_eq_true_eq,
    beq_iff_eq] at letter
  rcases letter with (lower | digit) | hyphen
  · have isLower : c.isLower = true :=
      Bool.and_eq_true_iff.2 ⟨decide_eq_true lower.1, decide_eq_true lower.2⟩
    exact .inl (Bool.or_eq_true_iff.2 (.inl (Bool.or_eq_true_iff.2 (.inr isLower))))
  · exact .inl (Bool.or_eq_true_iff.2 (.inr digit))
  · exact .inr hyphen

theorem isBare : IsBare name := by
  intro c member
  rcases named.isAlphanum_or_hyphen member with alphanum | rfl
  · simp [isBareChar, alphanum]
  · decide

theorem isNameChar {c : Char} (member : c ∈ name) : Statement.isNameChar c = true := by
  rcases named.isAlphanum_or_hyphen member with alphanum | rfl
  · simp [Statement.isNameChar, isWordChar_of_isAlphanum alphanum]
  · decide

end IsNameText

/-! ## Ends of a line -/

/-- What follows the first text of a line is nothing or a blank. -/
theorem exists_spaced_tail (text : List Char) (texts : List (List Char)) :
    ∃ tail, spaced (text :: texts) = text ++ tail ∧ ∀ c, tail.head? = some c → c = ' ' := by
  cases texts with
  | nil => exact ⟨[], by simp [spaced], by simp⟩
  | cons next rest =>
      refine ⟨' ' :: spaced (next :: rest), spaced_cons_cons text next rest, ?_⟩
      rintro c ⟨⟩
      rfl

theorem spaced_ne_nil {text : List Char} {texts : List (List Char)} (nonempty : text ≠ []) :
    spaced (text :: texts) ≠ [] := by
  obtain ⟨tail, parted, -⟩ := exists_spaced_tail text texts
  rw [parted]
  exact List.append_ne_nil_of_left_ne_nil nonempty tail

/-- The last character of a line is that of one of its texts. -/
theorem exists_getLast?_spaced {texts : List (List Char)} (nonempty : ∀ t ∈ texts, t ≠ [])
    {c : Char} (last : (spaced texts).getLast? = some c) :
    ∃ t ∈ texts, t.getLast? = some c := by
  induction texts with
  | nil => cases last
  | cons text rest ih =>
      obtain ⟨first, others⟩ := List.forall_mem_cons.1 nonempty
      cases rest with
      | nil => exact ⟨text, List.mem_cons_self, by simpa [spaced] using last⟩
      | cons next rest =>
          obtain ⟨d, isLast⟩ : ∃ d, (spaced (next :: rest)).getLast? = some d :=
            ⟨_, List.getLast?_eq_some_getLast
              (spaced_ne_nil (List.forall_mem_cons.1 others).1)⟩
          rw [spaced_cons_cons, List.getLast?_append, List.getLast?_cons, isLast] at last
          obtain ⟨t, member, ends⟩ := ih others (isLast.trans last)
          exact ⟨t, List.mem_cons_of_mem _ member, ends⟩

/-! ## A line that calls a command -/

section Line

variable {name : List Char} {words : List (List Char)}

theorem takeName_spaced (named : IsNameText name) (rest : List Char) :
    Statement.takeName (name ++ ' ' :: rest) = some (name, ' ' :: rest) := by
  obtain ⟨c, letters, rfl, begins⟩ := named.begins
  have isName : Statement.IsName (c :: letters) :=
    ⟨c, letters, rfl, begins, fun d member => named.isNameChar (List.mem_cons_of_mem c member)⟩
  exact isName.takeName_append rest

/-- The words behind a name do not look like the sign of an assignment. -/
theorem beginsWithSign_spaced {word : List Char} (isWord : IsWordText word)
    (words : List (List Char)) :
    Statement.beginsWithSign (spaced (word :: words)) = false := by
  obtain ⟨tail, parted, blank⟩ := exists_spaced_tail word words
  rw [parted]
  exact Statement.beginsWithSign_append isWord.noSign blank

theorem beginsWithSign_question {s : List Char} (h : Statement.beginsWithSign s = false) :
    Statement.beginsWithSign ('?' :: s) = false := by
  rw [Statement.beginsWithSign_eq_false_iff] at h ⊢
  intro sign member front
  simp only [Statement.signs, List.mem_cons, List.not_mem_nil, or_false] at member
  rcases member with rfl | rfl | rfl | rfl
  · exact absurd (List.cons_prefix_cons.1 front).1 (by decide)
  · exact absurd (List.cons_prefix_cons.1 front).1 (by decide)
  · exact h "=" (by decide) (List.cons_prefix_cons.1 front).2
  · exact h ":=" (by decide) (List.cons_prefix_cons.1 front).2

/-- Words begin with a character that is no blank. -/
theorem exists_spaced_cons {word : List Char} (isWord : IsWordText word)
    (words : List (List Char)) :
    ∃ c rest, spaced (word :: words) = c :: rest ∧ isBlank c = false := by
  obtain ⟨tail, parted, -⟩ := exists_spaced_tail word words
  obtain ⟨c, rest, rfl⟩ := List.exists_cons_of_ne_nil isWord.nonempty
  exact ⟨c, rest ++ tail, parted, isWord.tight.first c rfl⟩

/-- Words that begin with a question mark go on without the sign of an
assignment, even if a blank follows the mark. -/
theorem beginsWithSign_behind {word rest : List Char}
    (isWord : ∀ w ∈ word :: words, IsWordText w)
    (soft : spaced (word :: words) = '?' :: rest) :
    Statement.beginsWithSign ('?' :: trimStart rest) = false := by
  obtain ⟨first, others⟩ := List.forall_mem_cons.1 isWord
  obtain ⟨c, letters, rfl⟩ := List.exists_cons_of_ne_nil first.nonempty
  have noSign := beginsWithSign_spaced first words
  obtain ⟨tail, parted, -⟩ := exists_spaced_tail (c :: letters) words
  rw [List.cons_append] at parted
  obtain ⟨rfl, isRest⟩ := List.cons.inj (parted.symm.trans soft)
  subst isRest
  cases letters with
  | cons d letters =>
      have notBlank := first.notSoft d letters rfl
      have kept : trimStart (d :: letters ++ tail) = d :: letters ++ tail :=
        List.dropWhile_cons_of_neg (by simp [notBlank])
      rw [kept, ← soft]
      exact noSign
  | nil =>
      -- the mark is a word of its own, so a sign could go on with the next word
      cases words with
      | nil =>
          have nothing : tail = [] := by simpa [spaced] using parted
          rw [nothing]
          decide
      | cons next more =>
          have second := others next List.mem_cons_self
          obtain ⟨d, behind, begins, notBlank⟩ := exists_spaced_cons second more
          have isTail : tail = ' ' :: spaced (next :: more) := by
            rw [spaced_cons_cons] at parted
            exact (List.cons.inj parted).2.symm
          have kept : trimStart ([] ++ tail) = spaced (next :: more) := by
            rw [List.nil_append, isTail, trimStart, List.dropWhile_cons_of_pos (by decide), begins]
            exact List.dropWhile_cons_of_neg (by simp [notBlank])
          rw [kept]
          exact beginsWithSign_question (beginsWithSign_spaced second more)

/-- A line of a name and some words ends neither in a blank nor in a backslash. -/
theorem last_spaced (named : IsNameText name) (isWord : ∀ w ∈ words, IsWordText w) {c : Char}
    (last : (spaced (name :: words)).getLast? = some c) : isBlank c = false ∧ c ≠ '\\' := by
  obtain ⟨d, letters, letters_eq, -⟩ := named.begins
  have nonempty : ∀ t ∈ name :: words, t ≠ [] :=
    List.forall_mem_cons.2 ⟨letters_eq ▸ List.cons_ne_nil d letters,
      fun w member => (isWord w member).nonempty⟩
  obtain ⟨t, member, ends⟩ := exists_getLast?_spaced nonempty last
  rcases List.mem_cons.1 member with rfl | member
  · have bare := named.isBare c (List.mem_of_getLast? ends)
    refine ⟨isBlank_of_isBareChar bare, ?_⟩
    rintro rfl
    exact absurd bare (by decide)
  · refine ⟨(isWord t member).tight.last c ends, ?_⟩
    rintro rfl
    exact (isWord t member).notContinued ends

theorem tight_spaced (named : IsNameText name) (isWord : ∀ w ∈ words, IsWordText w) :
    Tight (spaced (name :: words)) := by
  refine ⟨fun c first => ?_, fun c last => (last_spaced named isWord last).1⟩
  obtain ⟨d, letters, rfl, -⟩ := named.begins
  obtain ⟨tail, parted, -⟩ := exists_spaced_tail (d :: letters) words
  rw [parted] at first
  obtain rfl := Option.some.inj first
  exact isBlank_of_isBareChar (named.isBare d List.mem_cons_self)

theorem oneLine_spaced (named : IsNameText name) (isWord : ∀ w ∈ words, IsWordText w) :
    '\n' ∉ spaced (name :: words) := by
  intro newline
  rcases mem_of_mem_spaced newline with blank | ⟨t, member, here⟩
  · exact absurd blank (by decide)
  · rcases List.mem_cons.1 member with rfl | member
    · exact absurd (named.isBare _ here) (by decide)
    · exact (isWord t member).oneLine here

/-- The words behind a name do not make it an assignment. -/
theorem assignment?_spaced {word : List Char} (named : IsNameText name)
    (isWord : ∀ w ∈ word :: words, IsWordText w) :
    Statement.assignment? (spaced (name :: word :: words)) = none := by
  have start := (tight_spaced named isWord).trimStart
  have noSign := beginsWithSign_spaced (isWord word List.mem_cons_self) words
  have nameFirst := takeName_spaced named (spaced (word :: words))
  obtain ⟨c, rest, begins, notBlank⟩ := exists_spaced_cons (isWord word List.mem_cons_self) words
  rw [spaced_cons_cons, begins] at start ⊢
  rw [begins] at noSign nameFirst
  refine Statement.assignment?_eq_none notBlank nameFirst start noSign ?_
  rintro rfl
  exact beginsWithSign_behind isWord begins

/-- A bare name with words behind it calls a command. -/
theorem isCallLine_spaced {word : List Char} (named : IsNameText name)
    (isWord : ∀ w ∈ word :: words, IsWordText w) :
    IsCallLine (spaced (name :: word :: words)) := by
  have tight := tight_spaced named isWord
  refine ⟨oneLine_spaced named isWord, fun continued => (last_spaced named isWord continued).2 rfl,
    tight, ?_, ?_⟩
  · -- a bracket would have to follow the name at once
    have stops : ¬ Legacy.isCallNameChar ' ' = true := by decide
    rw [Legacy.isCall, tight.trimStart, spaced_cons_cons,
      List.dropWhile_append_of_pos named.letters, List.dropWhile_cons_of_neg stops]
    exact Bool.and_false _
  · have notAssigned := assignment?_spaced named isWord
    have nameEnds : (spaced (name :: word :: words)).takeWhile (!isBlank ·) = name := by
      have noBlank : ∀ d ∈ name, (!isBlank d) = true := fun d member => by
        rw [isBlank_of_isBareChar (named.isBare d member)]
        rfl
      rw [spaced_cons_cons, List.takeWhile_append_of_pos noBlank,
        List.takeWhile_cons_of_neg (by decide), List.append_nil]
    have notRuby := named.notRuby
    have notFor := named.notFor
    obtain ⟨c, letters, rfl, begins⟩ := named.begins
    have notComment : c ≠ '#' := by
      rintro rfl
      exact absurd begins (by decide)
    rw [spaced_cons_cons] at tight notAssigned nameEnds ⊢
    exact Statement.classify_eq_command tight notComment (nameEnds ▸ notRuby)
      (nameEnds ▸ notFor) notAssigned

end Line

end PlotScript
