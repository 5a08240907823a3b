import PlotScript.Proofs.CommandFile.Layout

/-!
# Groups of physical lines

Joining lines neither loses nor repeats nor moves a physical line. The physical lines of a file
are cut from first to last into groups: each line of a script block is a group of its own, and
outside script blocks a group ends with the first line that is not continued. Every group is
stored as one logical line, which carries the number of the last physical line of the group.
-/

namespace PlotScript.Line

/-- Physical lines that are stored as one logical line. -/
inductive Group where
  /-- a line of a script block, or the one that closes it -/
  | asItIs (raw : List Char)
  /-- lines that are continued, and the one behind them -/
  | joined (held : List (List Char)) (last : List Char)

namespace Group

def physical : Group → List (List Char)
  | asItIs raw => [raw]
  | joined held last => held ++ [last]

/-- What the physical lines say together: each of them without the backslash that continues it. -/
def joinedText (held : List (List Char)) (last : List Char) : List Char :=
  (held ++ [last]).flatMap uncontinued

/-- The text that is stored. A line of a script block is stored as it is. -/
def text : Group → List Char
  | asItIs raw => raw
  | joined held last => Text.trimEnd (joinedText held last)

/-- Whether the line behind a group is in a script block. -/
def entersScript : Group → Bool
  | asItIs raw => Text.trim raw ≠ "ruby end".toList
  | joined held last => Text.trim (joinedText held last) = "ruby".toList

/-- The logical line of a group with `above` physical lines above it. -/
def line (above : Nat) (g : Group) : Line :=
  ofChars (above + g.physical.length) g.text

/-- The logical lines of groups that stand one behind the other. -/
def lines (above : Nat) : List Group → List Line
  | [] => []
  | g :: rest => g.line above :: lines (above + g.physical.length) rest

end Group

/-- Physical lines are cut into groups. Lines at the end of the file that are nothing but
backslashes make no group: there is nothing to continue them with. -/
inductive Cut : Bool → List (List Char) → List Group → List (List Char) → Prop
  | done (inScript : Bool) : Cut inScript [] [] []
  | dropped {raws : List (List Char)} (only : ∀ raw ∈ raws, raw = ['\\']) : Cut false raws [] raws
  | asItIs {raw : List Char} {behind dropped : List (List Char)} {groups : List Group}
      (others : Cut (Group.asItIs raw).entersScript behind groups dropped) :
      Cut true (raw :: behind) (.asItIs raw :: groups) dropped
  | joined {held : List (List Char)} {last : List Char} {behind dropped : List (List Char)}
      {groups : List Group} (goOn : ∀ raw ∈ held, raw.getLast? = some '\\')
      (ends : last.getLast? ≠ some '\\' ∨ behind = [])
      (others : Cut (Group.joined held last).entersScript behind groups dropped) :
      Cut false (held ++ last :: behind) (.joined held last :: groups) dropped

/-! ## What a cut accounts for -/

namespace Cut

variable {inScript : Bool} {physical dropped : List (List Char)} {groups : List Group}

/-- Every physical line is in one group, in its place. -/
theorem flatMap_physical (cut : Cut inScript physical groups dropped) :
    groups.flatMap Group.physical ++ dropped = physical := by
  induction cut with
  | done => rfl
  | dropped => rfl
  | asItIs _ ih =>
      rw [List.flatMap_cons, List.append_assoc, ih, Group.physical, List.singleton_append]
  | joined _ _ _ ih =>
      rw [List.flatMap_cons, List.append_assoc, ih, Group.physical, List.append_assoc,
        List.singleton_append]

theorem eq_backslash_of_mem_dropped (cut : Cut inScript physical groups dropped) {raw : List Char}
    (member : raw ∈ dropped) : raw = ['\\'] := by
  induction cut with
  | done => cases member
  | dropped only => exact only raw member
  | asItIs _ ih => exact ih member
  | joined _ _ _ ih => exact ih member

end Cut

namespace Group

theorem length_physical_pos (g : Group) : 0 < g.physical.length := by
  cases g with
  | asItIs raw => exact Nat.one_pos
  | joined held last =>
      rw [physical, List.length_append, List.length_singleton]
      omega

theorem number_of_mem_lines {above : Nat} {groups : List Group} {l : Line}
    (member : l ∈ lines above groups) :
    above < l.number ∧ l.number ≤ above + (groups.flatMap physical).length := by
  induction groups generalizing above with
  | nil => cases member
  | cons g rest ih =>
      have positive := g.length_physical_pos
      rw [List.flatMap_cons, List.length_append]
      rcases List.mem_cons.1 member with rfl | member
      · show above < above + g.physical.length ∧ above + g.physical.length ≤ _
        omega
      · have := ih member
        omega

theorem lines_pairwise (above : Nat) (groups : List Group) :
    (lines above groups).Pairwise fun a b => a.number < b.number := by
  induction groups generalizing above with
  | nil => exact .nil
  | cons g rest ih => exact .cons (fun l member => (number_of_mem_lines member).1) (ih _)

/-- A logical line is that of a group, numbered as the last physical line of the group. -/
theorem exists_of_mem_lines {above : Nat} {groups : List Group} {l : Line}
    (member : l ∈ lines above groups) :
    ∃ before g behind, groups = before ++ g :: behind ∧
      l = g.line (above + (before.flatMap physical).length) := by
  induction groups generalizing above with
  | nil => cases member
  | cons g rest ih =>
      rcases List.mem_cons.1 member with rfl | member
      · exact ⟨[], g, rest, rfl, rfl⟩
      · obtain ⟨before, other, behind, rfl, rfl⟩ := ih member
        refine ⟨g :: before, other, behind, rfl, ?_⟩
        rw [List.flatMap_cons, List.length_append, Nat.add_assoc]

/-- A group outside script blocks opens one exactly if its joined text says so. -/
theorem statement_line_joined_iff (above : Nat) (held : List (List Char)) (last : List Char) :
    ((joined held last).line above).statement = .scriptOpen ↔
      (joined held last).entersScript = true := by
  rw [line, statement, ofChars, String.toList_ofList, Statement.classify_eq_scriptOpen_iff, text,
    Text.trim_trimEnd, entersScript, decide_eq_true_iff]

end Group

/-! ## Every file is cut into groups -/

theorem continued?_isSome_iff {raw : List Char} :
    (continued? raw).isSome = true ↔ raw.getLast? = some '\\' := by
  unfold continued?
  split
  · rename_i continues
    simp [continues]
  · rename_i ended
    simp [ended]

/-- A continued line that holds nothing is a backslash. -/
theorem eq_backslash_of_uncontinued {raw : List Char} (continues : (continued? raw).isSome = true)
    (nothing : uncontinued raw = []) : raw = ['\\'] := by
  have isLast := continued?_isSome_iff.1 continues
  rw [uncontinued, continued?, if_pos isLast, Option.getD_some] at nothing
  rw [← List.dropLast_append_getLast? _ isLast, nothing]
  rfl

theorem join_asItIs (number : Nat) (raw : List Char) (behind : List (List Char)) :
    let g := Group.asItIs raw
    join true [] number (raw :: behind) =
      g.line number :: join g.entersScript [] (number + g.physical.length) behind := by
  intro g
  have enters : (!closesScript raw) = g.entersScript := by
    rw [Group.entersScript, closesScript, decide_not]
  rw [join, if_pos rfl, enters]
  rfl

theorem join_joined {held : List (List Char)} {last : List Char} {behind : List (List Char)}
    (goOn : ∀ raw ∈ held, (continued? raw).isSome = true)
    (ends : continued? last = none ∨
      behind = [] ∧ (held ++ [last]).flatMap uncontinued ≠ []) (number : Nat) :
    let g := Group.joined held last
    join false [] number (held ++ last :: behind) =
      g.line number :: join g.entersScript [] (number + g.physical.length) behind := by
  intro g
  have logical := (@Remainder.Begins.intro number _ _ _ goOn ends).logical
  have count : number + g.physical.length = number + held.length + 1 := by
    rw [Group.physical, List.length_append]
    rfl
  have same : ofChars (number + held.length + 1)
      (Text.trimEnd ((held ++ [last]).flatMap uncontinued)) = g.line number := by
    rw [Group.line, count]
    rfl
  have enters : decide ((g.line number).statement = .scriptOpen) = g.entersScript :=
    Bool.eq_iff_iff.2 (decide_eq_true_iff.trans (Group.statement_line_joined_iff ..))
  rw [same, enters] at logical
  rw [count]
  exact logical

/-- The joining of lines goes through a file group by group. -/
theorem exists_cut (inScript : Bool) (number : Nat) (physical : List (List Char)) :
    ∃ groups dropped, Cut inScript physical groups dropped ∧
      join inScript [] number physical = Group.lines number groups := by
  -- behind a group there are fewer lines
  induction length : physical.length using Nat.strongRecOn
    generalizing inScript number physical with
  | ind n ih =>
      subst length
      cases inScript with
      | true =>
          cases physical with
          | nil => exact ⟨[], [], .done true, rfl⟩
          | cons raw behind =>
              let g := Group.asItIs raw
              obtain ⟨groups, dropped, cut, joined⟩ := ih behind.length (Nat.lt_succ_self _)
                g.entersScript (number + g.physical.length) behind rfl
              refine ⟨g :: groups, dropped, .asItIs cut, ?_⟩
              rw [join_asItIs, joined]
              rfl
      | false =>
          rcases Remainder.exists_begins ⟨number, physical⟩ with ⟨first, rest, begins⟩ |
            ⟨goOn, nothing⟩
          · have shorter := begins.length_lt
            obtain ⟨goOn, ends⟩ := begins
            rename_i held last behind
            let g := Group.joined held last
            obtain ⟨groups, dropped, cut, joined⟩ := ih behind.length shorter g.entersScript
              (number + g.physical.length) behind rfl
            refine ⟨g :: groups, dropped, .joined ?_ ?_ cut, ?_⟩
            · exact fun raw member => continued?_isSome_iff.1 (goOn raw member)
            · refine ends.imp (fun ended isLast => ?_) And.left
              rw [← continued?_isSome_iff, ended] at isLast
              cases isLast
            · rw [join_joined goOn ends, joined]
              rfl
          · refine ⟨[], physical, .dropped fun raw member => ?_, ?_⟩
            · exact eq_backslash_of_uncontinued (goOn raw member)
                (List.flatMap_eq_nil_iff.1 nothing raw member)
            · exact Remainder.logical_of_continued goOn nothing

/-- A logical line of a file, with the group of physical lines that it is made of: its number is
that of the last one. -/
def IsStored (physical : List (List Char)) (l : Line) : Prop :=
  ∃ groups dropped before g behind, Cut false physical groups dropped ∧
    groups = before ++ g :: behind ∧ l = g.line (before.flatMap Group.physical).length

theorem isStored_of_mem_ofText {text : List Char} {l : Line} (member : l ∈ ofText text) :
    IsStored (Text.lines text) l := by
  obtain ⟨groups, dropped, cut, stored⟩ := exists_cut false 0 (Text.lines text)
  have stored : ofText text = Group.lines 0 groups := stored
  rw [stored] at member
  obtain ⟨before, g, behind, parts, rfl⟩ := Group.exists_of_mem_lines member
  refine ⟨groups, dropped, before, g, behind, cut, parts, ?_⟩
  rw [Nat.zero_add]

theorem ofText_pairwise (text : List Char) :
    (ofText text).Pairwise fun a b => a.number < b.number := by
  obtain ⟨groups, dropped, -, stored⟩ := exists_cut false 0 (Text.lines text)
  exact (show ofText text = Group.lines 0 groups from stored) ▸ Group.lines_pairwise 0 groups

theorem number_of_mem_ofText {text : List Char} {l : Line} (member : l ∈ ofText text) :
    1 ≤ l.number ∧ l.number ≤ (Text.lines text).length := by
  obtain ⟨groups, dropped, cut, stored⟩ := exists_cut false 0 (Text.lines text)
  have stored : ofText text = Group.lines 0 groups := stored
  rw [stored] at member
  have bounds := Group.number_of_mem_lines member
  rw [← cut.flatMap_physical, List.length_append]
  omega

/-- Joining lines accounts for every physical line of a text. The lines are cut into groups one
behind the other, where only lines at the end that are nothing but backslashes may be left over.
Each group is stored as one logical line, and nothing else is stored: the line carries the number
of the last physical line of its group, so the numbers increase and are those of physical lines,
and it opens a script block exactly if it stands outside one and the joined text of its group is
the opening word. -/
theorem ofText_accounts_for_lines (text : List Char) :
    ∃ groups dropped, Cut false (Text.lines text) groups dropped ∧
      groups.flatMap Group.physical ++ dropped = Text.lines text ∧
      (∀ raw ∈ dropped, raw = ['\\']) ∧
      ofText text = Group.lines 0 groups ∧
      (ofText text).Pairwise (fun a b => a.number < b.number) ∧
      (∀ l ∈ ofText text, 1 ≤ l.number ∧ l.number ≤ (Text.lines text).length) ∧
      ∀ held last, Group.joined held last ∈ groups → ∀ above,
        ((Group.joined held last).line above).statement = .scriptOpen ↔
          Text.trim ((held ++ [last]).flatMap uncontinued) = "ruby".toList := by
  obtain ⟨groups, dropped, cut, stored⟩ := exists_cut false 0 (Text.lines text)
  refine ⟨groups, dropped, cut, cut.flatMap_physical, fun raw => cut.eq_backslash_of_mem_dropped,
    stored, ofText_pairwise text, fun l => number_of_mem_ofText, fun held last _ above => ?_⟩
  rw [Group.statement_line_joined_iff, Group.entersScript, decide_eq_true_iff]
  rfl

end PlotScript.Line
