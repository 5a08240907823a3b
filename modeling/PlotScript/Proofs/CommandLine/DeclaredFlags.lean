import PlotScript.Proofs.CommandLine.Cutting

/-!
# The flags that a table declares

A table is accepted exactly when no flag is claimed twice. Short flags and long ones are
claimed apart from each other, and a switch claims the flag that turns it off as well. The
flags of an accepted table are those that its commands claim, and each of them reaches the
command that claims it. A table that is refused is refused for the first claim of a flag that
a claim in front of it has taken.
-/

namespace PlotScript

/-! ## Claims -/

namespace Command

/-- The short flag that a command claims, with what it takes. -/
def shortClaims (c : Command) : List (Char × Arity) :=
  c.shortFlag.toList.map fun letter => (letter, c.arity)

/-- The long flags that a command claims, with what they take: its own one and, for a switch, the
one that turns it off. -/
def longClaims (c : Command) : List (String × Arity) :=
  match c.longFlag with
  | none => []
  | some name =>
      if c.isSwitch then [(name, .switchOn), ("no-" ++ name, .switchOff)]
      else [(name, .fixed c.parameters.length)]

/-- All flags that a command claims, the short one first. -/
def claims (c : Command) : List Flag :=
  c.shortClaims.map (fun claim => .short claim.1) ++ c.longClaims.map fun claim => .long claim.1

end Command

namespace CommandTable

def shortClaims (t : CommandTable) : List (Char × Arity) :=
  t.commands.flatMap Command.shortClaims

def longClaims (t : CommandTable) : List (String × Arity) :=
  t.commands.flatMap Command.longClaims

/-- The claims of all commands in the order of the table. -/
def claims (t : CommandTable) : List (Flag × Command) :=
  t.commands.flatMap fun c => c.claims.map fun flag => (flag, c)

/-- No short flag is claimed twice, and no long one is. -/
structure HasDistinctFlags (t : CommandTable) : Prop where
  short : (t.shortClaims.map (·.1)).Nodup
  long : (t.longClaims.map (·.1)).Nodup

/-- A claim of a flag that a claim in front of it has taken, where no two claims in front of it
are of one flag. -/
def FirstClash (t : CommandTable) (flag : Flag) (c previous : Command) : Prop :=
  ∃ earlier later, t.claims = earlier ++ (flag, c) :: later ∧ (earlier.map (·.1)).Nodup ∧
    (flag, previous) ∈ earlier

end CommandTable

/-- The flags of an index are those that a table claims, in increasing order and each with what
it takes. -/
structure FlagIndex.Lists (index : FlagIndex) (t : CommandTable) : Prop where
  short : index.shortFlags.Perm t.shortClaims
  shortSorted : index.shortFlags.Pairwise (·.1 < ·.1)
  shortNotOff : ∀ claim ∈ index.shortFlags, claim.2 ≠ .switchOff
  long : index.longFlags.Perm t.longClaims
  longSorted : index.longFlags.Pairwise (·.1 < ·.1)

/-- The token of a long flag makes a call of a command. -/
structure CommandLine.Dispatches (line : CommandLine) (name : String) (arity : Arity)
    (c : Command) : Prop where
  /-- With its arguments alone behind it the flag is this call and nothing else. -/
  alone : ∀ (s : Recorder) {positional arguments : List String},
    arity.Spells positional arguments →
      s.record (line.interpret (("--" ++ name) :: positional)) =
        (.ok [], s.called ⟨c.name, arguments, NameMap.empty, ⟨"--" ++ name, "command line", 0, 1⟩⟩)
  /-- With any other tokens behind its arguments the flag makes this call first, if the options
  among these tokens can be read. -/
  first : ∀ (s : Recorder) {positional arguments behind : List String} {taken : Harvest},
    arity.Spells positional arguments → harvestOptions c behind = .ok taken →
      ∃ calls, (s.record (line.interpret (("--" ++ name) :: (positional ++ behind)))).2.calls =
        s.calls ++
          ⟨c.name, arguments, taken.options, ⟨"--" ++ name, "command line", 0, 1⟩⟩ :: calls
  /-- If these options cannot be read, no call is made. -/
  unread : ∀ (s : Recorder) {positional arguments behind : List String} {cause : Cause},
    arity.Spells positional arguments → harvestOptions c behind = .error cause →
      s.record (line.interpret (("--" ++ name) :: (positional ++ behind))) =
        (.error cause.unplaced, s)

/-! ## Short flags and long ones -/

/-- The letter of a short flag. -/
def Flag.letter? : Flag → Option Char
  | short letter => some letter
  | long _ => none

/-- The name of a long flag. -/
def Flag.name? : Flag → Option String
  | short _ => none
  | long name => some name

/-- The flags of one kind, by what makes them, are those among all flags. -/
theorem Flag.mem_filterMap_iff {α : Type} {part : Flag → Option α} {whole : α → Flag}
    (inverse : ∀ flag a, part flag = some a ↔ flag = whole a) {flags : List Flag} {a : α} :
    a ∈ flags.filterMap part ↔ whole a ∈ flags := by
  rw [List.mem_filterMap]
  constructor
  · rintro ⟨flag, member, found⟩
    exact (inverse flag a).1 found ▸ member
  · exact fun member => ⟨whole a, member, (inverse _ a).2 rfl⟩

theorem Flag.letter?_eq_some_iff (flag : Flag) (letter : Char) :
    flag.letter? = some letter ↔ flag = short letter := by
  cases flag with
  | short other => simp [letter?]
  | long name => simp [letter?]

theorem Flag.name?_eq_some_iff (flag : Flag) (name : String) :
    flag.name? = some name ↔ flag = long name := by
  cases flag with
  | short letter => simp [name?]
  | long other => simp [name?]

/-- A short flag is never a long one, so each kind can be looked at by itself. -/
theorem Flag.nodup_iff (flags : List Flag) :
    flags.Nodup ↔ (flags.filterMap letter?).Nodup ∧ (flags.filterMap name?).Nodup := by
  induction flags with
  | nil => simp
  | cons flag flags ih =>
      cases flag with
      | short letter =>
          show _ ↔ (letter :: flags.filterMap letter?).Nodup ∧ (flags.filterMap name?).Nodup
          rw [List.nodup_cons, List.nodup_cons, mem_filterMap_iff letter?_eq_some_iff, ih,
            and_assoc]
      | long name =>
          show _ ↔ (flags.filterMap letter?).Nodup ∧ (name :: flags.filterMap name?).Nodup
          rw [List.nodup_cons, List.nodup_cons, mem_filterMap_iff name?_eq_some_iff, ih,
            and_left_comm]

/-! ## The claims of a table -/

/-- The entry of a short flag. -/
def FlagEntry.short? (entry : FlagEntry) : Option (Char × Arity) :=
  match entry.flag with
  | .short letter => some (letter, entry.arity)
  | .long _ => none

/-- The entry of a long flag. -/
def FlagEntry.long? (entry : FlagEntry) : Option (String × Arity) :=
  match entry.flag with
  | .short _ => none
  | .long name => some (name, entry.arity)

namespace Command

variable (c : Command)

theorem arity_ne_switchOff : c.arity ≠ .switchOff := by
  unfold arity
  split
  · exact nofun
  · exact nofun

theorem map_flagEntries :
    c.flagEntries.map (fun entry => (entry.flag, entry.command)) =
      c.claims.map fun flag => (flag, c) := by
  unfold flagEntries claims shortClaims longClaims arity
  cases c.shortFlag <;> cases c.longFlag <;> cases c.isSwitch <;> rfl

theorem filterMap_short_flagEntries : c.flagEntries.filterMap FlagEntry.short? = c.shortClaims := by
  unfold flagEntries shortClaims
  cases c.shortFlag <;> cases c.longFlag <;> cases c.isSwitch <;> rfl

theorem filterMap_long_flagEntries : c.flagEntries.filterMap FlagEntry.long? = c.longClaims := by
  unfold flagEntries longClaims arity
  cases c.shortFlag <;> cases c.longFlag <;> cases c.isSwitch <;> rfl

theorem filterMap_letter_claims :
    c.claims.filterMap Flag.letter? = c.shortClaims.map (·.1) := by
  unfold claims shortClaims longClaims
  cases c.shortFlag <;> cases c.longFlag <;> cases c.isSwitch <;> rfl

theorem filterMap_name_claims : c.claims.filterMap Flag.name? = c.longClaims.map (·.1) := by
  unfold claims shortClaims longClaims
  cases c.shortFlag <;> cases c.longFlag <;> cases c.isSwitch <;> rfl

end Command

namespace CommandTable

variable (t : CommandTable)

/-- The entries of the flags of a table. -/
def flagEntries (t : CommandTable) : List FlagEntry :=
  t.commands.flatMap Command.flagEntries

theorem map_flagEntries :
    t.flagEntries.map (fun entry => (entry.flag, entry.command)) = t.claims := by
  rw [flagEntries, claims, List.map_flatMap]
  simp only [Command.map_flagEntries]

theorem filterMap_short_flagEntries : t.flagEntries.filterMap FlagEntry.short? = t.shortClaims := by
  rw [flagEntries, shortClaims, List.filterMap_flatMap]
  simp only [Command.filterMap_short_flagEntries]

theorem filterMap_long_flagEntries : t.flagEntries.filterMap FlagEntry.long? = t.longClaims := by
  rw [flagEntries, longClaims, List.filterMap_flatMap]
  simp only [Command.filterMap_long_flagEntries]

/-- The flags are distinct when the short ones are and the long ones are. -/
theorem hasDistinctFlags_iff : t.HasDistinctFlags ↔ (t.flagEntries.map (·.flag)).Nodup := by
  have flags : t.flagEntries.map (·.flag) = t.commands.flatMap Command.claims := by
    have both := congrArg (List.map Prod.fst) t.map_flagEntries
    rw [List.map_map, claims, List.map_flatMap] at both
    simpa [Function.comp_def] using both
  rw [flags, Flag.nodup_iff, List.filterMap_flatMap, List.filterMap_flatMap]
  simp only [Command.filterMap_letter_claims, Command.filterMap_name_claims, ← List.map_flatMap]
  exact ⟨fun h => ⟨h.short, h.long⟩, fun h => ⟨h.1, h.2⟩⟩

end CommandTable

/-! ## Building the index -/

namespace FlagIndex

/-- A flag that is refused is in the index already. -/
theorem add_eq_error {index : FlagIndex} {entry : FlagEntry} {cause : Cause}
    (h : index.add entry = .error cause) :
    ∃ previous ∈ index.entries, previous.flag = entry.flag ∧
      cause = .flagRedefined entry.flag.label entry.command.name previous.command.name := by
  unfold add at h
  split at h
  · rename_i previous found
    exact ⟨previous, List.mem_of_find?_eq_some found, by simpa using List.find?_some found,
      (Except.error.inj h).symm⟩
  · cases h

/-- Entries are refused at the first one of a flag that is in the index by then. -/
theorem foldlM_add_eq_error {entries : List FlagEntry} {index : FlagIndex} {cause : Cause}
    (distinct : (index.entries.map (·.flag)).Nodup)
    (h : entries.foldlM add index = .error cause) :
    ∃ earlier entry later, entries = earlier ++ entry :: later ∧
      ((index.entries ++ earlier).map (·.flag)).Nodup ∧
      ∃ previous ∈ index.entries ++ earlier, previous.flag = entry.flag ∧
        cause = .flagRedefined entry.flag.label entry.command.name previous.command.name := by
  induction entries generalizing index with
  | nil => cases h
  | cons entry rest ih =>
      rw [List.foldlM_cons] at h
      rcases error_of_bind_eq_error h with refused | ⟨next, step, h⟩
      · obtain ⟨previous, member, same, named⟩ := add_eq_error refused
        exact ⟨[], entry, rest, rfl, by simpa using distinct, previous, by simpa using member, same,
          named⟩
      · have grown : next.entries = index.entries ++ [entry] := (add_eq_ok step).2
        have one : [entry].foldlM add index = .ok next := by
          rw [List.foldlM_cons, step]
          rfl
        obtain ⟨earlier, clash, later, rfl, fresh, previous, member, same, named⟩ :=
          ih (foldlM_add_eq_ok distinct one).1 h
        rw [grown, List.append_assoc] at fresh member
        exact ⟨entry :: earlier, clash, later, rfl, fresh, previous, member, same, named⟩

/-- Sorting claims of different keys puts them in increasing order. -/
theorem pairwise_mergeSort_keys {κ : Type} [LT κ] [LE κ] [DecidableLE κ] [Std.IsLinearOrder κ]
    [Std.LawfulOrderLT κ] {claims : List (κ × Arity)} (distinct : (claims.map (·.1)).Nodup) :
    (claims.mergeSort fun a b => a.1 ≤ b.1).Pairwise (·.1 < ·.1) := by
  have sorted : (claims.mergeSort fun a b => a.1 ≤ b.1).Pairwise fun a b => decide (a.1 ≤ b.1) := by
    refine List.pairwise_mergeSort (fun a b c ab bc => ?_) (fun a b => ?_) claims
    · rw [decide_eq_true_eq] at ab bc ⊢
      exact Std.le_trans ab bc
    · simpa using Std.le_total
  have different :=
    ((List.mergeSort_perm claims fun a b => a.1 ≤ b.1).map (·.1)).nodup_iff.2 distinct
  exact (sorted.and (List.pairwise_map.1 different)).imp fun h =>
    Std.lt_of_le_of_ne (of_decide_eq_true h.1) h.2

/-- The flags of the entries of a table are those that it claims. -/
theorem lists_flagEntries {t : CommandTable} (distinct : t.HasDistinctFlags) :
    (⟨t.flagEntries⟩ : FlagIndex).Lists t := by
  have short : (⟨t.flagEntries⟩ : FlagIndex).shortFlags =
      t.shortClaims.mergeSort fun a b => a.1 ≤ b.1 := by
    rw [← t.filterMap_short_flagEntries]
    rfl
  have long : (⟨t.flagEntries⟩ : FlagIndex).longFlags =
      t.longClaims.mergeSort fun a b => a.1 ≤ b.1 := by
    rw [← t.filterMap_long_flagEntries]
    rfl
  have shortPerm := List.mergeSort_perm t.shortClaims fun a b => a.1 ≤ b.1
  refine ⟨short ▸ shortPerm, short ▸ pairwise_mergeSort_keys distinct.short, ?_,
    long ▸ List.mergeSort_perm _ _, long ▸ pairwise_mergeSort_keys distinct.long⟩
  intro claim member
  rw [short, shortPerm.mem_iff, CommandTable.shortClaims, List.mem_flatMap] at member
  obtain ⟨c, -, claimed⟩ := member
  obtain ⟨letter, -, rfl⟩ := List.mem_map.1 claimed
  exact c.arity_ne_switchOff

end FlagIndex

/-! ## Calls through long flags -/

namespace CommandLine

variable {line : CommandLine} {t : CommandTable} {c : Command} {name : String} {arity : Arity}

/-- A long flag reaches the command that claims it. -/
theorem get?_of_mem_longClaims (accepted : ofTable t = .ok line) (member : c ∈ t.commands)
    (claimed : (name, arity) ∈ c.longClaims) :
    line.index.get? (.long name) = some ⟨.long name, arity, c⟩ := by
  obtain ⟨⟨_ | _, taken, d⟩, listed, ⟨⟩⟩ :=
    List.mem_filterMap.1 (c.filterMap_long_flagEntries ▸ claimed)
  obtain rfl : d = c := by
    have claim := List.mem_map_of_mem (f := fun entry => (entry.flag, entry.command)) listed
    rw [c.map_flagEntries] at claim
    obtain ⟨flag, -, same⟩ := List.mem_map.1 claim
    exact (congrArg Prod.snd same).symm
  exact FlagIndex.get?_of_mem_flagEntries (ofTable_eq_ok accepted) member listed

theorem dispatches_of_get? (nonempty : name ≠ "")
    (found : line.index.get? (.long name) = some ⟨.long name, arity, c⟩) :
    line.Dispatches name arity c where
  alone s positional arguments spells := by
    have harvested : harvestOptions c [] = .ok ⟨NameMap.empty, [], none⟩ := by
      rw [harvestOptions, harvest]
    have took := Arity.take_of_spells spells (Location.onCommandLine ("--" ++ name) 1) []
    rw [List.append_nil] at took
    rw [interpret, plan_longFlag nonempty found took harvested, plan_nil, Step.record_execute_call]
    rfl
  first s positional arguments behind taken spells harvested := by
    have took := Arity.take_of_spells spells (Location.onCommandLine ("--" ++ name) 1) behind
    rw [interpret, plan_longFlag nonempty found took harvested, Step.record_execute_call]
    obtain ⟨calls, added⟩ := Recorder.exists_calls_append
      (Step.execute (line.plan 1 taken.rest)).run (s.made ⟨c, arguments, taken.options,
        taken.undeclared, Location.onCommandLine ("--" ++ name) 1⟩)
    refine ⟨calls, ?_⟩
    rw [Recorder.made_calls, List.append_assoc] at added
    exact added
  unread s positional arguments behind cause spells failed := by
    have took := Arity.take_of_spells spells (Location.onCommandLine ("--" ++ name) 1) behind
    have unread : line.readFlag 0 (.long name) (positional ++ behind) = .error cause.unplaced := by
      simp only [readFlag, found, Call.read, Flag.label, Nat.zero_add, took, failed]
    rw [interpret, plan_cons, TokenShape.ofToken_long nonempty]
    simp only [unread]
    rfl

/-- The flag index is exact. A table is accepted exactly when no flag is claimed twice, and then
the index lists the flags that the commands claim, and every long flag makes a call of the
command that claims it. A table is refused for the first flag in the order of the claims that is
taken by then, and the error names the flag and both commands. -/
theorem ofTable_exact (t : CommandTable) :
    match CommandLine.ofTable t with
    | .ok line =>
        t.HasDistinctFlags ∧ line.index.Lists t ∧
          ∀ c ∈ t.commands, ∀ name arity, (name, arity) ∈ c.longClaims → name ≠ "" →
            line.Dispatches name arity c
    | .error cause =>
        ¬ t.HasDistinctFlags ∧ cause.kind = .config ∧
          ∃ flag c previous, t.FirstClash flag c previous ∧
            cause = .flagRedefined flag.label c.name previous.name := by
  cases made : ofTable t with
  | ok line =>
      obtain ⟨distinct, entries⟩ := FlagIndex.foldlM_add_eq_ok (by simp) (ofTable_eq_ok made)
      rw [List.nil_append] at entries
      have index : line.index = ⟨t.flagEntries⟩ := congrArg FlagIndex.mk entries
      rw [index, ← t.hasDistinctFlags_iff] at distinct
      refine ⟨distinct, index ▸ FlagIndex.lists_flagEntries distinct, ?_⟩
      intro c member name arity claimed nonempty
      exact dispatches_of_get? nonempty (get?_of_mem_longClaims made member claimed)
  | error cause =>
      obtain ⟨earlier, entry, later, entries, distinct, previous, taken, same, rfl⟩ :=
        FlagIndex.foldlM_add_eq_error (by simp) (error_of_map_eq_error made)
      rw [List.nil_append] at distinct taken
      refine ⟨fun all => ?_, rfl, entry.flag, entry.command, previous.command,
        ⟨earlier.map fun e => (e.flag, e.command), later.map fun e => (e.flag, e.command), ?_, ?_,
          ?_⟩, rfl⟩
      · rw [t.hasDistinctFlags_iff, show t.flagEntries = _ from entries, List.map_append,
          List.map_cons] at all
        exact (List.nodup_append.1 all).2.2 _ (List.mem_map_of_mem taken) _ List.mem_cons_self same
      · rw [← t.map_flagEntries, show t.flagEntries = _ from entries, List.map_append,
          List.map_cons]
      · simpa [Function.comp_def] using distinct
      · exact same ▸ List.mem_map_of_mem (f := fun e => (e.flag, e.command)) taken

/-- A switch claims its `no-` flag, so a command behind it cannot have the flag of that name. With
another flag in its place the one of the switch is found. -/
theorem flags_of_grid_and_plain :
    let grid : Command :=
      { name := "grid", longFlag := some "grid", parameters := [⟨"boolean", none⟩] }
    let t (flag : String) : CommandTable :=
      ⟨[grid, { name := "plain", longFlag := some flag }],
        show ["grid", "plain"].Nodup by decide⟩
    ofTable (t "no-grid") = .error (.flagRedefined "--no-grid" "plain" "grid") ∧
      ¬ (t "no-grid").HasDistinctFlags ∧
      ∃ line, ofTable (t "no-lines") = .ok line ∧ line.Dispatches "no-grid" .switchOff grid := by
  intro grid t
  have refused := ofTable_exact (t "no-grid")
  have accepted := ofTable_exact (t "no-lines")
  have clash : ofTable (t "no-grid") = .error (.flagRedefined "--no-grid" "plain" "grid") := rfl
  obtain ⟨line, made⟩ : ∃ line, ofTable (t "no-lines") = .ok line := ⟨_, rfl⟩
  rw [clash] at refused
  rw [made] at accepted
  have claimed : ("no-grid", Arity.switchOff) ∈ grid.longClaims := by decide
  exact ⟨clash, refused.1, line, made,
    accepted.2.2 grid List.mem_cons_self "no-grid" .switchOff claimed (by decide)⟩

end CommandLine

end PlotScript
