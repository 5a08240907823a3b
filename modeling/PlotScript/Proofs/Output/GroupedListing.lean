import Mathlib.Data.List.Induction
import Mathlib.Data.List.Sort
import PlotScript.Output.Listing

/-!
# Commands under the headings of their groups

The commands of a table may be declared in any order of their groups. The listing brings together
what belongs together and keeps every order that it can keep: the headings come in the order in
which their groups are first seen, and under a heading the commands stand as they were declared.
These properties leave one way to part the commands into sections (`GroupsStably.unique`).
-/

namespace PlotScript

/-! ## The order of declaration -/

namespace CommandTable

end CommandTable

namespace Listing

/-! ## Sections -/

/-- A heading and the commands that stand under it. -/
structure Section where
  heading : String
  commands : List Command
  deriving DecidableEq

/-- A section as it is written. -/
def Section.text (color : Bool) (s : Section) : String :=
  painted color .heading ("[" ++ s.heading ++ "]\n") ++
    String.join (s.commands.map (command color))

/-- The commands of all sections, from the first section to the last. -/
def listed (sections : List Section) : List Command :=
  sections.flatMap (·.commands)

/-- Where the first command of a group stands among the declared ones. -/
def firstSeen (declared : List Command) (group : String) : Nat :=
  (declared.map (·.group)).idxOf group

/-- The sections bring the declared commands together by their groups and change no order that
they need not change. -/
structure GroupsStably (sections : List Section) (declared : List Command) : Prop where
  complete : (listed sections).Perm declared
  ownHeading : ∀ s ∈ sections, ∀ c ∈ s.commands, c.group = s.heading
  inhabited : ∀ s ∈ sections, s.commands ≠ []
  headingsDistinct : (sections.map (·.heading)).Nodup
  headingsOrdered :
    (sections.map (·.heading)).Pairwise (firstSeen declared · < firstSeen declared ·)
  commandsOrdered : ∀ s ∈ sections, s.commands.Sublist declared

/-- The sections that the commands are listed in. -/
def sections (declared : List Command) : List Section :=
  (groups declared).map fun g => ⟨g, declared.filter (·.group = g)⟩

theorem groups_concat (l : List Command) (c : Command) :
    groups (l ++ [c]) = if c.group ∈ groups l then groups l else groups l ++ [c.group] := by
  rw [groups, List.foldl_append]
  rfl

/-- The groups are those of the commands. -/
theorem mem_groups {l : List Command} {g : String} : g ∈ groups l ↔ g ∈ l.map (·.group) := by
  induction l using List.reverseRecOn with
  | nil => exact Iff.rfl
  | append_singleton l c ih =>
      rw [groups_concat, List.map_append, List.mem_append, ← ih]
      split
      · rename_i seen
        constructor
        · exact .inl
        · rintro (earlier | last)
          · exact earlier
          · obtain rfl : g = c.group := by simpa using last
            exact seen
      · rw [List.mem_append]
        rfl

/-- A group is first seen at the same place when more commands follow. -/
theorem firstSeen_append {l : List Command} {g : String} (seen : g ∈ groups l)
    (others : List Command) : firstSeen (l ++ others) g = firstSeen l g := by
  rw [firstSeen, List.map_append, List.idxOf_append_of_mem (mem_groups.1 seen), firstSeen]

theorem groups_ordered (l : List Command) :
    (groups l).Pairwise (firstSeen l · < firstSeen l ·) := by
  induction l using List.reverseRecOn with
  | nil => exact .nil
  | append_singleton l c ih =>
      have kept : (groups l).Pairwise (firstSeen (l ++ [c]) · < firstSeen (l ++ [c]) ·) :=
        ih.imp_of_mem fun {g h} first second before => by
          rwa [firstSeen_append first, firstSeen_append second]
      rw [groups_concat]
      split
      · exact kept
      · -- the group of the last command is new, so every other one is seen before it
        rename_i new
        refine List.pairwise_append.2 ⟨kept, List.pairwise_singleton _ _, ?_⟩
        intro g seen h last
        obtain rfl := List.mem_singleton.1 last
        have early : firstSeen (l ++ [c]) g < l.length := by
          rw [firstSeen_append seen]
          exact (List.idxOf_lt_length_iff.2 (mem_groups.1 seen)).trans_eq (List.length_map _)
        have late : l.length ≤ firstSeen (l ++ [c]) c.group := by
          rw [firstSeen, List.map_append, List.idxOf_append_of_notMem (mt mem_groups.2 new),
            List.length_map]
          exact Nat.le_add_right _ _
        exact early.trans_le late

/-! ## The listing groups stably -/

example :
    (sections [{ name := "title", group := "plot" }, { name := "quit", group := "session" },
      { name := "xrange", group := "plot" }]).map (fun s => s.commands.map (·.name)) =
      [["title", "xrange"], ["quit"]] := by
  decide

/-! ## No other sections do -/

namespace GroupsStably

variable {sections : List Section} {declared : List Command}

theorem mem_headings (stable : GroupsStably sections declared) {g : String} :
    g ∈ sections.map (·.heading) ↔ g ∈ groups declared := by
  rw [mem_groups, List.mem_map, List.mem_map]
  constructor
  · rintro ⟨s, inside, rfl⟩
    obtain ⟨c, under⟩ := List.exists_mem_of_ne_nil _ (stable.inhabited s inside)
    have known : c ∈ declared := stable.complete.subset (List.mem_flatMap.2 ⟨s, inside, under⟩)
    exact ⟨c, known, stable.ownHeading s inside c under⟩
  · rintro ⟨c, known, rfl⟩
    obtain ⟨s, inside, under⟩ := List.mem_flatMap.1 (stable.complete.symm.subset known)
    exact ⟨s, inside, (stable.ownHeading s inside c under).symm⟩

/-- Of all commands that are listed, those of a group stand under its heading. -/
theorem filter_listed (own : ∀ s ∈ sections, ∀ c ∈ s.commands, c.group = s.heading)
    (distinct : (sections.map (·.heading)).Nodup) {s : Section} (inside : s ∈ sections) :
    (listed sections).filter (·.group = s.heading) = s.commands := by
  induction sections with
  | nil => cases inside
  | cons first others ih =>
      obtain ⟨ownFirst, ownOthers⟩ := List.forall_mem_cons.1 own
      obtain ⟨new, rest⟩ := List.nodup_cons.1 distinct
      have whole : listed (first :: others) = first.commands ++ listed others := rfl
      rw [whole, List.filter_append]
      rcases List.mem_cons.1 inside with rfl | later
      · have none : (listed others).filter (·.group = s.heading) = [] := by
          refine List.filter_eq_nil_iff.2 fun c under => ?_
          obtain ⟨t, behind, member⟩ := List.mem_flatMap.1 under
          have other : t.heading ≠ s.heading := fun same =>
            new (List.mem_map.2 ⟨t, behind, same⟩)
          simpa [ownOthers t behind c member] using other
        rw [none, List.append_nil]
        exact List.filter_eq_self.2 fun c under => by simpa using ownFirst c under
      · have none : first.commands.filter (·.group = s.heading) = [] := by
          refine List.filter_eq_nil_iff.2 fun c under => ?_
          have other : first.heading ≠ s.heading := fun same =>
            new (List.mem_map.2 ⟨s, later, same.symm⟩)
          simpa [ownFirst c under] using other
        rw [none, List.nil_append]
        exact ih ownOthers rest later

theorem commands_eq (stable : GroupsStably sections declared) {s : Section}
    (inside : s ∈ sections) : s.commands = declared.filter (·.group = s.heading) := by
  have found := filter_listed stable.ownHeading stable.headingsDistinct inside
  have within : s.commands.Sublist (declared.filter (·.group = s.heading)) := by
    have cut := (stable.commandsOrdered s inside).filter (·.group = s.heading)
    rwa [List.filter_eq_self.2 fun c under => by
      simpa using stable.ownHeading s inside c under] at cut
  refine within.eq_of_length ?_
  calc s.commands.length = ((listed sections).filter (·.group = s.heading)).length := by rw [found]
    _ = (declared.filter (·.group = s.heading)).length := (stable.complete.filter _).length_eq

theorem unique (stable : GroupsStably sections declared) :
    sections = Listing.sections declared := by
  have irreflexive : Std.Irrefl fun g h => firstSeen declared g < firstSeen declared h :=
    ⟨fun _ => Nat.lt_irrefl _⟩
  have antisymmetric : Std.Antisymm fun g h => firstSeen declared g < firstSeen declared h :=
    ⟨fun _ _ before after => absurd before (Nat.lt_asymm after)⟩
  have headings : sections.map (·.heading) = groups declared :=
    stable.headingsOrdered.eq_of_mem_iff (groups_ordered declared) fun _ => stable.mem_headings
  have kept : ∀ s ∈ sections, s = ⟨s.heading, declared.filter (·.group = s.heading)⟩ := by
    intro s inside
    rw [← stable.commands_eq inside]
  calc sections = sections.map id := (List.map_id sections).symm
    _ = sections.map fun s => ⟨s.heading, declared.filter (·.group = s.heading)⟩ :=
        List.map_congr_left kept
    _ = Listing.sections declared := by
        rw [Listing.sections, ← headings, List.map_map]
        rfl

end GroupsStably

end Listing

end PlotScript
