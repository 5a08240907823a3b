import PlotScript.Command.Basic
import PlotScript.Diagnostic.Cause

/-!
# Command tables

Commands in the order in which they were added, at most one of each name.
-/

namespace PlotScript

/-- A table of commands. No two commands have the same name. -/
structure CommandTable where
  commands : List Command
  distinct : (commands.map (·.name)).Nodup := by simp

namespace CommandTable

def empty : CommandTable :=
  ⟨[], by simp⟩

/-- The command of a name. -/
def get? (t : CommandTable) (name : String) : Option Command :=
  t.commands.find? (·.name = name)

def size (t : CommandTable) : Nat :=
  t.commands.length

/-- Adds a command of a name that is still free. -/
def add (t : CommandTable) (c : Command) : Except Cause CommandTable :=
  if h : c.name ∈ t.commands.map (·.name) then .error (.commandRedefined c.name)
  else .ok ⟨t.commands ++ [c], by
    rw [List.map_append, List.nodup_append]
    refine ⟨t.distinct, by simp, ?_⟩
    intro a ha b hb
    simp only [List.map_cons, List.map_nil, List.mem_singleton] at hb
    rintro rfl
    exact h (hb ▸ ha)⟩

/-- The table of the given commands, if their names are distinct. -/
def ofList (commands : List Command) : Except Cause CommandTable :=
  commands.foldlM add empty

end CommandTable

end PlotScript
