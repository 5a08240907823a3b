import PlotScript.CommandLine.Plan
import PlotScript.Proofs.Tables

/-!
# The flag index of a table

A table that is accepted has all its flags in the index, each reaching the command
that declares it.
-/

namespace PlotScript

namespace FlagIndex

theorem get?_eq_none_iff {index : FlagIndex} {flag : Flag} :
    index.get? flag = none ↔ flag ∉ index.entries.map (·.flag) := by
  simp [get?, List.find?_eq_none]

theorem add_eq_ok {index result : FlagIndex} {entry : FlagEntry}
    (h : index.add entry = .ok result) :
    entry.flag ∉ index.entries.map (·.flag) ∧ result.entries = index.entries ++ [entry] := by
  unfold add at h
  split at h
  · cases h
  · rename_i free
    obtain rfl := Except.ok.inj h
    exact ⟨get?_eq_none_iff.1 free, rfl⟩

/-- Adding entries keeps the flags distinct, and keeps every entry. -/
theorem foldlM_add_eq_ok {entries : List FlagEntry} {index result : FlagIndex}
    (distinct : (index.entries.map (·.flag)).Nodup)
    (h : entries.foldlM add index = .ok result) :
    (result.entries.map (·.flag)).Nodup ∧ result.entries = index.entries ++ entries := by
  induction entries generalizing index with
  | nil =>
      obtain rfl := Except.ok.inj h
      exact ⟨distinct, by simp⟩
  | cons entry rest ih =>
      rw [List.foldlM_cons] at h
      cases step : index.add entry with
      | error cause =>
          rw [step] at h
          cases h
      | ok next =>
          rw [step] at h
          obtain ⟨fresh, entries⟩ := add_eq_ok step
          -- a flag that is taken is refused, so the next one is new
          have distinctNext : (next.entries.map (·.flag)).Nodup := by
            rw [entries, List.map_append, List.nodup_append]
            refine ⟨distinct, by simp, ?_⟩
            intro a ha b hb
            simp only [List.map_cons, List.map_nil, List.mem_singleton] at hb
            rintro rfl
            exact fresh (hb ▸ ha)
          obtain ⟨nodup, all⟩ := ih distinctNext h
          exact ⟨nodup, by rw [all, entries, List.append_assoc, List.singleton_append]⟩

/-- The flags that a command of an accepted table claims reach that command. -/
theorem get?_of_mem_flagEntries {t : CommandTable} {index : FlagIndex}
    (accepted : ofTable t = .ok index) {c : Command} (member : c ∈ t.commands)
    {entry : FlagEntry} (claimed : entry ∈ c.flagEntries) :
    index.get? entry.flag = some entry := by
  obtain ⟨distinct, all⟩ := foldlM_add_eq_ok (by simp) accepted
  refine find?_key_of_mem FlagEntry.flag distinct ?_
  rw [all, List.nil_append]
  exact List.mem_flatMap.2 ⟨c, member, claimed⟩

end FlagIndex

end PlotScript
