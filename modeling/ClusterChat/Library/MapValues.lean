import Mathlib.Data.List.AList

/-!
# Changing every value of a finite map

`mapValues` applies a function to the value of every entry and leaves the keys,
and the order of the entries, as they are. A lookup sees the changed value and
nothing else.
-/

universe u v

namespace AList

variable {α : Type u} {β : Type v}

/-- Changing the values of entries keeps their keys. -/
theorem keys_mapped (change : α → β → β) (entries : List (Sigma fun _ : α => β)) :
    (entries.map (fun entry => ⟨entry.1, change entry.1 entry.2⟩ :
      (Sigma fun _ : α => β) → Sigma fun _ : α => β)).keys = entries.keys := by
  simp [List.keys, Function.comp_def]

/-- Apply a function to every value. -/
def mapValues (change : α → β → β) (map : AList (fun _ : α => β)) : AList (fun _ : α => β) where
  entries := map.entries.map (fun entry => ⟨entry.1, change entry.1 entry.2⟩)
  nodupKeys := by
    rw [List.NodupKeys, keys_mapped]
    exact map.nodupKeys

variable [DecidableEq α]

/-- A value is found changed under its key. -/
@[simp] theorem lookup_mapValues (change : α → β → β) (map : AList (fun _ : α => β)) (key : α) :
    (map.mapValues change).lookup key = (map.lookup key).map (change key) := by
  obtain ⟨entries, nodup⟩ := map
  simp only [lookup, mapValues]
  clear nodup
  induction entries with
  | nil => rfl
  | cons entry rest inductionHypothesis =>
    obtain ⟨other, value⟩ := entry
    by_cases same : other = key
    · subst same
      simp
    · rw [List.map_cons, List.dlookup_cons_ne _ _ (Ne.symm same),
        List.dlookup_cons_ne _ _ (Ne.symm same), inductionHypothesis]

end AList
