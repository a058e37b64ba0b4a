import Mathlib.Data.List.AList

/-!
# Maps

A map is an association list with distinct keys; nothing read from it depends on the
order of the entries. `retain` is a loop that deletes while it ranges.
-/

namespace FleetLlmd

abbrev Map (κ β : Type) := AList fun _ : κ => β

namespace Map
variable {κ β : Type}

def size (m : Map κ β) : Nat := m.entries.length

def retain (p : κ → β → Bool) (m : Map κ β) : Map κ β where
  entries := m.entries.filter fun e => p e.1 e.2
  nodupKeys := m.nodupKeys.sublist List.filter_sublist

theorem size_retain_le (p : κ → β → Bool) (m : Map κ β) : (retain p m).size ≤ m.size :=
  List.length_filter_le _ _

variable [DecidableEq κ]

@[simp] theorem lookup_retain (p : κ → β → Bool) (m : Map κ β) (k : κ) :
    (retain p m).lookup k = (m.lookup k).filter (p k) := by
  ext b
  rw [← Option.mem_def, AList.mem_lookup_iff, ← Option.mem_def, Option.mem_filter_iff,
    AList.mem_lookup_iff, retain, List.mem_filter]

theorem size_insert_of_mem {m : Map κ β} {k : κ} (h : k ∈ m) (b : β) :
    size (m.insert k b) = size m := by
  have hkeys : (m.insert k b).keys.length = m.keys.length := by
    rw [AList.keys_insert, List.length_cons, List.length_erase_of_mem (AList.mem_keys.mp h)]
    have := List.length_pos_of_mem (AList.mem_keys.mp h)
    omega
  simpa [AList.keys, List.keys, size] using hkeys

theorem size_insert_of_notMem {m : Map κ β} {k : κ} (h : k ∉ m) (b : β) :
    size (m.insert k b) = size m + 1 := by
  rw [size, AList.entries_insert_of_notMem h, List.length_cons]
  rfl

end Map
end FleetLlmd
