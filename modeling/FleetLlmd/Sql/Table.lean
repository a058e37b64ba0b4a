import Mathlib.Data.List.Nodup

/-!
# Tables with a primary key

Rows of any type under a primary key and one more unique column. A table carries
both constraints, so an insert or an update that would break one has no result.
-/

namespace FleetLlmd.Sql

structure Table {ρ κ ν : Type} (key : ρ → κ) (unique : ρ → ν) where
  rows : List ρ
  keys : (rows.map key).Nodup
  uniques : (rows.map unique).Nodup

namespace Table
variable {ρ κ ν : Type} {key : ρ → κ} {unique : ρ → ν}

section Delete
variable [DecidableEq κ]

def find (t : Table key unique) (k : κ) : Option ρ := t.rows.find? fun r => key r = k

def delete (t : Table key unique) (k : κ) : Table key unique where
  rows := t.rows.filter fun r => key r ≠ k
  keys := t.keys.sublist (List.filter_sublist.map key)
  uniques := t.uniques.sublist (List.filter_sublist.map unique)

theorem key_of_find {t : Table key unique} {k : κ} {r : ρ} (h : t.find k = some r) : key r = k := by
  simpa using List.find?_some h

theorem mem_of_find {t : Table key unique} {k : κ} {r : ρ} (h : t.find k = some r) : r ∈ t.rows :=
  List.mem_of_find?_eq_some h

theorem find_delete (t : Table key unique) (k j : κ) :
    (t.delete k).find j = if j = k then none else t.find j := by
  rw [find, delete, List.find?_filter]
  split_ifs with h
  · apply List.find?_eq_none.mpr
    intro r _
    simp [h]
  · congr 1
    funext r
    by_cases hr : key r = j
    · simp [hr, h]
    · simp [hr]

end Delete

section Write
variable [DecidableEq κ] [DecidableEq ν]

def insert (t : Table key unique) (r : ρ) : Option (Table key unique) :=
  if h : key r ∉ t.rows.map key ∧ unique r ∉ t.rows.map unique then
    some
      { rows := r :: t.rows
        keys := List.nodup_cons.mpr ⟨h.1, t.keys⟩
        uniques := List.nodup_cons.mpr ⟨h.2, t.uniques⟩ }
  else none

variable {t t' : Table key unique}

theorem rows_insert {r : ρ} (h : t.insert r = some t') :
    t'.rows = r :: t.rows := by
  rw [insert] at h
  split_ifs at h
  rw [← Option.some.inj h]

theorem find_of_insert {r : ρ} (h : t.insert r = some t') :
    t.find (key r) = none := by
  rw [insert] at h
  split_ifs at h with hfree
  apply List.find?_eq_none.mpr
  intro x hx hkey
  exact hfree.1 (List.mem_map.mpr ⟨x, hx, by simpa using hkey⟩)

theorem find_insert {r : ρ} (h : t.insert r = some t') (k : κ) :
    t'.find k = if key r = k then some r else t.find k := by
  rw [find, rows_insert h, List.find?_cons]
  split_ifs with hk <;> simp [hk, find]

def put (r : ρ) (key : ρ → κ) (x : ρ) : ρ := if key x = key r then r else x

theorem key_put (r x : ρ) : key (put r key x) = key x := by
  rw [put]
  split_ifs with h
  · exact h.symm
  · rfl

def replace (t : Table key unique) (r : ρ) : Option (Table key unique) :=
  if h : ((t.rows.map (put r key)).map unique).Nodup then
    some
      { rows := t.rows.map (put r key)
        keys := by simpa only [List.map_map, Function.comp_def, key_put] using t.keys
        uniques := h }
  else none

theorem rows_replace {r : ρ} (h : t.replace r = some t') :
    t'.rows = t.rows.map (put r key) := by
  rw [replace] at h
  split_ifs at h
  rw [← Option.some.inj h]

theorem find_replace {r : ρ} (h : t.replace r = some t') (k : κ) :
    t'.find k = if key r = k then (t.find k).map (fun _ => r) else t.find k := by
  have hsame : ((fun x => decide (key x = k)) ∘ put r key) = fun x => decide (key x = k) := by
    funext x
    simp only [Function.comp_apply, key_put]
  rw [find, rows_replace h, List.find?_map, hsame, ← find]
  cases hfind : t.find k with
  | none => simp
  | some x =>
    rw [Option.map_some, Option.map_some, put, key_of_find hfind]
    by_cases hk : key r = k
    · rw [if_pos hk, if_pos hk.symm]
    · rw [if_neg hk, if_neg (Ne.symm hk)]

theorem replace_of_unique {r old : ρ} (hfind : t.find (key r) = some old)
    (hunique : unique r = unique old) : ∃ t', t.replace r = some t' := by
  have hsame : (t.rows.map (put r key)).map unique = t.rows.map unique := by
    rw [List.map_map]
    apply List.map_congr_left
    intro x hx
    rw [Function.comp_apply, put]
    split_ifs with hkey
    · rw [hunique, List.inj_on_of_nodup_map t.keys hx (mem_of_find hfind)
        (hkey.trans (key_of_find hfind).symm)]
    · rfl
  exact ⟨_, dif_pos (hsame ▸ t.uniques)⟩

end Write
end Table
end FleetLlmd.Sql
