import FleetLlmd.Json.Members

/-!
# Values read without types

What the untyped decoder makes of a text: objects come out in the order of their keys, and the
nesting is bounded by the depth the parser allows. A structural fact about such values is an
induction over `Within`.
-/

namespace FleetLlmd.Json
open Go

section Order
variable {α : Type}

def Ordered (m : List (String × α)) : Prop := m.Pairwise fun a b => keyLt a.1 b.1 = true

theorem keyLt_iff {a b : String} : keyLt a b = true ↔ utf8 a < utf8 b := bytesLt_iff

theorem keyLt_asymm {a b : String} (h : keyLt a b = true) : keyLt b a = false :=
  not_keyLt_iff.mpr (List.le_of_lt (keyLt_iff.mp h))

theorem keyLt_trans {a b c : String} (hab : keyLt a b = true) (hbc : keyLt b c = true) :
    keyLt a c = true :=
  keyLt_iff.mpr (List.lt_trans (keyLt_iff.mp hab) (keyLt_iff.mp hbc))

theorem Ordered.insertKey {m : List (String × α)} (h : Ordered m) (key : String) (value : α) :
    Ordered (insertKey key value m) := by
  induction m with
  | nil => exact List.pairwise_singleton _ _
  | cons e es ih =>
    obtain ⟨hhead, htail⟩ := List.pairwise_cons.mp h
    rw [Json.insertKey]
    split_ifs with hkey hlt
    · exact List.pairwise_cons.mpr ⟨hkey ▸ hhead, htail⟩
    · refine List.pairwise_cons.mpr ⟨List.forall_mem_cons.mpr ⟨hlt, ?_⟩, h⟩
      exact fun b hb => keyLt_trans hlt (hhead b hb)
    · refine List.pairwise_cons.mpr ⟨fun b hb => ?_, ih htail⟩
      rcases mem_insertKey hb with rfl | hb
      · by_contra hnot
        exact hkey (keyLt_antisymm (Bool.eq_false_of_not_eq_true hnot)
          (Bool.eq_false_of_not_eq_true hlt))
      · exact hhead b hb

theorem insertKey_append {m : List (String × α)} {key : String}
    (h : ∀ e ∈ m, keyLt e.1 key = true) (value : α) :
    insertKey key value m = m ++ [(key, value)] := by
  induction m with
  | nil => rfl
  | cons e es ih =>
    obtain ⟨he, hes⟩ := List.forall_mem_cons.mp h
    have hlt := keyLt_asymm he
    have hne : key ≠ e.1 := by
      rintro rfl
      rw [he] at hlt
      cases hlt
    simp [insertKey, hne, hlt, ih hes]

end Order

theorem Raw.toAnyEntries_of_ordered {members : List (String × Raw)} {m : List (String × Value)}
    (h : Ordered (m ++ members.map fun e => (e.1, e.2.toAny))) :
    Raw.toAnyEntries members m = m ++ members.map fun e => (e.1, e.2.toAny) := by
  induction members generalizing m with
  | nil => exact (List.append_nil m).symm
  | cons e members ih =>
    have hlast : ∀ d ∈ m, keyLt d.1 e.1 = true := fun d hd =>
      (List.pairwise_append.mp h).2.2 d hd _ List.mem_cons_self
    rw [List.map_cons, List.append_cons] at h ⊢
    rw [Raw.toAnyEntries, insertKey_append hlast, ih h]

inductive Within : Nat → Value → Prop
  | null (n : Nat) : Within n .null
  | bool (n : Nat) (b : Bool) : Within n (.bool b)
  | number (n : Nat) (lit : List Char) : Within n (.number lit)
  | string (n : Nat) (s : String) : Within n (.string s)
  | array {n : Nat} {items : List Value} (h : ∀ v ∈ items, Within n v) :
    Within (n + 1) (.array items)
  | object {n : Nat} {entries : List (String × Value)} (hordered : Ordered entries)
    (h : ∀ e ∈ entries, Within n e.2) : Within (n + 1) (.object entries)

namespace Within
variable {n : Nat}

theorem mono {v : Value} (h : Within n v) : ∀ {m : Nat}, n ≤ m → Within m v := by
  induction h with
  | null => exact fun _ => .null _
  | bool n b => exact fun _ => .bool _ b
  | number n lit => exact fun _ => .number _ lit
  | string n s => exact fun _ => .string _ s
  | array h ih =>
    intro m hm
    obtain ⟨m, rfl⟩ := Nat.exists_eq_add_of_le' (show 1 ≤ m by omega)
    exact .array fun v hv => ih v hv (by omega)
  | object hordered h ih =>
    intro m hm
    obtain ⟨m, rfl⟩ := Nat.exists_eq_add_of_le' (show 1 ≤ m by omega)
    exact .object hordered fun e he => ih e he (by omega)

theorem items {rs : List Raw} (h : ∀ r ∈ rs, Within n r.toAny) :
    Within (n + 1) (Raw.array rs).toAny := by
  refine .array ?_
  rw [Raw.toAnyItems_eq_map, List.forall_mem_map]
  exact h

theorem entries {members : List (String × Raw)} (h : ∀ e ∈ members, Within n e.2.toAny) :
    Within (n + 1) (Raw.object members).toAny := by
  have hentries : ∀ m : List (String × Value), Ordered m → (∀ e ∈ m, Within n e.2) →
      Ordered (Raw.toAnyEntries members m) ∧
        ∀ e ∈ Raw.toAnyEntries members m, Within n e.2 := by
    induction members with
    | nil => exact fun m hordered hm => ⟨hordered, hm⟩
    | cons e members ih =>
      obtain ⟨he, hmembers⟩ := List.forall_mem_cons.mp h
      intro m hordered hm
      refine ih hmembers _ (hordered.insertKey e.1 e.2.toAny) fun d hd => ?_
      rcases mem_insertKey hd with rfl | hd
      · exact he
      · exact hm d hd
  obtain ⟨hordered, hwithin⟩ := hentries [] .nil nofun
  exact .object hordered hwithin

/-- The parser goes no deeper than it is allowed to. -/
theorem of_parse (fuel : Nat) :
    (∀ d cs r rest, parseValue fuel d cs = some (r, rest) → Within d r.toAny) ∧
    (∀ d cs rs rest, parseItems fuel d cs = some (rs, rest) → ∀ r ∈ rs, Within d r.toAny) ∧
    ∀ d cs ms rest, parseMembers fuel d cs = some (ms, rest) → ∀ m ∈ ms, Within d m.2.toAny := by
  induction fuel with
  | zero => simp [parseValue, parseItems, parseMembers]
  | succ fuel ih =>
    obtain ⟨hvalue, hitems, hmembers⟩ := ih
    refine ⟨?_, ?_, ?_⟩
    · intro d cs r rest h
      rw [parseValue] at h
      split at h
      · cases d with
        | zero => cases h
        | succ d =>
          dsimp only at h
          split at h
          · cases h
            exact .entries (by simp)
          · obtain ⟨x, hx, ⟨⟩⟩ := Option.map_eq_some_iff.mp h
            exact .entries (hmembers d _ _ _ hx)
      · cases d with
        | zero => cases h
        | succ d =>
          dsimp only at h
          split at h
          · cases h
            exact .items (by simp)
          · obtain ⟨x, hx, ⟨⟩⟩ := Option.map_eq_some_iff.mp h
            exact .items (hitems d _ _ _ hx)
      · obtain ⟨x, -, ⟨⟩⟩ := Option.map_eq_some_iff.mp h
        exact .string _ _
      · cases h
        exact .bool _ _
      · cases h
        exact .bool _ _
      · cases h
        exact .null _
      · dsimp only at h
        split_ifs at h
        cases h
        exact .number _ _
    · intro d cs rs rest h
      rw [parseItems] at h
      split at h
      · cases h
      · next item cs hitem =>
        have hfirst := hvalue d _ _ _ hitem
        split at h
        · cases h
          exact List.forall_mem_singleton.mpr hfirst
        · obtain ⟨x, hx, ⟨⟩⟩ := Option.map_eq_some_iff.mp h
          exact List.forall_mem_cons.mpr ⟨hfirst, hitems d _ _ _ hx⟩
        · cases h
    · intro d cs ms rest h
      rw [parseMembers] at h
      split at h
      · split at h
        · cases h
        · split at h
          · split at h
            · cases h
            · next value cs hval =>
              have hfirst := hvalue d _ _ _ hval
              dsimp only at h
              split at h
              · cases h
                exact List.forall_mem_singleton.mpr hfirst
              · obtain ⟨x, hx, ⟨⟩⟩ := Option.map_eq_some_iff.mp h
                exact List.forall_mem_cons.mpr ⟨hfirst, hmembers d _ _ _ hx⟩
              · cases h
          · cases h
      · cases h

theorem of_parse_eq {cs : List Char} {r : Raw} (h : parse cs = some r) :
    Within maxNestingDepth r.toAny := by
  rw [parse] at h
  split at h
  · next value rest hvalue =>
    split_ifs at h
    obtain rfl := Option.some.inj h
    exact (of_parse _).1 _ _ _ _ hvalue
  · cases h

theorem exists_all {α : Type} {f : α → Value} (xs : List α) (h : ∀ x ∈ xs, ∃ n, Within n (f x)) :
    ∃ n, ∀ x ∈ xs, Within n (f x) := by
  induction xs with
  | nil => exact ⟨0, nofun⟩
  | cons x xs ih =>
    obtain ⟨⟨n, hn⟩, hxs⟩ := List.forall_mem_cons.mp h
    obtain ⟨m, hm⟩ := ih hxs
    refine ⟨max n m, List.forall_mem_cons.mpr ⟨hn.mono (le_max_left n m), fun y hy => ?_⟩⟩
    exact (hm y hy).mono (le_max_right n m)

mutual

theorem exists_toAny : ∀ r : Raw, ∃ n, Within n r.toAny
  | .null => ⟨0, .null 0⟩
  | .bool b => ⟨0, .bool 0 b⟩
  | .number lit => ⟨0, .number 0 lit⟩
  | .string _ => ⟨0, .string 0 _⟩
  | .array rs => (exists_all rs (exists_items rs)).elim fun n h => ⟨n + 1, items h⟩
  | .object ms => (exists_all ms (exists_members ms)).elim fun n h => ⟨n + 1, entries h⟩

theorem exists_items : ∀ rs : List Raw, ∀ r ∈ rs, ∃ n, Within n r.toAny
  | [] => nofun
  | r :: rs => List.forall_mem_cons.mpr ⟨exists_toAny r, exists_items rs⟩

theorem exists_members : ∀ ms : List (String × Raw), ∀ m ∈ ms, ∃ n, Within n m.2.toAny
  | [] => nofun
  | (_, r) :: ms => List.forall_mem_cons.mpr ⟨exists_toAny r, exists_members ms⟩

end

end Within
end FleetLlmd.Json
