import FleetLlmd.Json.Decode
import Mathlib.Data.List.Nodup

/-!
# Members of an object

How the two readings of an object's members compare. A map keeps the last member of each
key exactly as spelled. A struct takes for a field every member whose key equals the
field's name ignoring case, one after the other.
-/

namespace FleetLlmd.Json
open Go

theorem bytesLt_iff {as bs : Bytes} : bytesLt as bs = true ↔ as < bs := by
  induction as generalizing bs with
  | nil =>
    cases bs with
    | nil => simp [bytesLt]
    | cons b bs => simp [bytesLt]
  | cons a as ih =>
    cases bs with
    | nil => simp [bytesLt]
    | cons b bs => simp [bytesLt, ih, List.cons_lt_cons_iff]

theorem not_keyLt_iff {a b : String} : keyLt b a = false ↔ utf8 a ≤ utf8 b := by
  rw [← Bool.not_eq_true, keyLt, bytesLt_iff, List.not_lt]

theorem keyLt_antisymm {a b : String} (hab : keyLt b a = false) (hba : keyLt a b = false) :
    a = b := by
  have hutf8 := List.le_antisymm (not_keyLt_iff.mp hab) (not_keyLt_iff.mp hba)
  rw [utf8, utf8, Array.toList_inj] at hutf8
  exact String.toByteArray_inj.mp (ByteArray.ext hutf8)

section Maps
variable {α : Type}

theorem lookupKey_insertKey (key k : String) (value : α) (m : List (String × α)) :
    lookupKey k (insertKey key value m) = if key = k then some value else lookupKey k m := by
  induction m with
  | nil => rfl
  | cons e es ih =>
    unfold insertKey
    by_cases hkey : key = e.1
    · rw [if_pos hkey]
      by_cases hk : key = k
      · rw [if_pos hk, lookupKey, if_pos hk]
      · have hne : ¬ e.1 = k := fun h => hk (hkey.trans h)
        rw [if_neg hk, lookupKey, if_neg hk, lookupKey, if_neg hne]
    · rw [if_neg hkey]
      split_ifs with hlt hk hk
      · rw [lookupKey, if_pos hk]
      · rw [lookupKey, if_neg hk]
      · have hne : ¬ e.1 = k := fun h => hkey (hk.trans h.symm)
        rw [lookupKey, if_neg hne, ih, if_pos hk]
      · rw [lookupKey, ih, if_neg hk, lookupKey]

variable {m : List (String × α)} {e : String × α} {members : List (String × α)}

theorem mem_insertKey {key : String} {value : α}
    (h : e ∈ insertKey key value m) : e = (key, value) ∨ e ∈ m := by
  induction m with
  | nil => exact Or.inl (List.mem_singleton.mp h)
  | cons d ds ih =>
    unfold insertKey at h
    split_ifs at h
    · rcases List.mem_cons.mp h with heq | hrest
      · exact Or.inl heq
      · exact Or.inr (List.mem_cons_of_mem _ hrest)
    · exact List.mem_cons.mp h
    · rcases List.mem_cons.mp h with heq | hrest
      · exact Or.inr (heq ▸ List.mem_cons_self)
      · exact (ih hrest).imp_right (List.mem_cons_of_mem _)

theorem lookupKey_filter {p : String × α → Bool} {k : String} (m : List (String × α))
    (hp : ∀ e, e.1 = k → p e = true) : lookupKey k (m.filter p) = lookupKey k m := by
  induction m with
  | nil => rfl
  | cons e es ih =>
    by_cases hk : e.1 = k
    · rw [List.filter_cons_of_pos (hp e hk), lookupKey, lookupKey, if_pos hk, if_pos hk]
    · rw [lookupKey, if_neg hk, ← ih]
      by_cases hkept : p e = true
      · rw [List.filter_cons_of_pos hkept, lookupKey, if_neg hk]
      · rw [List.filter_cons_of_neg hkept]

theorem lookupKey_append (k : String) (m m' : List (String × α)) :
    lookupKey k (m ++ m') = (lookupKey k m).or (lookupKey k m') := by
  induction m with
  | nil => rfl
  | cons e m ih =>
    rw [List.cons_append, lookupKey, lookupKey, ih]
    split_ifs
    · rfl
    · rfl

theorem mem_of_lookupKey {k : String} {v : α} (h : lookupKey k m = some v) : (k, v) ∈ m := by
  induction m with
  | nil => cases h
  | cons e es ih =>
    rw [lookupKey] at h
    split_ifs at h with hk
    · obtain rfl := Option.some.inj h
      rw [← hk]
      exact List.mem_cons_self
    · exact List.mem_cons_of_mem _ (ih h)

def lastExact (key : String) : List (String × α) → Option α
  | [] => none
  | e :: es => (lastExact key es).or (if e.1 = key then some e.2 else none)

theorem lookupKey_foldl_insertKey (k : String) (members m : List (String × α)) :
    lookupKey k (members.foldl (fun m e => insertKey e.1 e.2 m) m) =
      (lastExact k members).or (lookupKey k m) := by
  induction members generalizing m with
  | nil => rfl
  | cons e members ih =>
    rw [List.foldl_cons, ih, lookupKey_insertKey, lastExact, Option.or_assoc]
    congr 1
    split_ifs <;> rfl

theorem lookupKey_ofEntries (k : String) (members : List (String × α)) :
    lookupKey k (ofEntries members) = lastExact k members := by
  rw [ofEntries, lookupKey_foldl_insertKey]
  exact Option.or_none

theorem mem_foldl_insertKey
    (h : e ∈ members.foldl (fun m e => insertKey e.1 e.2 m) m) : e ∈ members ∨ e ∈ m := by
  induction members generalizing m with
  | nil => exact Or.inr h
  | cons d members ih =>
    rcases ih h with hrest | hm
    · exact Or.inl (List.mem_cons_of_mem _ hrest)
    · rcases mem_insertKey hm with heq | hm
      · exact Or.inl (heq ▸ List.mem_cons_self)
      · exact Or.inr hm

theorem mem_ofEntries (h : e ∈ ofEntries members) :
    e ∈ members :=
  (mem_foldl_insertKey h).resolve_right List.not_mem_nil

theorem lastExact_isSome (h : e ∈ members) :
    ∃ v, lastExact e.1 members = some v := by
  induction members with
  | nil => cases h
  | cons d members ih =>
    rw [lastExact]
    rcases List.mem_cons.mp h with rfl | hrest
    · cases lastExact e.1 members with
      | none => exact ⟨e.2, by rw [if_pos rfl]; rfl⟩
      | some v => exact ⟨v, rfl⟩
    · obtain ⟨v, hv⟩ := ih hrest
      exact ⟨v, by rw [hv]; rfl⟩

theorem mem_keys_iff {k : String} :
    k ∈ m.map (·.1) ↔ (lookupKey k m).isSome = true := by
  induction m with
  | nil => simp [lookupKey]
  | cons e es ih =>
    rw [List.map_cons, List.mem_cons, ih, lookupKey]
    by_cases hk : e.1 = k
    · simp [hk]
    · simp [hk, Ne.symm hk]

theorem lookupKey_filter_self (k : String) (m : List (String × α)) :
    lookupKey k (m.filter (·.1 != k)) = none := by
  rw [← Option.not_isSome_iff_eq_none, ← mem_keys_iff]
  simp

theorem lookupKey_eq_some_iff {k : String} {v : α}
    (hnodup : (m.map (·.1)).Nodup) : lookupKey k m = some v ↔ (k, v) ∈ m := by
  refine ⟨mem_of_lookupKey, fun hmem => ?_⟩
  obtain ⟨v', hv'⟩ := Option.isSome_iff_exists.mp
    (mem_keys_iff.mp (List.mem_map_of_mem (f := Prod.fst) hmem))
  have hsame := List.inj_on_of_nodup_map hnodup (mem_of_lookupKey hv') hmem rfl
  rw [hv', (Prod.mk.inj hsame).2]

section Computed
variable {β : Type} {xs : List β} {key : β → String} {value : β → α} {k : String}

theorem mem_of_lookupKey_ofEntries {v : α}
    (h : lookupKey k (ofEntries (xs.map fun x => (key x, value x))) = some v) :
    ∃ x ∈ xs, key x = k ∧ value x = v := by
  obtain ⟨x, hx, heq⟩ := List.mem_map.mp (mem_ofEntries (mem_of_lookupKey h))
  exact ⟨x, hx, congrArg Prod.fst heq, congrArg Prod.snd heq⟩

theorem lookupKey_ofEntries_map {x : β} (hx : x ∈ xs)
    (hvalue : ∀ y ∈ xs, key y = key x → value y = value x) :
    lookupKey (key x) (ofEntries (xs.map fun x => (key x, value x))) = some (value x) := by
  obtain ⟨v, hv⟩ := lastExact_isSome
    (List.mem_map.mpr ⟨x, hx, rfl⟩ : (key x, value x) ∈ xs.map fun x => (key x, value x))
  rw [← lookupKey_ofEntries] at hv
  obtain ⟨y, hy, hkey, hval⟩ := mem_of_lookupKey_ofEntries hv
  rw [hv, ← hval, hvalue y hy hkey]

theorem lookupKey_ofEntries_isSome :
    (lookupKey k (ofEntries (xs.map fun x => (key x, value x)))).isSome = true ↔
      ∃ x ∈ xs, key x = k := by
  constructor
  · intro h
    obtain ⟨v, hv⟩ := Option.isSome_iff_exists.mp h
    obtain ⟨x, hx, hkey, -⟩ := mem_of_lookupKey_ofEntries hv
    exact ⟨x, hx, hkey⟩
  · rintro ⟨x, hx, rfl⟩
    obtain ⟨v, hv⟩ := lastExact_isSome
      (List.mem_map.mpr ⟨x, hx, rfl⟩ : (key x, value x) ∈ xs.map fun x => (key x, value x))
    rw [lookupKey_ofEntries, hv]
    rfl

end Computed
end Maps

/-! ## Fields by name, ignoring case -/

theorem equalFold_iff {s t : String} :
    equalFold s t = true ↔ (chars s).map foldRune = (chars t).map foldRune :=
  beq_iff_eq

theorem equalFold_refl (s : String) : equalFold s s = true := equalFold_iff.mpr rfl

theorem equalFold_trans {s t u : String} (h : equalFold s u = true) (h' : equalFold t u = true) :
    equalFold s t = true :=
  equalFold_iff.mpr ((equalFold_iff.mp h).trans (equalFold_iff.mp h').symm)

section Fields
variable {σ : Type} {fields : List (StructField σ)} {key : String} {f : StructField σ}

theorem findField_mem (h : findField fields key = some f) :
    f ∈ fields ∧ equalFold f.name key = true := by
  unfold findField at h
  split at h
  · next g hexact =>
    cases h
    have hname := List.find?_some hexact
    simp only [beq_iff_eq] at hname
    exact ⟨List.mem_of_find?_eq_some hexact, hname ▸ equalFold_refl f.name⟩
  · have hfold := List.find?_some h
    exact ⟨List.mem_of_find?_eq_some h, hfold⟩

def Distinct (fields : List (StructField σ)) : Prop :=
  ∀ f ∈ fields, ∀ g ∈ fields, equalFold f.name g.name = true → f = g

theorem distinct_of_nodup
    (h : (fields.map fun f => (chars f.name).map foldRune).Nodup) : Distinct fields := by
  intro f hf g hg hfold
  exact List.inj_on_of_nodup_map h hf hg (equalFold_iff.mp hfold)

theorem findField_eq_some (hdistinct : Distinct fields) :
    findField fields key = some f ↔ f ∈ fields ∧ equalFold f.name key = true := by
  constructor
  · exact findField_mem
  · rintro ⟨hmem, hfold⟩
    have hfound : ∃ g, findField fields key = some g := by
      unfold findField
      cases fields.find? fun f => f.name == key with
      | some g => exact ⟨g, rfl⟩
      | none =>
        cases hfind : fields.find? fun f => equalFold f.name key with
        | some g => exact ⟨g, rfl⟩
        | none => exact absurd hfold (List.find?_eq_none.mp hfind f hmem)
    obtain ⟨g, hg⟩ := hfound
    obtain ⟨hgmem, hgfold⟩ := findField_mem hg
    rw [hg, hdistinct g hgmem f hmem (equalFold_trans hgfold hfold)]

theorem decodeStruct_keeps {P : σ → Prop} {disallowUnknown : Bool}
    (hfields : ∀ f ∈ fields, ∀ r s s', P s → f.decode r s = .ok s' → P s')
    {r : Raw} {s s' : σ} (hs : P s) (h : decodeStruct disallowUnknown fields r s = .ok s') :
    P s' := by
  have hmembers : ∀ (members : List (String × Raw)) (s : σ), P s →
      decodeMembers disallowUnknown fields members s = .ok s' → P s' := by
    intro members
    induction members with
    | nil =>
      intro s hs h
      cases h
      exact hs
    | cons member members ih =>
      intro s hs h
      rw [decodeMembers] at h
      split at h
      · split at h
        · cases h
        · exact ih s hs h
      · next f hfind =>
        split at h
        · cases h
        · next s₁ hdecode => exact ih s₁ (hfields f (findField_mem hfind).1 _ s s₁ hs hdecode) h
  cases r with
  | null =>
    cases h
    exact hs
  | object members => exact hmembers members s hs h
  | bool _ | number _ | string _ | array _ => cases h

theorem structField_keeps {α : Type} {P : σ → Prop} {get : σ → α} {set : σ → α → σ}
    {d : Decoder α} (hset : ∀ r s x, P s → d r (get s) = .ok x → P (set s x)) (name : String)
    (r : Raw) (s s' : σ) (hs : P s) (h : (structField name get set d).decode r s = .ok s') :
    P s' := by
  change (d r (get s)).map (set s) = .ok s' at h
  cases hd : d r (get s) with
  | error err =>
    rw [hd] at h
    cases h
  | ok x =>
    rw [hd] at h
    cases h
    exact hset r s x hs hd

end Fields

def Raw.isNull : Raw → Bool
  | .null => true
  | _ => false

def lastFolded (name : String) : List (String × Raw) → Option Raw
  | [] => none
  | m :: ms => (lastFolded name ms).or
      (if equalFold name m.1 && !m.2.isNull then some m.2 else none)

end FleetLlmd.Json
