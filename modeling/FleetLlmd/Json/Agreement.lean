import FleetLlmd.Json.Members
import Mathlib.Data.List.Pairwise
import Mathlib.Data.List.Perm.Basic

/-!
# Texts that read alike

An untyped decoder keeps of an object the last member of each key. A typed one gives a
field every member whose key equals its name ignoring case, one after the other. On objects
whose keys all differ, ignoring case, what the typed decoder reads is determined by what the
untyped one reads, whatever the order of the members; and so it is for everything built from
such objects.
-/

namespace FleetLlmd.Json
open Go

/-! ## Values up to the spelling of their numbers -/

section Numbers
variable (f : List Char → List Char)

mutual

def Value.mapNumbers : Value → Value
  | .null => .null
  | .bool b => .bool b
  | .number lit => .number (f lit)
  | .float x => .float x
  | .string s => .string s
  | .array items => .array (Value.mapNumbersItems items)
  | .object entries => .object (Value.mapNumbersEntries entries)

def Value.mapNumbersItems : List Value → List Value
  | [] => []
  | item :: items => item.mapNumbers :: Value.mapNumbersItems items

def Value.mapNumbersEntries : List (String × Value) → List (String × Value)
  | [] => []
  | (key, value) :: entries => (key, value.mapNumbers) :: Value.mapNumbersEntries entries

end

theorem Value.mapNumbersItems_eq_map (items : List Value) :
    Value.mapNumbersItems f items = items.map (Value.mapNumbers f) := by
  induction items with
  | nil => rfl
  | cons item items ih => rw [Value.mapNumbersItems, ih, List.map_cons]

theorem Value.mapNumbersEntries_eq_map (entries : List (String × Value)) :
    Value.mapNumbersEntries f entries = entries.map fun e => (e.1, e.2.mapNumbers f) := by
  induction entries with
  | nil => rfl
  | cons e entries ih => rw [Value.mapNumbersEntries, ih, List.map_cons]

mutual

def Value.allNumbers (p : List Char → Bool) : Value → Bool
  | .number lit => p lit
  | .array items => Value.allNumbersItems p items
  | .object entries => Value.allNumbersEntries p entries
  | .null => true
  | .bool _ => true
  | .float _ => true
  | .string _ => true

def Value.allNumbersItems (p : List Char → Bool) : List Value → Bool
  | [] => true
  | item :: items => item.allNumbers p && Value.allNumbersItems p items

def Value.allNumbersEntries (p : List Char → Bool) : List (String × Value) → Bool
  | [] => true
  | (_, value) :: entries => value.allNumbers p && Value.allNumbersEntries p entries

end

mutual

theorem Value.mapNumbers_eq_self : ∀ {v : Value},
    v.allNumbers (fun lit => f lit == lit) = true → v.mapNumbers f = v
  | .number lit, h => by rw [Value.mapNumbers, beq_iff_eq.mp h]
  | .array items, h => by rw [Value.mapNumbers, Value.mapNumbersItems_eq_self h]
  | .object entries, h => by rw [Value.mapNumbers, Value.mapNumbersEntries_eq_self h]
  | .null, _ => rfl
  | .bool _, _ => rfl
  | .float _, _ => rfl
  | .string _, _ => rfl

theorem Value.mapNumbersItems_eq_self : ∀ {items : List Value},
    Value.allNumbersItems (fun lit => f lit == lit) items = true →
      Value.mapNumbersItems f items = items
  | [], _ => rfl
  | item :: items, h => by
    rw [Value.allNumbersItems, Bool.and_eq_true] at h
    rw [Value.mapNumbersItems, Value.mapNumbers_eq_self h.1, Value.mapNumbersItems_eq_self h.2]

theorem Value.mapNumbersEntries_eq_self : ∀ {entries : List (String × Value)},
    Value.allNumbersEntries (fun lit => f lit == lit) entries = true →
      Value.mapNumbersEntries f entries = entries
  | [], _ => rfl
  | (key, value) :: entries, h => by
    rw [Value.allNumbersEntries, Bool.and_eq_true] at h
    rw [Value.mapNumbersEntries, Value.mapNumbers_eq_self h.1,
      Value.mapNumbersEntries_eq_self h.2]

end

def Raw.value (r : Raw) : Value := r.toAny.mapNumbers f

inductive Raw.Alike : Raw → Raw → Prop
  | null : Raw.Alike .null .null
  | bool (b : Bool) : Raw.Alike (.bool b) (.bool b)
  | number {lit lit' : List Char} (h : f lit = f lit') : Raw.Alike (.number lit) (.number lit')
  | string {lit lit' : List Char} (h : unquote lit = unquote lit') :
    Raw.Alike (.string lit) (.string lit')
  | array {items items' : List Raw}
    (h : items.map (Raw.value f) = items'.map (Raw.value f)) :
    Raw.Alike (.array items) (.array items')
  | object {members members' : List (String × Raw)}
    (h : (Raw.toAnyEntries members []).map (fun e => (e.1, e.2.mapNumbers f)) =
      (Raw.toAnyEntries members' []).map fun e => (e.1, e.2.mapNumbers f)) :
    Raw.Alike (.object members) (.object members')

variable {f} {r r' : Raw}

theorem Raw.alike_of_value (h : r.value f = r'.value f) : r.Alike f r' := by
  cases r <;> cases r' <;> simp only [Raw.value, Raw.toAny, Value.mapNumbers, reduceCtorEq,
    Value.bool.injEq, Value.number.injEq, Value.string.injEq, Value.array.injEq,
    Value.object.injEq, String.ofList_inj, Raw.toAnyItems_eq_map, Value.mapNumbersItems_eq_map,
    Value.mapNumbersEntries_eq_map, List.map_map] at h
  · exact .null
  · exact h ▸ .bool _
  · exact .number h
  · exact .string h
  · exact .array h
  · exact .object h

end Numbers

/-! ## Members in any order -/

section Order
variable {α : Type}

theorem insertKey_perm {key : String} (value : α) {m : List (String × α)}
    (h : key ∉ m.map (·.1)) : (insertKey key value m).Perm ((key, value) :: m) := by
  induction m with
  | nil => exact .refl _
  | cons e es ih =>
    rw [List.map_cons, List.mem_cons, not_or] at h
    rw [insertKey, if_neg h.1]
    split_ifs
    · exact .refl _
    · exact ((ih h.2).cons e).trans (.swap _ _ _)

theorem Raw.toAnyEntries_perm {members : List (String × Raw)} {m : List (String × Value)}
    (h : (members.map (·.1) ++ m.map (·.1)).Nodup) :
    (Raw.toAnyEntries members m).Perm (members.map (fun e => (e.1, e.2.toAny)) ++ m) := by
  induction members generalizing m with
  | nil => exact .refl _
  | cons e members ih =>
    rw [List.map_cons, List.cons_append, List.nodup_cons, List.mem_append, not_or] at h
    have hinsert := insertKey_perm e.2.toAny h.1.2
    have hkeys : (members.map (·.1) ++ (insertKey e.1 e.2.toAny m).map (·.1)).Nodup := by
      refine (((hinsert.map (·.1)).append_left _).trans List.perm_middle).nodup_iff.mpr ?_
      rw [List.nodup_cons, List.mem_append, not_or]
      exact h
    exact (ih hkeys).trans ((hinsert.append_left _).trans List.perm_middle)

def UniqueKeys (members : List (String × α)) : Prop :=
  members.Pairwise fun m n => equalFold m.1 n.1 = false

instance (members : List (String × α)) : Decidable (UniqueKeys members) :=
  inferInstanceAs (Decidable (members.Pairwise _))

theorem equalFold_comm (s t : String) : equalFold s t = equalFold t s := by
  rw [equalFold, equalFold, Bool.beq_comm]

theorem UniqueKeys.perm {members members' : List (String × α)} (h : UniqueKeys members)
    (hperm : members.Perm members') : UniqueKeys members' := by
  refine hperm.pairwise h fun hmn => ?_
  rw [equalFold_comm, hmn]

theorem UniqueKeys.nodup {members : List (String × α)} (h : UniqueKeys members) :
    (members.map (·.1)).Nodup := by
  refine List.pairwise_map.mpr (h.imp fun hmn heq => ?_)
  rw [heq, equalFold_refl] at hmn
  cases hmn

end Order

theorem members_perm {f : List Char → List Char} {members members' : List (String × Raw)}
    (hunique : UniqueKeys members) (hunique' : UniqueKeys members')
    (h : (Raw.toAnyEntries members []).map (fun e => (e.1, e.2.mapNumbers f)) =
      (Raw.toAnyEntries members' []).map fun e => (e.1, e.2.mapNumbers f)) :
    ∃ ordered, List.Forall₂ (fun m n => m.1 = n.1 ∧ m.2.value f = n.2.value f) members ordered ∧
      ordered.Perm members' := by
  have hvalues : ∀ ms : List (String × Raw), UniqueKeys ms →
      ((Raw.toAnyEntries ms []).map fun e => (e.1, e.2.mapNumbers f)).Perm
        (ms.map fun e => (e.1, e.2.value f)) := by
    intro ms hms
    have hperm := Raw.toAnyEntries_perm (m := []) (by simpa using hms.nodup)
    simpa [Function.comp_def, Raw.value] using hperm.map fun e => (e.1, e.2.mapNumbers f)
  have hperm := (hvalues members hunique).symm.trans (h ▸ hvalues members' hunique')
  have hsame : List.Forall₂ (fun e n => e = (n.1, n.2.value f))
      (members'.map fun e => (e.1, e.2.value f)) members' := by
    rw [List.forall₂_map_left_iff]
    exact List.forall₂_same.mpr fun _ _ => rfl
  obtain ⟨ordered, hordered, hperm'⟩ := List.perm_comp_forall₂ hperm hsame
  refine ⟨ordered, ?_, hperm'⟩
  rw [List.forall₂_map_left_iff] at hordered
  exact hordered.imp fun _ _ he => Prod.mk.inj he

/-! ## Typed decoders -/

section Decoders
variable {α : Type} {f : List Char → List Char}

abbrev Form := (List Char → List Char) → Raw → Bool

def Agrees (f : List Char → List Char) (plain : Form) (d : Decoder α) (zero : α) : Prop :=
  ∀ r r', plain f r = true → plain f r' = true → r.value f = r'.value f →
    (d r zero).toOption = (d r' zero).toOption

def anyText : Form := fun _ _ => true

theorem agrees_string (zero : String) : Agrees f anyText decodeString zero := by
  intro r r' _ _ h
  cases Raw.alike_of_value h with
  | string hlit => rw [decodeString, decodeString, hlit]
  | null | bool | number | array | object => rfl

theorem agrees_bool (zero : Bool) : Agrees f anyText decodeBool zero := by
  intro r r' _ _ h
  cases Raw.alike_of_value h <;> rfl

def unescaped : Form
  | _, .string lit => lit.all (· != '\\')
  | _, _ => true

theorem unquote_eq_self {lit : List Char} (h : lit.all (· != '\\') = true) :
    unquote lit = lit := by
  induction lit with
  | nil => rfl
  | cons c cs ih =>
    simp only [List.all_cons, Bool.and_eq_true, bne_iff_ne] at h
    rw [unquote_plain h.1, ih h.2]

theorem agrees_time (zero : Time) : Agrees f unescaped decodeTime zero := by
  intro r r' hplain hplain' h
  cases Raw.alike_of_value h with
  | string hlit =>
    rw [unquote_eq_self hplain, unquote_eq_self hplain'] at hlit
    rw [hlit]
  | null | bool | number | array | object => rfl

def spelled (good : List Char → Bool) : Form
  | _, .number lit => good lit
  | _, _ => true

theorem agrees_float64 {good : List Char → Bool}
    (hparse : ∀ lit, good lit = true → Float64.parse (f lit) = Float64.parse lit)
    (zero : Float64) : Agrees f (spelled good) decodeFloat64 zero := by
  intro r r' hgood hgood' h
  cases Raw.alike_of_value h with
  | @number lit lit' hlit =>
    have hsame : Float64.parse lit = Float64.parse lit' := by
      rw [← hparse lit hgood, hlit, hparse lit' hgood']
    rw [decodeFloat64, decodeFloat64, hsame]
    cases Float64.parse lit' <;> rfl
  | null | bool | string | array | object => rfl

def numbersAs : Form := fun f r => r.toAny.allNumbers fun lit => f lit == lit

theorem agrees_map : Agrees f numbersAs decodeMap none := by
  intro r r' hplain hplain' h
  have hany : r.toAny = r'.toAny := by
    rw [← Value.mapNumbers_eq_self f hplain, ← Value.mapNumbers_eq_self f hplain']
    exact h
  cases Raw.alike_of_value h with
  | object =>
    rw [Raw.toAny, Raw.toAny, Value.object.injEq] at hany
    rw [decodeMap, decodeMap, Option.getD_none, hany]
  | null | bool | number | string | array => rfl

theorem toOption_map {β : Type} (g : α → β) (x : Except Error α) :
    (x.map g).toOption = x.toOption.map g := by
  cases x <;> rfl

theorem agrees_pointer {plain : Form} {d : Decoder α} {zero : α}
    (h : Agrees f plain d zero) : Agrees f plain (decodePointer zero d) none := by
  intro r r' hplain hplain' hvalue
  have hd := h r r' hplain hplain' hvalue
  cases Raw.alike_of_value hvalue <;>
    simp only [decodePointer, toOption_map, Option.getD_none, hd]

def eachItem (plain : Form) : Form
  | f, .array items => items.all (plain f)
  | _, _ => true

theorem decodeItems_agree {plain : Form} {d : Decoder α} {zero : α}
    (h : Agrees f plain d zero) {items items' : List Raw}
    (hplain : items.all (plain f) = true) (hplain' : items'.all (plain f) = true)
    (hvalues : items.map (Raw.value f) = items'.map (Raw.value f)) :
    (decodeItems zero d items []).toOption = (decodeItems zero d items' []).toOption := by
  have hcons : ∀ r rs, (decodeItems zero d (r :: rs) []).toOption =
      (d r zero).toOption.bind fun x => (decodeItems zero d rs []).toOption.map (x :: ·) := by
    intro r rs
    rw [decodeItems]
    cases hd : d r zero with
    | error err => simp [hd]; rfl
    | ok x => simp [hd, toOption_map]; rfl
  induction items generalizing items' with
  | nil =>
    cases items' with
    | nil => rfl
    | cons => cases hvalues
  | cons item items ih =>
    cases items' with
    | nil => cases hvalues
    | cons item' items' =>
      obtain ⟨hhead, htail⟩ := List.cons.inj hvalues
      rw [List.all_cons, Bool.and_eq_true] at hplain hplain'
      rw [hcons, hcons, h item item' hplain.1 hplain'.1 hhead, ih hplain.2 hplain'.2 htail]

theorem agrees_slice {plain : Form} {d : Decoder α} {zero : α}
    (h : Agrees f plain d zero) : Agrees f (eachItem plain) (decodeSlice zero d) .nil := by
  intro r r' hplain hplain' hvalue
  cases Raw.alike_of_value hvalue with
  | @array items items' hitems =>
    have hagree := decodeItems_agree h hplain hplain' hitems
    cases items with
    | nil =>
      cases items' with
      | nil => rfl
      | cons => cases hitems
    | cons item items =>
      cases items' with
      | nil => cases hitems
      | cons item' items' =>
        simp only [decodeSlice, Slice.held, toOption_map, hagree, List.drop_nil]
  | null | bool | number | string | object => rfl

end Decoders

/-! ## Structs -/

structure TypedField (σ : Type) where
  name : String
  α : Type
  get : σ → α
  set : σ → α → σ
  decode : Decoder α
  plain : Form

namespace TypedField
variable {σ : Type}

def toStructField (F : TypedField σ) : StructField σ := structField F.name F.get F.set F.decode

structure Apart (F G : TypedField σ) : Prop where
  left : ∀ s y, F.get (G.set s y) = F.get s
  right : ∀ s x, G.get (F.set s x) = G.get s
  comm : ∀ s x y, G.set (F.set s x) y = F.set (G.set s y) x

instance : Std.Symm (Apart (σ := σ)) where
  symm _ _ h := ⟨h.right, h.left, fun s y x => (h.comm s x y).symm⟩

def plainMembers (fields : List (TypedField σ)) (f : List Char → List Char)
    (members : List (String × Raw)) : Bool :=
  members.all fun m => fields.all fun F => !equalFold F.name m.1 || F.plain f m.2

def plainObject (fields : List (TypedField σ)) : Form
  | f, .object members => decide (UniqueKeys members) && plainMembers fields f members
  | _, _ => true

def member (fields : List (TypedField σ)) (s : σ) (m : String × Raw) : Option σ :=
  (findField (fields.map toStructField) m.1).bind fun g => (g.decode m.2 s).toOption

theorem toOption_decodeMembers (fields : List (TypedField σ)) (members : List (String × Raw))
    (s : σ) :
    (decodeMembers true (fields.map toStructField) members s).toOption =
      members.foldlM (member fields) s := by
  induction members generalizing s with
  | nil => rfl
  | cons m members ih =>
    rw [decodeMembers, List.foldlM_cons, member]
    cases findField (fields.map toStructField) m.1 with
    | none => rfl
    | some g =>
      dsimp only [Option.bind_some]
      cases g.decode m.2 s with
      | error err => rfl
      | ok s' => exact ih s'

theorem member_cases (fields : List (TypedField σ)) (m : String × Raw) :
    (∀ s, member fields s m = none) ∨ ∃ F ∈ fields, equalFold F.name m.1 = true ∧
      ∀ s, member fields s m = (F.decode m.2 (F.get s)).toOption.map (F.set s) := by
  simp only [member]
  cases hfind : findField (fields.map toStructField) m.1 with
  | none => exact Or.inl fun _ => rfl
  | some g =>
    obtain ⟨hmem, hfold⟩ := findField_mem hfind
    obtain ⟨F, hF, rfl⟩ := List.mem_map.mp hmem
    exact Or.inr ⟨F, hF, hfold, fun s => toOption_map (F.set s) _⟩

variable {fields : List (TypedField σ)} {f : List Char → List Char}

theorem fields_ne {F G : TypedField σ} {m n : String × Raw} (hF : equalFold F.name m.1 = true)
    (hG : equalFold G.name n.1 = true) (hmn : equalFold m.1 n.1 = false) : F ≠ G := by
  rintro rfl
  rw [equalFold_iff] at hF hG
  rw [equalFold_iff.mpr (hF.symm.trans hG)] at hmn
  cases hmn

theorem member_comm (hapart : fields.Pairwise Apart) {m n : String × Raw}
    (hmn : equalFold m.1 n.1 = false) (s : σ) :
    ((member fields s m).bind fun s => member fields s n) =
      (member fields s n).bind fun s => member fields s m := by
  rcases member_cases fields m with hm | ⟨F, hF, hFm, hm⟩
  · simp [hm]
  rcases member_cases fields n with hn | ⟨G, hG, hGn, hn⟩
  · simp [hn]
  have hne := fields_ne hFm hGn hmn
  have hFG : F.Apart G := hapart.forall hF hG hne
  simp only [hm, hn]
  cases hx : (F.decode m.2 (F.get s)).toOption with
  | none =>
    cases hy : (G.decode n.2 (G.get s)).toOption with
    | none => rfl
    | some y => simp [hFG.left, hx]
  | some x =>
    cases hy : (G.decode n.2 (G.get s)).toOption with
    | none => simp [hFG.right, hy]
    | some y => simp [hFG.left, hFG.right, hx, hy, hFG.comm]

theorem foldlM_perm (hapart : fields.Pairwise Apart) {members members' : List (String × Raw)}
    (hperm : members.Perm members') (hunique : UniqueKeys members) (s : σ) :
    members.foldlM (member fields) s = members'.foldlM (member fields) s := by
  induction hperm generalizing s with
  | nil => rfl
  | cons m _ ih =>
    rw [List.foldlM_cons, List.foldlM_cons]
    exact bind_congr fun s' => ih (List.pairwise_cons.mp hunique).2 s'
  | swap m n members =>
    have hnm := (List.pairwise_cons.mp hunique).1 m List.mem_cons_self
    simp only [List.foldlM_cons, ← bind_assoc]
    exact congrArg (· >>= _) (member_comm hapart hnm s)
  | trans hfirst _ ih ih' => exact (ih hunique s).trans (ih' (hunique.perm hfirst) s)

theorem plainObject_iff {members : List (String × Raw)} :
    plainObject fields f (.object members) = true ↔ UniqueKeys members ∧
      ∀ m ∈ members, ∀ F ∈ fields, equalFold F.name m.1 = true → F.plain f m.2 = true := by
  simp only [plainObject, plainMembers, Bool.and_eq_true, decide_eq_true_eq, List.all_eq_true,
    Bool.or_eq_true, Bool.not_eq_true']
  simp only [← Bool.not_eq_true, ← imp_iff_not_or]

theorem foldlM_agree (hapart : fields.Pairwise Apart) {zero : σ}
    (hfields : ∀ F ∈ fields, Agrees f F.plain F.decode (F.get zero))
    {members members' : List (String × Raw)} (hunique : UniqueKeys members)
    (hsame : List.Forall₂ (fun m n => m.1 = n.1 ∧ m.2.value f = n.2.value f) members members')
    (hplain : ∀ m ∈ members, ∀ F ∈ fields, equalFold F.name m.1 = true → F.plain f m.2 = true)
    (hplain' : ∀ m ∈ members', ∀ F ∈ fields, equalFold F.name m.1 = true → F.plain f m.2 = true)
    {s : σ} (hfresh : ∀ m ∈ members, ∀ F ∈ fields, equalFold F.name m.1 = true →
      F.get s = F.get zero) :
    members.foldlM (member fields) s = members'.foldlM (member fields) s := by
  induction hsame generalizing s with
  | nil => rfl
  | @cons m n members members' hmn _ ih =>
    obtain ⟨hkey, hvalue⟩ := hmn
    rw [List.forall_mem_cons] at hplain hplain' hfresh
    obtain ⟨hdiffer, hunique⟩ := List.pairwise_cons.mp hunique
    rw [List.foldlM_cons, List.foldlM_cons]
    have hhead : member fields s m = member fields s n := by
      rw [member, member, ← hkey]
      cases hfind : findField (fields.map toStructField) m.1 with
      | none => rfl
      | some g =>
        obtain ⟨hmem, hfold⟩ := findField_mem hfind
        obtain ⟨F, hF, rfl⟩ := List.mem_map.mp hmem
        have hagree := hfields F hF m.2 n.2 (hplain.1 F hF hfold)
          (hplain'.1 F hF (hkey ▸ hfold)) hvalue
        rw [← hfresh.1 F hF hfold] at hagree
        simp only [Option.bind_some, toStructField, structField, toOption_map, hagree]
    rw [← hhead]
    rcases member_cases fields m with hm | ⟨F, hF, hFm, hm⟩
    · rw [hm]
      rfl
    rw [hm]
    cases (F.decode m.2 (F.get s)).toOption with
    | none => rfl
    | some x =>
      refine ih hunique hplain.2 hplain'.2 fun k hk G hG hGk => ?_
      have hne := fields_ne hFm hGk (hdiffer k hk)
      have hFG : F.Apart G := hapart.forall hF hG hne
      exact (hFG.right s x).trans (hfresh.2 k hk G hG hGk)

theorem agrees_struct (hapart : fields.Pairwise Apart) {zero : σ}
    (hfields : ∀ F ∈ fields, Agrees f F.plain F.decode (F.get zero)) :
    Agrees f (plainObject fields) (decodeStruct true (fields.map toStructField)) zero := by
  intro r r' hplain hplain' hvalue
  cases Raw.alike_of_value hvalue with
  | object hentries =>
    obtain ⟨hunique, hmembers⟩ := plainObject_iff.mp hplain
    obtain ⟨hunique', hmembers'⟩ := plainObject_iff.mp hplain'
    obtain ⟨ordered, hsame, hperm⟩ := members_perm hunique hunique' hentries
    rw [decodeStruct, decodeStruct, toOption_decodeMembers, toOption_decodeMembers]
    rw [← foldlM_perm hapart hperm (hunique'.perm hperm.symm)]
    exact foldlM_agree hapart hfields hunique hsame hmembers
      (fun m hm => hmembers' m (hperm.mem_iff.mp hm)) fun _ _ _ _ _ => rfl
  | null | bool | number | string | array => rfl

end TypedField
end FleetLlmd.Json
