import FleetLlmd.Json.Render

/-!
# Types that are converted through JSON

A value of one type is marshalled and the text is unmarshalled into another type. A conversion
says how values are written, how the text is read, and what comes out. Conversions of structs are
put together from those of their fields, which either struct may have more of than the other.
-/

namespace FleetLlmd.Json
open Go

structure Conversion (α β : Type) where
  write : α → Rendered
  read : Decoder β
  zero : β
  result : α → β
  depth : Nat
  reads : ∀ x, read (write x).raw zero = .ok (result x)
  shallow : ∀ x, (write x).depth ≤ depth

structure FieldConversion (α β : Type) where
  write : α → Option Rendered
  read : Decoder β
  zero : β
  result : α → β
  depth : Nat
  reads : ∀ x, ∀ r ∈ write x, read r.raw zero = .ok (result x)
  omits : ∀ x, write x = none → result x = zero
  shallow : ∀ x, ∀ r ∈ write x, r.depth ≤ depth

namespace Conversion
variable {α β γ : Type}

def text : Conversion String String where
  write := .string goEscaping
  read := decodeString
  zero := ""
  result := id
  depth := 0
  reads _ := Rendered.decodeString_string _ _ _
  shallow _ := le_refl 0

def number : Conversion Int64 Int64 where
  write n := .int n.toInt
  read := decodeInt64
  zero := 0
  result := id
  depth := 0
  reads n := Rendered.decodeInt64_int n 0
  shallow _ := le_refl 0

def boolean : Conversion Bool Bool where
  write := .bool
  read := decodeBool
  zero := false
  result := id
  depth := 0
  reads _ := rfl
  shallow _ := le_refl 0

def comap (f : γ → α) (c : Conversion α β) : Conversion γ β where
  write x := c.write (f x)
  read := c.read
  zero := c.zero
  result x := c.result (f x)
  depth := c.depth
  reads x := c.reads (f x)
  shallow x := c.shallow (f x)

def bytes : Conversion Bytes String := text.comap fun bs => String.ofList (runes bs)

def slice (c : Conversion α β) : Conversion (Option (List α)) (Option (List β)) where
  write
    | none => .null
    | some xs => .array (xs.map c.write)
  read := decodeList c.zero c.read
  zero := none
  result := Option.map (List.map c.result)
  depth := c.depth + 1
  reads
    | none => rfl
    | some xs => Rendered.decodeList_array c.reads rfl xs
  shallow
    | none => Nat.zero_le _
    | some xs => Nat.succ_le_succ (Rendered.maxDepth_map_le c.shallow xs)

def insertEntry (m : List (String × String)) (e : Bytes × Bytes) : List (String × String) :=
  insertKey (bytes.result e.1) (bytes.result e.2) m

theorem decodeStringEntries_bytes (entries : List (Bytes × Bytes)) (m : List (String × String)) :
    decodeStringEntries (entries.map fun e => (bytes.result e.1, (bytes.write e.2).raw)) m =
      .ok (entries.foldl insertEntry m) := by
  induction entries generalizing m with
  | nil => rfl
  | cons e entries ih =>
    have hread : decodeString (bytes.write e.2).raw "" = .ok (bytes.result e.2) := bytes.reads e.2
    simp only [List.map_cons, decodeStringEntries, hread, ih]
    rfl

def stringMap : Conversion (Option (List (Bytes × Bytes))) (Option (List (String × String))) where
  write
    | none => .null
    | some entries =>
      .object goEscaping (entries.map fun e => (bytes.result e.1, bytes.write e.2))
  read := decodeStringMap
  zero := none
  result := Option.map fun entries => entries.foldl insertEntry []
  depth := 1
  reads
    | none => rfl
    | some entries => by
      have hentries := decodeStringEntries_bytes entries []
      simp only [Rendered.object, decodeStringMap, List.map_map, Function.comp_def,
        Option.getD_none]
      rw [hentries]
      rfl
  shallow
    | none => Nat.zero_le 1
    | some entries => by
      apply Nat.succ_le_succ (Rendered.maxDepth_le _)
      simp only [List.map_map, List.forall_mem_map]
      exact fun e _ => bytes.shallow e.2

/-! ## Fields -/

def always (c : Conversion α β) : FieldConversion α β where
  write x := some (c.write x)
  read := c.read
  zero := c.zero
  result := c.result
  depth := c.depth
  reads x _ h := Option.some.inj h ▸ c.reads x
  omits _ h := nomatch h
  shallow x _ h := Option.some.inj h ▸ c.shallow x

def omitEmpty (c : Conversion α β) (empty : α → Bool) (result : α → β)
    (hempty : ∀ x, empty x = true → result x = c.zero)
    (hresult : ∀ x, empty x = false → result x = c.result x) : FieldConversion α β where
  write x := if empty x then none else some (c.write x)
  read := c.read
  zero := c.zero
  result := result
  depth := c.depth
  reads x r h := by
    rw [Option.mem_def] at h
    split_ifs at h with hx
    rw [← Option.some.inj h, hresult x (Bool.eq_false_of_not_eq_true hx), c.reads]
  omits x h := by
    split_ifs at h with hx
    exact hempty x hx
  shallow x r h := by
    rw [Option.mem_def] at h
    split_ifs at h
    exact Option.some.inj h ▸ c.shallow x

def omitZero [DecidableEq α] (c : Conversion α α) (hid : ∀ x, c.result x = x) (omitempty : Bool) :
    FieldConversion α α :=
  c.omitEmpty (fun x => omitempty && x == c.zero) id
    (fun _ hx => eq_of_beq (Bool.and_eq_true_iff.mp hx).2) (fun x _ => (hid x).symm)

def pointer (c : Conversion α β) (hnull : ∀ x, (c.write x).raw ≠ .null) :
    FieldConversion (Option α) (Option β) where
  write := Option.map c.write
  read := decodePointer c.zero c.read
  zero := none
  result := Option.map c.result
  depth := c.depth
  reads x r h := by
    obtain ⟨x, rfl, rfl⟩ := Option.map_eq_some_iff.mp h
    exact Rendered.decodePointer_raw (hnull x) (c.reads x)
  omits x h := by
    rw [Option.map_eq_none_iff.mp h]
    rfl
  shallow x r h := by
    obtain ⟨x, rfl, rfl⟩ := Option.map_eq_some_iff.mp h
    exact c.shallow x

end Conversion

/-! ## Structs -/

structure SharedField (σ τ : Type) where
  name : String
  write : σ → Option Rendered
  target : Option (StructField τ)
  copy : σ → τ → τ
  Fresh : τ → Prop
  depth : Nat
  reads : ∀ f ∈ target, ∀ x s, Fresh s → ∀ r ∈ write x, f.decode r.raw s = .ok (copy x s)
  omits : ∀ x s, Fresh s → write x = none ∨ target = none → copy x s = s
  shallow : ∀ x, ∀ r ∈ write x, r.depth ≤ depth

namespace SharedField
variable {σ τ α β : Type}

def kept (name : String) (c : FieldConversion α β) (source : σ → α) (get : τ → β) (set : τ → β → τ)
    (hset : ∀ s, set s (get s) = s := by exact fun _ => rfl) : SharedField σ τ where
  name := name
  write x := c.write (source x)
  target := some (structField name get set c.read)
  copy x s := set s (c.result (source x))
  Fresh s := get s = c.zero
  depth := c.depth
  reads := by
    rintro f ⟨⟩ x s hfresh r hr
    have hread := c.reads (source x) r hr
    rw [← hfresh] at hread
    simp only [structField, hread, Except.map]
  omits := by
    intro x s hfresh hnone
    rw [c.omits _ (hnone.resolve_right nofun), ← hfresh, hset]
  shallow x := c.shallow (source x)

def dropped (name : String) (write : σ → Option Rendered) (depth : Nat)
    (shallow : ∀ x, ∀ r ∈ write x, r.depth ≤ depth) : SharedField σ τ where
  name := name
  write := write
  target := none
  copy _ s := s
  Fresh _ := True
  depth := depth
  reads := nofun
  omits _ _ _ _ := rfl
  shallow := shallow

def added (name : String) (get : τ → β) (set : τ → β → τ) (d : Decoder β) : SharedField σ τ where
  name := name
  write _ := none
  target := some (structField name get set d)
  copy _ s := s
  Fresh _ := True
  depth := 0
  reads := nofun
  omits _ _ _ _ := rfl
  shallow := nofun

def targets (fields : List (SharedField σ τ)) : List (StructField τ) :=
  fields.filterMap (·.target)

def members (fields : List (SharedField σ τ)) (x : σ) : List (String × Rendered) :=
  fields.flatMap fun f => ((f.write x).map fun r => (f.name, r)).toList

def copyAll (fields : List (SharedField σ τ)) (x : σ) (s : τ) : τ :=
  fields.foldl (fun s f => f.copy x s) s

def Placed (all : List (StructField τ)) : List (SharedField σ τ) → Prop
  | [] => True
  | f :: fields => findField all f.name = f.target ∧ Placed all fields

def AllFresh (x : σ) : List (SharedField σ τ) → τ → Prop
  | [], _ => True
  | f :: fields, s => f.Fresh s ∧ AllFresh x fields (f.copy x s)

theorem decodeMembers_members {all : List (StructField τ)} {x : σ}
    {fields : List (SharedField σ τ)} {s : τ} (hplaced : Placed all fields)
    (hfresh : AllFresh x fields s) :
    decodeMembers false all ((members fields x).map fun m => (m.1, m.2.raw)) s =
      .ok (copyAll fields x s) := by
  induction fields generalizing s with
  | nil => rfl
  | cons f fields ih =>
    obtain ⟨hfind, hplaced⟩ := hplaced
    obtain ⟨hf, hfresh⟩ := hfresh
    have hrest := ih hplaced hfresh
    rw [members, List.flatMap_cons, List.map_append, ← members, copyAll, List.foldl_cons, ← copyAll,
      ← hrest]
    cases hwrite : f.write x with
    | none => rw [f.omits x s hf (.inl hwrite)]; rfl
    | some r =>
      simp only [Option.map_some, Option.toList_some, List.map_cons, List.map_nil,
        List.singleton_append, decodeMembers, hfind]
      cases htarget : f.target with
      | none => rw [f.omits x s hf (.inr htarget)]; rfl
      | some g => simp only [f.reads g htarget x s hf r hwrite]

def maxDepth : List (SharedField σ τ) → Nat
  | [] => 0
  | f :: fields => max f.depth (maxDepth fields)

theorem depth_members_le (fields : List (SharedField σ τ)) (x : σ) :
    ∀ m ∈ members fields x, m.2.depth ≤ maxDepth fields := by
  induction fields with
  | nil => exact nofun
  | cons f fields ih =>
    rw [members, List.flatMap_cons, ← members, List.forall_mem_append]
    constructor
    · intro m hm
      obtain ⟨r, hr, rfl⟩ := Option.map_eq_some_iff.mp (Option.mem_toList.mp hm)
      exact (f.shallow x r hr).trans (le_max_left _ _)
    · exact fun m hm => (ih m hm).trans (le_max_right _ _)

end SharedField

namespace Conversion
variable {σ τ : Type}
open SharedField

def struct (zero : τ) (result : σ → τ) (fields : List (SharedField σ τ))
    (hresult : ∀ x, copyAll fields x zero = result x := by exact fun _ => rfl)
    (hplaced : Placed (targets fields) fields := by
      repeat' first | exact rfl | exact trivial | apply And.intro)
    (hfresh : ∀ x, AllFresh x fields zero := by
      intro x; repeat' first | exact rfl | exact trivial | apply And.intro) :
    Conversion σ τ where
  write x := .object goEscaping (members fields x)
  read := decodeStruct false (targets fields)
  zero := zero
  result := result
  depth := maxDepth fields + 1
  reads x := by
    rw [Rendered.decodeStruct_object, decodeMembers_members hplaced (hfresh x), hresult]
  shallow x := by
    apply Nat.succ_le_succ (Rendered.maxDepth_le _)
    rw [List.forall_mem_map]
    exact depth_members_le fields x

/-- `json.Marshal` and then `json.Unmarshal`. -/
def convert {α β : Type} (c : Conversion α β) (x : α) : Except Error β :=
  unmarshal c.read (encodeRunes (c.write x).text) c.zero

theorem convert_eq {α β : Type} (c : Conversion α β) (h : c.depth ≤ maxNestingDepth) (x : α) :
    c.convert x = .ok (c.result x) := by
  rw [convert, Rendered.unmarshal_text _ ((c.shallow x).trans h), c.reads]

end Conversion
end FleetLlmd.Json
