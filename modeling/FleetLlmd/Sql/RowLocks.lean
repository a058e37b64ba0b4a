import FleetLlmd.Effect.Program
import FleetLlmd.Go.Int64

/-!
# Counters under row locks

A store of rows with one `bigint` each, changed by transactions at the level of
their statements. A row a transaction has inserted, locked or changed is held until
the transaction ends, and its new value is seen by that transaction alone until
then. A statement that needs a row held by another transaction waits: it is not ready.
Overflow is an error. A fault makes the next statement fail; a statement that
fails has no effect, and a commit that fails ends its transaction without any.
-/

namespace FleetLlmd.Sql
open Go Effect

structure Database (κ τ : Type) where
  rows : κ → Option Int
  /-- Who holds a row, and the value it is to have if that was changed. -/
  held : κ → Option (τ × Option Int)
  fault : Option Error := none

inductive Statement (κ τ : Type) where
  | begin (tx : τ)
  /-- `INSERT … ON CONFLICT DO NOTHING`; the counter of a new row is zero. -/
  | insertDefault (tx : τ) (key : κ)
  | selectForUpdate (tx : τ) (key : κ)
  /-- `UPDATE … SET n = n + $1`. -/
  | add (tx : τ) (key : κ) (amount : Int)
  | commit (tx : τ)
  | rollback (tx : τ)
  /-- An `UPDATE` of its own, outside any transaction; nothing for a value out of range. -/
  | update (key : κ) (f : Int → Option Int)

def Statement.Answer {κ τ : Type} : Statement κ τ → Type
  | .selectForUpdate _ _ => Except Error Int
  | .rollback _ => Unit
  | _ => Except Error Unit

def Statement.tx {κ τ : Type} : Statement κ τ → Option τ
  | .begin tx | .insertDefault tx _ | .selectForUpdate tx _ | .add tx _ _ | .commit tx
  | .rollback tx => some tx
  | .update _ _ => none

def Statement.publishes {κ τ : Type} : Statement κ τ → Bool
  | .commit _ | .update _ _ => true
  | _ => false

abbrev statements (κ τ : Type) : Signature where
  Call := Statement κ τ
  Answer := Statement.Answer

namespace Database
variable {κ τ : Type} [DecidableEq κ] [DecidableEq τ] (db : Database κ τ)

def own (tx : τ) (key : κ) : Option (Option Int) :=
  match db.held key with
  | some (holder, pending) => if holder = tx then some pending else none
  | none => none

def visible (tx : τ) (key : κ) : Option Int := ((db.own tx key).getD none).or (db.rows key)

def value (key : κ) : Int := (db.rows key).getD 0

def hold (tx : τ) (key : κ) (pending : Option Int) : Database κ τ :=
  { db with held := fun k => if k = key then some (tx, pending) else db.held k }

def release (tx : τ) : Database κ τ :=
  { db with held := fun k => if db.own tx k = none then db.held k else none }

def apply (tx : τ) : Database κ τ :=
  { db with rows := fun k => ((db.own tx k).getD none).or (db.rows k) }

def set (key : κ) (n : Int) : Database κ τ :=
  { db with rows := fun k => if k = key then some n else db.rows k }

def recover : Database κ τ := { db with fault := none }

def Free (tx : τ) (key : κ) : Prop := db.held key = none ∨ db.own tx key ≠ none

instance (tx : τ) (key : κ) : Decidable (db.Free tx key) := inferInstanceAs (Decidable (_ ∨ _))

def Ready : Statement κ τ → Database κ τ → Prop
  | .insertDefault tx key, db => (db.rows key).isSome ∨ db.Free tx key
  | .selectForUpdate tx key, db => db.rows key = none ∨ db.Free tx key
  | .add tx key _, db => db.rows key = none ∨ db.Free tx key
  | .update key _, db => db.rows key = none ∨ db.held key = none
  | _, _ => True

instance (st : Statement κ τ) : Decidable (Ready st db) := by
  cases st <;> unfold Ready <;> infer_instance

def noRows : Error := .sentinel "sql: no rows in result set"
def outOfRange : Error := .sentinel "bigint out of range"

def execute : Handler (statements κ τ) (Database κ τ)
  | .begin _, db =>
    match db.fault with
    | some err => (.error err, db.recover)
    | none => (.ok (), db)
  | .insertDefault tx key, db =>
    match db.fault with
    | some err => (.error err, db.recover)
    | none => (.ok (), if (db.visible tx key).isSome then db else db.hold tx key (some 0))
  | .selectForUpdate tx key, db =>
    match db.fault, db.visible tx key with
    | some err, _ => (.error err, db.recover)
    | none, none => (.error noRows, db)
    | none, some v => (.ok v, db.hold tx key ((db.own tx key).getD none))
  | .add tx key amount, db =>
    match db.fault, db.visible tx key with
    | some err, _ => (.error err, db.recover)
    | none, none => (.ok (), db)
    | none, some v =>
      if InInt64 (v + amount) then (.ok (), db.hold tx key (some (v + amount)))
      else (.error outOfRange, db)
  | .commit tx, db =>
    match db.fault with
    | some err => (.error err, (db.release tx).recover)
    | none => (.ok (), (db.apply tx).release tx)
  | .rollback tx, db => ((), db.release tx)
  | .update key f, db =>
    match db.fault, db.rows key with
    | some err, _ => (.error err, db.recover)
    | none, none => (.ok (), db)
    | none, some v =>
      match f v with
      | some n => (.ok (), db.set key n)
      | none => (.error outOfRange, db)

/-! ## What each operation leaves alone -/

section Lemmas
variable {db} {db' : Database κ τ} {tx tx' : τ} {key k : κ} {pending : Option Int} {n : Int}

omit [DecidableEq τ] in
@[simp] theorem hold_value : (db.hold tx key pending).value k = db.value k := rfl
omit [DecidableEq κ] in
@[simp] theorem release_value : (db.release tx).value k = db.value k := rfl
omit [DecidableEq κ] [DecidableEq τ] in
@[simp] theorem recover_value : db.recover.value k = db.value k := rfl

omit [DecidableEq τ] in
theorem set_value : (db.set key n).value k = if k = key then n else db.value k := by
  unfold value set
  dsimp only
  split_ifs <;> rfl

theorem hold_own : (db.hold tx key pending).own tx' k =
    if k = key then (if tx = tx' then some pending else none) else db.own tx' k := by
  unfold own hold
  by_cases hk : k = key
  · simp only [if_pos hk]
  · simp only [if_neg hk]

omit [DecidableEq κ] in
theorem own_eq_none_of_own (h : tx ≠ tx') (hown : db.own tx k ≠ none) : db.own tx' k = none := by
  unfold own at hown ⊢
  cases hheld : db.held k with
  | none => rfl
  | some holder =>
    simp only [hheld] at hown ⊢
    split_ifs at hown with htx
    · rw [if_neg (htx ▸ h)]
    · exact absurd rfl hown

omit [DecidableEq κ] in
theorem release_own : (db.release tx).own tx' k = if tx = tx' then none else db.own tx' k := by
  by_cases hown : db.own tx k = none
  · have hheld : (db.release tx).held k = db.held k := if_pos hown
    have hsame : (db.release tx).own tx' k = db.own tx' k := by rw [own, own, hheld]
    rw [hsame]
    split_ifs with h
    · rw [← h, hown]
    · rfl
  · have hheld : (db.release tx).held k = none := if_neg hown
    have hnone : (db.release tx).own tx' k = none := by rw [own, hheld]
    rw [hnone]
    split_ifs with h
    · rfl
    · exact (own_eq_none_of_own h hown).symm

omit [DecidableEq κ] in
theorem Free.own_eq_none (hfree : db.Free tx key) (h : tx ≠ tx') : db.own tx' key = none := by
  rcases hfree with hheld | hown
  · rw [own, hheld]
  · exact own_eq_none_of_own h hown

/-! ## What a transaction can rely on -/

structure Undisturbed (tx : τ) (db db' : Database κ τ) : Prop where
  own : ∀ k, db'.own tx k = db.own tx k
  rows : ∀ k, db.own tx k ≠ none → db'.rows k = db.rows k
  present : ∀ k, (db.rows k).isSome → (db'.rows k).isSome

omit [DecidableEq κ] in
theorem Undisturbed.refl (tx : τ) (db : Database κ τ) : Undisturbed tx db db :=
  ⟨fun _ => rfl, fun _ _ => rfl, fun _ h => h⟩

omit [DecidableEq κ] in
theorem Undisturbed.trans {db₁ db₂ db₃ : Database κ τ} (h : Undisturbed tx db₁ db₂)
    (h' : Undisturbed tx db₂ db₃) : Undisturbed tx db₁ db₃ where
  own k := (h'.own k).trans (h.own k)
  rows k hk := (h'.rows k (h.own k ▸ hk)).trans (h.rows k hk)
  present k hk := h'.present k (h.present k hk)

omit [DecidableEq κ] in
theorem Undisturbed.value (h : Undisturbed tx db db') (hk : db.own tx k ≠ none) :
    db'.value k = db.value k := by
  rw [Database.value, Database.value, h.rows k hk]

omit [DecidableEq κ] in
theorem undisturbed_recover (tx : τ) (db : Database κ τ) : Undisturbed tx db db.recover :=
  ⟨fun _ => rfl, fun _ _ => rfl, fun _ h => h⟩

theorem undisturbed_hold (h : tx ≠ tx') (hfree : db.Free tx key) (pending : Option Int) :
    Undisturbed tx' db (db.hold tx key pending) := by
  refine ⟨fun k => ?_, fun _ _ => rfl, fun _ h => h⟩
  rw [hold_own, if_neg h]
  split_ifs with hk
  · rw [hk, hfree.own_eq_none h]
  · rfl

omit [DecidableEq κ] in
theorem undisturbed_release (h : tx ≠ tx') (db : Database κ τ) :
    Undisturbed tx' db (db.release tx) := by
  refine ⟨fun k => ?_, fun _ _ => rfl, fun _ h => h⟩
  rw [release_own, if_neg h]

omit [DecidableEq κ] in
theorem undisturbed_apply (h : tx ≠ tx') (db : Database κ τ) : Undisturbed tx' db
    (db.apply tx) := by
  refine ⟨fun _ => rfl, fun k hk => ?_, fun k hk => ?_⟩
  · have hnone : db.own tx k = none := own_eq_none_of_own (Ne.symm h) hk
    simp only [apply, hnone, Option.getD_none, Option.none_or]
  · simp only [apply]
    cases (db.own tx k).getD none with
    | none => exact hk
    | some v => rfl

theorem undisturbed_set (hfree : db.own tx key = none) (n : Int) :
    Undisturbed tx db (db.set key n) := by
  refine ⟨fun _ => rfl, fun k hk => ?_, fun k hk => ?_⟩
  · have hne : k ≠ key := by
      intro h
      rw [h] at hk
      exact hk hfree
    exact if_neg hne
  · simp only [set]
    split_ifs
    · rfl
    · exact hk

omit [DecidableEq κ] in
theorem free_of_visible {v : Int} (hready : db.rows key = none ∨ db.Free tx key)
    (hvisible : db.visible tx key = some v) : db.Free tx key := by
  rcases hready with hrows | hfree
  · refine Or.inr fun hown => ?_
    simp [visible, hown, hrows] at hvisible
  · exact hfree

omit [DecidableEq κ] in
theorem free_of_not_visible (hready : (db.rows key).isSome ∨ db.Free tx key)
    (hvisible : ¬ (db.visible tx key).isSome) : db.Free tx key := by
  rcases hready with hrows | hfree
  · refine absurd ?_ hvisible
    unfold visible
    cases (db.own tx key).getD none with
    | none => exact hrows
    | some v => rfl
  · exact hfree

theorem execute_undisturbed {st : Statement κ τ} (hready : Ready st db) (htx : st.tx ≠ some tx) :
    Undisturbed tx db (execute st db).2 := by
  have hother {other : τ} (h : st.tx = some other) : other ≠ tx := by
    intro heq
    exact htx (h.trans (congrArg some heq))
  cases hfault : db.fault with
  | some err =>
    cases st with
    | commit other =>
      simp only [execute, hfault]
      exact (undisturbed_release (hother rfl) db).trans (undisturbed_recover tx _)
    | rollback other => exact undisturbed_release (hother rfl) db
    | _ =>
      simp only [execute, hfault]
      exact undisturbed_recover tx db
  | none =>
    have hrefl := Undisturbed.refl tx db
    cases st with
    | begin other => simpa only [execute, hfault]
    | insertDefault other key =>
      simp only [execute, hfault]
      split_ifs with hvisible
      · exact hrefl
      · exact undisturbed_hold (hother rfl) (free_of_not_visible hready hvisible) _
    | selectForUpdate other key =>
      cases hvisible : db.visible other key <;> simp only [execute, hfault, hvisible]
      · exact hrefl
      · exact undisturbed_hold (hother rfl) (free_of_visible hready hvisible) _
    | add other key amount =>
      cases hvisible : db.visible other key <;> simp only [execute, hfault, hvisible]
      · exact hrefl
      · split_ifs
        · exact undisturbed_hold (hother rfl) (free_of_visible hready hvisible) _
        · exact hrefl
    | commit other =>
      simp only [execute, hfault]
      exact (undisturbed_apply (hother rfl) db).trans (undisturbed_release (hother rfl) _)
    | rollback other => exact undisturbed_release (hother rfl) db
    | update key f =>
      cases hrows : db.rows key <;> simp only [execute, hfault, hrows]
      · exact hrefl
      · have hheld : db.held key = none := hready.resolve_left (by simp [hrows])
        have hown : db.own tx key = none := by rw [own, hheld]
        split
        · exact undisturbed_set hown _
        · exact hrefl

theorem execute_value {st : Statement κ τ} (h : st.publishes = false) (db : Database κ τ) (k : κ) :
    (execute st db).2.value k = db.value k := by
  cases st with
  | begin tx =>
    cases hfault : db.fault <;> simp only [execute, hfault, recover_value]
  | insertDefault tx key =>
    cases hfault : db.fault <;> simp only [execute, hfault, recover_value]
    split_ifs <;> rfl
  | selectForUpdate tx key =>
    cases hfault : db.fault <;> cases hvisible : db.visible tx key <;>
      simp only [execute, hfault, hvisible, recover_value, hold_value]
  | add tx key amount =>
    cases hfault : db.fault <;> cases hvisible : db.visible tx key <;>
      simp only [execute, hfault, hvisible, recover_value]
    split_ifs <;> rfl
  | commit tx => cases h
  | rollback tx => rfl
  | update key f => cases h

end Lemmas
end Database
end FleetLlmd.Sql
