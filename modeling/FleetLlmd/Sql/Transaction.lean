import FleetLlmd.Sql.RowLocks
import FleetLlmd.Effect.Rely

/-!
# Reasoning about a transaction

What a transaction knows while others run: by how much it has changed each counter
so far, and which counters it has read and holds. Nobody else can falsify either. A
commit then adds exactly the transaction's changes to the committed values.
-/

namespace FleetLlmd.Sql
open Go Effect

section Programs
variable {κ τ : Type}

def begin (tx : τ) : Prog (statements κ τ) (Except Error Unit) := .call (.begin tx) .done
def insertDefault (tx : τ) (key : κ) : Prog (statements κ τ) (Except Error Unit) :=
  .call (.insertDefault tx key) .done
def selectForUpdate (tx : τ) (key : κ) : Prog (statements κ τ) (Except Error Int) :=
  .call (.selectForUpdate tx key) .done
def add (tx : τ) (key : κ) (amount : Int) : Prog (statements κ τ) (Except Error Unit) :=
  .call (.add tx key amount) .done
def commit (tx : τ) : Prog (statements κ τ) (Except Error Unit) := .call (.commit tx) .done
def rollback (tx : τ) : Prog (statements κ τ) Unit := .call (.rollback tx) .done
def update (key : κ) (f : Int → Option Int) : Prog (statements κ τ) (Except Error Unit) :=
  .call (.update key f) .done

def attempt {α β : Type} (tx : τ) (wrap : Error → Error)
    (statement : Prog (statements κ τ) (Except Error β))
    (next : β → Prog (statements κ τ) (Except Error α)) : Prog (statements κ τ) (Except Error α) :=
  statement.bind fun
    | .error err => (rollback tx).bind fun _ => .done (.error (wrap err))
    | .ok x => next x

theorem attempt_meets {α β : Type} {tx : τ} {wrap : Error → Error}
    {statement : Prog (statements κ τ) (Except Error β)}
    {next : β → Prog (statements κ τ) (Except Error α)}
    {G : List (Event (statements κ τ)) → Statement κ τ → Prop}
    {R : List (Event (statements κ τ)) → Except Error β → Prop}
    {Q : List (Event (statements κ τ)) → Except Error α → Prop}
    {past : List (Event (statements κ τ))} (hstatement : statement.Meets G R past)
    (herror : ∀ past err, R past (.error err) →
      G past (.rollback tx) ∧ Q (⟨.rollback tx, ()⟩ :: past) (.error (wrap err)))
    (hok : ∀ past x, R past (.ok x) → (next x).Meets G Q past) :
    (attempt tx wrap statement next).Meets G Q past := by
  unfold attempt
  rw [Prog.meets_bind]
  refine hstatement.mono (fun _ _ h => h) ?_
  intro past r hr
  cases r with
  | error err => exact ⟨(herror past err hr).1, fun _ => (herror past err hr).2⟩
  | ok x => exact hok past x hr

end Programs

namespace Database
variable {κ τ : Type} [DecidableEq κ] [DecidableEq τ] {db db' : Database κ τ} {tx : τ} {key k : κ}
variable {delta : κ → Int} {v n : Int}

def Changes (tx : τ) (delta : κ → Int) (db : Database κ τ) : Prop :=
  ∀ k, (db.visible tx k).getD 0 = db.value k + delta k

structure Locked (tx : τ) (key : κ) (v : Int) (db : Database κ τ) : Prop where
  own : db.own tx key ≠ none
  value : db.value key = v
  visible : (db.visible tx key).isSome

omit [DecidableEq κ] in
theorem visible_of_own_eq_none (h : db.own tx k = none) : db.visible tx k = db.rows k := by
  rw [visible, h]
  rfl

omit [DecidableEq κ] in
theorem Undisturbed.visible (h : Undisturbed tx db db') (hk : db.own tx k ≠ none) :
    db'.visible tx k = db.visible tx k := by
  rw [Database.visible, Database.visible, h.own, h.rows k hk]

omit [DecidableEq κ] in
theorem Changes.stable (hchanges : Changes tx delta db) (h : Undisturbed tx db db') :
    Changes tx delta db' := by
  intro k
  by_cases hk : db.own tx k = none
  · have hdelta := hchanges k
    rw [visible_of_own_eq_none hk, value] at hdelta
    rw [visible_of_own_eq_none (by rw [h.own, hk]), value]
    omega
  · rw [h.visible hk, h.value hk]
    exact hchanges k

omit [DecidableEq κ] in
theorem Locked.stable (hlocked : Locked tx key v db) (h : Undisturbed tx db db') :
    Locked tx key v db' where
  own := by
    rw [h.own]
    exact hlocked.own
  value := by
    rw [h.value hlocked.own]
    exact hlocked.value
  visible := by
    rw [h.visible hlocked.own]
    exact hlocked.visible

omit [DecidableEq κ] in
theorem changes_zero (h : ∀ k, db.own tx k = none) : Changes tx (fun _ => 0) db := by
  intro k
  rw [visible_of_own_eq_none (h k), value, Int.add_zero]

theorem visible_hold (tx : τ) (key : κ) (pending : Option Int) (db : Database κ τ) (k : κ) :
    (db.hold tx key pending).visible tx k =
      if k = key then pending.or (db.rows k) else db.visible tx k := by
  unfold visible
  rw [hold_own, if_pos rfl]
  split_ifs <;> rfl

/-! ## Statements that do not fail -/

theorem Changes.insertDefault (h : Changes tx delta db) :
    Changes tx delta
      (if (db.visible tx key).isSome then db else db.hold tx key (some 0)) := by
  split_ifs with hvisible
  · exact h
  · intro k
    rw [visible_hold, hold_value]
    split_ifs with hk
    · have hdelta := h k
      rw [hk, Option.not_isSome_iff_eq_none.mp hvisible] at hdelta
      rw [hk]
      exact hdelta
    · exact h k

theorem Changes.select (h : Changes tx delta db) :
    Changes tx delta (db.hold tx key ((db.own tx key).getD none)) := by
  intro k
  rw [visible_hold, hold_value]
  split_ifs with hk
  · have hdelta := h k
    rw [hk] at hdelta ⊢
    exact hdelta
  · exact h k

theorem Locked.hold {w : Int} (h : Locked tx key w db) (key' : κ) {pending : Option Int}
    (hvisible : key = key' → (pending.or (db.rows key')).isSome) :
    Locked tx key w (db.hold tx key' pending) where
  own := by
    rw [hold_own, if_pos rfl]
    split_ifs
    · exact Option.some_ne_none _
    · exact h.own
  value := h.value
  visible := by
    rw [visible_hold]
    split_ifs with hk
    · rw [hk]
      exact hvisible hk
    · exact h.visible

theorem Changes.locked (h : Changes tx delta db) (hvisible : db.visible tx key = some v)
    (hdelta : delta key = 0) :
    Locked tx key v (db.hold tx key ((db.own tx key).getD none)) where
  own := by
    rw [hold_own, if_pos rfl, if_pos rfl]
    exact Option.some_ne_none _
  value := by
    have hk := h key
    rw [hvisible, hdelta, Int.add_zero] at hk
    exact hk.symm
  visible := by
    rw [visible_hold, if_pos rfl]
    exact Option.isSome_iff_exists.mpr ⟨v, hvisible⟩

theorem Changes.add (h : Changes tx delta db) (hvisible : db.visible tx key = some v) (n : Int) :
    Changes tx (fun k => if k = key then delta k + n else delta k)
      (db.hold tx key (some (v + n))) := by
  intro k
  rw [visible_hold, hold_value]
  have hk := h k
  by_cases heq : k = key
  · rw [heq, hvisible, Option.getD_some] at hk
    simp only [heq, if_true, Option.some_or, Option.getD_some]
    omega
  · simp only [if_neg heq]
    exact hk

omit [DecidableEq κ] in
theorem Changes.commit (h : Changes tx delta db) (k : κ) :
    ((db.apply tx).release tx).value k = db.value k + delta k := by
  rw [release_value, ← h k]
  rfl

/-! ## Statements in an interleaved run -/

structure View (tx : τ) (delta : κ → Int) (reads : List (κ × Int)) (db : Database κ τ) : Prop where
  changes : Changes tx delta db
  locked : ∀ r ∈ reads, Locked tx r.1 r.2 db

variable {reads : List (κ × Int)}

omit [DecidableEq κ] in
theorem View.stable (h : View tx delta reads db) (hu : Undisturbed tx db db') :
    View tx delta reads db' :=
  ⟨h.changes.stable hu, fun r hr => (h.locked r hr).stable hu⟩

def alone (tx : τ) (effect : Guarantee (statements κ τ) (Database κ τ)) :
    Guarantee (statements κ τ) (Database κ τ) :=
  fun past db e db' => (∀ other, other ≠ tx → Undisturbed other db db') ∧ effect past db e db'

abbrev Transacts {α : Type} (tx : τ) (effect : Guarantee (statements κ τ) (Database κ τ))
    (Q : List (Event (statements κ τ)) → α → Database κ τ → Prop) (p : Prog (statements κ τ) α)
    (past : List (Event (statements κ τ))) (db : Database κ τ) : Prop :=
  p.Ensures execute Ready (Undisturbed tx) (alone tx effect) Q past db

variable {effect : Guarantee (statements κ τ) (Database κ τ)} {α β : Type}
variable {past : List (Event (statements κ τ))}

def AllowsQuiet (effect : Guarantee (statements κ τ) (Database κ τ))
    (past : List (Event (statements κ τ))) : Prop :=
  ∀ db e db', e.1.publishes = false → (∀ k, db'.value k = db.value k) → effect past db e db'

theorem AllowsQuiet.guarantee (h : AllowsQuiet effect past) {st : Statement κ τ}
    (htx : st.tx = some tx) (hst : st.publishes = false) (hready : Ready st db) :
    alone tx effect past db ⟨st, (execute st db).1⟩ (execute st db).2 := by
  refine ⟨fun other hne => execute_undisturbed hready ?_, h _ _ _ hst (execute_value hst db)⟩
  rw [htx]
  exact fun heq => hne (Option.some.inj heq).symm

theorem quiet_ensures {st : Statement κ τ} {R : (statements κ τ).Answer st → Database κ τ → Prop}
    (hquiet : AllowsQuiet effect past) (h : View tx delta reads db) (htx : st.tx = some tx)
    (hst : st.publishes = false) (hstable : ∀ r db db', Undisturbed tx db db' → R r db → R r db')
    (hnext : ∀ db, View tx delta reads db → R (execute st db).1 (execute st db).2) :
    Transacts tx effect (fun past' r db' => past' = ⟨st, r⟩ :: past ∧ R r db') (.call st .done) past
      db :=
  fun _ hu hready => ⟨hquiet.guarantee htx hst hready,
    fun _ hu' => ⟨rfl, hstable _ _ _ hu' (hnext _ (h.stable hu))⟩⟩

theorem insertDefault_ensures (hquiet : AllowsQuiet effect past) (h : View tx delta reads db)
    (key : κ) : Transacts tx effect (fun past' r db' =>
      past' = ⟨.insertDefault tx key, r⟩ :: past ∧ ∀ u, r = .ok u → View tx delta reads db')
        (insertDefault tx key) past db := by
  refine quiet_ensures hquiet h rfl rfl (fun _ _ _ hu hr u hok => (hr u hok).stable hu) ?_
  intro db₁ hview u hok
  cases hfault : db₁.fault with
  | some err =>
    simp only [execute, hfault] at hok
    cases hok
  | none =>
    simp only [execute, hfault]
    refine ⟨hview.changes.insertDefault, fun r hr => ?_⟩
    split_ifs with hvisible
    · exact hview.locked r hr
    · exact (hview.locked r hr).hold key fun _ => rfl

theorem selectForUpdate_ensures (hquiet : AllowsQuiet effect past) (h : View tx delta reads db)
    {key : κ} (hdelta : delta key = 0) :
    Transacts tx effect (fun past' r db' => past' = ⟨.selectForUpdate tx key, r⟩ :: past ∧
      ∀ v, r = .ok v → View tx delta ((key, v) :: reads) db') (selectForUpdate tx key) past db := by
  refine quiet_ensures hquiet h rfl rfl (fun _ _ _ hu hr v hok => (hr v hok).stable hu) ?_
  intro db₁ hview v hok
  cases hfault : db₁.fault with
  | some err =>
    simp only [execute, hfault] at hok
    cases hok
  | none =>
    cases hvisible : db₁.visible tx key with
    | none =>
      simp only [execute, hfault, hvisible] at hok
      cases hok
    | some w =>
      simp only [execute, hfault, hvisible] at hok ⊢
      cases hok
      refine ⟨hview.changes.select, fun r hr => ?_⟩
      rcases List.mem_cons.mp hr with rfl | hr
      · exact hview.changes.locked hvisible hdelta
      · refine (hview.locked r hr).hold key fun _ => ?_
        exact Option.isSome_iff_exists.mpr ⟨_, hvisible⟩

theorem add_ensures (hquiet : AllowsQuiet effect past) (h : View tx delta reads db)
    {key : κ} {v : Int} (hread : (key, v) ∈ reads) (hdelta : delta key = 0) (n : Int) :
    Transacts tx effect (fun past' r db' => past' = ⟨.add tx key n, r⟩ :: past ∧
      ∀ u, r = .ok u → InInt64 (v + n) ∧
        View tx (fun k => if k = key then delta k + n else delta k) reads db')
      (add tx key n) past db := by
  refine quiet_ensures hquiet h rfl rfl
    (fun _ _ _ hu hr u hok => (hr u hok).imp_right (·.stable hu)) ?_
  intro db₁ hview u hok
  have hlocked := hview.locked _ hread
  obtain ⟨w, hvisible⟩ := Option.isSome_iff_exists.mp hlocked.visible
  have hw : w = v := by
    have hkey := hview.changes key
    rw [hvisible, hdelta, hlocked.value, Option.getD_some] at hkey
    omega
  subst hw
  cases hfault : db₁.fault with
  | some err =>
    simp only [execute, hfault] at hok
    cases hok
  | none =>
    simp only [execute, hfault, hvisible] at hok ⊢
    split_ifs at hok ⊢ with hrange
    refine ⟨hrange, hview.changes.add hvisible n, fun r hr => ?_⟩
    exact (hview.locked r hr).hold key fun _ => rfl

theorem commit_ensures (h : View tx delta reads db)
    (hok : ∀ db db', View tx delta reads db → (∀ k, db'.value k = db.value k + delta k) →
      effect past db ⟨.commit tx, .ok ()⟩ db')
    (herr : ∀ db err db', (∀ k, db'.value k = db.value k) →
      effect past db ⟨.commit tx, .error err⟩ db') :
    Transacts tx effect (fun past' r _ => past' = ⟨.commit tx, r⟩ :: past) (commit tx) past db := by
  intro db₁ hu hready
  have hview := h.stable hu
  refine ⟨⟨fun other hne => execute_undisturbed hready ?_, ?_⟩, fun _ _ => rfl⟩
  · exact fun heq => hne (Option.some.inj heq).symm
  · cases hfault : db₁.fault with
    | none =>
      simp only [execute, hfault]
      exact hok _ _ hview hview.changes.commit
    | some err =>
      simp only [execute, hfault]
      exact herr _ _ _ fun _ => rfl

theorem attempt_ensures {p : Prog (statements κ τ) (Except Error β)} {wrap : Error → Error}
    {next : β → Prog (statements κ τ) (Except Error α)}
    {P : List (Event (statements κ τ)) → Except Error β → Database κ τ → Prop}
    {Q : List (Event (statements κ τ)) → Except Error α → Database κ τ → Prop}
    (hp : Transacts tx effect P p past db)
    (hfailed : ∀ past' err db', P past' (.error err) db' → AllowsQuiet effect past' ∧
      ∀ db'', Q (⟨.rollback tx, ()⟩ :: past') (.error (wrap err)) db'')
    (hnext : ∀ past' x db', P past' (.ok x) db' → Transacts tx effect Q (next x) past' db') :
    Transacts tx effect Q (attempt tx wrap p next) past db := by
  refine hp.bind (Undisturbed.refl tx) fun past' r db' hr => ?_
  cases r with
  | ok x => exact hnext past' x db' hr
  | error err =>
    obtain ⟨hquiet, hQ⟩ := hfailed past' err db' hr
    intro db₁ hu hready
    exact ⟨hquiet.guarantee rfl rfl hready, fun db₂ _ => hQ db₂⟩

end Database
end FleetLlmd.Sql
