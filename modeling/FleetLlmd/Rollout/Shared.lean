import FleetLlmd.Rollout.Restart

/-!
# Two controllers over one repository

Each controller keeps its own memory and fills it once, so what it advances may be older than
what the other has persisted. A rollback does not depend on what it starts from. An advance
persists what follows from the persisted weight exactly when the weight in memory is that one,
or when both end at full weight, or when nothing is promoted.
-/

namespace FleetLlmd.Rollout
open Go

structure SharedControllers where
  memory : Bool → String → Option RolloutRecord := fun _ _ => none
  repo : Repository := {}

namespace SharedControllers

def controller (p : SharedControllers) (b : Bool) : Controller := ⟨p.memory b, some p.repo⟩

section
variable (parseFloat : String → Except Error Float64)

def serve (p : SharedControllers) (b : Bool) (m : Moment) (call : Call) :
    Controller.Result × SharedControllers :=
  let r := (p.controller b).serve parseFloat m call
  (r.1, { memory := Function.update p.memory b r.2.rollouts, repo := r.2.repo.getD p.repo })

def after (p : SharedControllers) (calls : List (Bool × Moment × Call)) : SharedControllers :=
  calls.foldl (fun p call => (p.serve parseFloat call.1 call.2.1 call.2.2).2) p

def Reachable (p : SharedControllers) : Prop :=
  ∃ calls, p = ({} : SharedControllers).after parseFloat calls

end

def persisted (p : SharedControllers) (id : String) : Option (String × Int64) :=
  (p.repo.rollouts id).map fun record => (record.status, record.currentWeight)

def Named (p : SharedControllers) : Prop := ∀ b, (p.controller b).Named

section
variable {parseFloat : String → Except Error Float64} {p : SharedControllers}

theorem serve_repo (p : SharedControllers) (b : Bool) (m : Moment) (call : Call) :
    some (p.serve parseFloat b m call).2.repo =
      ((p.controller b).serve parseFloat m call).2.repo := by
  have hsome : ((p.controller b).serve parseFloat m call).2.repo.isSome = true :=
    Controller.serve_repo m call
  obtain ⟨repo, hrepo⟩ := Option.isSome_iff_exists.mp hsome
  rw [hrepo, serve, hrepo, Option.getD_some]

theorem Named.serve (h : p.Named) (b : Bool) (m : Moment) (call : Call) :
    (p.serve parseFloat b m call).2.Named := by
  obtain ⟨hmemory, hrepository⟩ := (@Controller.Named.serve parseFloat _ (h b) m call).1
  intro b'
  refine ⟨fun id record hmem => ?_, fun id record hstored => ?_⟩
  · by_cases hb : b' = b
    · subst hb
      exact hmemory id record ((congrFun (Function.update_self ..) id).symm.trans hmem)
    · exact (h b').memory id record ((congrFun (Function.update_of_ne hb ..) id).symm.trans hmem)
  · refine hrepository id record ?_
    rw [Controller.stored, ← serve_repo]
    exact hstored

theorem Named.after (h : p.Named) (parseFloat : String → Except Error Float64)
    (calls : List (Bool × Moment × Call)) : (p.after parseFloat calls).Named := by
  induction calls generalizing p with
  | nil => exact h
  | cons call calls ih => exact ih (h.serve call.1 call.2.1 call.2.2)

theorem named_empty : ({} : SharedControllers).Named :=
  fun _ => by constructor <;> simp [controller, Controller.stored]

end
end SharedControllers

/-! ## What an advance persists -/

section
variable (parseFloat : String → Except Error Float64)

def ModelLifecycleSpec.advanced (l : ModelLifecycleSpec) (last : String × Int64) :
    String × Int64 :=
  match l.canary with
  | none => last
  | some canary =>
    if checkSLOGate parseFloat canary.sloGate then
      let weight := nextWeight last.2 canary.weightIncrement
      (if weight = 100 then "Complete" else "Canary", weight)
    else if canary.rollbackOnFailure then ("RolledBack", 0)
    else last

def UpToDate (m : Moment) (record : RolloutRecord) (weight : Int64) : Prop :=
  match record.lifecycle.canary with
  | none => True
  | some canary =>
    m.persistError.isSome = true ∨ checkSLOGate parseFloat canary.sloGate = false ∨
      record.state.currentWeight = weight ∨
      (100 ≤ record.state.currentWeight + canary.weightIncrement ∧
        100 ≤ weight + canary.weightIncrement)

end

theorem nextWeight_eq_iff (a b increment : Int64) :
    nextWeight a increment = nextWeight b increment ↔
      a = b ∨ (100 ≤ a + increment ∧ 100 ≤ b + increment) := by
  have hadd : a + increment = b + increment ↔ a = b := Int64.add_left_inj increment
  have hle (x : Int64) : 100 ≤ x ↔ 100 < x ∨ x = 100 := by
    rw [Int64.le_iff_toInt_le, Int64.lt_iff_toInt_lt, ← Int64.toInt_inj]
    omega
  have hlt (x : Int64) (h : 100 < x) : x ≠ 100 := by
    rintro rfl
    exact absurd h (by decide)
  rw [nextWeight, nextWeight, ← hadd, hle, hle]
  split_ifs with ha hb hb <;> grind

def Persists (id : String) (r : Controller.Result × Controller) (position : String × Int64) :
    Prop :=
  ∀ state, r.1 = .ok state →
    (r.2.stored id).join.map (fun record => (record.status, record.currentWeight)) = some position

section
variable {parseFloat : String → Except Error Float64} {c : Controller} {id : String}
  {old : Postgres.RolloutRecord} {m : Moment} {record : RolloutRecord}

theorem persists_commit_iff (hnamed : c.Named) (hstored : c.stored id = some (some old))
    (m : Moment) (message : String) (record : RolloutRecord) (state : RolloutState)
    (hstate : state.id = id) (position : String × Int64) :
    Persists id (c.commit m id message record state) position ↔
      m.persistError.isSome = true ∨ state.position = position := by
  obtain ⟨repo, hrepo, hold⟩ := Controller.stored_eq_some.mp hstored
  have hid := hnamed.repository id old hstored
  rw [Persists, Controller.commit_stored hrepo hold hid m message record hstate]
  cases m.persistError with
  | some err => simp
  | none =>
    simp only [Controller.store_stored _ repo (old.withState state) hid]
    simp [Postgres.RolloutRecord.withState, RolloutState.position]

theorem persists_rollback (hnamed : c.Named) (hstored : c.stored id = some (some old))
    (hfind : c.find m id = some record) :
    Persists id (c.rollbackRollout m id) ("RolledBack", 0) := by
  have hid := hnamed.find hfind
  rw [Controller.rollbackRollout_found hfind]
  exact (persists_commit_iff (hnamed.hold hid) hstored m _ record
    (record.state.rolledBack m.now) hid _).mpr (.inr rfl)

theorem persists_advance_iff (hnamed : c.Named) (hstored : c.stored id = some (some old))
    (hfind : c.find m id = some record) :
    Persists id (c.advanceRollout parseFloat m id)
        (record.lifecycle.advanced parseFloat (old.status, old.currentWeight)) ↔
      UpToDate parseFloat m record old.currentWeight := by
  have hid := hnamed.find hfind
  have hcommit := persists_commit_iff (c := c.hold id record) (hnamed.hold hid) hstored m
  simp only [Controller.advanceRollout, Controller.withRecord, hfind, UpToDate,
    ModelLifecycleSpec.advanced]
  cases record.lifecycle.canary with
  | none => simp [Persists]
  | some canary =>
    by_cases hgate : checkSLOGate parseFloat canary.sloGate = true
    · have hphase {a b : Int64} (h : nextWeight a canary.weightIncrement =
          nextWeight b canary.weightIncrement) :
          (if nextWeight a canary.weightIncrement = 100 then "Complete" else "Canary") =
            if nextWeight b canary.weightIncrement = 100 then "Complete" else "Canary" := by
        rw [h]
      simp only [hgate, if_true]
      rw [hcommit _ record (record.state.promoted canary.weightIncrement m.now) hid,
        ← nextWeight_eq_iff]
      simp only [RolloutState.position, RolloutState.promoted, Prod.mk.injEq,
        Bool.true_eq_false, false_or]
      exact or_congr_right ⟨fun h => h.2, fun h => ⟨hphase h, h⟩⟩
    · simp only [hgate, Bool.false_eq_true, if_false]
      rw [iff_true_right (.inr (.inl (by simp)))]
      cases canary.rollbackOnFailure with
      | true =>
        rw [if_pos rfl, if_pos rfl, hcommit _ record (record.state.failed m.now) hid]
        exact .inr rfl
      | false =>
        have hkept : (c.hold id record).stored id = _ := hstored
        simp [Persists, hkept]

end

/-! ## The persisted state -/

theorem SharedControllers.persisted_serve {parseFloat : String → Except Error Float64}
    (p : SharedControllers) (b : Bool) (m : Moment) (call : Call) (id : String) :
    (p.serve parseFloat b m call).2.persisted id =
      (((p.controller b).serve parseFloat m call).2.stored id).join.map
        fun record => (record.status, record.currentWeight) := by
  rw [Controller.stored, ← serve_repo]
  rfl

def lookedAt : List (Bool × Moment × Call) :=
  [(false, calm, .create (.ok []) (sampleLifecycle [] none)),
    (true, calm, .get (rolloutID (sampleLifecycle [] none) []))]

def sampleRecord : RolloutRecord :=
  ⟨(sampleLifecycle [] none).start (rolloutID (sampleLifecycle [] none) []) .zero,
    sampleLifecycle [] none⟩

theorem acts_on_persisted_iff (parseFloat : String → Except Error Float64)
    (p : SharedControllers) (hp : p.Reachable parseFloat) (b : Bool) (m : Moment) (id : String)
    (record : RolloutRecord) (hfind : (p.controller b).find m id = some record)
    (last : String × Int64) (hlast : p.persisted id = some last) :
    (∀ state, (p.serve parseFloat b m (.rollback id)).1 = .ok state →
      (p.serve parseFloat b m (.rollback id)).2.persisted id = some ("RolledBack", 0)) ∧
    ((∀ state, (p.serve parseFloat b m (.advance id)).1 = .ok state →
      (p.serve parseFloat b m (.advance id)).2.persisted id =
        some (record.lifecycle.advanced parseFloat last)) ↔
      UpToDate parseFloat m record last.2) := by
  obtain ⟨calls, rfl⟩ := hp
  have hnamed := SharedControllers.named_empty.after parseFloat calls b
  obtain ⟨old, hold, rfl⟩ := Option.map_eq_some_iff.mp hlast
  have hstored : ((({} : SharedControllers).after parseFloat calls).controller b).stored id =
    some (some old) := congrArg some hold
  simp only [SharedControllers.persisted_serve]
  exact ⟨persists_rollback hnamed hstored hfind, persists_advance_iff hnamed hstored hfind⟩

theorem lookedAt_advance_persisted :
    ∃ (p : SharedControllers) (id : String) (record : RolloutRecord) (last : String × Int64),
      p.Reachable noFloat ∧
      (p.controller true).find calm id = some record ∧ p.persisted id = some last ∧
      (∀ state, (p.serve noFloat true calm (.advance id)).1 = .ok state →
        (p.serve noFloat true calm (.advance id)).2.persisted id =
          some (record.lifecycle.advanced noFloat last)) ∧
      record.lifecycle.advanced noFloat last = ("Canary", 70) := by
  have hfind : ((({} : SharedControllers).after noFloat lookedAt).controller true).find calm
      (rolloutID (sampleLifecycle [] none) []) = some sampleRecord := by decide +kernel
  have hlast : (({} : SharedControllers).after noFloat lookedAt).persisted
      (rolloutID (sampleLifecycle [] none) []) = some ("Canary", 50) := by decide +kernel
  exact ⟨_, _, sampleRecord, ("Canary", 50), ⟨lookedAt, rfl⟩, hfind, hlast,
    (acts_on_persisted_iff noFloat _ ⟨lookedAt, rfl⟩ true calm _ _ hfind _ hlast).2.mpr
      (.inr (.inr (.inl rfl))), by decide +kernel⟩

/-- The advance of one controller from the weight it remembers undoes the other's rollback. -/
theorem advance_overwrites_rollback :
    ∃ (parseFloat : _) (p : SharedControllers) (b : Bool) (m : Moment) (id : String)
      (record : RolloutRecord) (state : RolloutState) (last : String × Int64),
      p.Reachable parseFloat ∧
      (p.controller b).find m id = some record ∧ p.persisted id = some last ∧
      last = ("RolledBack", 0) ∧ (p.serve parseFloat b m (.advance id)).1 = .ok state ∧
      (p.serve parseFloat b m (.advance id)).2.persisted id = some ("Canary", 70) ∧
      record.lifecycle.advanced parseFloat last = ("Canary", 20) := by
  let id := rolloutID (sampleLifecycle [] none) []
  let calls := lookedAt ++ [(false, calm, .rollback id)]
  have hfind : ((({} : SharedControllers).after noFloat calls).controller true).find calm id =
      some sampleRecord := by decide +kernel
  exact ⟨noFloat, _, true, calm, id, sampleRecord, sampleRecord.state.promoted 20 .zero,
    ("RolledBack", 0), ⟨calls, rfl⟩, hfind, by decide +kernel, rfl, by decide +kernel,
    by decide +kernel, by decide +kernel⟩

end FleetLlmd.Rollout
