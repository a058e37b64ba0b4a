import FleetLlmd.Rollout.Controller

/-!
# Runs of the rollout controller

A run is a list of calls, each at its own moment, with restarts in between that empty the
memory and keep the repository. A call touches one rollout only, so an invariant is stated for
one ID: the record in the repository describes a state, and what is in memory is that state,
with the lifecycle of the record as it was created or as it is reloaded.
-/

namespace FleetLlmd.Rollout
open Go

inductive Call where
  | create (suffix : Except Error Bytes) (lifecycle : ModelLifecycleSpec)
  | advance (id : String)
  | rollback (id : String)
  | get (id : String)

def Call.target : Call → Option String
  | .create (.error _) _ => none
  | .create (.ok suffix) lifecycle => some (rolloutID lifecycle suffix)
  | .advance id => some id
  | .rollback id => some id
  | .get id => some id

inductive Move where
  | call (m : Moment) (call : Call)
  | restart

namespace Controller

def new (persistent : Bool) : Controller := { repo := if persistent then some {} else none }

def restart (c : Controller) : Controller := { repo := c.repo }

section
variable (parseFloat : String → Except Error Float64)

def serve (c : Controller) (m : Moment) : Call → Result × Controller
  | .create suffix lifecycle => c.createRollout m suffix lifecycle
  | .advance id => c.advanceRollout parseFloat m id
  | .rollback id => c.rollbackRollout m id
  | .get id => c.getRolloutState m id

def move (c : Controller) : Move → Controller
  | .call m call => (c.serve parseFloat m call).2
  | .restart => c.restart

def after (c : Controller) (moves : List Move) : Controller := moves.foldl (move parseFloat) c

end

@[simp] theorem hold_repo (c : Controller) (id : String) (record : RolloutRecord) :
    (c.hold id record).repo = c.repo := rfl

@[simp] theorem hold_rollouts (c : Controller) (id : String) (record : RolloutRecord) :
    (c.hold id record).rollouts id = some record := Function.update_self ..

theorem hold_other (c : Controller) {id id' : String} (h : id' ≠ id) (record : RolloutRecord) :
    (c.hold id record).rollouts id' = c.rollouts id' := Function.update_of_ne h ..

theorem find_memory {c : Controller} {id : String} {record : RolloutRecord}
    (h : c.rollouts id = some record) (m : Moment) : c.find m id = some record := by
  rw [find, h]

@[simp] theorem find_hold (c : Controller) (m : Moment) (id : String) (record : RolloutRecord) :
    (c.hold id record).find m id = some record :=
  find_memory (c.hold_rollouts id record) m

end Controller

/-! ## Records -/

def ModelLifecycleSpec.reload (l : ModelLifecycleSpec) : ModelLifecycleSpec :=
  if l.strategy.type = "" then
    { fleetPoolRef := if l.fleetPoolRef = "" then l.model.name else l.fleetPoolRef
      model := { version := l.model.version }
      strategy := { type := "Canary", canary := some { weightIncrement := 20 } } }
  else l

section
variable (l : ModelLifecycleSpec) (state : RolloutState) (completedAt : Option Time)

@[simp] theorem strategyMap_snapshot (states : List ClusterRolloutState) :
    strategyMap l states "snapshot" = some (.snapshot ⟨l, states⟩) := Function.update_self ..

@[simp] theorem strategyMap_type (states : List ClusterRolloutState) :
    strategyMap l states "type" = some (.text l.strategy.type) := by
  rw [strategyMap, Function.update_of_ne (by decide), Function.update_self]

@[simp] theorem readSnapshot_record :
    (l.record state completedAt).readSnapshot = ⟨l, state.clusterStates⟩ := by
  have hstored : (l.record state completedAt).strategy "snapshot" =
      some (.snapshot ⟨l, state.clusterStates⟩) := strategyMap_snapshot l _
  simp only [Postgres.RolloutRecord.readSnapshot, hstored, StrategyValue.marshal,
    unmarshalSnapshot_marshal]

theorem rebuild_record (now : Time) :
    (l.record state completedAt).rebuild now = ⟨{ state with updatedAt := now }, l.reload⟩ := by
  simp only [Postgres.RolloutRecord.rebuild, readSnapshot_record, ModelLifecycleSpec.reload]
  split
  · next h =>
    simp only [Postgres.RolloutRecord.fallback, ModelLifecycleSpec.record, strategyMap_type, h,
      if_true]
  · rfl

theorem withState_record {state' : RolloutState} (hid : state'.id = state.id)
    (hstarted : state'.startedAt = state.startedAt) :
    ∃ completedAt', (l.record state completedAt).withState state' =
      l.record state' completedAt' := by
  have hmap : Function.update (strategyMap l state.clusterStates) "snapshot"
      (some (.snapshot ⟨l, state'.clusterStates⟩)) = strategyMap l state'.clusterStates :=
    Function.update_idem ..
  rw [Postgres.RolloutRecord.withState, readSnapshot_record]
  simp only [ModelLifecycleSpec.record, hmap, hid, hstarted]
  exact ⟨_, rfl⟩

end

def Moment.persistError (m : Moment) : Option Error := m.readError <|> m.writeError

theorem Repository.put_self (repo : Repository) (record : Postgres.RolloutRecord) :
    (repo.put record).rollouts record.id = some record := Function.update_self ..

theorem Repository.put_other (repo : Repository) (record : Postgres.RolloutRecord) {id : String}
    (h : id ≠ record.id) : (repo.put record).rollouts id = repo.rollouts id :=
  Function.update_of_ne h ..

theorem persistState_stored {m : Moment} {repo : Repository} {record : Postgres.RolloutRecord}
    {state : RolloutState} (hstored : repo.rollouts state.id = some record)
    (hid : record.id = state.id) :
    persistState m (some repo) state =
      orFail m.persistError (.ok (some (repo.put (record.withState state)))) := by
  have hget : repo.get state.id = .ok record := by rw [Repository.get, hstored]
  have hupdate : repo.update (record.withState state) =
      .ok (repo.put (record.withState state)) := by
    have hold : repo.rollouts (record.withState state).id = some record :=
      (congrArg repo.rollouts hid).trans hstored
    rw [Repository.update, hold]
  simp only [persistState, hget, Moment.persistError]
  cases m.readError with
  | some err => rfl
  | none =>
    change (orFail m.writeError (repo.update (record.withState state))).bind _ = _
    rw [hupdate]
    cases m.writeError <;> rfl

/-! ## What a call can do -/

namespace Controller

def stored (c : Controller) (id : String) : Option (Option Postgres.RolloutRecord) :=
  c.repo.map (·.rollouts id)

def store (c : Controller) (repo : Repository) (record : Postgres.RolloutRecord) : Controller :=
  { c with repo := some (repo.put record) }

theorem commit_alone {c : Controller} (hrepo : c.repo = none) (m : Moment) (id message : String)
    (record : RolloutRecord) (state : RolloutState) :
    c.commit m id message record state = (.ok state, c.hold id { record with state }) := by
  simp only [commit, hrepo, persistState]
  rw [← hrepo]
  rfl

theorem commit_stored {c : Controller} {repo : Repository} (hrepo : c.repo = some repo)
    {id : String} {old : Postgres.RolloutRecord} (hstored : repo.rollouts id = some old)
    (hid : old.id = id) (m : Moment) (message : String) (record : RolloutRecord)
    {state : RolloutState} (hstate : state.id = id) :
    c.commit m id message record state = match m.persistError with
      | some err => (.error (.wrapf message [id] err), c)
      | none =>
        (.ok state, (c.hold id { record with state }).store repo (old.withState state)) := by
  subst hstate
  rw [commit, hrepo, persistState_stored hstored hid]
  cases m.persistError <;> rfl

end Controller

inductive Next (parseFloat : String → Except Error Float64) (l : ModelLifecycleSpec)
    (state : RolloutState) (now : Time) : RolloutState → Prop
  | promoted (canary : CanaryConfig) (hcanary : l.canary = some canary)
      (hgate : checkSLOGate parseFloat canary.sloGate = true) :
      Next parseFloat l state now (state.promoted canary.weightIncrement now)
  | failed (canary : CanaryConfig) (hcanary : l.canary = some canary)
      (hgate : checkSLOGate parseFloat canary.sloGate = false)
      (hrollback : canary.rollbackOnFailure = true) : Next parseFloat l state now (state.failed now)
  | rolledBack : Next parseFloat l state now (state.rolledBack now)

section
variable {parseFloat : String → Except Error Float64} {l : ModelLifecycleSpec}
  {state state' : RolloutState} {now : Time}

theorem Next.id_eq (h : Next parseFloat l state now state') : state'.id = state.id := by
  cases h <;> rfl

theorem Next.startedAt_eq (h : Next parseFloat l state now state') :
    state'.startedAt = state.startedAt := by
  cases h <;> rfl

theorem Next.of_touched {t : Time}
    (h : Next parseFloat l { state with updatedAt := t } now state') :
    Next parseFloat l state now state' := by
  cases h with
  | promoted canary hcanary hgate => exact .promoted canary hcanary hgate
  | failed canary hcanary hgate hrollback => exact .failed canary hcanary hgate hrollback
  | rolledBack => exact .rolledBack

end

namespace Controller
variable {parseFloat : String → Except Error Float64} {c : Controller} {m : Moment}

inductive Effect (parseFloat : String → Except Error Float64) (c : Controller) (m : Moment)
    (id : String) : Result × Controller → Prop
  | missing (hfind : c.find m id = none) (err : Error) : Effect parseFloat c m id (.error err, c)
  | unchanged (record : RolloutRecord) (hfind : c.find m id = some record) (result : Result) :
      Effect parseFloat c m id (result, c.hold id record)
  | commits (record : RolloutRecord) (hfind : c.find m id = some record) (message : String)
      (state : RolloutState) (hnext : Next parseFloat record.lifecycle record.state m.now state) :
      Effect parseFloat c m id ((c.hold id record).commit m id message record state)

variable {id : String}

theorem withRecord_effect {k : RolloutRecord → Controller → Result × Controller}
    (hk : ∀ record, c.find m id = some record →
      Effect parseFloat c m id (k record (c.hold id record))) :
    Effect parseFloat c m id (c.withRecord m id k) := by
  rw [withRecord]
  split
  · next hfind => exact .missing hfind _
  · next record hfind => exact hk record hfind

theorem advanceRollout_effect (id : String) :
    Effect parseFloat c m id (c.advanceRollout parseFloat m id) := by
  refine withRecord_effect fun record hfind => ?_
  split
  · exact .unchanged record hfind _
  · next canary hcanary =>
    split_ifs with hgate hrollback
    · exact .commits record hfind _ _ (.promoted canary hcanary hgate)
    · exact .commits record hfind _ _ (.failed canary hcanary (by simpa using hgate) hrollback)
    · exact .unchanged record hfind _

theorem rollbackRollout_effect (parseFloat : String → Except Error Float64) (id : String) :
    Effect parseFloat c m id (c.rollbackRollout m id) :=
  withRecord_effect fun record hfind => .commits record hfind _ _ .rolledBack

theorem getRolloutState_effect (parseFloat : String → Except Error Float64) (id : String) :
    Effect parseFloat c m id (c.getRolloutState m id) :=
  withRecord_effect fun record hfind => .unchanged record hfind _

/-! ## Names -/

theorem stored_eq_some {old : Option Postgres.RolloutRecord} :
    c.stored id = some old ↔ ∃ repo, c.repo = some repo ∧ repo.rollouts id = old := by
  simp [stored]

structure Named (c : Controller) : Prop where
  memory : ∀ id record, c.rollouts id = some record → record.state.id = id
  repository : ∀ id record, c.stored id = some (some record) → record.id = id

def Elsewhere (id : String) (c c' : Controller) : Prop :=
  ∀ id', id' ≠ id → c'.rollouts id' = c.rollouts id' ∧ c'.stored id' = c.stored id'

theorem elsewhere_hold (c : Controller) (id : String) (record : RolloutRecord) :
    Elsewhere id c (c.hold id record) := fun _ h => ⟨c.hold_other h record, rfl⟩

theorem Elsewhere.trans {c' c'' : Controller} (h : Elsewhere id c c')
    (h' : Elsewhere id c' c'') : Elsewhere id c c'' := fun id' hne =>
  ⟨(h' id' hne).1.trans (h id' hne).1, (h' id' hne).2.trans (h id' hne).2⟩

theorem store_stored (c : Controller) (repo : Repository) (record : Postgres.RolloutRecord)
    (hid : record.id = id) :
    (c.store repo record).stored id = some (some record) :=
  congrArg some (hid ▸ repo.put_self record)

theorem elsewhere_store {repo : Repository} (hrepo : c.repo = some repo)
    (stored : Postgres.RolloutRecord) (hid : stored.id = id)
    (record : RolloutRecord) : Elsewhere id c ((c.hold id record).store repo stored) := by
  intro id' hne
  have hput := repo.put_other stored (fun h => hne (h.trans hid))
  refine ⟨c.hold_other hne record, ?_⟩
  simp only [Controller.stored, store, hrepo, Option.map_some, hput]

def forget (c : Controller) (id : String) : Controller :=
  { c with rollouts := Function.update c.rollouts id none }

@[simp] theorem forget_rollouts (c : Controller) (id : String) :
    (c.forget id).rollouts id = none := Function.update_self ..

theorem elsewhere_forget (c : Controller) (id : String) : Elsewhere id c (c.forget id) :=
  fun _ hne => ⟨Function.update_of_ne hne .., rfl⟩

theorem commit_cases
    (hnamed : ∀ old, c.stored id = some (some old) → old.id = id) (m : Moment) (message : String)
    (record : RolloutRecord) {state : RolloutState} (hstate : state.id = id) :
    (∃ err, c.commit m id message record state = (.error err, c)) ∨
      (c.repo = none ∧
        c.commit m id message record state = (.ok state, c.hold id { record with state })) ∨
      ∃ repo old, c.repo = some repo ∧ repo.rollouts id = some old ∧ m.persistError = none ∧
        c.commit m id message record state =
          (.ok state, (c.hold id { record with state }).store repo (old.withState state)) := by
  cases hrepo : c.repo with
  | none => exact .inr (.inl ⟨rfl, commit_alone hrepo m id message record state⟩)
  | some repo =>
    cases hold : repo.rollouts id with
    | none =>
      have hget : repo.get state.id = .error (.errorf "rollout %q not found" [state.id]) := by
        rw [Repository.get, hstate, hold]
      refine .inl ?_
      rw [commit, hrepo, persistState]
      cases m.readError with
      | some err => exact ⟨_, rfl⟩
      | none =>
        rw [hget]
        exact ⟨_, rfl⟩
    | some old =>
      have hid := hnamed old (stored_eq_some.mpr ⟨repo, hrepo, hold⟩)
      have hcommit := commit_stored hrepo hold hid m message record hstate
      cases herror : m.persistError with
      | some err => exact .inl ⟨_, by rw [hcommit, herror]⟩
      | none => exact .inr (.inr ⟨repo, old, rfl, hold, rfl, by rw [hcommit, herror]⟩)

theorem loadFromRepo_eq (c : Controller) (m : Moment) (id : String) :
    c.loadFromRepo m id =
      if m.getError.isSome then none else (c.stored id).join.map (·.rebuild m.loadedAt) := by
  rw [loadFromRepo, stored]
  cases c.repo with
  | none => simp
  | some repo =>
    simp only [Repository.get, Option.map_some, Option.join_some]
    cases m.getError <;> cases repo.rollouts id <;> rfl

theorem find_cases {record : RolloutRecord} (h : c.find m id = some record) :
    c.rollouts id = some record ∨
      ∃ old, c.stored id = some (some old) ∧ record = old.rebuild m.loadedAt := by
  rw [find] at h
  split at h
  · next hmem => exact .inl (hmem.trans h)
  · rw [loadFromRepo_eq] at h
    split_ifs at h
    obtain ⟨old, hold, rfl⟩ := Option.map_eq_some_iff.mp h
    exact .inr ⟨old, Option.join_eq_some_iff.mp hold, rfl⟩

namespace Named

theorem find (h : c.Named) {id : String} {record : RolloutRecord}
    (hfind : c.find m id = some record) : record.state.id = id := by
  obtain hmem | ⟨old, hold, rfl⟩ := find_cases hfind
  · exact h.memory id record hmem
  · exact h.repository id old hold

theorem hold (h : c.Named) {id : String} {record : RolloutRecord} (hid : record.state.id = id) :
    (c.hold id record).Named := by
  refine ⟨fun id' record' hmem => ?_, h.repository⟩
  by_cases hne : id' = id
  · subst hne
    rw [hold_rollouts] at hmem
    exact Option.some.inj hmem ▸ hid
  · exact h.memory id' record' (c.hold_other hne record ▸ hmem)

theorem store (h : c.Named) {repo : Repository} (hrepo : c.repo = some repo)
    (record : Postgres.RolloutRecord) : (c.store repo record).Named := by
  refine ⟨h.memory, fun id old hstored => ?_⟩
  by_cases hne : id = record.id
  · rw [c.store_stored repo record hne.symm] at hstored
    exact Option.some.inj (Option.some.inj hstored) ▸ hne.symm
  · refine h.repository id old (stored_eq_some.mpr ⟨repo, hrepo, ?_⟩)
    rw [← repo.put_other record hne]
    exact Option.some.inj hstored

theorem forget (h : c.Named) (id : String) : (c.forget id).Named := by
  refine ⟨fun id' record hmem => ?_, h.repository⟩
  by_cases hne : id' = id
  · subst hne
    rw [forget_rollouts] at hmem
    cases hmem
  · exact h.memory id' record ((c.elsewhere_forget id id' hne).1 ▸ hmem)

theorem effect (h : c.Named) {id : String} {r : Result × Controller}
    (heffect : Effect parseFloat c m id r) : r.2.Named ∧ Elsewhere id c r.2 := by
  cases heffect with
  | missing => exact ⟨h, fun _ _ => ⟨rfl, rfl⟩⟩
  | unchanged record hfind result => exact ⟨h.hold (h.find hfind), elsewhere_hold c id record⟩
  | commits record hfind message state hnext =>
    have hstate : state.id = id := hnext.id_eq.trans (h.find hfind)
    have hheld := h.hold (h.find hfind)
    have helse := elsewhere_hold c id record
    obtain ⟨err, hcommit⟩ | ⟨hrepo, hcommit⟩ | ⟨repo, old, hrepo, hold, -, hcommit⟩ :=
      commit_cases (hheld.repository id) m message record hstate
    · rw [hcommit]
      exact ⟨hheld, helse⟩
    · rw [hcommit]
      exact ⟨hheld.hold hstate, helse.trans (elsewhere_hold _ id _)⟩
    · rw [hcommit]
      have hold_id := hheld.repository id old (stored_eq_some.mpr ⟨repo, hrepo, hold⟩)
      exact ⟨(hheld.hold hstate).store hrepo _,
        helse.trans (elsewhere_store hrepo (old.withState state) hold_id _)⟩

end Named

theorem createRollout_cases (c : Controller) (m : Moment) (suffix : Bytes)
    (l : ModelLifecycleSpec) :
    let id := rolloutID l suffix
    let state := l.start id m.now
    (c.repo = none ∧ c.createRollout m (.ok suffix) l = (.ok state, c.hold id ⟨state, l⟩)) ∨
      (∃ repo, c.repo = some repo ∧ repo.rollouts id = none ∧
        c.createRollout m (.ok suffix) l =
          (.ok state, (c.hold id ⟨state, l⟩).store repo (l.record state none))) ∨
      ∃ repo err, c.repo = some repo ∧
        c.createRollout m (.ok suffix) l = (.error err, c.forget id) := by
  intro id state
  have hrecord : (l.record state none).id = id := rfl
  simp only [createRollout]
  cases hrepo : c.repo with
  | none => exact .inl ⟨rfl, rfl⟩
  | some repo =>
    have hforget : c.forget id = ⟨Function.update c.rollouts id none, some repo⟩ := by
      rw [forget, hrepo]
    simp only [Repository.create]
    cases m.writeError with
    | some err => exact .inr (.inr ⟨repo, _, rfl, by rw [hforget]; rfl⟩)
    | none =>
      cases hold : repo.rollouts id with
      | some old =>
        rw [show repo.rollouts (l.record state none).id = some old from hold]
        exact .inr (.inr ⟨repo, _, rfl, by rw [hforget]; rfl⟩)
      | none =>
        rw [show repo.rollouts (l.record state none).id = none from hold]
        exact .inr (.inl ⟨repo, rfl, hold, rfl⟩)

theorem Named.create (h : c.Named) (m : Moment) (suffix : Bytes) (l : ModelLifecycleSpec) :
    (c.createRollout m (.ok suffix) l).2.Named ∧
      Elsewhere (rolloutID l suffix) c (c.createRollout m (.ok suffix) l).2 := by
  obtain ⟨-, hcreate⟩ | ⟨repo, hrepo, -, hcreate⟩ | ⟨repo, err, -, hcreate⟩ :=
    createRollout_cases c m suffix l
  · rw [hcreate]
    exact ⟨h.hold rfl, elsewhere_hold c _ _⟩
  · rw [hcreate]
    have hheld : (c.hold (rolloutID l suffix) ⟨l.start _ m.now, l⟩).Named := h.hold rfl
    have hid : (l.record (l.start (rolloutID l suffix) m.now) none).id = rolloutID l suffix := rfl
    exact ⟨hheld.store hrepo _, elsewhere_store hrepo _ hid _⟩
  · rw [hcreate]
    exact ⟨h.forget _, c.elsewhere_forget _⟩

theorem Named.serve (h : c.Named) (m : Moment) (call : Call) :
    (c.serve parseFloat m call).2.Named ∧ ∀ id, call.target ≠ some id →
      (c.serve parseFloat m call).2.rollouts id = c.rollouts id ∧
        (c.serve parseFloat m call).2.stored id = c.stored id := by
  have hne {id id' : String} (hid : some id ≠ some id') : id' ≠ id := fun heq => hid (heq ▸ rfl)
  cases call with
  | create suffix l =>
    cases suffix with
    | error err => exact ⟨h, fun _ _ => ⟨rfl, rfl⟩⟩
    | ok suffix =>
      obtain ⟨hnamed, helse⟩ := h.create m suffix l
      exact ⟨hnamed, fun id' hid => helse id' (hne hid)⟩
  | advance id =>
    obtain ⟨hnamed, helse⟩ := h.effect (advanceRollout_effect id)
    exact ⟨hnamed, fun id' hid => helse id' (hne hid)⟩
  | rollback id =>
    obtain ⟨hnamed, helse⟩ := h.effect (rollbackRollout_effect parseFloat id)
    exact ⟨hnamed, fun id' hid => helse id' (hne hid)⟩
  | get id =>
    obtain ⟨hnamed, helse⟩ := h.effect (getRolloutState_effect parseFloat id)
    exact ⟨hnamed, fun id' hid => helse id' (hne hid)⟩

theorem named_new (persistent : Bool) : (new persistent).Named := by
  constructor <;> cases persistent <;> simp [new, stored]

theorem Named.after (h : c.Named) (parseFloat : String → Except Error Float64)
    (moves : List Move) : (c.after parseFloat moves).Named := by
  induction moves generalizing c with
  | nil => exact h
  | cons move moves ih =>
    refine ih ?_
    cases move with
    | call m call => exact (h.serve m call).1
    | restart => exact ⟨by simp [move, restart], h.repository⟩

end Controller

/-! ## Invariants of one rollout -/

/-- `Q` relates the lifecycle a rollout was created from to the states it can be in. -/
structure Stable (parseFloat : String → Except Error Float64) (P : ModelLifecycleSpec → Prop)
    (Q : ModelLifecycleSpec → RolloutState → Prop) : Prop where
  start : ∀ l id now, P l → Q l (l.start id now)
  next : ∀ l state now state', Q l state → Next parseFloat l state now state' → Q l state'
  reloaded : ∀ l state now state', Q l state → Next parseFloat l.reload state now state' →
    Q l state'

inductive Held (Q : ModelLifecycleSpec → RolloutState → Prop) (id : String) (c : Controller)
    (record : RolloutRecord) : Prop
  | alone (hrepo : c.stored id = none) (hQ : Q record.lifecycle record.state)
  | stored (l : ModelLifecycleSpec) (state : RolloutState) (completedAt : Option Time)
      (hstored : c.stored id = some (some (l.record state completedAt))) (hQ : Q l state)
      (hlifecycle : record.lifecycle = l ∨ record.lifecycle = l.reload)
      (hstate : ∃ now, record.state = { state with updatedAt := now })

structure Kept (Q : ModelLifecycleSpec → RolloutState → Prop) (id : String) (c : Controller) :
    Prop where
  memory : ∀ record, c.rollouts id = some record → Held Q id c record
  repository : ∀ record, c.stored id = some (some record) →
    ∃ l state completedAt, record = l.record state completedAt ∧ Q l state

namespace Kept
variable {parseFloat : String → Except Error Float64} {P : ModelLifecycleSpec → Prop}
  {Q : ModelLifecycleSpec → RolloutState → Prop} {id : String} {c c' : Controller} {m : Moment}
  {record : RolloutRecord}

theorem congr (h : Kept Q id c) (hmemory : c'.rollouts id = c.rollouts id)
    (hstored : c'.stored id = c.stored id) : Kept Q id c' := by
  refine ⟨fun record hmem => ?_, fun record hold => h.repository record (hstored ▸ hold)⟩
  cases h.memory record (hmemory ▸ hmem) with
  | alone hrepo hQ => exact .alone (hstored.trans hrepo) hQ
  | stored l state completedAt hold hQ hlifecycle hstate =>
    exact .stored l state completedAt (hstored.trans hold) hQ hlifecycle hstate

theorem find (h : Kept Q id c) (hfind : c.find m id = some record) : Held Q id c record := by
  obtain hmem | ⟨old, hold, rfl⟩ := Controller.find_cases hfind
  · exact h.memory record hmem
  · obtain ⟨l, state, completedAt, rfl, hQ⟩ := h.repository old hold
    have hrebuilt := rebuild_record l state completedAt m.loadedAt
    exact .stored l state completedAt hold hQ (.inr (congrArg RolloutRecord.lifecycle hrebuilt))
      ⟨m.loadedAt, congrArg RolloutRecord.state hrebuilt⟩

theorem hold (h : Kept Q id c) (hheld : Held Q id c record) : Kept Q id (c.hold id record) := by
  refine ⟨fun record' hmem => ?_, h.repository⟩
  obtain rfl := Option.some.inj ((c.hold_rollouts id record).symm.trans hmem)
  cases hheld with
  | alone hrepo hQ => exact .alone hrepo hQ
  | stored l state completedAt hold hQ hlifecycle hstate =>
    exact .stored l state completedAt hold hQ hlifecycle hstate

theorem commit (hstable : Stable parseFloat P Q) (hnamed : c.Named) (h : Kept Q id c)
    (hmem : c.rollouts id = some record) {state : RolloutState} (message : String)
    (hnext : Next parseFloat record.lifecycle record.state m.now state) :
    Kept Q id (c.commit m id message record state).2 := by
  have hstate : state.id = id := hnext.id_eq.trans (hnamed.memory id record hmem)
  obtain ⟨err, hcommit⟩ | ⟨hrepo, hcommit⟩ | ⟨repo, old, hrepo, hold, -, hcommit⟩ :=
    Controller.commit_cases (hnamed.repository id) m message record hstate
  · rw [hcommit]
    exact h
  · rw [hcommit]
    have hnone : c.stored id = none := by rw [Controller.stored, hrepo]; rfl
    cases h.memory record hmem with
    | alone _ hQ => exact h.hold (.alone hnone (hstable.next _ _ _ _ hQ hnext))
    | stored l state completedAt hstored => cases hnone.symm.trans hstored
  · rw [hcommit]
    have hsome := Controller.stored_eq_some.mpr ⟨repo, hrepo, hold⟩
    have hold_id := hnamed.repository id old hsome
    have hwritten := (c.hold id { record with state }).store_stored repo
      (old.withState state) hold_id
    cases h.memory record hmem with
    | alone hrepo hQ => cases hsome.symm.trans hrepo
    | stored l state₀ completedAt hstored hQ hlifecycle htouched =>
      obtain ⟨t, htouched⟩ := htouched
      obtain rfl := Option.some.inj (Option.some.inj (hsome.symm.trans hstored))
      rw [htouched] at hnext
      have hnext := hnext.of_touched
      obtain ⟨completedAt', hrecord⟩ :=
        withState_record l state₀ completedAt hnext.id_eq hnext.startedAt_eq
      rw [hrecord] at hwritten ⊢
      have hQ' : Q l state := by
        rcases hlifecycle with heq | heq
        · exact hstable.next l state₀ _ state hQ (heq ▸ hnext)
        · exact hstable.reloaded l state₀ _ state hQ (heq ▸ hnext)
      refine ⟨fun record' hmem' => ?_, fun record' hstored' => ?_⟩
      · obtain rfl := Option.some.inj ((c.hold_rollouts id _).symm.trans hmem')
        exact .stored l state completedAt' hwritten hQ' hlifecycle ⟨state.updatedAt, rfl⟩
      · obtain rfl := Option.some.inj (Option.some.inj (hwritten.symm.trans hstored'))
        exact ⟨l, state, completedAt', rfl, hQ'⟩

theorem effect (hstable : Stable parseFloat P Q) (hnamed : c.Named) (h : Kept Q id c)
    {r : Controller.Result × Controller} (heffect : Controller.Effect parseFloat c m id r) :
    Kept Q id r.2 := by
  cases heffect with
  | missing => exact h
  | unchanged record hfind result => exact h.hold (h.find hfind)
  | commits record hfind message state hnext =>
    exact commit hstable (hnamed.hold (hnamed.find hfind)) (h.hold (h.find hfind))
      (c.hold_rollouts id record) message hnext

theorem create (hstable : Stable parseFloat P Q) {suffix : Bytes} {l : ModelLifecycleSpec}
    (hP : P l) (h : Kept Q (rolloutID l suffix) c) :
    Kept Q (rolloutID l suffix) (c.createRollout m (.ok suffix) l).2 := by
  have hQ := hstable.start l (rolloutID l suffix) m.now hP
  obtain ⟨hrepo, hcreate⟩ | ⟨repo, hrepo, -, hcreate⟩ | ⟨repo, err, hrepo, hcreate⟩ :=
    Controller.createRollout_cases c m suffix l
  · rw [hcreate]
    have hnone : c.stored (rolloutID l suffix) = none := by rw [Controller.stored, hrepo]; rfl
    exact h.hold (.alone hnone hQ)
  · rw [hcreate]
    have hstored := (c.hold (rolloutID l suffix)
      ⟨l.start (rolloutID l suffix) m.now, l⟩).store_stored repo
      (l.record (l.start (rolloutID l suffix) m.now) none) rfl
    refine ⟨fun record hmem => ?_, fun record hstored' => ?_⟩
    · obtain rfl := Option.some.inj ((c.hold_rollouts _ _).symm.trans hmem)
      exact .stored l _ none hstored hQ (.inl rfl) ⟨_, rfl⟩
    · obtain rfl := Option.some.inj (Option.some.inj (hstored.symm.trans hstored'))
      exact ⟨l, _, none, rfl, hQ⟩
  · rw [hcreate]
    refine ⟨fun record hmem => ?_, h.repository⟩
    rw [Controller.forget_rollouts] at hmem
    cases hmem

end Kept

def Call.Admits (P : ModelLifecycleSpec → Prop) (id : String) : Call → Prop
  | .create (.ok suffix) l => rolloutID l suffix = id → P l
  | _ => True

def Move.Admits (P : ModelLifecycleSpec → Prop) (id : String) : Move → Prop
  | .call _ request => request.Admits P id
  | .restart => True

theorem Move.admits_true (id : String) (move : Move) : move.Admits (fun _ => True) id := by
  cases move with
  | restart => trivial
  | call m call =>
    cases call with
    | create suffix l =>
      cases suffix with
      | error err => trivial
      | ok suffix => exact fun _ => trivial
    | _ => trivial

namespace Kept
variable {parseFloat : String → Except Error Float64} {P : ModelLifecycleSpec → Prop}
  {Q : ModelLifecycleSpec → RolloutState → Prop} {id : String} {c : Controller}

theorem serve (hstable : Stable parseFloat P Q) (hnamed : c.Named) (h : Kept Q id c) (m : Moment)
    {call : Call} (hadmits : call.Admits P id) : Kept Q id (c.serve parseFloat m call).2 := by
  by_cases htarget : call.target = some id
  · cases call with
    | create suffix l =>
      cases suffix with
      | error err => exact h
      | ok suffix =>
        obtain rfl := Option.some.inj htarget
        exact create hstable (hadmits rfl) h
    | advance id' =>
      obtain rfl := Option.some.inj htarget
      exact effect hstable hnamed h (Controller.advanceRollout_effect id')
    | rollback id' =>
      obtain rfl := Option.some.inj htarget
      exact effect hstable hnamed h (Controller.rollbackRollout_effect parseFloat id')
    | get id' =>
      obtain rfl := Option.some.inj htarget
      exact effect hstable hnamed h (Controller.getRolloutState_effect parseFloat id')
  · obtain ⟨hmemory, hstored⟩ := (hnamed.serve m call).2 id htarget
    exact h.congr hmemory hstored

theorem move (hstable : Stable parseFloat P Q) (hnamed : c.Named) (h : Kept Q id c) {move : Move}
    (hadmits : move.Admits P id) : Kept Q id (c.move parseFloat move) := by
  cases move with
  | call m call => exact serve hstable hnamed h m hadmits
  | restart => exact ⟨by simp [Controller.move, Controller.restart], h.repository⟩

theorem after (hstable : Stable parseFloat P Q) (hnamed : c.Named) (h : Kept Q id c)
    {moves : List Move} (hadmits : ∀ move ∈ moves, move.Admits P id) :
    Kept Q id (c.after parseFloat moves) := by
  induction moves generalizing c with
  | nil => exact h
  | cons move moves ih =>
    obtain ⟨hmove, hmoves⟩ := List.forall_mem_cons.mp hadmits
    exact ih (hnamed.after parseFloat [move]) (Kept.move hstable hnamed h hmove) hmoves

theorem new (persistent : Bool) : Kept Q id (Controller.new persistent) := by
  constructor <;> cases persistent <;> simp [Controller.new, Controller.stored]

end Kept
end FleetLlmd.Rollout
