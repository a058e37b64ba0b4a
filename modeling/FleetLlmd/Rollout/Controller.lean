import FleetLlmd.Rollout.Snapshot

/-!
# The rollout controller

The controller keeps the rollouts it has worked on in memory and, when it has a repository, a
record of each there. A rollout it does not hold is rebuilt from its record. Every change is
computed on a copy, written to the repository, and only then taken over in memory.

A call is given the instants it reads from the clock and the errors of the repository's
operations. The repository keeps what it is given and hands out copies; its defaults for an
empty ID and for a zero start time are not modelled, since the controller sets both.
-/

namespace FleetLlmd.Rollout
open Go

structure RolloutState where
  id : String
  phase : String
  currentWeight : Int64
  clusterStates : List ClusterRolloutState
  startedAt : Time
  updatedAt : Time
  deriving DecidableEq

structure RolloutRecord where
  state : RolloutState
  lifecycle : ModelLifecycleSpec
  deriving DecidableEq

/-! ## The repository -/

inductive StrategyValue where
  | text (s : String)
  | snapshot (s : PersistedRolloutSnapshot)
  deriving DecidableEq

def StrategyValue.marshal : StrategyValue → Bytes
  | .text s => encodeRunes (Rollout.text s).text
  | .snapshot s => s.marshal

structure Postgres.RolloutRecord where
  id : String
  poolID : String
  modelVersion : String
  strategy : String → Option StrategyValue
  status : String
  currentWeight : Int64
  startedAt : Time
  completedAt : Option Time

structure Repository where
  rollouts : String → Option Postgres.RolloutRecord := fun _ => none

namespace Repository

def put (repo : Repository) (record : Postgres.RolloutRecord) : Repository :=
  ⟨Function.update repo.rollouts record.id (some record)⟩

def get (repo : Repository) (id : String) : Except Error Postgres.RolloutRecord :=
  match repo.rollouts id with
  | none => .error (.errorf "rollout %q not found" [id])
  | some record => .ok record

def create (repo : Repository) (record : Postgres.RolloutRecord) : Except Error Repository :=
  match repo.rollouts record.id with
  | some _ => .error (.errorf "rollout %q already exists" [record.id])
  | none => .ok (repo.put record)

def update (repo : Repository) (record : Postgres.RolloutRecord) : Except Error Repository :=
  match repo.rollouts record.id with
  | none => .error (.errorf "rollout %q not found" [record.id])
  | some _ => .ok (repo.put record)

end Repository

structure Moment where
  loadedAt : Time
  now : Time
  getError : Option Error := none
  readError : Option Error := none
  writeError : Option Error := none

def orFail {α : Type} (fails : Option Error) (result : Except Error α) : Except Error α :=
  match fails with
  | some err => .error err
  | none => result

/-! ## Loading -/

structure Controller where
  rollouts : String → Option RolloutRecord := fun _ => none
  repo : Option Repository := none

def Postgres.RolloutRecord.readSnapshot (record : Postgres.RolloutRecord) :
    PersistedRolloutSnapshot :=
  match record.strategy "snapshot" with
  | none => {}
  | some raw =>
    match unmarshalSnapshot raw.marshal with
    | .error _ => {}
    | .ok snapshot => snapshot

def Postgres.RolloutRecord.fallback (record : Postgres.RolloutRecord) : ModelLifecycleSpec where
  fleetPoolRef := record.poolID
  model := { version := record.modelVersion }
  strategy :=
    { type := match record.strategy "type" with
        | some (.text configured) => if configured = "" then "Canary" else configured
        | _ => "Canary"
      canary := some { initialWeight := 0, weightIncrement := 20 } }

def Postgres.RolloutRecord.rebuild (record : Postgres.RolloutRecord) (now : Time) :
    Rollout.RolloutRecord where
  state :=
    { id := record.id
      phase := record.status
      currentWeight := record.currentWeight
      clusterStates := record.readSnapshot.clusterStates
      startedAt := record.startedAt
      updatedAt := now }
  lifecycle :=
    if record.readSnapshot.lifecycle.strategy.type = "" then record.fallback
    else record.readSnapshot.lifecycle

namespace Controller

def loadFromRepo (c : Controller) (m : Moment) (id : String) : Option RolloutRecord :=
  match c.repo with
  | none => none
  | some repo =>
    match orFail m.getError (repo.get id) with
    | .error _ => none
    | .ok record => some (record.rebuild m.loadedAt)

def find (c : Controller) (m : Moment) (id : String) : Option RolloutRecord :=
  match c.rollouts id with
  | some record => some record
  | none => c.loadFromRepo m id

def hold (c : Controller) (id : String) (record : RolloutRecord) : Controller :=
  { c with rollouts := Function.update c.rollouts id (some record) }

abbrev Result := Except Error RolloutState

def errRolloutNotFound : Error := .sentinel "rollout not found"

def withRecord (c : Controller) (m : Moment) (id : String)
    (k : RolloutRecord → Controller → Result × Controller) : Result × Controller :=
  match c.find m id with
  | none => (.error (.wrapf "%w: %q" [id] errRolloutNotFound), c)
  | some record => k record (c.hold id record)

end Controller

/-! ## Creating -/

def ModelLifecycleSpec.isCanary (l : ModelLifecycleSpec) : Bool :=
  equalFold l.strategy.type "Canary"

def ModelLifecycleSpec.canary (l : ModelLifecycleSpec) : Option CanaryConfig :=
  if l.isCanary then l.strategy.canary else none

def ModelLifecycleSpec.clusterOrder (l : ModelLifecycleSpec) : List String :=
  ((l.clusters.bind (·.order))).getD []

def rolloutID (lifecycle : ModelLifecycleSpec) (suffix : Bytes) : String :=
  "rollout-" ++ lifecycle.model.name ++ "-" ++ lifecycle.model.version ++ "-" ++ hexEncode suffix

def ModelLifecycleSpec.start (l : ModelLifecycleSpec) (id : String) (now : Time) : RolloutState :=
  let phase := if l.canary.isSome then "Canary" else "Pending"
  let weight := (l.canary.map (·.initialWeight)).getD 0
  { id := id
    phase := phase
    currentWeight := weight
    clusterStates := l.clusterOrder.map fun clusterID => ⟨clusterID, phase, weight, false⟩
    startedAt := now
    updatedAt := now }

def strategyMap (l : ModelLifecycleSpec) (states : List ClusterRolloutState) :
    String → Option StrategyValue :=
  Function.update (Function.update (fun _ => none) "type" (some (.text l.strategy.type)))
    "snapshot" (some (.snapshot ⟨l, states⟩))

def ModelLifecycleSpec.record (l : ModelLifecycleSpec) (state : RolloutState)
    (completedAt : Option Time) : Postgres.RolloutRecord where
  id := state.id
  poolID := if l.fleetPoolRef = "" then l.model.name else l.fleetPoolRef
  modelVersion := l.model.version
  strategy := strategyMap l state.clusterStates
  status := state.phase
  currentWeight := state.currentWeight
  startedAt := state.startedAt
  completedAt := completedAt

namespace Controller

def createRollout (c : Controller) (m : Moment) (suffix : Except Error Bytes)
    (lifecycle : ModelLifecycleSpec) : Result × Controller :=
  match suffix with
  | .error err => (.error (.wrapf "generate rollout ID: %w" [] err), c)
  | .ok suffix =>
    let id := rolloutID lifecycle suffix
    let state := lifecycle.start id m.now
    let held := c.hold id ⟨state, lifecycle⟩
    match c.repo with
    | none => (.ok state, held)
    | some repo =>
      match orFail m.writeError (repo.create (lifecycle.record state none)) with
      | .error err =>
        (.error (.wrapf "persist rollout %q: %w" [id] err),
          { c with rollouts := Function.update c.rollouts id none })
      | .ok repo => (.ok state, { held with repo := some repo })

end Controller

/-! ## Persisting -/

def Postgres.RolloutRecord.withState (record : Postgres.RolloutRecord) (state : RolloutState) :
    Postgres.RolloutRecord :=
  { record with
    status := state.phase
    currentWeight := state.currentWeight
    strategy := Function.update record.strategy "snapshot"
      (some (.snapshot { record.readSnapshot with clusterStates := state.clusterStates }))
    completedAt :=
      if equalFold state.phase "Complete" || equalFold state.phase "RolledBack" then
        some state.updatedAt
      else record.completedAt }

def persistState (m : Moment) (repo : Option Repository) (state : RolloutState) :
    Except Error (Option Repository) :=
  match repo with
  | none => .ok none
  | some repo => do
    let record ← orFail m.readError (repo.get state.id)
    let repo ← orFail m.writeError (repo.update (record.withState state))
    return some repo

def Controller.commit (c : Controller) (m : Moment) (id message : String) (record : RolloutRecord)
    (state : RolloutState) : Controller.Result × Controller :=
  match persistState m c.repo state with
  | .error err => (.error (.wrapf message [id] err), c)
  | .ok repo => (.ok state, { c.hold id { record with state } with repo := repo })

/-! ## Advancing and rolling back -/

section
variable (parseFloat : String → Except Error Float64)

def parsePercent (s : String) : Float64 :=
  match parseFloat (trimSuffix (trimSpace s) "%") with
  | .error _ => .zero
  | .ok v => v

/-- `x <= 0`, which is false of NaN. -/
def atMostZero (x : Float64) : Bool := !x.isNaN && !Float64.zero.lt x

def checkSLOGate : Option SLOGate → Bool
  | none => true
  | some gate =>
    !(atMostZero (parsePercent parseFloat gate.maxTTFTRegression) ||
      atMostZero (parsePercent parseFloat gate.maxErrorRateIncrease))

def RolloutState.failed (state : RolloutState) (now : Time) : RolloutState :=
  { state with
    phase := "RolledBack"
    currentWeight := 0
    updatedAt := now
    clusterStates := state.clusterStates.map fun s =>
      { s with phase := "RolledBack", weight := 0, sloMet := false } }

def nextWeight (weight increment : Int64) : Int64 :=
  if 100 < weight + increment then 100 else weight + increment

def RolloutState.promoted (state : RolloutState) (increment : Int64) (now : Time) : RolloutState :=
  let weight := nextWeight state.currentWeight increment
  { state with
    phase := if weight = 100 then "Complete" else "Canary"
    currentWeight := weight
    updatedAt := now
    clusterStates := state.clusterStates.map fun s => { s with weight := weight, sloMet := true } }

def RolloutState.rolledBack (state : RolloutState) (now : Time) : RolloutState :=
  { state with
    phase := "RolledBack"
    currentWeight := 0
    updatedAt := now
    clusterStates := state.clusterStates.map fun s =>
      { s with phase := "RolledBack", weight := 0 } }

namespace Controller

def advanceRollout (c : Controller) (m : Moment) (id : String) : Result × Controller :=
  c.withRecord m id fun record c =>
    match record.lifecycle.canary with
    | none => (.error (.errorf "rollout %q is not a canary rollout" [id]), c)
    | some canary =>
      if checkSLOGate parseFloat canary.sloGate then
        c.commit m id "persist rollout promotion %q: %w" record
          (record.state.promoted canary.weightIncrement m.now)
      else if canary.rollbackOnFailure then
        c.commit m id "persist rollout rollback %q: %w" record (record.state.failed m.now)
      else (.ok record.state, c)

def rollbackRollout (c : Controller) (m : Moment) (id : String) : Result × Controller :=
  c.withRecord m id fun record c =>
    c.commit m id "persist rollout rollback %q: %w" record (record.state.rolledBack m.now)

def getRolloutState (c : Controller) (m : Moment) (id : String) : Result × Controller :=
  c.withRecord m id fun record c => (.ok record.state, c)

end Controller
end
end FleetLlmd.Rollout
