import FleetLlmd.Go.Arithmetic

/-!
# The fleet optimizer

`Optimize` of `pkg/autoscaling/optimizer` over the metrics of `pkg/autoscaling/collector`:
each pool of each cluster is held against the objectives and gets at most one action, and
the actions are then scaled down to the global limit. Counts are of type `int` and wrap.
Metrics that no modelled function reads are left out.
-/

namespace FleetLlmd.Autoscaling
open Go

structure PoolMetrics (F : Type) where
  poolName : String
  model : String := ""
  replicas : Int := 0
  queueDepth : Int := 0
  ttftP99Ms : F
  throughputTPS : F
  gpuUtilization : F
  kvCacheHitRate : F
  cpuUtilization : F
  inferenceLatencyP99Ms : F
  poolSaturation : F
  readyEndpoints : Int := 0

structure ClusterMetrics (F : Type) where
  clusterID : String
  pools : List (PoolMetrics F)

structure ScalingObjective where
  metric : String
  target : String

structure ScalingConstraints where
  globalMaxGPUs : Int := 0
  maxScaleUpRate : Int := 0
  inInt64 : InInt64 globalMaxGPUs ∧ InInt64 maxScaleUpRate := by decide

structure CrossClusterScaling (F : Type) where
  enableMigration : Bool
  migrationThreshold : F

structure FleetScalingPolicySpec (F : Type) where
  objectives : List ScalingObjective
  constraints : ScalingConstraints := {}
  crossCluster : Option (CrossClusterScaling F) := none
  /-- Whether `ScaleToZero` is set and enabled. -/
  scaleToZero : Bool := false

structure ScalingAction where
  clusterID : String
  poolName : String
  desiredReplicas : Int
  currentReplicas : Int
  reason : String
  deriving DecidableEq

section Objectives
variable {F : Type}

structure Objective (F : Type) where
  metric : String
  target : F

/-- `parseFloat` is `strconv.ParseFloat`. -/
def parseObjectives (parseFloat : String → Except Error F) :
    List ScalingObjective → Except Error (List (Objective F))
  | [] => .ok []
  | s :: specs =>
    match parseFloat s.target with
    | .error err => .error (.wrapf "invalid target %q for metric %q: %w" [s.target, s.metric] err)
    | .ok target => (parseObjectives parseFloat specs).map (⟨s.metric, target⟩ :: ·)

variable (A : Arithmetic F)

def metricValue (p : PoolMetrics F) (metric : String) : F :=
  match metric with
  | "queueDepth" => A.ofInt p.queueDepth
  | "ttft_p99_ms" => p.ttftP99Ms
  | "gpuUtilization" => p.gpuUtilization
  | "throughput_tps" => p.throughputTPS
  | "kvCacheHitRate" => p.kvCacheHitRate
  | "cpuUtilization" => p.cpuUtilization
  | "inferenceLatencyP99Ms" => p.inferenceLatencyP99Ms
  | _ => A.ofInt 0

def cpuOnly (p : PoolMetrics F) : Bool :=
  A.isZero p.gpuUtilization && A.lt (A.ofInt 0) p.cpuUtilization

def utilization (p : PoolMetrics F) : F :=
  if cpuOnly A p then p.cpuUtilization else p.gpuUtilization

structure Evaluation (F : Type) where
  needsScaleUp : Bool
  needsScaleDown : Bool
  maxRatio : F

def loadMetrics : List String := ["queueDepth", "ttft_p99_ms", "inferenceLatencyP99Ms"]

def evaluateObjective (pool : PoolMetrics F) (e : Evaluation F) (obj : Objective F) :
    Evaluation F :=
  let actual := metricValue A pool obj.metric
  if loadMetrics.contains obj.metric then
    if A.lt obj.target actual then
      let ratio := A.div actual obj.target
      { e with
        needsScaleUp := true
        maxRatio := if A.lt e.maxRatio ratio then ratio else e.maxRatio }
    else e
  else if obj.metric == "gpuUtilization" || obj.metric == "cpuUtilization" then
    let effectiveActual :=
      if obj.metric == "gpuUtilization" && cpuOnly A pool then pool.cpuUtilization else actual
    if A.lt effectiveActual obj.target then { e with needsScaleDown := true } else e
  else e

def evaluate (objectives : List (Objective F)) (pool : PoolMetrics F) : Evaluation F :=
  objectives.foldl (evaluateObjective A pool) ⟨false, false, A.ofInt 1⟩

def objectiveTarget (objectives : List (Objective F)) (metric : String) : F :=
  ((objectives.find? (·.metric == metric)).map (·.target)).getD (A.ofInt 1)

def scaleDownReplicas (pool : PoolMetrics F) (objectives : List (Objective F))
    (scaleToZero : Bool) : Int :=
  let minReplicas := if scaleToZero then 0 else 1
  let targetMetric := if cpuOnly A pool then "cpuUtilization" else "gpuUtilization"
  let target := objectiveTarget A objectives targetMetric
  let target := if A.le target (A.ofInt 0) then A.ofInt 1 else target
  let desired := A.floor (A.div (A.mul (A.ofInt pool.replicas) (utilization A pool)) target)
  let desired := if pool.replicas ≤ desired then int64 (pool.replicas - 1) else desired
  if desired < minReplicas then minReplicas else desired

/-! ## Actions -/

structure Entry (F : Type) where
  clusterID : String
  pool : PoolMetrics F

def entries (metrics : List (ClusterMetrics F)) : List (Entry F) :=
  metrics.flatMap fun cluster => cluster.pools.map fun pool => ⟨cluster.clusterID, pool⟩

def Entry.action (s : Entry F) (desired : Int) (reason : String) : ScalingAction where
  clusterID := s.clusterID
  poolName := s.pool.poolName
  desiredReplicas := desired
  currentReplicas := s.pool.replicas
  reason := reason

variable (pol : FleetScalingPolicySpec F) (objectives : List (Objective F))

def enableMigration : Bool := pol.crossCluster.any (·.enableMigration)

def additionalReplicas (pool : PoolMetrics F) (maxRatio : F) : Int :=
  let additional := A.ceil (A.mul (A.ofInt pool.replicas) (A.sub maxRatio (A.ofInt 1)))
  let additional :=
    if pol.constraints.maxScaleUpRate < additional then pol.constraints.maxScaleUpRate
    else additional
  if additional < 1 then 1 else additional

def scaleDown (s : Entry F) : ScalingAction :=
  s.action (scaleDownReplicas A s.pool objectives pol.scaleToZero)
    "underutilized: GPU utilization below target"

def Entry.overloaded (s : Entry F) : Bool := (evaluate A objectives s.pool).needsScaleUp

def Entry.underutilized (s : Entry F) : Bool :=
  (evaluate A objectives s.pool).needsScaleDown && !s.overloaded A objectives

def directAction (s : Entry F) : Option ScalingAction :=
  let e := evaluate A objectives s.pool
  if e.needsScaleUp then
    some (s.action (int64 (s.pool.replicas + additionalReplicas A pol s.pool e.maxRatio))
      "metrics exceed target thresholds")
  else if e.needsScaleDown && !enableMigration pol then some (scaleDown A pol objectives s)
  else none

def shouldAbsorb (threshold : F) (states : List (Entry F)) (s : Entry F) : Bool :=
  states.any fun other =>
    other.overloaded A objectives && other.pool.poolName == s.pool.poolName &&
      other.clusterID != s.clusterID &&
      A.le threshold (A.sub (utilization A other.pool) (utilization A s.pool))

def migrationAction (states : List (Entry F)) (s : Entry F) : Option ScalingAction :=
  match pol.crossCluster.filter (·.enableMigration) with
  | none => none
  | some cross =>
    if !s.underutilized A objectives then none
    else if shouldAbsorb A objectives cross.migrationThreshold states s then
      some (s.action (int64 (s.pool.replicas + min 1 pol.constraints.maxScaleUpRate))
        "cross-cluster migration: absorbing load from overloaded cluster")
    else some (scaleDown A pol objectives s)

def uncappedActions (states : List (Entry F)) : List ScalingAction :=
  states.filterMap (directAction A pol objectives) ++
    states.filterMap (migrationAction A pol objectives states)

/-! ## The global limit -/

def totalDesired (actions : List ScalingAction) : Int :=
  actions.foldl (fun total a => int64 (total + a.desiredReplicas)) 0

def scaledReplicas (limit total : Int) (desired : Int) : Int :=
  let factor := A.div (A.ofInt limit) (A.ofInt total)
  let scaled := A.floor (A.mul (A.ofInt desired) factor)
  if scaled < 1 then 1 else scaled

def distribute (limit : Int) : Int → List ScalingAction → List ScalingAction
  | _, [] => []
  | newTotal, a :: actions =>
    if limit ≤ newTotal then a :: actions
    else { a with desiredReplicas := int64 (a.desiredReplicas + 1) } ::
      distribute limit (int64 (newTotal + 1)) actions

def capActions (limit : Int) (actions : List ScalingAction) : List ScalingAction :=
  let total := totalDesired actions
  if 0 < limit ∧ limit < total then
    let scaled := actions.map fun a =>
      { a with desiredReplicas := scaledReplicas A limit total a.desiredReplicas }
    distribute limit (totalDesired scaled) scaled
  else actions

end Objectives

def optimize {F : Type} (A : Arithmetic F) (parseFloat : String → Except Error F)
    (metrics : List (ClusterMetrics F)) (pol : FleetScalingPolicySpec F) :
    Except Error (List ScalingAction) :=
  (parseObjectives parseFloat pol.objectives).map fun objectives =>
    capActions A pol.constraints.globalMaxGPUs (uncappedActions A pol objectives (entries metrics))

end FleetLlmd.Autoscaling
