import FleetLlmd.Autoscaling.Direction
import FleetLlmd.Controller.Routes
import Mathlib.Algebra.Order.BigOperators.Group.List

/-!
# The autoscaling cycle

`runAutoscalingCycle` of `pkg/server`: each pool with a scaling policy is optimised over the
metrics of its clusters, and the actions are added up to one replica count. The counts start
from the replicas in the metrics. An agent reports none, so that in a run of agent reports
the count is the number of clusters with an action.
-/

namespace FleetLlmd.Controller
open Go Json Clusters Autoscaling Routing

def metricsForPool (metrics : List Clusters.ClusterMetrics) (poolName : String)
    (desiredClusters : List String) : List Clusters.ClusterMetrics :=
  metrics.filterMap fun cluster =>
    if desiredClusters ≠ [] && !desiredClusters.contains cluster.clusterID then none
    else
      let pools := cluster.pools.filter (·.poolName == poolName)
      if pools.isEmpty then none else some ⟨cluster.clusterID, pools⟩

def joinStrings (sep : String) : List String → String
  | [] => ""
  | s :: ss => ss.foldl (fun text t => text ++ sep ++ t) s

def appendReason (reasons : List String) (reason : String) : List String :=
  if reasons.contains reason then reasons else reasons ++ [reason]

def aggregateScalingActions (poolName : String) (metrics : List Clusters.ClusterMetrics)
    (actions : List ScalingAction) : Option ScalingAction :=
  let currentTotal := ((entries metrics).map (·.pool.replicas)).sum
  let clusters := (actions.map (·.clusterID)).insertionSort fun a b => keyLt b a = false
  if actions.isEmpty then none
  else some
    { clusterID := joinStrings "," clusters
      poolName := poolName
      currentReplicas := currentTotal
      desiredReplicas :=
        currentTotal + (actions.map fun a => a.desiredReplicas - a.currentReplicas).sum
      reason := joinStrings "; " (actions.foldl (fun rs a => appendReason rs a.reason) []) }

abbrev ScalingPolicy := FleetScalingPolicySpec Float64

theorem defaultRate_inInt64 : InInt64 0 ∧ InInt64 2 := by decide

def defaultScalingPolicy : ScalingPolicy where
  objectives := [⟨"queueDepth", "5"⟩, ⟨"gpuUtilization", "0.8"⟩]
  constraints := { maxScaleUpRate := 2, inInt64 := defaultRate_inInt64 }

/-- `fetch` gives the policies the watcher can read; there may be no watcher. -/
def resolveScalingPolicy (fetch : String → Option ScalingPolicy) (name : String) : ScalingPolicy :=
  (fetch name).getD defaultScalingPolicy

structure ScaleCall where
  poolName : String
  replicas : Int
  deriving DecidableEq

section Cycle
variable (A : Arithmetic Float64) (parseFloat : String → Except Error Float64)
variable (fetch : String → Option ScalingPolicy) (metrics : List Clusters.ClusterMetrics)

def scalePool (pool : FleetPoolState) : Option ScaleCall :=
  let poolMetrics := metricsForPool metrics pool.name pool.desiredClusters
  if pool.scalingPolicyRef == "" || poolMetrics.isEmpty then none
  else
    match optimize A parseFloat poolMetrics (resolveScalingPolicy fetch pool.scalingPolicyRef) with
    | .error _ => none
    | .ok actions =>
      match aggregateScalingActions pool.name poolMetrics actions with
      | none => none
      | some action =>
        if action.desiredReplicas = action.currentReplicas then none
        else some ⟨action.poolName, action.desiredReplicas⟩

def scalePools (listed : List FleetPoolState) : List ScaleCall :=
  listed.filterMap (scalePool A parseFloat fetch metrics)

structure CycleInput where
  metrics : List Clusters.ClusterMetrics
  health : List ClusterHealth
  fetch : String → Option ScalingPolicy
  order : ScoreSort

/-- `listed` are the pools as they are listed. -/
def runAutoscalingCycle (o : PraxisOverlay) (i : CycleInput) (listed : List FleetPoolState)
    (fc : FleetController) : FleetController × List ScaleCall :=
  if i.metrics.isEmpty then (fc, [])
  else
    (updateRoutingFromHealth o i.order i.health listed fc,
      scalePools A parseFloat i.fetch i.metrics listed)

end Cycle

/-! ## Counts from pools without replicas -/

section Idle
variable {A : Arithmetic Float64} {pol : ScalingPolicy} {objectives : List (Objective Float64)}
variable {states : List (Entry Float64)} {s : Entry Float64}

theorem action_gain (s : Entry Float64) (desired : Int) (reason : String) :
    (s.action desired reason).desiredReplicas - (s.action desired reason).currentReplicas =
      desired - s.pool.replicas :=
  rfl

def ScalesNothing (A : Arithmetic Float64) : Prop := ∀ x, A.ceil (A.mul (A.ofInt 0) x) ≤ 0

theorem additionalReplicas_idle (hA : ScalesNothing A) {p : Clusters.PoolMetrics}
    (hp : p.replicas = 0) (maxRatio : Float64) : additionalReplicas A pol p maxRatio = 1 := by
  have hnone := hA (A.sub maxRatio (A.ofInt 1))
  rw [additionalReplicas, hp]
  split_ifs <;> omega

theorem scaleDownReplicas_idle (A : Arithmetic Float64) (objectives : List (Objective Float64))
    {p : Clusters.PoolMetrics} (hp : p.replicas = 0) (scaleToZero : Bool) :
    scaleDownReplicas A p objectives scaleToZero ≤ 1 := by
  have hless : int64 (0 - 1) = -1 := by decide
  rw [scaleDownReplicas, hp, hless]
  split_ifs <;> omega

theorem askedAction_idle (hA : ScalesNothing A) (hs : s.pool.replicas = 0) {a : ScalingAction}
    (h : askedAction A pol objectives states s = some a) :
    a.desiredReplicas - a.currentReplicas ≤ 1 := by
  have hdown : (scaleDown A pol objectives s).desiredReplicas -
      (scaleDown A pol objectives s).currentReplicas ≤ 1 := by
    have hle := scaleDownReplicas_idle A objectives hs pol.scaleToZero
    rw [scaleDown, action_gain, hs]
    omega
  rw [askedAction, Option.or_eq_some_iff] at h
  rcases h with h | ⟨-, h⟩
  · rw [directAction] at h
    split_ifs at h
    · cases h
      rw [action_gain, additionalReplicas_idle hA hs, hs]
      decide
    · cases h
      exact hdown
  · rw [migrationAction] at h
    split at h
    · cases h
    · split_ifs at h
      · cases h
        have hrate := pol.constraints.inInt64.2.1
        rw [action_gain, hs, int64_eq_self ⟨by omega, by omega⟩]
        omega
      · cases h
        exact hdown

theorem askedAction_overloaded (pol : ScalingPolicy) (states : List (Entry Float64))
    (hA : ScalesNothing A) (hs : s.pool.replicas = 0) (hload : s.overloaded A objectives = true) :
    ∃ a, askedAction A pol objectives states s = some a ∧
      a.desiredReplicas - a.currentReplicas = 1 := by
  rw [Entry.overloaded] at hload
  refine ⟨_, by rw [askedAction, directAction, if_pos hload, Option.some_or], ?_⟩
  rw [action_gain, additionalReplicas_idle hA hs, hs]
  decide

theorem sum_gains (A : Arithmetic Float64) (pol : ScalingPolicy)
    (objectives : List (Objective Float64)) (states : List (Entry Float64)) :
    ((uncappedActions A pol objectives states).map
        fun a => a.desiredReplicas - a.currentReplicas).sum =
      (states.map fun s => ((askedAction A pol objectives states s).map
        fun a => a.desiredReplicas - a.currentReplicas).getD 0).sum := by
  rw [(uncappedActions_perm.map _).sum_eq]
  generalize askedAction A pol objectives states = ask
  induction states with
  | nil => rfl
  | cons s states ih =>
    cases hask : ask s with
    | none => simp [hask, ih]
    | some a => simp [hask, ih]

theorem sum_gains_le (hA : ScalesNothing A) (hidle : ∀ s ∈ states, s.pool.replicas = 0) :
    ((uncappedActions A pol objectives states).map
      fun a => a.desiredReplicas - a.currentReplicas).sum ≤ states.length := by
  rw [sum_gains]
  refine (List.sum_le_card_nsmul _ 1 ?_).trans (by simp)
  intro gain hgain
  obtain ⟨s, hs, rfl⟩ := List.mem_map.mp hgain
  cases hask : askedAction A pol objectives states s with
  | none => simp
  | some a => exact askedAction_idle hA (hidle s hs) hask

theorem sum_gains_overloaded (hA : ScalesNothing A) (hidle : ∀ s ∈ states, s.pool.replicas = 0)
    (hload : ∀ s ∈ states, s.overloaded A objectives = true) :
    ((uncappedActions A pol objectives states).map
      fun a => a.desiredReplicas - a.currentReplicas).sum = states.length := by
  rw [sum_gains]
  have hones : (states.map fun s => ((askedAction A pol objectives states s).map
      fun a => a.desiredReplicas - a.currentReplicas).getD 0) = states.map fun _ => 1 := by
    refine List.map_congr_left fun s hs => ?_
    obtain ⟨a, hask, hgain⟩ := askedAction_overloaded pol states hA (hidle s hs) (hload s hs)
    rw [hask]
    exact hgain
  rw [hones]
  simp

end Idle

theorem scalesNothing_float64 (conv : Arithmetic.Conversion) :
    ScalesNothing (.float64 conv) := by
  intro x
  have hzero : Float64.ofInt 0 = Float64.zero := by decide +kernel
  rw [Arithmetic.float64_ceil_mul, hzero]
  rcases x.zero_mul_cases with hnan | ⟨neg, d, hratio⟩
  · rw [hnan]
    exact conv.nan_nonpos
  · obtain ⟨hscaled, hnum⟩ :=
      Float64.scaled_of_magnitude (Float64.magnitude_ofRatio_zero neg d)
    have hwhole : -(-(0 : Int) / Float64.unitScale) = 0 := by rw [neg_zero, Int.zero_ediv, neg_zero]
    rw [hratio, Float64.ceilInt, Float64.wholeInt, hscaled, hnum, hwhole, if_pos (by decide)]

/-! ## The entries of a pool -/

def poolEntries (metrics : List Clusters.ClusterMetrics) (pool : FleetPoolState) :
    List (Entry Float64) :=
  entries (metricsForPool metrics pool.name pool.desiredClusters)

def clusterEntries (pool : FleetPoolState) (cluster : Clusters.ClusterMetrics) :
    List (Entry Float64) :=
  if pool.desiredClusters ≠ [] && !pool.desiredClusters.contains cluster.clusterID then []
  else (cluster.pools.filter (·.poolName == pool.name)).map fun p => ⟨cluster.clusterID, p⟩

theorem poolEntries_eq (metrics : List Clusters.ClusterMetrics) (pool : FleetPoolState) :
    poolEntries metrics pool = metrics.flatMap (clusterEntries pool) := by
  induction metrics with
  | nil => rfl
  | cons cluster metrics ih =>
    rw [poolEntries, entries] at ih
    rw [poolEntries, entries, metricsForPool, List.filterMap_cons, List.flatMap_cons, ← ih,
      clusterEntries]
    split_ifs with hother
    · rfl
    · by_cases hempty : (cluster.pools.filter (·.poolName == pool.name)).isEmpty = true
      · simp [List.isEmpty_iff.mp hempty, metricsForPool]
      · simp [hempty, metricsForPool]

variable {A : Arithmetic Float64}

theorem capActions_of_nonpos {limit : Int}
    {actions : List ScalingAction} (h : limit ≤ 0) : capActions A limit actions = actions := by
  unfold capActions
  exact if_neg fun hcap => not_lt.mpr h hcap.1

variable {metrics : List Clusters.ClusterMetrics}

theorem aggregateScalingActions_some {poolName : String}
    {actions : List ScalingAction} {action : ScalingAction}
    (h : aggregateScalingActions poolName metrics actions = some action) :
    action.poolName = poolName ∧ action.desiredReplicas =
      ((entries metrics).map (·.pool.replicas)).sum +
        (actions.map fun a => a.desiredReplicas - a.currentReplicas).sum := by
  rw [aggregateScalingActions] at h
  split at h
  · cases h
  · cases h
    exact ⟨rfl, rfl⟩

section Calls
variable {A : Arithmetic Float64} {parseFloat : String → Except Error Float64}
variable {fetch : String → Option ScalingPolicy} {metrics : List Clusters.ClusterMetrics}
variable {pool : FleetPoolState} {call : ScaleCall}

theorem scalePool_replicas
    (huncapped : (resolveScalingPolicy fetch pool.scalingPolicyRef).constraints.globalMaxGPUs ≤ 0)
    (hidle : ∀ s ∈ poolEntries metrics pool, s.pool.replicas = 0)
    (h : scalePool A parseFloat fetch metrics pool = some call) :
    call.poolName = pool.name ∧ ∃ objectives,
      parseObjectives parseFloat
        (resolveScalingPolicy fetch pool.scalingPolicyRef).objectives = .ok objectives ∧
      call.replicas =
        ((uncappedActions A (resolveScalingPolicy fetch pool.scalingPolicyRef) objectives
          (poolEntries metrics pool)).map fun a => a.desiredReplicas - a.currentReplicas).sum := by
  have hcurrent : ((poolEntries metrics pool).map (·.pool.replicas)).sum = 0 := by
    rw [List.sum_eq_zero]
    intro n hn
    obtain ⟨s, hs, rfl⟩ := List.mem_map.mp hn
    exact hidle s hs
  rw [scalePool] at h
  split at h
  · cases h
  · split at h
    · cases h
    · next actions hoptimize =>
      split at h
      · cases h
      · next action haction =>
        split at h
        · cases h
        · cases h
          obtain ⟨hname, hdesired⟩ := aggregateScalingActions_some haction
          refine ⟨hname, ?_⟩
          rw [optimize] at hoptimize
          cases hparse : parseObjectives parseFloat
              (resolveScalingPolicy fetch pool.scalingPolicyRef).objectives with
          | error err =>
            rw [hparse] at hoptimize
            cases hoptimize
          | ok objectives =>
            rw [hparse] at hoptimize
            cases hoptimize
            refine ⟨objectives, rfl, ?_⟩
            rw [hdesired]
            dsimp only
            rw [capActions_of_nonpos huncapped]
            rw [poolEntries] at hcurrent ⊢
            rw [hcurrent, zero_add]

end Calls

/-! ## Agent reports -/

def copies (listed : List FleetPoolState) (clusterID poolName : String) : Nat :=
  (if agentAggregatePoolName = poolName then 1 else 0) +
    (placed clusterID listed).countP (·.name == poolName)

theorem length_attributed {sample : Clusters.PoolMetrics}
    (hsample : sample.poolName = agentAggregatePoolName) (listed : List FleetPoolState)
    (clusterID poolName : String) :
    ((attributeAgentSample listed clusterID sample).filter (·.poolName == poolName)).length =
      copies listed clusterID poolName := by
  rw [attributeAgentSample, copies, List.filter_cons, List.filter_map, List.countP_eq_length_filter,
    hsample]
  by_cases hname : agentAggregatePoolName = poolName
  · simp [hname, Function.comp_def]
    omega
  · simp [hname, Function.comp_def]

theorem copies_perm {listed listed' : List FleetPoolState} (h : listed.Perm listed')
    (clusterID poolName : String) :
    copies listed clusterID poolName = copies listed' clusterID poolName := by
  rw [copies, copies, placed, placed, (h.filter _).countP_eq]

def Reported (pools : Pools) (cm : Clusters.ClusterMetrics) : Prop :=
  ∃ listed sample, Lists pools listed ∧ sample.poolName = agentAggregatePoolName ∧
    sample.replicas = 0 ∧ cm.pools = attributeAgentSample listed cm.clusterID sample

def reportedEntries (pools : Pools) (pool : FleetPoolState) (clusterID : String) : Nat :=
  if pool.desiredClusters ≠ [] && !pool.desiredClusters.contains clusterID then 0
  else copies (pools.entries.map (·.2)) clusterID pool.name

theorem Reported.length_clusterEntries {pools : Pools} {cm : Clusters.ClusterMetrics}
    (h : Reported pools cm) (pool : FleetPoolState) :
    (clusterEntries pool cm).length = reportedEntries pools pool cm.clusterID := by
  obtain ⟨listed, sample, hlists, hsample, -, hpools⟩ := h
  rw [clusterEntries, reportedEntries]
  split_ifs
  · rfl
  · rw [List.length_map, hpools, length_attributed hsample, copies_perm hlists]

theorem length_poolEntries {pools : Pools}
    (h : ∀ cm ∈ metrics, Reported pools cm) (pool : FleetPoolState) :
    (poolEntries metrics pool).length =
      ((metrics.map (·.clusterID)).map (reportedEntries pools pool)).sum := by
  rw [poolEntries_eq, List.length_flatMap, List.map_map]
  congr 1
  exact List.map_congr_left fun cm hcm => (h cm hcm).length_clusterEntries pool

variable {pool : FleetPoolState}

theorem idle_of_reported {pools : Pools} (h : ∀ cm ∈ metrics, Reported pools cm) {s : Entry Float64}
    (hs : s ∈ poolEntries metrics pool) : s.pool.replicas = 0 := by
  rw [poolEntries_eq] at hs
  obtain ⟨cm, hcm, hs⟩ := List.mem_flatMap.mp hs
  obtain ⟨listed, sample, -, -, hreplicas, hpools⟩ := h cm hcm
  rw [clusterEntries] at hs
  split_ifs at hs
  · cases hs
  · obtain ⟨p, hp, rfl⟩ := List.mem_map.mp hs
    have hp := (List.mem_filter.mp hp).1
    rw [hpools, attributeAgentSample] at hp
    rcases List.mem_cons.mp hp with rfl | hp
    · exact hreplicas
    · obtain ⟨q, -, rfl⟩ := List.mem_map.mp hp
      exact hreplicas

theorem sum_le_replaced {ids : List String} (hnodup : ids.Nodup) (id : String) (f : String → Nat) :
    (ids.map f).sum ≤ f id + ((ids.filter (· != id)).map f).sum := by
  induction ids with
  | nil => simp
  | cons x ids ih =>
    obtain ⟨hx, hids⟩ := List.nodup_cons.mp hnodup
    by_cases hid : x = id
    · subst hid
      have hkeep : ids.filter (· != x) = ids :=
        List.filter_eq_self.mpr fun y hy => by simpa using ne_of_mem_of_not_mem hy hx
      simp [hkeep]
    · have hrest := ih hids
      simp [hid]
      omega

/-! ## Runs -/

def Uncapped (fetch : String → Option ScalingPolicy) : Prop :=
  ∀ name pol, fetch name = some pol → pol.constraints.globalMaxGPUs ≤ 0

theorem Uncapped.resolve {fetch : String → Option ScalingPolicy} (h : Uncapped fetch)
    (name : String) : (resolveScalingPolicy fetch name).constraints.globalMaxGPUs ≤ 0 := by
  rw [resolveScalingPolicy]
  cases hfetch : fetch name with
  | none => exact le_rfl
  | some pol => exact h name pol hfetch

section Run
variable (conv : Arithmetic.Conversion) (parseFloat : String → Except Error Float64)
variable (o : PraxisOverlay) (pools : Pools)

inductive ScalingRun : FleetController → Collector → List ScaleCall → Prop
  | start {fc : FleetController} : fc.pools = pools → ScalingRun fc {} []
  | report {fc : FleetController} {c : Collector} {calls : List ScaleCall}
    {listed : List FleetPoolState} (body : Option Bytes) :
    ScalingRun fc c calls → Lists pools listed →
    ScalingRun fc (handleAgentMetrics listed body c).2 calls
  | cycle {fc : FleetController} {c : Collector} {calls : List ScaleCall} {i : CycleInput}
    {listed : List FleetPoolState} :
    ScalingRun fc c calls → c.Collects i.metrics → Uncapped i.fetch → Lists pools listed →
    ScalingRun (runAutoscalingCycle (.float64 conv) parseFloat o i listed fc).1 c
      (calls ++ (runAutoscalingCycle (.float64 conv) parseFloat o i listed fc).2)

variable {conv parseFloat o pools}

variable {fc : FleetController} {c : Collector} {calls : List ScaleCall}

theorem mem_runAutoscalingCycle {i : CycleInput} {listed : List FleetPoolState} {call : ScaleCall}
    (h : call ∈ (runAutoscalingCycle A parseFloat o i listed fc).2) :
    ∃ p ∈ listed, scalePool A parseFloat i.fetch i.metrics p = some call := by
  rw [runAutoscalingCycle] at h
  split_ifs at h
  · cases h
  · exact List.mem_filterMap.mp h

def collectedEntries (pools : Pools) (c : Collector) (pool : FleetPoolState) : Nat :=
  ((c.metrics.map (·.clusterID)).map (reportedEntries pools pool)).sum

theorem collectedEntries_le_add (c : Collector) (cm : Clusters.ClusterMetrics)
    (pool : FleetPoolState) :
    collectedEntries pools c pool ≤ collectedEntries pools (c.add cm) pool := by
  have hids : (c.add cm).metrics.map (·.clusterID) =
      cm.clusterID :: (c.metrics.map (·.clusterID)).filter (· != cm.clusterID) := by
    rw [Collector.add, List.map_cons, List.filter_map]
    rfl
  rw [collectedEntries, collectedEntries, hids]
  exact sum_le_replaced c.nodup cm.clusterID _

theorem length_collected
    (hreported : ∀ cm ∈ c.metrics, Reported pools cm) (hcollects : c.Collects metrics)
    (pool : FleetPoolState) :
    (poolEntries metrics pool).length = collectedEntries pools c pool := by
  rw [length_poolEntries (fun cm hcm => hreported cm (hcollects.subset hcm)), collectedEntries]
  exact ((hcollects.map _).map _).sum_eq

theorem ScalingRun.reported
    (h : ScalingRun conv parseFloat o pools fc c calls) : ∀ cm ∈ c.metrics, Reported pools cm := by
  induction h with
  | start => simp
  | report body _ hlists ih =>
    rw [handleAgentMetrics]
    split
    · exact ih
    · intro cm hcm
      rcases Collector.mem_add.mp hcm with rfl | ⟨hcm, -⟩
      · exact ⟨_, _, hlists, rfl, rfl, rfl⟩
      · exact ih cm hcm
  | cycle _ _ _ _ ih => exact ih

theorem ScalingRun.cycle_call (hkeyed : Keyed pools)
    (h : ScalingRun conv parseFloat o pools fc c calls) {i : CycleInput}
    {listed : List FleetPoolState} (hcollects : c.Collects i.metrics) (huncapped : Uncapped i.fetch)
    (hlists : Lists pools listed) (hpool : pools.lookup pool.name = some pool) {call : ScaleCall}
    (hcall : call ∈ (runAutoscalingCycle (.float64 conv) parseFloat o i listed fc).2)
    (hname : call.poolName = pool.name) :
    (∀ s ∈ poolEntries i.metrics pool, s.pool.replicas = 0) ∧ ∃ objectives,
      parseObjectives parseFloat
        (resolveScalingPolicy i.fetch pool.scalingPolicyRef).objectives = .ok objectives ∧
      call.replicas =
        ((uncappedActions (.float64 conv) (resolveScalingPolicy i.fetch pool.scalingPolicyRef)
          objectives (poolEntries i.metrics pool)).map
            fun a => a.desiredReplicas - a.currentReplicas).sum := by
  obtain ⟨p, hp, hscale⟩ := mem_runAutoscalingCycle hcall
  have hidle : ∀ s ∈ poolEntries i.metrics p, s.pool.replicas = 0 := fun s hs =>
    idle_of_reported (fun cm hcm => h.reported cm (hcollects.subset hcm)) hs
  obtain ⟨hcallName, hreplicas⟩ := scalePool_replicas (huncapped.resolve _) hidle hscale
  obtain ⟨key, hkey⟩ := hlists.mem_iff.mp hp
  rw [← (hkeyed key p hkey).1, ← hcallName, hname, hpool] at hkey
  cases hkey
  exact ⟨hidle, hreplicas⟩

theorem ScalingRun.le_collectedEntries (hkeyed : Keyed pools)
    (h : ScalingRun conv parseFloat o pools fc c calls)
    (hpool : pools.lookup pool.name = some pool) :
    ∀ call ∈ calls, call.poolName = pool.name → call.replicas ≤ collectedEntries pools c pool := by
  induction h with
  | start => simp
  | report body _ _ ih =>
    intro call hcall hname
    refine (ih call hcall hname).trans (Int.ofNat_le.mpr ?_)
    rw [handleAgentMetrics]
    split
    · exact le_rfl
    · exact collectedEntries_le_add ..
  | cycle hrun hcollects huncapped hlists ih =>
    intro call hcall hname
    rcases List.mem_append.mp hcall with hcall | hcall
    · exact ih call hcall hname
    · obtain ⟨hidle, objectives, -, hreplicas⟩ :=
        hrun.cycle_call hkeyed hcollects huncapped hlists hpool hcall hname
      rw [← length_collected hrun.reported hcollects, hreplicas]
      exact sum_gains_le (scalesNothing_float64 conv) hidle

end Run

def EveryClusterExceeds (A : Arithmetic Float64) (parseFloat : String → Except Error Float64)
    (i : CycleInput) (pool : FleetPoolState) : Prop :=
  ∃ objectives,
    parseObjectives parseFloat
      (resolveScalingPolicy i.fetch pool.scalingPolicyRef).objectives = .ok objectives ∧
    ∀ s ∈ poolEntries i.metrics pool, OverTarget A objectives s.pool

instance (A : Arithmetic Float64) (parseFloat : String → Except Error Float64) (i : CycleInput)
    (pool : FleetPoolState) : Decidable (EveryClusterExceeds A parseFloat i pool) :=
  match h : parseObjectives parseFloat
    (resolveScalingPolicy i.fetch pool.scalingPolicyRef).objectives with
  | .error _ => isFalse (by simp [EveryClusterExceeds, h])
  | .ok objectives =>
    decidable_of_iff (∀ s ∈ poolEntries i.metrics pool, OverTarget A objectives s.pool)
      (by simp [EveryClusterExceeds, h])

def samplePools : Pools :=
  (reconcilePool { modelName := "llama", scalingPolicyRef := "policy" }
    (.solved ["east", "west"] [] none Time.zero) ∅).2

def samplePoolState : FleetPoolState where
  name := "llama"
  model := "llama"
  source := ""
  desiredClusters := ["east", "west"]
  phase := .placing
  scalingPolicyRef := "policy"

def loadedBody (clusterID : String) : Option Bytes :=
  some (utf8 ("\x7b\"cluster_id\": \"" ++ clusterID ++ "\", \"queue_depth\": 9\x7d"))

def sampleParse (s : String) : Except Error Float64 :=
  match Float64.parse s.toList with
  | none => .error (.sentinel "invalid syntax")
  | some x => .ok x

def sampleConversion : Arithmetic.Conversion := ⟨fun _ => 0, by decide⟩

def sampleInput (c : Collector) : CycleInput where
  metrics := c.metrics
  health := []
  fetch _ := none
  order := stableScoreSort

def sampleListed : List FleetPoolState := samplePools.entries.map (·.2)

def sampleEast : Collector := (handleAgentMetrics sampleListed (loadedBody "east") {}).2

def sampleBoth : Collector := (handleAgentMetrics sampleListed (loadedBody "west") sampleEast).2

def sampleOverlay : PraxisOverlay := ⟨[], .ok⟩

def sampleCycle (c : Collector) (fc : FleetController) : FleetController × List ScaleCall :=
  runAutoscalingCycle (.float64 sampleConversion) sampleParse sampleOverlay (sampleInput c)
    sampleListed fc

def sampleFirst : FleetController × List ScaleCall := sampleCycle sampleEast { pools := samplePools }

end FleetLlmd.Controller
