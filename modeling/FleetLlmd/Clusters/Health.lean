import FleetLlmd.Autoscaling.Optimizer
import FleetLlmd.Clusters.Repository
import FleetLlmd.Json.Members
import FleetLlmd.Routing.Evaluator
import Mathlib.Data.List.Sort

/-!
# The health view

`BuildClusterHealth` and `BuildInferenceClusterHealth` of `pkg/server`: the cluster records
with the collected metrics, healthy by their status and by the probe of their inference
endpoint where one is configured.
-/

namespace FleetLlmd.Clusters
open Go Json Routing

/-- `ListClusters`: the records in the order of their registration. -/
def ClusterTable.listClusters (t : ClusterTable) : List ClusterRecord :=
  t.rows.insertionSort fun a b => a.registeredAt.nanos ≤ b.registeredAt.nanos

theorem ClusterTable.mem_listClusters {t : ClusterTable} {r : ClusterRecord} :
    r ∈ t.listClusters ↔ r ∈ t.rows :=
  List.mem_insertionSort _

abbrev PoolMetrics := Autoscaling.PoolMetrics Float64

abbrev ClusterMetrics := Autoscaling.ClusterMetrics Float64

def maxFloat (x y : Float64) : Float64 :=
  if x.isNaN then x
  else if y.isNaN || x.lt y then y
  else if y.lt x then x
  else if x.isNeg then y
  else x

def PoolMetrics.merge (a p : PoolMetrics) : PoolMetrics :=
  { a with
    ttftP99Ms := maxFloat a.ttftP99Ms p.ttftP99Ms
    gpuUtilization := maxFloat a.gpuUtilization p.gpuUtilization
    poolSaturation := maxFloat a.poolSaturation p.poolSaturation
    readyEndpoints := int64 (a.readyEndpoints + p.readyEndpoints)
    kvCacheHitRate :=
      if a.kvCacheHitRate.magnitude = 0 ||
          (Float64.zero.lt p.kvCacheHitRate && p.kvCacheHitRate.lt a.kvCacheHitRate) then
        p.kvCacheHitRate
      else a.kvCacheHitRate }

theorem maxFloat_self (x : Float64) : maxFloat x x = x := by
  rw [maxFloat]
  split_ifs <;> rfl

def aggregate : List PoolMetrics → Option PoolMetrics
  | [] => none
  | p :: pools => some (pools.foldl PoolMetrics.merge p)

def PoolMetrics.load (p : PoolMetrics) : Float64 :=
  if Float64.zero.lt p.poolSaturation then p.poolSaturation else p.gpuUtilization

def addPool (clusterID : String) (m : List (String × PoolMetrics)) (p : PoolMetrics) :
    List (String × PoolMetrics) :=
  insertKey clusterID (((lookupKey clusterID m).map (·.merge p)).getD p) m

def metricsMap (metrics : List ClusterMetrics) : List (String × PoolMetrics) :=
  metrics.foldl (fun m cm => cm.pools.foldl (addPool cm.clusterID) m) []

theorem lookupKey_addPool (id clusterID : String) (m : List (String × PoolMetrics))
    (p : PoolMetrics) :
    lookupKey id (addPool clusterID m p) =
      if clusterID = id then some (((lookupKey id m).map (·.merge p)).getD p)
      else lookupKey id m := by
  rw [addPool, lookupKey_insertKey]
  split_ifs with hid
  · rw [hid]
  · rfl

variable {clusterID : String} {metrics : List ClusterMetrics}

theorem lookupKey_addPools_of_ne {id : String} (hid : clusterID ≠ id)
    (pools : List PoolMetrics) (m : List (String × PoolMetrics)) :
    lookupKey id (pools.foldl (addPool clusterID) m) = lookupKey id m := by
  induction pools generalizing m with
  | nil => rfl
  | cons p pools ih => rw [List.foldl_cons, ih, lookupKey_addPool, if_neg hid]

theorem lookupKey_addPools_of_some {a : PoolMetrics}
    (pools : List PoolMetrics) {m : List (String × PoolMetrics)}
    (h : lookupKey clusterID m = some a) :
    lookupKey clusterID (pools.foldl (addPool clusterID) m) =
      some (pools.foldl PoolMetrics.merge a) := by
  induction pools generalizing m a with
  | nil => exact h
  | cons p pools ih =>
    apply ih
    rw [lookupKey_addPool, if_pos rfl, h]
    rfl

theorem lookupKey_addPools (pools : List PoolMetrics)
    {m : List (String × PoolMetrics)} (h : lookupKey clusterID m = none) :
    lookupKey clusterID (pools.foldl (addPool clusterID) m) = aggregate pools := by
  cases pools with
  | nil => exact h
  | cons p pools =>
    rw [List.foldl_cons, aggregate]
    apply lookupKey_addPools_of_some
    rw [lookupKey_addPool, if_pos rfl, h]
    rfl

theorem lookupKey_foldl_addPools_of_ne {id : String}
    (hid : ∀ cm ∈ metrics, cm.clusterID ≠ id) (m : List (String × PoolMetrics)) :
    lookupKey id (metrics.foldl (fun m cm => cm.pools.foldl (addPool cm.clusterID) m) m) =
      lookupKey id m := by
  induction metrics generalizing m with
  | nil => rfl
  | cons cm metrics ih =>
    obtain ⟨hcm, hrest⟩ := List.forall_mem_cons.mp hid
    rw [List.foldl_cons, ih hrest, lookupKey_addPools_of_ne hcm]

theorem lookupKey_metricsMap {cm : ClusterMetrics}
    (hnodup : (metrics.map (·.clusterID)).Nodup) (hmem : cm ∈ metrics) :
    lookupKey cm.clusterID (metricsMap metrics) = aggregate cm.pools := by
  obtain ⟨before, after, rfl⟩ := List.append_of_mem hmem
  rw [List.map_append, List.map_cons, List.nodup_append] at hnodup
  obtain ⟨-, hafter, hbefore⟩ := hnodup
  have hne_before : ∀ other ∈ before, other.clusterID ≠ cm.clusterID := fun other hother =>
    hbefore _ (List.mem_map_of_mem hother) _ (List.mem_cons_self ..)
  have hne_after : ∀ other ∈ after, other.clusterID ≠ cm.clusterID := fun other hother heq =>
    (List.nodup_cons.mp hafter).1 (heq ▸ List.mem_map_of_mem hother)
  rw [metricsMap, List.foldl_append, List.foldl_cons, lookupKey_foldl_addPools_of_ne hne_after]
  apply lookupKey_addPools
  rw [lookupKey_foldl_addPools_of_ne hne_before]
  rfl

def capacity (gpuAvailable gpuTotal : Int) : Float64 :=
  let available := Float64.ofInt gpuAvailable
  let total := Float64.ofInt (max gpuTotal 1)
  if gpuTotal = 0 then .one else .ofRatio available.isNeg available.magnitude total.magnitude

def ClusterRecord.health (metrics : List (String × PoolMetrics)) (c : ClusterRecord) :
    ClusterHealth :=
  let pm := lookupKey c.id metrics
  { clusterID := c.id
    healthy := c.status == clusterStatusRunning || c.status == clusterStatusHealthy
    latencyMs := (pm.map (·.ttftP99Ms)).getD .zero
    capacityRemaining := capacity c.gpuAvailable c.gpuTotal
    kvCacheHitRate := (pm.map (·.kvCacheHitRate)).getD .zero
    availableSlots := ((pm.map (·.readyEndpoints)).filter (0 < ·)).getD c.gpuAvailable
    currentLoad := (pm.map (·.load)).getD .zero
    region := c.region
    poolSaturation := (pm.map (·.poolSaturation)).getD .zero
    labels := c.labels.getD [] }

def buildClusterHealth (clusters : List ClusterRecord) (metrics : List ClusterMetrics) :
    List ClusterHealth :=
  clusters.map (·.health (metricsMap metrics))

/-- `probe` gives what the provider's endpoint was found to be, if it is configured. -/
def buildInferenceClusterHealth (probe : String → Option Bool) (clusters : List ClusterRecord)
    (metrics : List ClusterMetrics) : List ClusterHealth :=
  (buildClusterHealth clusters metrics).map fun h =>
    { h with healthy := h.healthy && (probe h.clusterID).getD true }

theorem healthy_record {probe : String → Option Bool} {clusters : List ClusterRecord}
    {h : ClusterHealth}
    (hmem : h ∈ buildInferenceClusterHealth probe clusters metrics) (hhealthy : h.healthy = true) :
    ∃ c ∈ clusters, c.id = h.clusterID ∧
      (c.status = clusterStatusRunning ∨ c.status = clusterStatusHealthy) := by
  obtain ⟨view, hview, rfl⟩ := List.mem_map.mp hmem
  obtain ⟨c, hc, rfl⟩ := List.mem_map.mp hview
  refine ⟨c, hc, rfl, ?_⟩
  have hstatus := (Bool.and_eq_true_iff.mp hhealthy).1
  simpa [ClusterRecord.health] using hstatus

end FleetLlmd.Clusters
