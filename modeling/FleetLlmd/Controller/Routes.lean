import FleetLlmd.Clusters.AgentMetrics
import FleetLlmd.Routing.GridSync
import FleetLlmd.Routing.Overlay

/-!
# Routes from placements and from health

The two writers of the gateway configuration in `pkg/server`. When a pool has been reconciled,
`configureReconcilerOnChange` renders the desired clusters of all pools and stores the pool.
`updateRoutingFromHealth` renders those of them that can take load, unless the health view
is the one it rendered last.
-/

namespace FleetLlmd.Controller
open Go Json Routing Clusters

/-! ## Routable clusters -/

def routableCluster (cluster : ClusterHealth) : Bool :=
  cluster.healthy && cluster.poolSaturation.lt .one && cluster.currentLoad.lt .one

def Routable (health : List ClusterHealth) (cid : String) : Prop :=
  ∃ ch ∈ health, ch.clusterID = cid ∧ routableCluster ch = true

instance (health : List ClusterHealth) (cid : String) : Decidable (Routable health cid) :=
  inferInstanceAs (Decidable (∃ ch ∈ health, ch.clusterID = cid ∧ routableCluster ch = true))

theorem foldl_merge_max {f : PoolMetrics → Float64}
    (hf : ∀ a p : PoolMetrics, f (a.merge p) = maxFloat (f a) (f p)) {pools : List PoolMetrics}
    {a : PoolMetrics} (hpools : ∀ p ∈ pools, f p = f a) :
    f (pools.foldl PoolMetrics.merge a) = f a := by
  induction pools generalizing a with
  | nil => rfl
  | cons p pools ih =>
    obtain ⟨hp, hrest⟩ := List.forall_mem_cons.mp hpools
    have hmerge : f (a.merge p) = f a := by rw [hf, hp, maxFloat_self]
    rw [List.foldl_cons, ih (fun q hq => (hrest q hq).trans hmerge.symm), hmerge]

theorem aggregate_reported (pools : List FleetPoolState) (clusterID : String)
    (sample : PoolMetrics) :
    ∃ p, aggregate (attributeAgentSample pools clusterID sample) = some p ∧
      p.gpuUtilization = sample.gpuUtilization ∧ p.poolSaturation = sample.poolSaturation := by
  refine ⟨_, rfl, ?_, ?_⟩
  · exact foldl_merge_max (f := fun p => p.gpuUtilization) (fun _ _ => rfl) (by simp)
  · exact foldl_merge_max (f := fun p => p.poolSaturation) (fun _ _ => rfl) (by simp)

theorem routableCluster_health {m : List (String × PoolMetrics)} {c : ClusterRecord}
    {p : PoolMetrics} (hlookup : lookupKey c.id m = some p)
    (hstatus : c.status = clusterStatusRunning) (hsaturation : p.poolSaturation.magnitude = 0) :
    routableCluster (c.health m) = p.gpuUtilization.lt .one := by
  obtain ⟨hscaled, hnan⟩ := Float64.scaled_of_magnitude hsaturation
  have hlow : Float64.zero.lt p.poolSaturation = false := by
    have hzero : Float64.zero.scaled = 0 := rfl
    simp [Float64.lt, hscaled, hzero]
  have hbelow : p.poolSaturation.lt .one = true := by
    have hone : 0 < Float64.one.scaled := by decide +kernel
    have hfinite : Float64.one.isNaN = false := rfl
    simp [Float64.lt, hscaled, hone, hnan, hfinite]
  have hload : PoolMetrics.load p = p.gpuUtilization := by
    rw [PoolMetrics.load, hlow]
    rfl
  simp [routableCluster, ClusterRecord.health, hlookup, hstatus, hload, hbelow]

def utilizedBody : Option Bytes :=
  some (utf8 "\x7b\"cluster_id\": \"east\", \"gpu_utilization\": 50\x7d")

def utilizedReport : AgentMetricsReport :=
  { clusterID := "east", gpuUtilization := Float64.ofInt 50 }

def runningEast : ClusterRecord :=
  ⟨"east", "east", "", none, 8, 8, clusterStatusRunning, Time.zero, Time.zero⟩

def runningTable : ClusterTable := ⟨[runningEast], by decide, by decide⟩

/-- A running cluster without saturation is routable exactly below a utilisation of one, where the
agent's scale ends at a hundred. -/
theorem reported_routable_iff {pools : List FleetPoolState} {body : Option Bytes}
    {report : AgentMetricsReport} {c c' : Collector} {metrics : List ClusterMetrics}
    {t : ClusterTable} (record : ClusterRecord) (haccepted : agentMetrics body = .ok report)
    (hsaturation : report.poolSaturation.magnitude = 0)
    (hbefore : BeforeNextReport report.clusterID (handleAgentMetrics pools body c).2 c')
    (hcollects : c'.Collects metrics) (hrecord : t.find report.clusterID = some record)
    (hstatus : record.status = clusterStatusRunning) :
    Routable (buildClusterHealth t.listClusters metrics) report.clusterID ↔
      report.gpuUtilization.lt .one = true := by
  have hid := Sql.Table.key_of_find hrecord
  obtain ⟨p, haggregate, hgpu, hpool⟩ :=
    aggregate_reported pools report.clusterID report.sample
  have hroutable : routableCluster (record.health (metricsMap metrics)) =
      report.gpuUtilization.lt .one := by
    have hlookup := (lookupKey_reported haccepted hbefore hcollects).trans haggregate
    rw [← hid] at hlookup
    have hzero : p.poolSaturation.magnitude = 0 := hpool ▸ hsaturation
    rw [routableCluster_health hlookup hstatus hzero, hgpu]
    rfl
  rw [← hroutable]
  constructor
  · rintro ⟨ch, hmem, hch, hroutable⟩
    obtain ⟨r, hr, rfl⟩ := List.mem_map.mp hmem
    have hsame : r = record := List.inj_on_of_nodup_map t.keys
      (ClusterTable.mem_listClusters.mp hr) (Sql.Table.mem_of_find hrecord) (hch.trans hid.symm)
    exact hsame ▸ hroutable
  · intro hroutable
    exact ⟨_, List.mem_map_of_mem
      (ClusterTable.mem_listClusters.mpr (Sql.Table.mem_of_find hrecord)), hid, hroutable⟩

theorem half_routable :
    let body := some (utf8 "\x7b\"cluster_id\": \"east\", \"gpu_utilization\": 0.5\x7d")
    let report : AgentMetricsReport :=
      { clusterID := "east", gpuUtilization := (Float64.ofInt 1).div (.ofInt 2) }
    agentMetrics body = .ok report ∧
      Routable (buildClusterHealth runningTable.listClusters
        (handleAgentMetrics [] body {}).2.metrics) "east" := by
  intro body report
  have haccepted : agentMetrics body = .ok report := by decide +kernel
  exact ⟨haccepted, (reported_routable_iff (t := runningTable) runningEast haccepted
    (by decide) .refl (List.Perm.refl _) (by decide) rfl).mpr (by decide +kernel)⟩

/-- At half of the agent's scale a running cluster gets no routes. -/
theorem half_utilized_unroutable :
    agentMetrics utilizedBody = .ok utilizedReport ∧
      utilizedReport.poolSaturation.magnitude = 0 ∧
      utilizedReport.gpuUtilization.lt .zero = false ∧
      utilizedReport.gpuUtilization.lt (.ofInt 100) = true ∧
      runningTable.find "east" = some runningEast ∧
      ¬ Routable (buildClusterHealth runningTable.listClusters
        (handleAgentMetrics [] utilizedBody {}).2.metrics) "east" :=
  ⟨by decide +kernel, by decide, by decide +kernel, by decide +kernel, by decide,
    by decide +kernel⟩

/-! ## Placements -/

def routingHealthScore (cluster : ClusterHealth) : Float64 :=
  let latencyPenalty := cluster.latencyMs.div (.ofInt 1000)
  (((cluster.capacityRemaining.add cluster.kvCacheHitRate).sub cluster.currentLoad).sub
    cluster.poolSaturation).sub latencyPenalty

/-- `sort.Slice` by falling score: clusters of one score may come in any order. -/
structure ScoreSort where
  sort : List ClusterHealth → List ClusterHealth
  perm : ∀ cs, (sort cs).Perm cs
  sorted : ∀ cs, (sort cs).Pairwise fun a b =>
    (routingHealthScore a).lt (routingHealthScore b) = false

def stableScoreSort : ScoreSort where
  sort cs := cs.insertionSort fun a b =>
    (routingHealthScore b).scaled ≤ (routingHealthScore a).scaled
  perm cs := List.perm_insertionSort _ cs
  sorted cs := by
    have : Std.Total fun a b : ClusterHealth =>
        (routingHealthScore b).scaled ≤ (routingHealthScore a).scaled :=
      ⟨fun a b => le_total _ _⟩
    have : IsTrans ClusterHealth fun a b =>
        (routingHealthScore b).scaled ≤ (routingHealthScore a).scaled :=
      ⟨fun a b c hab hbc => hbc.trans hab⟩
    refine (List.pairwise_insertionSort _ cs).imp fun {a b} h => ?_
    simp [Float64.lt, h]

def routingCandidates (health : List ClusterHealth) (pool : FleetPoolState) : List ClusterHealth :=
  pool.desiredClusters.filterMap fun cid =>
    health.find? fun ch => ch.clusterID == cid && routableCluster ch

def healthPlacements (order : ScoreSort) (health : List ClusterHealth)
    (listed : List FleetPoolState) : List PoolPlacement :=
  listed.filterMap fun pool =>
    let candidates := routingCandidates health pool
    if candidates.isEmpty then none
    else some
      { modelName := pool.model
        clusters := (order.sort candidates).map (·.clusterID) }

def desiredPlacements (listed : List FleetPoolState) : List PoolPlacement :=
  listed.filterMap fun pool =>
    if pool.desiredClusters.isEmpty then none
    else some { modelName := pool.model, clusters := pool.desiredClusters }

/-! ## The controller -/

inductive PoolID where
  | named (name : String)
  | generated (n : Nat)
  deriving DecidableEq

abbrev PoolRecords := AList fun _ : PoolID => PoolRecord

/-- `praxisConfig` is the configuration written last. The fingerprint of a health view is kept as
the view itself. -/
structure FleetController where
  pools : Pools := ∅
  poolRepo : PoolRecords := ∅
  lastRoutingFingerprint : Option (List ClusterHealth) := none
  praxisConfig : Option PraxisConfig := none

def routingHealthFingerprint (health : List ClusterHealth) : List ClusterHealth :=
  health.insertionSort fun a b => keyLt b.clusterID a.clusterID = false

def updateRoutingFromHealth (o : PraxisOverlay) (order : ScoreSort) (health : List ClusterHealth)
    (listed : List FleetPoolState) (fc : FleetController) : FleetController :=
  let fingerprint := routingHealthFingerprint health
  if health.isEmpty || fc.lastRoutingFingerprint == some fingerprint || listed.isEmpty then fc
  else
    match renderConfig o (healthPlacements order health listed) with
    | .error _ => fc
    | .ok cfg => { fc with praxisConfig := some cfg, lastRoutingFingerprint := some fingerprint }

structure RepoAnswers where
  getFails : Bool := false
  createFails : Bool := false
  updateFails : Bool := false
  generated : Nat := 0

def poolRecord (pool : FleetPoolState) : PoolRecord where
  name := pool.name
  modelName := pool.model
  desiredClusters := pool.desiredClusters
  targetPorts := pool.targetPorts

def RepoAnswers.id (answers : RepoAnswers) (pool : FleetPoolState) : PoolID :=
  if pool.name == "" then .generated answers.generated else .named pool.name

/-- `Get`, and then `Create` or `Update`; there is no result if that fails. -/
def recordPool (answers : RepoAnswers) (pool : FleetPoolState) (repo : PoolRecords) :
    Option PoolRecords :=
  if answers.getFails || (repo.lookup (.named pool.name)).isNone then
    if answers.createFails || (repo.lookup (answers.id pool)).isSome then none
    else some (repo.insert (answers.id pool) (poolRecord pool))
  else if answers.updateFails then none
  else some (repo.insert (.named pool.name) (poolRecord pool))

def onChange (o : PraxisOverlay) (answers : RepoAnswers) (listed : List FleetPoolState)
    (pool : FleetPoolState) (fc : FleetController) : FleetController :=
  { fc with
    praxisConfig :=
      match renderConfig o (desiredPlacements listed) with
      | .error _ => fc.praxisConfig
      | .ok cfg => some cfg
    poolRepo := (recordPool answers pool fc.poolRepo).getD fc.poolRepo }

/-- `ReconcilePool` with the callback it is wired to; `listed` are the pools after it. -/
def FleetController.reconcile (o : PraxisOverlay) (spec : FleetInferencePoolSpec) (p : Placement)
    (answers : RepoAnswers) (listed : List FleetPoolState) (fc : FleetController) :
    FleetController :=
  match reconcilePool spec p fc.pools with
  | (.error _, pools) => { fc with pools := pools }
  | (.ok pool, pools) => onChange o answers listed pool { fc with pools := pools }

def FleetController.delete (name : String) (fc : FleetController) :
    Except Error Unit × FleetController :=
  let r := deletePool name fc.pools
  (r.1, { fc with pools := r.2 })

end FleetLlmd.Controller
