import FleetLlmd.Clusters.Handlers
import FleetLlmd.Clusters.Health
import FleetLlmd.Controller.Reconciler

/-!
# Agent metrics

`handleAgentMetrics` of `pkg/server`: the sample an agent reports for its cluster is kept
under the name of the aggregate and once more under the name of every pool placed on the
cluster. The view of the cluster's health adds the pools up again.
-/

namespace FleetLlmd.Clusters
open Go Json Routing Controller

/-! ## Reports -/

structure AgentMetricsReport where
  clusterID : String := ""
  throughputTPS : Float64 := .zero
  ttftP50MS : Float64 := .zero
  ttftP99MS : Float64 := .zero
  queueDepth : Int := 0
  gpuUtilization : Float64 := .zero
  kvCacheHitRate : Float64 := .zero
  poolSaturation : Float64 := .zero
  readyEndpoints : Int := 0
  kvCacheUtilization : Float64 := .zero
  inflightRequests : Int := 0
  deriving DecidableEq

def agentMetricsFields : List (StructField AgentMetricsReport) :=
  [structField "cluster_id" (·.clusterID) (fun s x => { s with clusterID := x }) decodeString,
    structField "throughput_tps" (·.throughputTPS) (fun s x => { s with throughputTPS := x })
      decodeFloat64,
    structField "ttft_p50_ms" (·.ttftP50MS) (fun s x => { s with ttftP50MS := x }) decodeFloat64,
    structField "ttft_p99_ms" (·.ttftP99MS) (fun s x => { s with ttftP99MS := x }) decodeFloat64,
    structField "queue_depth" (·.queueDepth) (fun s x => { s with queueDepth := x }) decodeInt,
    structField "gpu_utilization" (·.gpuUtilization) (fun s x => { s with gpuUtilization := x })
      decodeFloat64,
    structField "kv_cache_hit_rate" (·.kvCacheHitRate) (fun s x => { s with kvCacheHitRate := x })
      decodeFloat64,
    structField "pool_saturation" (·.poolSaturation) (fun s x => { s with poolSaturation := x })
      decodeFloat64,
    structField "ready_endpoints" (·.readyEndpoints) (fun s x => { s with readyEndpoints := x })
      decodeInt,
    structField "kv_cache_utilization" (·.kvCacheUtilization)
      (fun s x => { s with kvCacheUtilization := x }) decodeFloat64,
    structField "inflight_requests" (·.inflightRequests)
      (fun s x => { s with inflightRequests := x }) decodeInt]

def agentMetrics (body : Option Bytes) : Except Error AgentMetricsReport :=
  match decodeJSON (decodeStruct true agentMetricsFields) body {} with
  | .error err => .error (.wrapf "invalid JSON: %w" [] err)
  | .ok report =>
    if blank report.clusterID then .error (.sentinel "cluster_id is required")
    else if report.queueDepth < 0 || report.throughputTPS.lt .zero || report.ttftP50MS.lt .zero ||
        report.ttftP99MS.lt .zero || report.gpuUtilization.lt .zero ||
        report.kvCacheHitRate.lt .zero || Float64.one.lt report.kvCacheHitRate then
      .error (.sentinel
        "metrics must be non-negative and kv_cache_hit_rate must be between 0 and 1")
    else .ok report

theorem decodeInt_inInt64 {r : Raw} {n m : Int} (hn : InInt64 n) (h : decodeInt r n = .ok m) :
    InInt64 m := by
  cases r with
  | null =>
    cases h
    exact hn
  | number lit =>
    rw [decodeInt] at h
    split at h
    · next value hparse =>
      cases h
      unfold parseInt at hparse
      rw [Option.filter_eq_some_iff] at hparse
      have hbounds := of_decide_eq_true hparse.2
      rw [InInt64]
      omega
    · cases h
  | bool _ | string _ | array _ | object _ => cases h

theorem decodeJSON_ok {α : Type} {d : Decoder α} {body : Option Bytes} {zero x : α}
    (h : decodeJSON d body zero = .ok x) : ∃ r, d r zero = .ok x := by
  cases body with
  | none => cases h
  | some content =>
    simp only [decodeJSON] at h
    split at h
    · cases h
    · next r rest hparse => exact ⟨r, h⟩

theorem agentMetrics_inInt64 {body : Option Bytes} {report : AgentMetricsReport}
    (h : agentMetrics body = .ok report) : InInt64 report.readyEndpoints := by
  have hfields : ∀ f ∈ agentMetricsFields, ∀ r s s', InInt64 s.readyEndpoints →
      f.decode r s = .ok s' → InInt64 s'.readyEndpoints := by
    simp only [agentMetricsFields, List.forall_mem_cons, List.not_mem_nil, false_imp_iff,
      implies_true, and_true]
    refine ⟨?_, ?_, ?_, ?_, ?_, ?_, ?_, ?_, ?_, ?_, ?_⟩
    all_goals
      apply structField_keeps (P := fun s : AgentMetricsReport => InInt64 s.readyEndpoints)
      intro r s x hs hd
    case refine_9 => exact decodeInt_inInt64 hs hd
    all_goals exact hs
  rw [agentMetrics] at h
  split at h
  · cases h
  · next decoded hdecode =>
    split at h
    · cases h
    · split at h
      · cases h
      · cases h
        obtain ⟨r, hr⟩ := decodeJSON_ok hdecode
        exact decodeStruct_keeps hfields (by decide) hr

/-! ## The collector -/

structure Collector where
  metrics : List ClusterMetrics := []
  nodup : (metrics.map (·.clusterID)).Nodup := by exact List.nodup_nil

namespace Collector

theorem nodup_add (c : Collector) (m : ClusterMetrics) :
    ((m :: c.metrics.filter (·.clusterID != m.clusterID)).map (·.clusterID)).Nodup := by
  rw [List.map_cons, List.nodup_cons]
  constructor
  · simp
  · exact c.nodup.sublist (List.filter_sublist.map _)

def add (c : Collector) (m : ClusterMetrics) : Collector :=
  ⟨m :: c.metrics.filter (·.clusterID != m.clusterID), c.nodup_add m⟩

theorem mem_add {c : Collector} {m cm : ClusterMetrics} :
    cm ∈ (c.add m).metrics ↔ cm = m ∨ cm ∈ c.metrics ∧ cm.clusterID ≠ m.clusterID := by
  simp [add]

/-- `CollectAll`: the map is gone through in any order. -/
def Collects (c : Collector) (metrics : List ClusterMetrics) : Prop := metrics.Perm c.metrics

end Collector

/-! ## The handler -/

def agentAggregatePoolName : String := "agent-aggregate"

def AgentMetricsReport.sample (report : AgentMetricsReport) : PoolMetrics where
  poolName := agentAggregatePoolName
  queueDepth := report.queueDepth
  ttftP99Ms := report.ttftP99MS
  throughputTPS := report.throughputTPS
  gpuUtilization := report.gpuUtilization
  kvCacheHitRate := report.kvCacheHitRate
  cpuUtilization := .zero
  inferenceLatencyP99Ms := .zero
  poolSaturation := report.poolSaturation
  readyEndpoints := report.readyEndpoints

def placedOn (clusters : List String) (clusterID : String) : Bool := clusters.contains clusterID

def placed (clusterID : String) (pools : List FleetPoolState) : List FleetPoolState :=
  pools.filter fun pool =>
    !(pool.name == "" || pool.name == agentAggregatePoolName) &&
      (placedOn pool.desiredClusters clusterID || placedOn pool.actualClusters clusterID)

def attributeAgentSample (pools : List FleetPoolState) (clusterID : String)
    (sample : PoolMetrics) : List PoolMetrics :=
  sample :: (placed clusterID pools).map fun pool =>
    { sample with poolName := pool.name, model := pool.model }

/-- `pools` are those of the reconciler, in the order they are listed. -/
def handleAgentMetrics (pools : List FleetPoolState) (body : Option Bytes) (c : Collector) :
    Reply × Collector :=
  match agentMetrics body with
  | .error err => (.error 400 err, c)
  | .ok report =>
    (.json 202 [("status", "accepted")],
      c.add ⟨report.clusterID, attributeAgentSample pools report.clusterID report.sample⟩)

inductive BeforeNextReport (clusterID : String) (c : Collector) : Collector → Prop
  | refl : BeforeNextReport clusterID c c
  | request {c' : Collector} (pools : List FleetPoolState) (body : Option Bytes) :
    BeforeNextReport clusterID c c' →
    (∀ report, agentMetrics body = .ok report → report.clusterID ≠ clusterID) →
    BeforeNextReport clusterID c (handleAgentMetrics pools body c').2

theorem BeforeNextReport.keeps {clusterID : String} {c c' : Collector} {cm : ClusterMetrics}
    (h : BeforeNextReport clusterID c c') (hcm : cm ∈ c.metrics) (hid : cm.clusterID = clusterID) :
    cm ∈ c'.metrics := by
  induction h with
  | refl => exact hcm
  | request pools body hbefore hother ih =>
    rw [handleAgentMetrics]
    split
    · exact ih
    · next report hreport =>
      rw [Collector.mem_add]
      exact .inr ⟨ih, fun heq => hother report hreport (heq.symm.trans hid)⟩

section Report
variable {pools : List FleetPoolState} {body : Option Bytes} {report : AgentMetricsReport}
  {c c' : Collector} {metrics : List ClusterMetrics}

theorem lookupKey_reported (haccepted : agentMetrics body = .ok report)
    (hbefore : BeforeNextReport report.clusterID (handleAgentMetrics pools body c).2 c')
    (hcollects : c'.Collects metrics) :
    lookupKey report.clusterID (metricsMap metrics) =
      aggregate (attributeAgentSample pools report.clusterID report.sample) := by
  have hadded : (handleAgentMetrics pools body c).2 =
      c.add ⟨report.clusterID, attributeAgentSample pools report.clusterID report.sample⟩ := by
    rw [handleAgentMetrics, haccepted]
  have hkept := hbefore.keeps (hadded ▸ Collector.mem_add.mpr (.inl rfl)) rfl
  exact lookupKey_metricsMap ((hcollects.map _).nodup_iff.mpr c'.nodup)
    (hcollects.mem_iff.mpr hkept)

end Report

/-! ## Slots -/

theorem int64_add_left (a b : Int) : int64 (int64 a + b) = int64 (a + b) :=
  Int.bmod_add_bmod

theorem readyEndpoints_foldl_merge {r : Int} {pools : List PoolMetrics}
    (hready : ∀ p ∈ pools, p.readyEndpoints = r) {a : PoolMetrics} (ha : InInt64 a.readyEndpoints) :
    (pools.foldl PoolMetrics.merge a).readyEndpoints =
      int64 (a.readyEndpoints + r * pools.length) := by
  induction pools generalizing a with
  | nil => simp [int64_eq_self ha]
  | cons p pools ih =>
    obtain ⟨hp, hrest⟩ := List.forall_mem_cons.mp hready
    have hmerge : (a.merge p).readyEndpoints = int64 (a.readyEndpoints + r) := by
      rw [PoolMetrics.merge, hp]
    rw [List.foldl_cons, ih hrest (hmerge ▸ inInt64_int64 _), hmerge, int64_add_left,
      List.length_cons]
    congr 1
    push_cast
    ring

theorem availableSlots_of_lookup {m : List (String × PoolMetrics)} {c : ClusterRecord}
    {p : PoolMetrics} (h : lookupKey c.id m = some p) :
    (c.health m).availableSlots =
      if 0 < p.readyEndpoints then p.readyEndpoints else c.gpuAvailable := by
  rw [ClusterRecord.health, h]
  by_cases hready : 0 < p.readyEndpoints <;> simp [Option.filter_some, hready]

theorem availableSlots_reported {pools : List FleetPoolState} {body : Option Bytes}
    {report : AgentMetricsReport} {c c' : Collector} {metrics : List ClusterMetrics}
    (haccepted : agentMetrics body = .ok report)
    (hbefore : BeforeNextReport report.clusterID (handleAgentMetrics pools body c).2 c')
    (hcollects : c'.Collects metrics) {record : ClusterRecord}
    (hid : record.id = report.clusterID) :
    (record.health (metricsMap metrics)).availableSlots =
      let total := int64 (report.readyEndpoints +
        report.readyEndpoints * (placed report.clusterID pools).length)
      if 0 < total then total else record.gpuAvailable := by
  have hlookup := lookupKey_reported haccepted hbefore hcollects
  rw [attributeAgentSample, aggregate, ← hid] at hlookup
  rw [availableSlots_of_lookup hlookup, readyEndpoints_foldl_merge (r := report.readyEndpoints),
    List.length_map, hid]
  · rfl
  · simp [AgentMetricsReport.sample]
  · exact agentMetrics_inInt64 haccepted

theorem int64_add_eq_iff {r : Int} (hr : InInt64 r) (x : Int) :
    int64 (r + x) = r ↔ (2 : Int) ^ 64 ∣ x := by
  rw [← int64_eq_self hr, int64_add_left, int64, int64, Int.bmod_eq_bmod_iff_bmod_sub_eq_zero,
    add_sub_cancel_left, ← Int.dvd_iff_bmod_eq_zero]
  norm_num

def sampleBody : Option Bytes :=
  some (utf8 "\x7b\"cluster_id\": \"east\", \"ready_endpoints\": 2\x7d")

def sampleReport : AgentMetricsReport := { clusterID := "east", readyEndpoints := 2 }

def samplePool : FleetPoolState :=
  { name := "llama", model := "llama", source := "", desiredClusters := ["east"] }

/-- A sum that wraps aside, the slots are those reported exactly if no pool is placed on the
cluster: each pool adds the endpoints of the whole cluster once more. -/
theorem slots_exact_iff (pools : List FleetPoolState) {body : Option Bytes} (c : Collector)
    {report : AgentMetricsReport} (haccepted : agentMetrics body = .ok report)
    (hready : 0 < report.readyEndpoints) :
    (∀ (c' : Collector) (metrics : List ClusterMetrics) (clusters : List ClusterRecord),
      BeforeNextReport report.clusterID (handleAgentMetrics pools body c).2 c' →
      c'.Collects metrics →
      ∀ h ∈ buildClusterHealth clusters metrics, h.clusterID = report.clusterID →
        h.availableSlots = report.readyEndpoints) ↔
    (2 : Int) ^ 64 ∣ report.readyEndpoints * (placed report.clusterID pools).length := by
  rw [← int64_add_eq_iff (agentMetrics_inInt64 haccepted)]
  constructor
  · intro hall
    let record : ClusterRecord := ⟨report.clusterID, "", "", none, 0, 0, "", Time.zero, Time.zero⟩
    have hslots := hall _ _ [record] .refl (List.Perm.refl _) _ (List.mem_singleton_self _) rfl
    rw [availableSlots_reported haccepted .refl (List.Perm.refl _) rfl] at hslots
    dsimp only at hslots
    split_ifs at hslots with htotal
    · exact hslots
    · exact absurd hslots hready.ne
  · intro htotal c' metrics clusters hbefore hcollects h hmem hid
    obtain ⟨record, hrecord, rfl⟩ := List.mem_map.mp hmem
    rw [availableSlots_reported haccepted hbefore hcollects hid, htotal]
    exact if_pos hready

theorem slots_exact_unplaced :
    agentMetrics sampleBody = .ok sampleReport ∧ 0 < sampleReport.readyEndpoints ∧
      ∀ (c' : Collector) (metrics : List ClusterMetrics) (clusters : List ClusterRecord),
        BeforeNextReport "east" (handleAgentMetrics [] sampleBody {}).2 c' →
        c'.Collects metrics →
        ∀ h ∈ buildClusterHealth clusters metrics, h.clusterID = "east" → h.availableSlots = 2 :=
  have haccepted : agentMetrics sampleBody = .ok sampleReport := by decide +kernel
  ⟨haccepted, by decide, (slots_exact_iff [] {} haccepted (by decide)).mpr (by decide)⟩

/-- One pool doubles the slots. -/
theorem slots_doubled :
    agentMetrics sampleBody = .ok sampleReport ∧ 0 < sampleReport.readyEndpoints ∧
      (handleAgentMetrics [samplePool] sampleBody {}).2.Collects
        (handleAgentMetrics [samplePool] sampleBody {}).2.metrics ∧
      (buildClusterHealth [⟨"east", "east", "", none, 8, 8, "Running", Time.zero, Time.zero⟩]
        (handleAgentMetrics [samplePool] sampleBody {}).2.metrics).map
          (fun h => (h.clusterID, h.availableSlots)) = [("east", 4)] :=
  ⟨by decide +kernel, by decide, List.Perm.refl _, by decide +kernel⟩

end FleetLlmd.Clusters
