import FleetLlmd.Clusters.Health
import FleetLlmd.Routing.Publication

/-!
# Which clusters a sync cycle publishes

`runGridSyncCycle` of `pkg/server`: the stored clusters and pools, the status of a probed
cluster replaced by what the probe found, are handed to the provider. The provider's own
filter knows the status words of the grid. It excludes a cluster whose labels forbid it and
one that is draining, but not one that is drained or unhealthy; and a probe hides them all.
-/

namespace FleetLlmd.Routing
open Go Json Sql
open Clusters (ClusterRecord ClusterTable)

structure PoolRecord where
  name : String
  modelName : String := ""
  desiredClusters : List String := []
  targetPorts : List Int := []

abbrev Snapshot := String → Option (Bool × Time)

section Cycle
variable (snapshot : Snapshot)

def probed (c : ClusterRecord) : Option (Bool × Time) :=
  (snapshot c.id).filter fun s => !s.2.isZero

def recordLabel (c : ClusterRecord) (name : String) : String :=
  (lookupKey name (c.labels.getD [])).getD ""

def clusterInfo (c : ClusterRecord) : FleetClusterInfo :=
  let egressAddress := recordLabel c "fleet.llm-d.ai/egress-address"
  { id := c.id
    region := c.region
    labels := c.labels.getD []
    egressAddress := egressAddress
    metricsEndpoint := recordLabel c "fleet.llm-d.ai/metrics-endpoint"
    transport :=
      { routingURL := egressAddress
        metricsURL := recordLabel c "fleet.llm-d.ai/metrics-endpoint"
        tlsServerName := recordLabel c "fleet.llm-d.ai/tls-server-name"
        trustRef := recordLabel c "fleet.llm-d.ai/trust-ref"
        authRef := recordLabel c "fleet.llm-d.ai/auth-ref" }
    status :=
      match probed snapshot c with
      | none => c.status
      | some (true, _) => "Healthy"
      | some (false, _) => "Unavailable"
    updatedAt := ((probed snapshot c).map (·.2)).getD c.updatedAt
    draining := recordLabel c "fleet.llm-d.ai/draining" == "true"
    authorized := recordLabel c "fleet.llm-d.ai/authorized" != "false" }

def poolInfo (p : PoolRecord) : FleetPoolInfo where
  name := p.name
  modelName := p.modelName
  physicalModel := p.modelName
  clusters := p.desiredClusters
  targetPorts := p.targetPorts

def gridSyncCall (clusters : ClusterTable) (pools : List PoolRecord) (clock : Nat → Time) :
    SyncCall where
  clusters := clusters.listClusters.map (clusterInfo snapshot)
  pools := pools.map poolInfo
  clock := clock

end Cycle

/-! ## Published endpoints -/

def RouterFile.listed : RouterFile → List LLMDClusterEndpoint
  | .endpoints es => es
  | .index _ _ => []

def SyncCall.DistinctFiles (c : SyncCall) : Prop :=
  ∀ m ∈ usedModels [c], ∀ m' ∈ usedModels [c], modelFilename m = modelFilename m' → m = m'

def publishedEndpoints (files : Files) : List LLMDClusterEndpoint := files.flatMap (·.2.listed)

def LLMDClusterEndpoint.clusterID (e : LLMDClusterEndpoint) : Option String :=
  lookupKey "fleet.llm-d.ai/cluster-id" e.labels

def forbiddenStatus (c : ClusterRecord) : Bool :=
  equalFold c.status "Draining" || equalFold c.status "Drained" || equalFold c.status "Unhealthy"

def forbiddenLabel (c : ClusterRecord) : Bool :=
  recordLabel c "fleet.llm-d.ai/draining" == "true" ||
    recordLabel c "fleet.llm-d.ai/authorized" == "false"

def forbidden (c : ClusterRecord) : Bool := forbiddenStatus c || forbiddenLabel c

def Clean (clusters : ClusterTable) (files : Files) : Prop :=
  ∀ e ∈ publishedEndpoints files, ∀ r ∈ clusters.rows, e.clusterID = some r.id →
    forbidden r = false

instance (clusters : ClusterTable) (files : Files) : Decidable (Clean clusters files) :=
  inferInstanceAs (Decidable (∀ e ∈ publishedEndpoints files, ∀ r ∈ clusters.rows,
    e.clusterID = some r.id → forbidden r = false))

/-- When the cluster was last heard of: at its probe, or when its record was updated. -/
def seenAt (snapshot : Snapshot) (r : ClusterRecord) : Time :=
  ((probed snapshot r).map (·.2)).getD r.updatedAt

/-- A record with a forbidden status that the provider takes for a cluster in service. -/
structure Leaks (opts : LLMDProviderOptions) (snapshot : Snapshot) (now : Time)
    (r : ClusterRecord) : Prop where
  unprobed : probed snapshot r = none →
    equalFold r.status "Drained" = true ∨ equalFold r.status "Unhealthy" = true
  probed : ∀ probe ∈ probed snapshot r, probe.1 = true ∧ forbiddenStatus r = true
  labels : forbiddenLabel r = false
  fresh : (seenAt snapshot r).isZero = true ∨ now.sub (seenAt snapshot r) ≤ opts.maxStaleness
  endpoint : trimSpace (recordLabel r "fleet.llm-d.ai/egress-address") ≠ ""

def Exposed (opts : LLMDProviderOptions) (snapshot : Snapshot) (clusters : ClusterTable)
    (c : SyncCall) : Prop :=
  ∃ p ∈ c.timed, ∃ r, clusters.find p.1.clusterID = some r ∧ Leaks opts snapshot p.2 r ∧
    supportsExactModel (clusterInfo snapshot r) p.1.model = true

/-! ## Clusters in service -/

structure InService (opts : LLMDProviderOptions) (now : Time) (cluster : FleetClusterInfo) :
    Prop where
  authorized : cluster.authorized = true ∨ cluster.label "fleet.llm-d.ai/authorized" ≠ "false"
  draining : cluster.draining = false ∧ cluster.label "fleet.llm-d.ai/draining" ≠ "true" ∧
    equalFold cluster.status "draining" = false
  available : toLower cluster.status ∉ unavailableStatuses
  fresh : cluster.updatedAt.isZero = true ∨ now.sub cluster.updatedAt ≤ opts.maxStaleness
  endpoint : cluster.routingEndpoint ≠ ""

theorem eligible_iff {opts : LLMDProviderOptions} {now : Time} {cluster : FleetClusterInfo} :
    eligible opts now cluster = true ↔ InService opts now cluster := by
  rw [eligible]
  constructor
  · intro h
    split_ifs at h with hauthorized hdraining havailable hfresh
    simp only [Bool.or_eq_true, not_or, Bool.not_eq_true] at hdraining
    refine ⟨?_, ⟨hdraining.1.1, by simpa using hdraining.2, hdraining.1.2⟩, by simpa using havailable,
      ?_, by simpa using h⟩
    · cases hflag : cluster.authorized with
      | true => exact .inl rfl
      | false => exact .inr (by simpa [hflag] using hauthorized)
    · cases hzero : cluster.updatedAt.isZero with
      | true => exact .inl rfl
      | false => exact .inr (by simpa [hzero] using hfresh)
  · rintro ⟨hauthorized, ⟨hdraining, hlabel, hstatus⟩, havailable, hfresh, hendpoint⟩
    rw [if_neg (by simpa using fun hno => hauthorized.resolve_left (by simp [hno])),
      if_neg (by simp [hdraining, hlabel, hstatus]), if_neg (by simpa using havailable),
      if_neg (by simpa using fun hno => hfresh.resolve_left (by simp [hno]))]
    simpa using hendpoint

section Leaks
variable {opts : LLMDProviderOptions} {snapshot : Snapshot} {now : Time} {r : ClusterRecord}

theorem forbiddenLabel_iff : forbiddenLabel r = false ↔
    recordLabel r "fleet.llm-d.ai/draining" ≠ "true" ∧
      recordLabel r "fleet.llm-d.ai/authorized" ≠ "false" := by
  simp [forbiddenLabel]

theorem inService_clusterInfo : InService opts now (clusterInfo snapshot r) ↔
    forbiddenLabel r = false ∧ equalFold (clusterInfo snapshot r).status "draining" = false ∧
      toLower (clusterInfo snapshot r).status ∉ unavailableStatuses ∧
      ((seenAt snapshot r).isZero = true ∨ now.sub (seenAt snapshot r) ≤ opts.maxStaleness) ∧
      trimSpace (recordLabel r "fleet.llm-d.ai/egress-address") ≠ "" := by
  have hendpoint : (clusterInfo snapshot r).routingEndpoint =
      trimSpace (recordLabel r "fleet.llm-d.ai/egress-address") := by
    simp [FleetClusterInfo.routingEndpoint, clusterInfo]
  rw [forbiddenLabel_iff, ← hendpoint]
  constructor
  · rintro ⟨hauthorized, ⟨-, hlabel, hstatus⟩, havailable, hfresh, hendpoint⟩
    refine ⟨⟨hlabel, ?_⟩, hstatus, havailable, hfresh, hendpoint⟩
    exact hauthorized.elim (fun h => bne_iff_ne.mp h) id
  · rintro ⟨⟨hlabel, hauthorized⟩, hstatus, havailable, hfresh, hendpoint⟩
    exact ⟨.inr hauthorized, ⟨beq_eq_false_iff_ne.mpr hlabel, hlabel, hstatus⟩, havailable, hfresh,
      hendpoint⟩

/-- The words for a draining cluster and for one out of service leave two forbidden words. -/
theorem unprobed_inService_iff :
    (forbiddenStatus r = true ∧ equalFold r.status "draining" = false ∧
      toLower r.status ∉ unavailableStatuses) ↔
    (equalFold r.status "Drained" = true ∨ equalFold r.status "Unhealthy" = true) := by
  have hdraining : equalFold r.status "draining" = equalFold r.status "Draining" := rfl
  rw [hdraining, forbiddenStatus]
  constructor
  · rintro ⟨hforbidden, hno, -⟩
    simpa [hno] using hforbidden
  · intro h
    have hword : ∃ word ∈ ["Drained", "Unhealthy"], equalFold r.status word = true := by
      simpa using h
    obtain ⟨word, hmem, hfold⟩ := hword
    have hwords : ∀ word ∈ ["Drained", "Unhealthy"], equalFold word "Draining" = false ∧
        toLower word ∉ unavailableStatuses ∧
        ((chars word).map foldRune).all fun d => ('A' ≤ d ∧ d ≤ 'Z') ∧ d ≠ 'S' ∧ d ≠ 'K' := by
      decide
    obtain ⟨hno, hlower, hletters⟩ := hwords word hmem
    rw [toLower_of_equalFold hfold fun d hd => of_decide_eq_true (List.all_eq_true.mp hletters d hd),
      equalFold, eq_of_beq hfold, ← equalFold]
    exact ⟨by simpa [hno] using h, hno, hlower⟩

theorem leaks_iff : Leaks opts snapshot now r ↔
    forbiddenStatus r = true ∧ eligible opts now (clusterInfo snapshot r) = true := by
  rw [eligible_iff, inService_clusterInfo]
  cases hprobe : probed snapshot r with
  | none =>
    have hstatus : (clusterInfo snapshot r).status = r.status := by simp [clusterInfo, hprobe]
    rw [hstatus]
    constructor
    · rintro ⟨hunprobed, -, hlabels, hfresh, hendpoint⟩
      obtain ⟨hforbidden, hdraining, havailable⟩ := unprobed_inService_iff.mpr (hunprobed hprobe)
      exact ⟨hforbidden, hlabels, hdraining, havailable, hfresh, hendpoint⟩
    · rintro ⟨hforbidden, hlabels, hdraining, havailable, hfresh, hendpoint⟩
      refine ⟨fun _ => unprobed_inService_iff.mp ⟨hforbidden, hdraining, havailable⟩, ?_, hlabels,
        hfresh, hendpoint⟩
      simp [hprobe]
  | some probe =>
    obtain ⟨healthy, checkedAt⟩ := probe
    have hstatus : (clusterInfo snapshot r).status =
        if healthy then "Healthy" else "Unavailable" := by
      cases healthy <;> simp [clusterInfo, hprobe]
    rw [hstatus]
    constructor
    · rintro ⟨-, hprobed, hlabels, hfresh, hendpoint⟩
      obtain ⟨hhealthy, hforbidden⟩ := hprobed _ hprobe
      dsimp only at hhealthy
      subst hhealthy
      exact ⟨hforbidden, hlabels, by decide, by decide, hfresh, hendpoint⟩
    · rintro ⟨hforbidden, hlabels, -, havailable, hfresh, hendpoint⟩
      cases healthy with
      | false => exact absurd (by decide) havailable
      | true => exact ⟨by simp [hprobe], by simp [hprobe, hforbidden], hlabels, hfresh, hendpoint⟩

end Leaks

theorem endpoint_clusterID {opts : LLMDProviderOptions} {cluster : FleetClusterInfo}
    {pool : FleetPoolInfo} {model : String} {e : LLMDClusterEndpoint}
    (h : endpoint opts cluster pool model = .ok e) : e.clusterID = some cluster.id := by
  obtain ⟨routingURL, metricsURL, hlabels⟩ := endpoint_labels h
  rw [LLMDClusterEndpoint.clusterID, hlabels, endpointLabels, lookupKey_setNonEmpty (by decide),
    lookupKey_setNonEmpty (by decide), lookupKey_setNonEmpty (by decide), lookupKey_ofEntries]
  rfl

section Published
variable {opts : LLMDProviderOptions} {c : SyncCall} {byModel : ByModel} {files : Files}
variable {seenFiles : SeenFiles} {e : LLMDClusterEndpoint}

theorem rendered_of_published (h : (sync opts c seenFiles).1 = .ok files)
    (he : e ∈ publishedEndpoints files) :
    ∃ p ∈ c.timed, ∃ cluster, qualified opts c.clusters p.2 p.1 = some cluster ∧
      endpoint opts cluster p.1.pool p.1.model = .ok e := by
  obtain ⟨⟨name, file⟩, hf, he⟩ := List.mem_flatMap.mp he
  cases file with
  | index version models => cases he
  | endpoints es =>
    obtain ⟨model, -, hserved⟩ := served_of_published h hf he
    obtain ⟨p, hp, hat⟩ := List.mem_filterMap.mp hserved
    exact ⟨p, hp, served_cases hat⟩

theorem mem_served {p : Occurrence × Time} {cluster : FleetClusterInfo} (hp : p ∈ c.timed)
    (hqualified : qualified opts c.clusters p.2 p.1 = some cluster)
    (hendpoint : endpoint opts cluster p.1.pool p.1.model = .ok e) :
    e ∈ c.served opts p.1.model := by
  refine List.mem_filterMap.mpr ⟨p, hp, ?_⟩
  rw [servedAt, if_pos rfl, hqualified, Option.bind_some, hendpoint]
  rfl

theorem published_of_rendered (h : (sync opts c seenFiles).1 = .ok files)
    (hinj : c.DistinctFiles)
    {model : String} (he : e ∈ c.served opts model) : e ∈ publishedEndpoints files := by
  obtain ⟨byModel, hrender, rfl⟩ := sync_ok h
  have hrendered : c.Rendered opts model :=
    ⟨renders_iff.mp ⟨byModel, hrender⟩, List.ne_nil_of_mem he⟩
  have hmodel := (mem_models hrender).mpr hrendered
  have hlookup := lookupKey_files hrender hmodel fun m hm hname =>
    hinj m (((mem_models hrender).mp hm).used List.mem_cons_self) model
      (hrendered.used List.mem_cons_self) hname
  refine List.mem_flatMap.mpr
    ⟨(modelFilename model, .endpoints (sortByName (c.served opts model))),
      mem_of_lookupKey ?_, (List.mem_insertionSort _).mpr he⟩
  rw [lookupKey_published (modelFilename_ne_index model), hlookup]
  rfl

end Published

/-! ## Cycles -/

section Clean
variable {opts : LLMDProviderOptions} {snapshot : Snapshot} {clusters : ClusterTable}
variable {pools : List PoolRecord} {clock : Nat → Time}

theorem lookupKey_byID (id : String) :
    lookupKey id (byID (gridSyncCall snapshot clusters pools clock).clusters) =
      (clusters.find id).map (clusterInfo snapshot) := by
  rw [byID, gridSyncCall, List.map_map]
  cases hfind : clusters.find id with
  | none =>
    rw [Option.map_none, ← Option.not_isSome_iff_eq_none]
    intro hsome
    obtain ⟨r, hr, hid⟩ := lookupKey_ofEntries_isSome.mp hsome
    have hmem := ClusterTable.mem_listClusters.mp hr
    exact List.find?_eq_none.mp hfind r hmem (decide_eq_true hid)
  | some r =>
    have hr := ClusterTable.mem_listClusters.mpr (Table.mem_of_find hfind)
    rw [← Table.key_of_find hfind]
    refine lookupKey_ofEntries_map hr fun r' hr' hid => ?_
    exact congrArg _ (List.inj_on_of_nodup_map clusters.keys (ClusterTable.mem_listClusters.mp hr')
      (Table.mem_of_find hfind) hid)

theorem qualified_iff {now : Time} {o : Occurrence} {cluster : FleetClusterInfo} :
    qualified opts (gridSyncCall snapshot clusters pools clock).clusters now o = some cluster ↔
      ∃ r, clusters.find o.clusterID = some r ∧ clusterInfo snapshot r = cluster ∧
        eligible opts now cluster = true ∧ supportsExactModel cluster o.model = true := by
  rw [qualified, lookupKey_byID, Option.filter_eq_some_iff, Option.map_eq_some_iff,
    Bool.and_eq_true]
  constructor
  · rintro ⟨⟨r, hfind, hinfo⟩, heligible, hsupports⟩
    exact ⟨r, hfind, hinfo, heligible, hsupports⟩
  · rintro ⟨r, hfind, hinfo, heligible, hsupports⟩
    exact ⟨⟨r, hfind, hinfo⟩, heligible, hsupports⟩

/-- A cycle publishes no endpoint of a forbidden cluster unless a pool lists an exposed one; and if
each model has a file of its own, then otherwise it does. -/
theorem clean_iff_not_exposed (opts : LLMDProviderOptions) (snapshot : Snapshot)
    (clusters : ClusterTable) (pools : List PoolRecord) (clock : Nat → Time)
    (seenFiles : SeenFiles) (files : Files) :
    let c := gridSyncCall snapshot clusters pools clock
    (sync opts c seenFiles).1 = .ok files →
      (¬ Exposed opts snapshot clusters c → Clean clusters files) ∧
      (c.DistinctFiles → Clean clusters files → ¬ Exposed opts snapshot clusters c) := by
  intro c hfiles
  constructor
  · intro hexposed e he r hr hid
    obtain ⟨p, hp, cluster, hqualified, hendpoint⟩ := rendered_of_published hfiles he
    obtain ⟨r', hfind, rfl, heligible, hsupports⟩ := qualified_iff.mp hqualified
    have hsame : r = r' := List.inj_on_of_nodup_map clusters.keys hr (Table.mem_of_find hfind)
      (Option.some.inj (hid.symm.trans (endpoint_clusterID hendpoint)))
    subst hsame
    rw [forbidden, Bool.or_eq_false_iff]
    refine ⟨?_, (inService_clusterInfo.mp (eligible_iff.mp heligible)).1⟩
    by_contra hstatus
    rw [Bool.not_eq_false] at hstatus
    exact hexposed ⟨p, hp, r, hfind, leaks_iff.mpr ⟨hstatus, heligible⟩, hsupports⟩
  · intro hinj hclean
    rintro ⟨p, hp, r, hfind, hleaks, hsupports⟩
    obtain ⟨hstatus, heligible⟩ := leaks_iff.mp hleaks
    have hqualified : qualified opts c.clusters p.2 p.1 = some (clusterInfo snapshot r) :=
      qualified_iff.mpr ⟨r, hfind, rfl, heligible, hsupports⟩
    obtain ⟨e, he⟩ := sync_isOk.mp ⟨files, hfiles⟩ p hp _ hqualified
    have hallowed := hclean e (published_of_rendered hfiles hinj (mem_served hp hqualified he)) r
      (Table.mem_of_find hfind) (endpoint_clusterID he)
    rw [forbidden, hstatus] at hallowed
    cases hallowed

end Clean

def sampleCluster (status : String) : ClusterRecord where
  id := "east"
  name := "east"
  region := "eu"
  labels := some [("fleet.llm-d.ai/egress-address", "east.example:8443")]
  gpuAvailable := 1
  gpuTotal := 2
  status := status
  registeredAt := ⟨1767225600000000000, 0⟩
  updatedAt := ⟨1767225600000000000, 0⟩

def sampleClusters (status : String) : ClusterTable :=
  ⟨[sampleCluster status], List.nodup_singleton _, List.nodup_singleton _⟩

def cycleCall (status : String) (probe : Option (Bool × Time)) : SyncCall :=
  gridSyncCall (fun _ => probe) (sampleClusters status)
    [{ name := "pool", modelName := "granite", desiredClusters := ["east"] }]
    fun _ => ⟨1767225610000000000, 0⟩

def sampleCycle (status : String) (probe : Option (Bool × Time)) : Option Bool :=
  (sync sampleOptions (cycleCall status probe) []).1.toOption.map fun files =>
    decide (Clean (sampleClusters status) files)

/-- A draining cluster that is not probed. -/
theorem draining_not_published :
    ∃ files, (sync sampleOptions (cycleCall "DRAINING" none) []).1 = .ok files ∧
      Clean (sampleClusters "DRAINING") files := by
  obtain ⟨files, hfiles⟩ : ∃ files, (sync sampleOptions (cycleCall "DRAINING" none) []).1 =
      .ok files := ok_of_isOk (by decide +kernel)
  refine ⟨files, hfiles, (clean_iff_not_exposed sampleOptions (fun _ => none)
    (sampleClusters "DRAINING") _ _ [] files hfiles).1 ?_⟩
  rintro ⟨p, -, r, hfind, hleaks, -⟩
  obtain rfl := List.mem_singleton.mp (Table.mem_of_find hfind)
  exact absurd (hleaks.unprobed rfl) (by decide)

/-- A drained cluster and an unhealthy one are published, and a draining one is if its endpoint was
found healthy. -/
theorem forbidden_published :
    sampleCycle "Drained" none = some false ∧ sampleCycle "Unhealthy" none = some false ∧
      sampleCycle "Draining" (some (true, ⟨1767225605000000000, 0⟩)) = some false := by
  decide +kernel

end FleetLlmd.Routing
