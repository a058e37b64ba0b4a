import FleetLlmd.Clusters.Agents
import FleetLlmd.Routing.GridSync
import Mathlib.Data.List.DropRight

/-!
# What one cluster can do to the others

An agent reports the endpoints of its own cluster. An endpoint that cannot be rendered fails the
sync for all clusters, so that the last files stay. Reports whose endpoints the provider can use
leave the other clusters alone.
-/

namespace FleetLlmd.Routing
open Go Json
open Clusters (AgentStatusReport ClusterRecord ClusterTable Labels agentReport setLabel deleteLabel)

/-! ## Reported endpoints -/

structure Usable (opts : LLMDProviderOptions) (url : String) : Prop where
  absolute : "://".toList <:+: (trimSpace url).toList
  parses : ∃ u, opts.parseURL (trimSpace url) = some u ∧ u.hostname ≠ "" ∧
    (opts.requireTLS = true → u.scheme = "https")

/-- The record is as an agent's report has left it, with endpoints the provider can use. -/
def ReportsUsable (opts : LLMDProviderOptions) (r : ClusterRecord) : Prop :=
  ∃ (report : AgentStatusReport) (record : ClusterRecord), r = report.fill record ∧
    ∀ url ∈ [report.routingEndpoint, report.metricsEndpoint], url ≠ "" → Usable opts url

section Reported
variable {opts : LLMDProviderOptions}

theorem trimSpace_trimSpace (s : String) : trimSpace (trimSpace s) = trimSpace s := by
  have hhead (cs : List Char) : ((cs.dropWhile isSpace).rdropWhile isSpace).dropWhile isSpace =
      (cs.dropWhile isSpace).rdropWhile isSpace := by
    cases hcs : (cs.dropWhile isSpace).rdropWhile isSpace with
    | nil => rfl
    | cons c rest =>
      obtain ⟨_, hprefix⟩ := List.rdropWhile_prefix isSpace (l := cs.dropWhile isSpace)
      have hfirst := List.head?_dropWhile_not isSpace cs
      rw [← hprefix, hcs] at hfirst
      exact List.dropWhile_cons_of_neg (by simpa using hfirst)
  rw [trimSpace, trimSpace, chars_eq_toList (String.ofList _), String.toList_ofList]
  change String.ofList ((List.dropWhile isSpace ((List.dropWhile isSpace (chars s)).rdropWhile
    isSpace)).rdropWhile isSpace) = _
  rw [hhead, List.rdropWhile_idempotent]
  rfl

theorem Usable.ne_empty {url : String} (h : Usable opts url) : trimSpace url ≠ "" := by
  intro hempty
  have habsolute := h.absolute
  rw [hempty] at habsolute
  exact absurd habsolute (by decide)

theorem Usable.parse {url : String} (h : Usable opts url) (targetPorts : List Int) :
    ∃ u, parseEndpoint opts.parseURL (trimSpace url) targetPorts = .ok u ∧
      (opts.requireTLS = true → u.scheme = "https") := by
  obtain ⟨u, hu, hhost, htls⟩ := h.parses
  have hparsed : (opts.parseURL (trimSpace url)).filter (·.hostname != "") = some u := by
    simp [hu, hhost]
  simp only [parseEndpoint, trimSpace_trimSpace, beq_eq_false_iff_ne.mpr h.ne_empty,
    if_pos h.absolute, hparsed, Bool.false_eq_true, if_false]
  cases targetPorts with
  | nil => exact ⟨u, rfl, htls⟩
  | cons port ports =>
    dsimp only
    split_ifs
    · exact ⟨_, rfl, htls⟩
    · exact ⟨_, rfl, htls⟩

theorem lookupKey_setLabel (k : String) (labels : Labels) (e : String × String) :
    (lookupKey k (setLabel labels e)).getD "" =
      if e.1 = k then e.2 else (lookupKey k labels).getD "" := by
  rw [setLabel]
  split_ifs with hempty hkey hkey
  · rw [deleteLabel, hkey, lookupKey_filter_self, eq_of_beq hempty]
    rfl
  · rw [deleteLabel, lookupKey_filter labels fun e' he' => ?_]
    rw [bne_iff_ne, he']
    exact Ne.symm hkey
  · rw [lookupKey_insertKey, if_pos hkey]
    rfl
  · rw [lookupKey_insertKey, if_neg hkey]

theorem recordLabel_fill (report : AgentStatusReport) (record : ClusterRecord) :
    recordLabel (report.fill record) "fleet.llm-d.ai/egress-address" = report.routingEndpoint ∧
      recordLabel (report.fill record) "fleet.llm-d.ai/metrics-endpoint" =
        report.metricsEndpoint := by
  simp [recordLabel, AgentStatusReport.fill, AgentStatusReport.labels, lookupKey_setLabel]

theorem endpoint_of_usable {snapshot : Snapshot} {r : ClusterRecord} (h : ReportsUsable opts r)
    (hrouting : (clusterInfo snapshot r).routingEndpoint ≠ "") (pool : FleetPoolInfo)
    (model : String) : ∃ e, endpoint opts (clusterInfo snapshot r) pool model = .ok e := by
  obtain ⟨report, record, rfl, husable⟩ := h
  obtain ⟨hegress, hmetrics⟩ := recordLabel_fill report record
  have hurl : (clusterInfo snapshot (report.fill record)).routingEndpoint =
      trimSpace report.routingEndpoint := by
    simp [FleetClusterInfo.routingEndpoint, clusterInfo, hegress]
  have hparse := (husable report.routingEndpoint (by simp) fun hempty =>
    hrouting (by rw [hurl, hempty]; rfl)).parse pool.targetPorts
  have hparse' : ∃ u, parseEndpoint opts.parseURL
      (metricsRaw (clusterInfo snapshot (report.fill record))) pool.targetPorts = .ok u ∧
        (opts.requireTLS = true → u.scheme = "https") := by
    have hraw : (clusterInfo snapshot (report.fill record)).metricsEndpointURL =
        trimSpace report.metricsEndpoint := by
      simp [FleetClusterInfo.metricsEndpointURL, clusterInfo, hmetrics]
    have hlabel : (clusterInfo snapshot (report.fill record)).label
        "fleet.llm-d.ai/metrics-endpoint" = report.metricsEndpoint := hmetrics
    rw [metricsRaw, hraw, hlabel, hurl]
    by_cases hempty : report.metricsEndpoint = ""
    · rw [hempty]
      exact hparse
    · have hmetricsURL := husable report.metricsEndpoint (by simp) hempty
      rw [if_pos (bne_iff_ne.mpr hmetricsURL.ne_empty)]
      exact hmetricsURL.parse pool.targetPorts
  obtain ⟨u, hu, htls⟩ := hparse
  obtain ⟨v, hv, htls'⟩ := hparse'
  rw [endpoint, hurl, hu]
  dsimp only
  rw [if_neg (by simpa using htls), hv]
  dsimp only
  rw [if_neg (by simpa using htls')]
  exact ⟨_, rfl⟩

end Reported

/-! ## The other clusters -/

structure Undisturbed (opts : LLMDProviderOptions) (seenFiles : SeenFiles) (id : String)
    (c c' : SyncCall) : Prop where
  success : (∃ files, (sync opts c seenFiles).1 = .ok files) ↔
    ∃ files, (sync opts c' seenFiles).1 = .ok files
  endpoints : ∀ files files', (sync opts c seenFiles).1 = .ok files →
    (sync opts c' seenFiles).1 = .ok files' → ∀ e, e.clusterID ≠ some id →
      (e ∈ publishedEndpoints files ↔ e ∈ publishedEndpoints files')

section Others
variable {opts : LLMDProviderOptions} {snapshot : Snapshot} {t t' : ClusterTable} {id : String}
variable {pools : List PoolRecord} {clock : Nat → Time} {seenFiles : SeenFiles} {files files' : Files}

theorem qualified_others (hothers : ∀ other, other ≠ id → t.find other = t'.find other)
    {o : Occurrence} (ho : o.clusterID ≠ id) (now : Time) :
    qualified opts (gridSyncCall snapshot t' pools clock).clusters now o =
      qualified opts (gridSyncCall snapshot t pools clock).clusters now o := by
  rw [qualified, qualified, lookupKey_byID, lookupKey_byID, hothers _ ho]

theorem renders_of_renders (hothers : ∀ other, other ≠ id → t.find other = t'.find other)
    (husable : ∀ r ∈ t'.find id, ReportsUsable opts r)
    (h : (gridSyncCall snapshot t pools clock).Renders opts) :
    (gridSyncCall snapshot t' pools clock).Renders opts := by
  intro p hp cluster hqualified
  by_cases hid : p.1.clusterID = id
  · obtain ⟨r, hfind, rfl, heligible, -⟩ := qualified_iff.mp hqualified
    exact endpoint_of_usable (husable r (hid ▸ hfind)) (eligible_iff.mp heligible).endpoint _ _
  · rw [qualified_others hothers hid] at hqualified
    exact h p hp cluster hqualified

theorem published_of_published (hothers : ∀ other, other ≠ id → t.find other = t'.find other)
    (hnames : (gridSyncCall snapshot t' pools clock).DistinctFiles)
    (hfiles : (sync opts (gridSyncCall snapshot t pools clock) seenFiles).1 = .ok files)
    (hfiles' : (sync opts (gridSyncCall snapshot t' pools clock) seenFiles).1 = .ok files')
    {e : LLMDClusterEndpoint} (hother : e.clusterID ≠ some id)
    (he : e ∈ publishedEndpoints files) : e ∈ publishedEndpoints files' := by
  obtain ⟨p, hp, cluster, hqualified, hendpoint⟩ := rendered_of_published hfiles he
  obtain ⟨r, hfind, rfl, -⟩ := qualified_iff.mp hqualified
  have hid : p.1.clusterID ≠ id := by
    rintro rfl
    have hkey := Sql.Table.key_of_find hfind
    exact hother ((endpoint_clusterID hendpoint).trans (congrArg some hkey))
  exact published_of_rendered hfiles' hnames
    (mem_served hp ((qualified_others hothers hid p.2).trans hqualified) hendpoint)

end Others

def schemeURL (url : String) : Option URL :=
  if "https://".toList.isPrefixOf url.toList then
    some ⟨"https", String.ofList (url.toList.drop 8)⟩
  else if "http://".toList.isPrefixOf url.toList then
    some ⟨"http", String.ofList (url.toList.drop 7)⟩
  else none

def tlsOptions : LLMDProviderOptions where
  requireTLS := true
  parseURL := schemeURL

def eastReport (url : String) : AgentStatusReport where
  clusterID := "east"
  name := "east"
  healthy := true
  routingEndpoint := url

def reportedTable (url : String) : ClusterTable where
  rows := [(eastReport url).fill (sampleCluster "Running"),
    { sampleCluster "Running" with id := "west", name := "west" }]
  keys := by simp [AgentStatusReport.fill, sampleCluster]
  uniques := by simp [AgentStatusReport.fill, sampleCluster, eastReport]

def reportedCall (url : String) : SyncCall :=
  gridSyncCall (fun _ => none) (reportedTable url)
    [{ name := "pool", modelName := "granite", desiredClusters := ["east", "west"] }]
    fun _ => ⟨1767225610000000000, 0⟩

theorem reportedTable_others (url url' other : String) (hne : other ≠ "east") :
    (reportedTable url).find other = (reportedTable url').find other := by
  have hfind : ∀ url, (reportedTable url).find other = (reportedTable url).rows.tail.find? fun r =>
      r.id = other := fun url =>
    List.find?_cons_of_neg fun heq => hne (of_decide_eq_true heq).symm
  rw [hfind, hfind]
  rfl

theorem reportedTable_usable {url : String} (h : Usable tlsOptions url) :
    ∀ r ∈ (reportedTable url).find "east", ReportsUsable tlsOptions r := by
  rintro _ ⟨⟩
  refine ⟨eastReport url, _, rfl, fun url' hmem hne => ?_⟩
  rcases List.mem_cons.mp hmem with rfl | hmetrics
  · exact h
  · exact absurd (List.mem_singleton.mp hmetrics) hne

/-- Two reports of one cluster with usable endpoints leave the others undisturbed, if each model has
a file of its own. -/
theorem others_undisturbed (opts : LLMDProviderOptions) (snapshot : Snapshot)
    (pools : List PoolRecord) (clock : Nat → Time) (seenFiles : SeenFiles) (id : String)
    (t t' : ClusterTable) (hothers : ∀ other, other ≠ id → t.find other = t'.find other)
    (husable : ∀ r ∈ t.find id, ReportsUsable opts r)
    (husable' : ∀ r ∈ t'.find id, ReportsUsable opts r)
    (hnames : (gridSyncCall snapshot t pools clock).DistinctFiles) :
    Undisturbed opts seenFiles id (gridSyncCall snapshot t pools clock)
      (gridSyncCall snapshot t' pools clock) := by
  have hothers' : ∀ other, other ≠ id → t'.find other = t.find other :=
    fun other hne => (hothers other hne).symm
  refine ⟨?_, fun files files' hfiles hfiles' e hother => ⟨?_, ?_⟩⟩
  · rw [sync_isOk, sync_isOk]
    exact ⟨renders_of_renders hothers husable', renders_of_renders hothers' husable⟩
  · exact published_of_published hothers hnames hfiles hfiles' hother
  · exact published_of_published hothers' hnames hfiles' hfiles hother

theorem moved_endpoint_undisturbed :
    Undisturbed tlsOptions [] "east" (reportedCall "https://a.example")
      (reportedCall "https://b.example:9443") :=
  others_undisturbed tlsOptions _ _ _ [] "east" _ _ (reportedTable_others _ _)
    (reportedTable_usable ⟨by decide, _, rfl, by decide, fun _ => rfl⟩)
    (reportedTable_usable ⟨by decide, _, rfl, by decide, fun _ => rfl⟩)
    (by rw [SyncCall.DistinctFiles]; decide)

/-- A report with an `http` endpoint is accepted, and where TLS is required the sync then fails as a
whole. -/
theorem http_endpoint_disturbs :
    agentReport (fun url => (schemeURL url).map fun u => (u.scheme, u.host))
        (some (utf8 ("\x7b\"cluster_id\":\"east\",\"healthy\":true," ++
          "\"routing_endpoint\":\"http://a.example\"\x7d"))) =
        .ok (eastReport "http://a.example") ∧
      ¬ Undisturbed tlsOptions [] "east" (reportedCall "https://a.example")
        (reportedCall "http://a.example") := by
  refine ⟨rfl, fun h => ?_⟩
  obtain ⟨files, hfiles⟩ := h.success.mp (ok_of_isOk (by decide +kernel))
  have hfails : (sync tlsOptions (reportedCall "http://a.example") []).1.isOk = false := by
    decide +kernel
  rw [hfiles] at hfails
  cases hfails

end FleetLlmd.Routing
