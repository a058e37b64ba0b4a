import FleetLlmd.Controller.Runs

/-!
# Whether the gateway configuration is current

After a cycle the configuration written last should route each model to clusters of its
pool that the cycle found routable, and no other model. The cycle that writes makes it so,
if the names of the rendered clusters are unambiguous; one that does not write leaves it so
only if nothing has changed since the cycle that wrote.
-/

namespace FleetLlmd.Controller
open Go Json Routing Clusters

def endpointOf (o : PraxisOverlay) (cid : String) : Option String :=
  (lookupKey cid o.endpoints).map (·.endpoint)

def Serves (listed : List FleetPoolState) (health : List ClusterHealth) (model cid : String) :
    Prop :=
  ∃ pool ∈ listed, pool.model = model ∧ cid ∈ pool.desiredClusters ∧ Routable health cid

structure Current (o : PraxisOverlay) (listed : List FleetPoolState)
    (health : List ClusterHealth) (cfg : PraxisConfig) : Prop where
  models : ∀ model cluster, ⟨.model model, cluster⟩ ∈ cfg.routes →
    (∃ pool ∈ listed, pool.model = model) ∧
    ∀ lb ∈ cfg.clusters, lb.name = cluster →
      ∃ cid, Serves listed health model cid ∧ endpointOf o cid = some lb.endpoint
  targets : ∀ cid cluster, ⟨.targetCluster cid, cluster⟩ ∈ cfg.routes →
    ∃ model, Serves listed health model cid

def Unambiguous (o : PraxisOverlay) (listed : List FleetPoolState) (health : List ClusterHealth) :
    Prop :=
  ∀ model cid model' cid' e e', Serves listed health model cid → Serves listed health model' cid' →
    clusterName model cid = clusterName model' cid' → endpointOf o cid = some e →
    endpointOf o cid' = some e' → e = e'

/-! ## A written configuration -/

section Written
variable {o : PraxisOverlay} {order : ScoreSort} {health : List ClusterHealth}
variable {listed : List FleetPoolState}

theorem placedBy_healthPlacements {model cid : String}
    (h : placedBy (healthPlacements order health listed) model cid) :
    Serves listed health model cid := by
  obtain ⟨p, hp, rfl, hcid⟩ := h
  obtain ⟨pool, hpool, hplacement⟩ := List.mem_filterMap.mp hp
  dsimp only at hplacement
  split_ifs at hplacement
  cases hplacement
  obtain ⟨ch, hch, rfl⟩ := List.mem_map.mp hcid
  have hcandidate := (order.perm _).subset hch
  obtain ⟨cid, hdesired, hfind⟩ := List.mem_filterMap.mp hcandidate
  have hch := List.mem_of_find?_eq_some hfind
  have hmatch := List.find?_some hfind
  simp only [Bool.and_eq_true, beq_iff_eq] at hmatch
  exact ⟨pool, hpool, rfl, hmatch.1 ▸ hdesired, ch, hch, rfl, hmatch.2⟩

theorem healthPlacements_aliases :
    ∀ p ∈ healthPlacements order health listed, p.modelAliases = [] := by
  intro p hp
  obtain ⟨pool, hpool, hplacement⟩ := List.mem_filterMap.mp hp
  dsimp only at hplacement
  split_ifs at hplacement
  cases hplacement
  rfl

theorem endpointOf_of_lookup {cid : String} {ep : PraxisClusterEndpoint}
    (h : lookupKey cid o.endpoints = some ep) : endpointOf o cid = some ep.endpoint := by
  rw [endpointOf, h]
  rfl

theorem renderConfig_current (hnames : Unambiguous o listed health) {cfg : PraxisConfig}
    (h : renderConfig o (healthPlacements order health listed) = .ok cfg) :
    Current o listed health cfg := by
  have hcomes := renderConfig_comes healthPlacements_aliases h
  constructor
  · intro model cluster hroute
    obtain ⟨cid, ep, hplaced, hep, rfl⟩ := hcomes.routes _ hroute
    have hserves := placedBy_healthPlacements hplaced
    have ⟨pool, hpool, hmodel, _⟩ := hserves
    refine ⟨⟨pool, hpool, hmodel⟩, fun lb hlb hname => ?_⟩
    obtain ⟨model', cid', ep', hplaced', hep', hlbName, hlbEndpoint⟩ := hcomes.clusters lb hlb
    refine ⟨cid, hserves, ?_⟩
    rw [hlbEndpoint, hnames _ _ _ _ _ _ (placedBy_healthPlacements hplaced') hserves
      (hlbName.symm.trans hname) (endpointOf_of_lookup hep') (endpointOf_of_lookup hep)]
    exact endpointOf_of_lookup hep
  · intro cid cluster hroute
    obtain ⟨model, hplaced⟩ := hcomes.routes _ hroute
    exact ⟨model, placedBy_healthPlacements hplaced⟩

end Written

/-! ## A configuration that is left -/

theorem Current.mono {o : PraxisOverlay} {listed listed' : List FleetPoolState}
    {health health' : List ClusterHealth} {cfg : PraxisConfig} (h : Current o listed health cfg)
    (hpools : ∀ pool ∈ listed, ∃ pool' ∈ listed', pool'.model = pool.model ∧
      pool'.desiredClusters = pool.desiredClusters)
    (hhealth : ∀ cid, Routable health cid → Routable health' cid) :
    Current o listed' health' cfg := by
  have hserves : ∀ model cid, Serves listed health model cid →
      Serves listed' health' model cid := by
    rintro model cid ⟨pool, hpool, hmodel, hdesired, hroutable⟩
    obtain ⟨pool', hpool', hmodel', hdesired'⟩ := hpools pool hpool
    exact ⟨pool', hpool', hmodel'.trans hmodel, hdesired' ▸ hdesired, hhealth cid hroutable⟩
  constructor
  · intro model cluster hroute
    obtain ⟨⟨pool, hpool, hmodel⟩, hclusters⟩ := h.models model cluster hroute
    obtain ⟨pool', hpool', hmodel', -⟩ := hpools pool hpool
    refine ⟨⟨pool', hpool', hmodel'.trans hmodel⟩, fun lb hlb hname => ?_⟩
    obtain ⟨cid, hcid, hendpoint⟩ := hclusters lb hlb hname
    exact ⟨cid, hserves model cid hcid, hendpoint⟩
  · intro cid cluster hroute
    obtain ⟨model, hmodel⟩ := h.targets cid cluster hroute
    exact ⟨model, hserves model cid hmodel⟩

theorem routable_of_fingerprint {health health' : List ClusterHealth}
    (h : routingHealthFingerprint health = routingHealthFingerprint health') {cid : String}
    (hroutable : Routable health cid) : Routable health' cid := by
  obtain ⟨ch, hch, hcid⟩ := hroutable
  refine ⟨ch, ?_, hcid⟩
  rw [← List.mem_insertionSort (r := fun a b => keyLt b.clusterID a.clusterID = false)] at hch ⊢
  rw [routingHealthFingerprint, routingHealthFingerprint] at h
  exact h ▸ hch

theorem lists_markFailed {name : String} {pools : Pools} {listed listed' : List FleetPoolState}
    (h : Lists pools listed) (h' : Lists (markFailed name pools) listed') :
    ∀ pool ∈ listed, ∃ pool' ∈ listed', pool'.model = pool.model ∧
      pool'.desiredClusters = pool.desiredClusters := by
  intro pool hpool
  obtain ⟨key, hkey⟩ := h.mem_iff.mp hpool
  rw [markFailed] at h'
  split at h'
  · exact ⟨pool, h'.mem_iff.mpr ⟨key, hkey⟩, rfl, rfl⟩
  · next state hstate =>
    by_cases hname : key = name
    · subst hname
      rw [hstate] at hkey
      cases hkey
      exact ⟨_, h'.mem_iff.mpr ⟨key, AList.lookup_insert _⟩, rfl, rfl⟩
    · exact ⟨pool, h'.mem_iff.mpr ⟨key, by rwa [AList.lookup_insert_ne hname]⟩, rfl, rfl⟩

/-! ## Runs -/

def CycleMeets (o : PraxisOverlay) (i : CycleInput) (listed : List FleetPoolState)
    (fc : FleetController) (es : List Event) : Prop :=
  i.metrics = [] ∨ (fc.praxisConfig = none ∧ (i.health = [] ∨ listed = [])) ∨
    (i.health ≠ [] ∧ listed ≠ [] ∧ Unambiguous o listed i.health ∧
      (fc.lastRoutingFingerprint = some (routingHealthFingerprint i.health) →
        es.getLast? = some .routed))

section Cycle
variable {A : Go.Arithmetic Float64} {parseFloat : String → Except Error Float64}
variable {o : PraxisOverlay} {i : CycleInput} {listed : List FleetPoolState}
variable {fc : FleetController} {es : List Event}

theorem CycleMeets.unambiguous (h : CycleMeets o i listed fc es) (hmetrics : i.metrics ≠ [])
    (hhealth : i.health ≠ []) (hlisted : listed ≠ []) : Unambiguous o listed i.health := by
  rcases h with hnone | ⟨-, hnone | hnone⟩ | ⟨-, -, hnames, -⟩
  · exact absurd hnone hmetrics
  · exact absurd hnone hhealth
  · exact absurd hnone hlisted
  · exact hnames

theorem runAutoscalingCycle_cases (A : Go.Arithmetic Float64)
    (parseFloat : String → Except Error Float64) (o : PraxisOverlay) (i : CycleInput)
    (listed : List FleetPoolState) (fc : FleetController) :
    ((runAutoscalingCycle A parseFloat o i listed fc).1 = fc ∧
      (o.Splits → i.metrics = [] ∨ i.health = [] ∨ listed = [] ∨
        fc.lastRoutingFingerprint = some (routingHealthFingerprint i.health))) ∨
    (i.metrics ≠ [] ∧ i.health ≠ [] ∧ listed ≠ [] ∧
      fc.lastRoutingFingerprint ≠ some (routingHealthFingerprint i.health) ∧
      ∃ cfg, renderConfig o (healthPlacements i.order i.health listed) = .ok cfg ∧
        (runAutoscalingCycle A parseFloat o i listed fc).1 =
          { fc with
            praxisConfig := some cfg
            lastRoutingFingerprint := some (routingHealthFingerprint i.health) }) := by
  rw [runAutoscalingCycle]
  by_cases hmetrics : i.metrics = []
  · exact .inl ⟨by simp [hmetrics], fun _ => .inl hmetrics⟩
  rw [if_neg (by simpa using hmetrics)]
  dsimp only
  rw [updateRoutingFromHealth]
  split_ifs with hskip
  · refine .inl ⟨rfl, fun _ => ?_⟩
    simp only [Bool.or_eq_true, List.isEmpty_iff, beq_iff_eq] at hskip
    tauto
  · simp only [Bool.or_eq_true, List.isEmpty_iff, beq_iff_eq, not_or] at hskip
    cases hrender : renderConfig o (healthPlacements i.order i.health listed) with
    | error err =>
      refine .inl ⟨rfl, fun hsplits => ?_⟩
      obtain ⟨cfg, hcfg⟩ := renderConfig_isOk hsplits (healthPlacements i.order i.health listed)
      rw [hrender] at hcfg
      cases hcfg
    | ok cfg => exact .inr ⟨hmetrics, hskip.1.1, hskip.2, hskip.1.2, cfg, rfl, rfl⟩

theorem Current.of_lists {listed' : List FleetPoolState} {health : List ClusterHealth}
    {cfg : PraxisConfig} (h : Current o listed health cfg) (hlists : Lists fc.pools listed)
    (hlists' : Lists fc.pools listed') : Current o listed' health cfg :=
  h.mono (fun pool hpool => ⟨pool, hlists'.mem_iff.mpr (hlists.mem_iff.mp hpool), rfl, rfl⟩)
    (fun _ => id)

def Fresh (o : PraxisOverlay) (fc : FleetController) (es : List Event) : Prop :=
  es.getLast? = some .routed → ∃ cfg health, fc.praxisConfig = some cfg ∧
    fc.lastRoutingFingerprint = some (routingHealthFingerprint health) ∧
    ∀ listed, Lists fc.pools listed → Current o listed health cfg

theorem Fresh.reconcile (h : Fresh o fc es) (spec : FleetInferencePoolSpec) (p : Placement)
    (answers : RepoAnswers) :
    Fresh o (fc.reconcile o spec p answers listed)
      (es ++ reconcileEvents spec p answers fc) := by
  have hfailed : ∀ pools, (∃ name, pools = markFailed name fc.pools) ∨ pools = fc.pools →
      Fresh o { fc with pools := pools } (es ++ []) := by
    intro pools hpools hlast
    rw [List.append_nil] at hlast
    obtain ⟨cfg, health, hcfg, hfingerprint, hcurrent⟩ := h hlast
    refine ⟨cfg, health, hcfg, hfingerprint, fun listed' hlists => ?_⟩
    have hlists₀ : Lists fc.pools (fc.pools.entries.map (·.2)) := List.Perm.refl _
    rcases hpools with ⟨name, rfl⟩ | rfl
    · exact (hcurrent _ hlists₀).mono (lists_markFailed hlists₀ hlists) (fun _ => id)
    · exact hcurrent _ hlists
  cases p with
  | unlisted err => exact hfailed _ (.inl ⟨_, rfl⟩)
  | unresolved err => exact hfailed _ (.inr rfl)
  | unsolved err => exact hfailed _ (.inl ⟨_, rfl⟩)
  | solved desired actual observeErr now =>
    intro hlast
    simp [reconcileEvents, reconcilePool] at hlast

theorem Fresh.delete (h : Fresh o fc es) (name : String) :
    Fresh o (fc.delete name).2 (es ++ deleteEvents name fc) := by
  rw [deleteEvents, FleetController.delete, deletePool]
  cases fc.pools.lookup name with
  | none => simpa using h
  | some state =>
    intro hlast
    simp at hlast

theorem Fresh.cycle (h : Fresh o fc es) (hlists : Lists fc.pools listed)
    (hmeets : CycleMeets o i listed fc es) :
    Fresh o (runAutoscalingCycle A parseFloat o i listed fc).1
      (es ++ cycleEvents fc (runAutoscalingCycle A parseFloat o i listed fc).1) := by
  rcases runAutoscalingCycle_cases A parseFloat o i listed fc with
    ⟨hsame, -⟩ | ⟨hmetrics, hhealth, hlisted, -, cfg, hcfg, hnew⟩
  · rw [hsame, cycleEvents, if_pos rfl, List.append_nil]
    exact h
  · rw [hnew]
    intro _
    refine ⟨cfg, i.health, rfl, rfl, fun listed' hlists' => ?_⟩
    exact (renderConfig_current (hmeets.unambiguous hmetrics hhealth hlisted) hcfg).of_lists
      hlists hlists'

theorem Run.fresh (h : Run A parseFloat o (CycleMeets o) fc es) : Fresh o fc es := by
  induction h with
  | start => simp [Fresh]
  | reconcile spec p answers _ _ ih => exact ih.reconcile spec p answers
  | delete name _ ih => exact ih.delete name
  | cycle _ hlists hmeets ih => exact ih.cycle hlists hmeets

end Cycle

def eastOverlay : PraxisOverlay := ⟨[("east", ⟨"east:80", false⟩)], .ok⟩

def eastInput : CycleInput where
  metrics := [⟨"east", []⟩]
  health := buildClusterHealth [runningEast] []
  fetch _ := none
  order := stableScoreSort

def poolsOf (pools : Pools) : List FleetPoolState := pools.entries.map (·.2)

def placeOnEast (model : String) (fc : FleetController) : FleetController :=
  fc.reconcile eastOverlay { modelName := model } onEast {}
    (poolsOf (reconcilePool { modelName := model } onEast fc.pools).2)

def eastCycle (fc : FleetController) : FleetController × List ScaleCall :=
  runAutoscalingCycle (.float64 sampleConversion) sampleParse eastOverlay eastInput
    (poolsOf fc.pools) fc

section Sample
variable {Meets : CycleInput → List FleetPoolState → FleetController → List Event → Prop}
variable {fc : FleetController} {es : List Event}

theorem lists_poolsOf (pools : Pools) : Lists pools (poolsOf pools) := List.Perm.refl _

theorem Run.placeOnEast (model : String)
    (h : Run (.float64 sampleConversion) sampleParse eastOverlay Meets fc es) :
    Run (.float64 sampleConversion) sampleParse eastOverlay Meets (placeOnEast model fc)
      (es ++ reconcileEvents { modelName := model } onEast {} fc) :=
  h.reconcile _ _ _ (lists_poolsOf _)

theorem Run.eastCycle (h : Run (.float64 sampleConversion) sampleParse eastOverlay Meets fc es)
    (hmeets : Meets eastInput (poolsOf fc.pools) fc es) :
    Run (.float64 sampleConversion) sampleParse eastOverlay Meets (eastCycle fc).1
      (es ++ cycleEvents fc (Controller.eastCycle fc).1) :=
  h.cycle (lists_poolsOf _) hmeets

end Sample

def onePool : FleetController := placeOnEast "llama" {}

def llamaConfig : PraxisConfig where
  routes :=
    [⟨.targetCluster "east", "llama-east"⟩, ⟨.model "llama", "llama-east"⟩, ⟨.any, "llama-east"⟩]
  clusters := [⟨"llama-east", "east:80", none⟩]

def twoPools : FleetController := placeOnEast "mistral" onePool

def oneDeleted : FleetController := ((eastCycle twoPools).1.delete "llama").2

end FleetLlmd.Controller
