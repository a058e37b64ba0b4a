import FleetLlmd.Json.Members

/-!
# The Praxis overlay

`RenderConfig` of `pkg/routing/praxis_overlay.go`: the routes and the load-balancer clusters
of the gateway configuration. The listeners and the other filters are the same in every
configuration and are left out, and so are the numbers of the health checks. `splitHostPort`
is `net.SplitHostPort`.
-/

namespace FleetLlmd.Routing
open Go Json

structure PraxisClusterEndpoint where
  endpoint : String
  tls : Bool := false

structure PraxisOverlay where
  endpoints : List (String × PraxisClusterEndpoint)
  splitHostPort : String → Except Error String

structure PoolPlacement where
  modelName : String
  modelAliases : List String := []
  clusters : List String

inductive RouteHeaders where
  | targetCluster (cid : String)
  | model (name : String)
  | any
  deriving DecidableEq

structure PraxisRoute where
  headers : RouteHeaders
  cluster : String
  deriving DecidableEq

structure PraxisCluster where
  name : String
  endpoint : String
  sni : Option String := none
  deriving DecidableEq

structure PraxisConfig where
  routes : List PraxisRoute := []
  clusters : List PraxisCluster := []
  deriving DecidableEq

def sanitizeClusterName (name : String) : String :=
  String.ofList ((chars (toLower name)).map fun c =>
    if c == '/' || c == '.' || c == ' ' then '-' else c)

def clusterName (model cid : String) : String := sanitizeClusterName (model ++ "-" ++ cid)

section Render
variable (o : PraxisOverlay)

def praxisCluster (name : String) (ep : PraxisClusterEndpoint) : Except Error PraxisCluster :=
  if ep.tls then
    match o.splitHostPort ep.endpoint with
    | .error err => .error (.wrapf "invalid TLS endpoint %q: %w" [ep.endpoint] err)
    | .ok host => .ok ⟨name, ep.endpoint, some host⟩
  else .ok ⟨name, ep.endpoint, none⟩

def renderCluster (model cid : String) (cfg : PraxisConfig) (first : Option String) :
    Except Error (PraxisConfig × Option String) :=
  match lookupKey cid o.endpoints with
  | none => .ok (cfg, first)
  | some ep =>
    let name := clusterName model cid
    let routes := cfg.routes ++ [⟨.targetCluster cid, name⟩]
    let first := some (first.getD name)
    if cfg.clusters.any (·.name == name) then .ok ({ cfg with routes := routes }, first)
    else (praxisCluster o name ep).map fun cluster => (⟨routes, cfg.clusters ++ [cluster]⟩, first)

def renderClusters (model : String) : List String → PraxisConfig → Option String →
    Except Error (PraxisConfig × Option String)
  | [], cfg, first => .ok (cfg, first)
  | cid :: cids, cfg, first =>
    match renderCluster o model cid cfg first with
    | .error err => .error err
    | .ok r => renderClusters model cids r.1 r.2

def modelRoutes (p : PoolPlacement) (first : Option String) : List PraxisRoute :=
  match first with
  | none => []
  | some first => (p.modelName :: p.modelAliases).map fun name => ⟨.model name, first⟩

def renderPlacements : List PoolPlacement → PraxisConfig → Except Error PraxisConfig
  | [], cfg => .ok cfg
  | p :: placements, cfg =>
    match renderClusters o p.modelName p.clusters cfg none with
    | .error err => .error err
    | .ok (cfg, first) =>
      renderPlacements placements { cfg with routes := cfg.routes ++ modelRoutes p first }

def defaultRoute (cfg : PraxisConfig) : List PraxisRoute :=
  match cfg.routes, cfg.clusters with
  | _ :: _, cluster :: _ => [⟨.any, cluster.name⟩]
  | _, _ => []

def renderConfig (placements : List PoolPlacement) : Except Error PraxisConfig :=
  (renderPlacements o placements {}).map fun cfg =>
    { cfg with routes := cfg.routes ++ defaultRoute cfg }

end Render

/-! ## Where the routes come from -/

/-- `Placed model cid`: the model is placed on the cluster. -/
def PraxisRoute.Comes (o : PraxisOverlay) (Placed : String → String → Prop) (r : PraxisRoute) :
    Prop :=
  match r.headers with
  | .targetCluster cid => ∃ model, Placed model cid
  | .model model => ∃ cid ep, Placed model cid ∧ lookupKey cid o.endpoints = some ep ∧
      r.cluster = clusterName model cid
  | .any => True

structure PraxisConfig.Comes (o : PraxisOverlay) (Placed : String → String → Prop)
    (cfg : PraxisConfig) : Prop where
  routes : ∀ r ∈ cfg.routes, r.Comes o Placed
  clusters : ∀ lb ∈ cfg.clusters, ∃ model cid ep, Placed model cid ∧
    lookupKey cid o.endpoints = some ep ∧ lb.name = clusterName model cid ∧
    lb.endpoint = ep.endpoint

section Comes
variable {o : PraxisOverlay} {Placed : String → String → Prop} {model cid : String}
variable {cfg cfg' : PraxisConfig} {first first' : Option String}

def ComesFirst (o : PraxisOverlay) (Placed : String → String → Prop) (model : String)
    (first : Option String) : Prop :=
  ∀ name ∈ first, PraxisRoute.Comes o Placed ⟨.model model, name⟩

theorem PraxisConfig.Comes.add_routes (h : cfg.Comes o Placed) (routes : List PraxisRoute)
    (hroutes : ∀ r ∈ routes, r.Comes o Placed) :
    PraxisConfig.Comes o Placed { cfg with routes := cfg.routes ++ routes } :=
  ⟨fun r hr => (List.mem_append.mp hr).elim (h.routes r) (hroutes r), h.clusters⟩

theorem praxisCluster_ok {name : String} {ep : PraxisClusterEndpoint} {cluster : PraxisCluster}
    (h : praxisCluster o name ep = .ok cluster) :
    cluster.name = name ∧ cluster.endpoint = ep.endpoint := by
  rw [praxisCluster] at h
  split at h
  · split at h
    · cases h
    · cases h
      exact ⟨rfl, rfl⟩
  · cases h
    exact ⟨rfl, rfl⟩

theorem renderCluster_comes (hplaced : Placed model cid) (hcfg : cfg.Comes o Placed)
    (hfirst : ComesFirst o Placed model first)
    (h : renderCluster o model cid cfg first = .ok (cfg', first')) :
    cfg'.Comes o Placed ∧ ComesFirst o Placed model first' := by
  rw [renderCluster] at h
  split at h
  · cases h
    exact ⟨hcfg, hfirst⟩
  · next ep hep =>
    have hroutes := hcfg.add_routes [⟨.targetCluster cid, clusterName model cid⟩]
      (by simpa using ⟨model, hplaced⟩)
    have hfirst' : ComesFirst o Placed model (some (first.getD (clusterName model cid))) := by
      rintro name hname
      cases hname
      cases first with
      | none => exact ⟨cid, ep, hplaced, hep, rfl⟩
      | some name => exact hfirst name rfl
    dsimp only at h
    split at h
    · cases h
      exact ⟨hroutes, hfirst'⟩
    · cases hcluster : praxisCluster o (clusterName model cid) ep with
      | error err =>
        rw [hcluster] at h
        cases h
      | ok cluster =>
        rw [hcluster] at h
        cases h
        obtain ⟨hname, hendpoint⟩ := praxisCluster_ok hcluster
        refine ⟨⟨hroutes.routes, ?_⟩, hfirst'⟩
        intro lb hlb
        rcases List.mem_append.mp hlb with hlb | hlb
        · exact hcfg.clusters lb hlb
        · cases List.mem_singleton.mp hlb
          exact ⟨model, cid, ep, hplaced, hep, hname, hendpoint⟩

theorem renderClusters_comes {cids : List String} (hplaced : ∀ cid ∈ cids, Placed model cid)
    (hcfg : cfg.Comes o Placed) (hfirst : ComesFirst o Placed model first)
    (h : renderClusters o model cids cfg first = .ok (cfg', first')) :
    cfg'.Comes o Placed ∧ ComesFirst o Placed model first' := by
  induction cids generalizing cfg first with
  | nil =>
    cases h
    exact ⟨hcfg, hfirst⟩
  | cons cid cids ih =>
    obtain ⟨hcid, hcids⟩ := List.forall_mem_cons.mp hplaced
    rw [renderClusters] at h
    split at h
    · cases h
    · next r hr =>
      obtain ⟨hcfg', hfirst'⟩ := renderCluster_comes hcid hcfg hfirst hr
      exact ih hcids hcfg' hfirst' h

def placedBy (placements : List PoolPlacement) (model cid : String) : Prop :=
  ∃ p ∈ placements, p.modelName = model ∧ cid ∈ p.clusters

theorem renderPlacements_comes {placements : List PoolPlacement}
    (haliases : ∀ p ∈ placements, p.modelAliases = [])
    (hplaced : ∀ p ∈ placements, ∀ cid ∈ p.clusters, Placed p.modelName cid)
    (hcfg : cfg.Comes o Placed) (h : renderPlacements o placements cfg = .ok cfg') :
    cfg'.Comes o Placed := by
  induction placements generalizing cfg with
  | nil =>
    cases h
    exact hcfg
  | cons p placements ih =>
    obtain ⟨hnames, hrest⟩ := List.forall_mem_cons.mp haliases
    obtain ⟨hp, hplaced⟩ := List.forall_mem_cons.mp hplaced
    rw [renderPlacements] at h
    split at h
    · cases h
    · next cfg₁ first hr =>
      obtain ⟨hcfg₁, hfirst⟩ := renderClusters_comes hp hcfg (by simp [ComesFirst]) hr
      apply ih hrest hplaced _ h
      apply hcfg₁.add_routes
      intro r hroute
      cases first with
      | none => cases hroute
      | some name =>
        rw [modelRoutes, hnames] at hroute
        cases List.mem_singleton.mp hroute
        exact hfirst name rfl

theorem renderConfig_comes {placements : List PoolPlacement}
    (haliases : ∀ p ∈ placements, p.modelAliases = [])
    (h : renderConfig o placements = .ok cfg) : cfg.Comes o (placedBy placements) := by
  rw [renderConfig] at h
  cases hr : renderPlacements o placements {} with
  | error err =>
    rw [hr] at h
    cases h
  | ok cfg₁ =>
    rw [hr] at h
    cases h
    have hempty : PraxisConfig.Comes o (placedBy placements) {} := ⟨by simp, by simp⟩
    have hcfg₁ := renderPlacements_comes haliases
      (fun p hp cid hcid => ⟨p, hp, rfl, hcid⟩) hempty hr
    apply hcfg₁.add_routes
    intro r hroute
    rw [defaultRoute] at hroute
    split at hroute
    · cases List.mem_singleton.mp hroute
      trivial
    · cases hroute

end Comes

/-! ## Rendering that cannot fail -/

def PraxisOverlay.Splits (o : PraxisOverlay) : Prop :=
  ∀ e ∈ o.endpoints, e.2.tls = true → ∃ host, o.splitHostPort e.2.endpoint = .ok host

section Splits
variable {o : PraxisOverlay} (hsplits : o.Splits)
include hsplits

theorem renderCluster_isOk (model cid : String) (cfg : PraxisConfig) (first : Option String) :
    ∃ r, renderCluster o model cid cfg first = .ok r := by
  rw [renderCluster]
  split
  · exact ⟨_, rfl⟩
  · next ep hep =>
    have hcluster : ∃ cluster, praxisCluster o (clusterName model cid) ep = .ok cluster := by
      rw [praxisCluster]
      split
      · next htls =>
        obtain ⟨host, hhost⟩ := hsplits _ (mem_of_lookupKey hep) htls
        rw [hhost]
        exact ⟨_, rfl⟩
      · exact ⟨_, rfl⟩
    obtain ⟨cluster, hcluster⟩ := hcluster
    dsimp only
    rw [hcluster]
    split
    · exact ⟨_, rfl⟩
    · exact ⟨_, rfl⟩

theorem renderClusters_isOk (model : String) (cids : List String) (cfg : PraxisConfig)
    (first : Option String) : ∃ r, renderClusters o model cids cfg first = .ok r := by
  induction cids generalizing cfg first with
  | nil => exact ⟨_, rfl⟩
  | cons cid cids ih =>
    obtain ⟨r, hr⟩ := renderCluster_isOk hsplits model cid cfg first
    rw [renderClusters, hr]
    exact ih r.1 r.2

theorem renderPlacements_isOk (placements : List PoolPlacement) (cfg : PraxisConfig) :
    ∃ cfg', renderPlacements o placements cfg = .ok cfg' := by
  induction placements generalizing cfg with
  | nil => exact ⟨_, rfl⟩
  | cons p placements ih =>
    obtain ⟨r, hr⟩ := renderClusters_isOk hsplits p.modelName p.clusters cfg none
    rw [renderPlacements, hr]
    exact ih _

theorem renderConfig_isOk (placements : List PoolPlacement) :
    ∃ cfg, renderConfig o placements = .ok cfg := by
  obtain ⟨cfg, hcfg⟩ := renderPlacements_isOk hsplits placements {}
  rw [renderConfig, hcfg]
  exact ⟨_, rfl⟩

end Splits

end FleetLlmd.Routing
