import FleetLlmd.Go.Int64
import FleetLlmd.Json.Value

/-!
# Routing policies

`defaultRoutingPolicyEvaluator`: the first rule that matches a request decides how its
cluster is chosen among the clusters the request's own restrictions leave. Whatever the
rule says, the choice is a healthy one of them.
-/

namespace FleetLlmd.Routing
open Go Json

structure RoutingRequest where
  model : String := ""
  tenantID : String := ""
  sessionID : String := ""
  headers : List (String × String) := []
  sourceRegion : String := ""
  allowedClusters : List String := []
  deniedClusters : List String := []
  semanticLabel : String := ""
  semanticScore : Float64 := .zero
  semanticMargin : Float64 := .zero

structure RouteDecision where
  targetCluster : String
  headersToInject : List (String × String) := []
  reason : String
  deriving DecidableEq

structure ClusterHealth where
  clusterID : String
  healthy : Bool
  latencyMs : Float64 := .zero
  capacityRemaining : Float64 := .zero
  kvCacheHitRate : Float64 := .zero
  availableSlots : Int := 0
  currentLoad : Float64 := .zero
  costPerToken : Float64 := .zero
  region : String := ""
  poolSaturation : Float64 := .zero
  labels : List (String × String) := []
  deriving DecidableEq

structure RoutingMatch where
  headers : List (String × String) := []
  source : String := ""
  semanticTier : String := ""
  minConfidence : Float64 := .zero

structure RoutingAction where
  preferLocal : Bool := false
  preferCheapest : Bool := false
  kvCacheAffinity : Bool := false
  maxLatencyMs : Int := 0
  failover : Option (List String) := none
  targetModelTier : String := ""

structure RoutingRule where
  condition : RoutingMatch
  action : RoutingAction

structure FleetRoutingPolicySpec where
  rules : List RoutingRule := []

def filterClustersByTenant (clusters : List ClusterHealth) (allowed denied : List String) :
    List ClusterHealth :=
  if allowed.isEmpty && denied.isEmpty then clusters
  else clusters.filter fun c =>
    !denied.contains c.clusterID && (allowed.isEmpty || allowed.contains c.clusterID)

def matchesHeader (request : RoutingRequest) (h : String × String) : Bool :=
  match lookupKey h.1 request.headers with
  | none => false
  | some value => h.2 == "*" || h.2 == value

def matchesRule (request : RoutingRequest) (m : RoutingMatch) : Bool :=
  (m.source == "" || m.source == request.sourceRegion) &&
  m.headers.all (matchesHeader request) &&
  (m.semanticTier == "" || (request.semanticLabel == m.semanticTier &&
    !(Float64.zero.lt m.minConfidence && request.semanticMargin.lt m.minConfidence)))

def selectBest (eligible : ClusterHealth → Bool) (better : ClusterHealth → ClusterHealth → Bool)
    (clusters : List ClusterHealth) : Option ClusterHealth :=
  clusters.foldl (fun best c =>
    if !eligible c then best
    else match best with
      | none => some c
      | some b => if better c b then some c else some b) none

section Actions
variable (request : RoutingRequest) (clusters : List ClusterHealth) (action : RoutingAction)

/-- `prefer-local`: the first cluster of the source region if it is healthy, else the first healthy
one of the failover list. -/
def localTarget : Option RouteDecision :=
  if !action.preferLocal then none
  else
    let found := clusters.find? fun c =>
      request.sourceRegion.toList.isPrefixOf c.clusterID.toList
    match found.filter (·.healthy) with
    | some c => some { targetCluster := c.clusterID, reason := "prefer-local" }
    | none => (action.failover.getD []).findSome? fun id =>
      (clusters.find? fun c => c.clusterID == id && c.healthy).map fun c =>
        { targetCluster := c.clusterID, reason := "failover" }

def affinityTarget : Option RouteDecision :=
  if !action.kvCacheAffinity then none
  else
    (selectBest (·.healthy) (fun c b => b.kvCacheHitRate.lt c.kvCacheHitRate) clusters).map fun c =>
      { targetCluster := c.clusterID, reason := "kv-cache-affinity" }

def moreCapacity (c b : ClusterHealth) : Bool := b.capacityRemaining.lt c.capacityRemaining

def cheapestTarget : Option RouteDecision :=
  if !action.preferCheapest then none
  else
    let eligible (c : ClusterHealth) : Bool := c.healthy &&
      !(0 < action.maxLatencyMs && (Float64.ofInt action.maxLatencyMs).lt c.latencyMs)
    (selectBest eligible moreCapacity clusters).map fun c =>
      { targetCluster := c.clusterID, reason := "prefer-cheapest" }

def tierTarget : Option RouteDecision :=
  if action.targetModelTier == "" then none
  else
    let eligible (c : ClusterHealth) : Bool := c.healthy &&
      (lookupKey "model-tier" c.labels).all (· == action.targetModelTier)
    (selectBest eligible moreCapacity clusters).map fun c =>
      { targetCluster := c.clusterID
        headersToInject := [("X-Semantic-Label", request.semanticLabel)]
        reason := "semantic-tier:" ++ action.targetModelTier }

def firstHealthy (reason : String) : Option RouteDecision :=
  (clusters.find? (·.healthy)).map fun c => { targetCluster := c.clusterID, reason := reason }

def applyAction : Except Error RouteDecision :=
  match (localTarget request clusters action).or ((affinityTarget clusters action).or
    ((cheapestTarget clusters action).or ((tierTarget request clusters action).or
      (firstHealthy clusters "default")))) with
  | some d => .ok d
  | none => .error (.sentinel "no suitable cluster found for action")

end Actions

def evaluate (request : RoutingRequest) (clusters : List ClusterHealth)
    (policy : FleetRoutingPolicySpec) : Except Error RouteDecision :=
  let clusters := filterClustersByTenant clusters request.allowedClusters request.deniedClusters
  match policy.rules.find? fun rule => matchesRule request rule.condition with
  | some rule => applyAction request clusters rule.action
  | none =>
    match firstHealthy clusters "default-healthy" with
    | some d => .ok d
    | none => .error (.sentinel "no suitable cluster found")

/-! ## Targets are healthy clusters -/

def Targets (clusters : List ClusterHealth) (d : RouteDecision) : Prop :=
  ∃ c ∈ clusters, c.healthy = true ∧ d.targetCluster = c.clusterID

section Scan
variable {key : ClusterHealth → Float64} {eligible : ClusterHealth → Bool}
variable {first c : ClusterHealth} {rest clusters : List ClusterHealth}

def Overtakes (key : ClusterHealth → Float64) (first : ClusterHealth) (rest : List ClusterHealth)
    (c : ClusterHealth) : Prop :=
  (c = first ∧ ∀ b ∈ rest, (key first).lt (key b) = false) ∨
    ∃ before after, rest = before ++ c :: after ∧ (key first).lt (key c) = true ∧
      (∀ b ∈ before, (key b).lt (key c) = true ∨ (key b).isNaN = true) ∧
      ∀ b ∈ after, (key c).lt (key b) = false

/-- `c` is the first of the eligible clusters with the greatest key. -/
def Leads (eligible : ClusterHealth → Bool) (key : ClusterHealth → Float64)
    (clusters : List ClusterHealth) (c : ClusterHealth) : Prop :=
  ∃ first rest, clusters.filter eligible = first :: rest ∧ Overtakes key first rest c

def keep (key : ClusterHealth → Float64) (best : Option ClusterHealth) (c : ClusterHealth) :
    Option ClusterHealth :=
  match best with
  | none => some c
  | some b => if (key b).lt (key c) then some c else some b

theorem foldl_keep_iff : rest.foldl (keep key) (some first) = some c ↔
    Overtakes key first rest c := by
  induction rest generalizing first with
  | nil =>
    constructor
    · intro h
      exact .inl ⟨(Option.some.inj h).symm, by simp⟩
    · rintro (⟨rfl, -⟩ | ⟨before, after, hsplit, -⟩)
      · rfl
      · simp at hsplit
  | cons d rest ih =>
    rw [List.foldl_cons, keep]
    split_ifs with hd
    · rw [ih]
      constructor
      · rintro (⟨rfl, hrest⟩ | ⟨before, after, rfl, hlt, hbefore, hafter⟩)
        · exact .inr ⟨[], rest, rfl, hd, by simp, hrest⟩
        · refine .inr ⟨d :: before, after, rfl, Float64.lt_trans hd hlt, ?_, hafter⟩
          exact List.forall_mem_cons.mpr ⟨.inl hlt, hbefore⟩
      · rintro (⟨-, hrest⟩ | ⟨before, after, hsplit, hlt, hbefore, hafter⟩)
        · rw [hrest d List.mem_cons_self] at hd
          cases hd
        · cases before with
          | nil =>
            cases hsplit
            exact .inl ⟨rfl, hafter⟩
          | cons b before =>
            cases hsplit
            obtain ⟨hb, hbefore⟩ := List.forall_mem_cons.mp hbefore
            have hnumber := (Float64.isNaN_of_lt hd).2
            exact .inr ⟨before, after, rfl, hb.resolve_right (by simp [hnumber]), hbefore, hafter⟩
    · rw [ih]
      rw [Bool.not_eq_true] at hd
      constructor
      · rintro (⟨rfl, hrest⟩ | ⟨before, after, rfl, hlt, hbefore, hafter⟩)
        · exact .inl ⟨rfl, List.forall_mem_cons.mpr ⟨hd, hrest⟩⟩
        · refine .inr ⟨d :: before, after, rfl, hlt, ?_, hafter⟩
          exact List.forall_mem_cons.mpr ⟨Float64.lt_or_isNaN hlt hd, hbefore⟩
      · rintro (⟨rfl, hrest⟩ | ⟨before, after, hsplit, hlt, hbefore, hafter⟩)
        · exact .inl ⟨rfl, fun b hb => hrest b (List.mem_cons_of_mem _ hb)⟩
        · cases before with
          | nil =>
            cases hsplit
            rw [hd] at hlt
            cases hlt
          | cons b before =>
            cases hsplit
            exact .inr ⟨before, after, rfl, hlt, (List.forall_mem_cons.mp hbefore).2, hafter⟩

theorem selectBest_eq_foldl (key : ClusterHealth → Float64) (eligible : ClusterHealth → Bool)
    (clusters : List ClusterHealth) :
    selectBest eligible (fun c b => (key b).lt (key c)) clusters =
      (clusters.filter eligible).foldl (keep key) none := by
  rw [List.foldl_filter, selectBest]
  congr 1
  funext best c
  cases eligible c <;> rfl

theorem selectBest_iff :
    selectBest eligible (fun c b => (key b).lt (key c)) clusters = some c ↔
      Leads eligible key clusters c := by
  rw [selectBest_eq_foldl, Leads]
  cases h : clusters.filter eligible with
  | nil => simp
  | cons first rest =>
    rw [List.foldl_cons]
    simp [keep, foldl_keep_iff, and_assoc]

theorem selectBest_exists (key : ClusterHealth → Float64) {b : ClusterHealth} (hb : b ∈ clusters)
    (heligible : eligible b = true) :
    ∃ c, selectBest eligible (fun c b => (key b).lt (key c)) clusters = some c := by
  have hsome (first : ClusterHealth) (rest : List ClusterHealth) :
      ∃ c, rest.foldl (keep key) (some first) = some c := by
    induction rest generalizing first with
    | nil => exact ⟨first, rfl⟩
    | cons d rest ih =>
      rw [List.foldl_cons, keep]
      split_ifs
      · exact ih d
      · exact ih first
  rw [selectBest_eq_foldl]
  cases h : clusters.filter eligible with
  | nil => exact absurd heligible (List.filter_eq_nil_iff.mp h b hb)
  | cons first rest => exact hsome first rest

theorem Leads.mem (h : Leads eligible key clusters c) : c ∈ clusters ∧ eligible c = true := by
  obtain ⟨first, rest, hfilter, hovertakes⟩ := h
  rw [← List.mem_filter, hfilter]
  rcases hovertakes with ⟨rfl, -⟩ | ⟨before, after, rfl, -⟩
  · exact List.mem_cons_self
  · simp

end Scan

section Targets
variable {request : RoutingRequest} {clusters : List ClusterHealth} {action : RoutingAction}
variable {d : RouteDecision}

theorem localTarget_targets (h : localTarget request clusters action = some d) :
    Targets clusters d := by
  unfold localTarget at h
  split_ifs at h
  dsimp only at h
  split at h
  · next c hfound =>
    cases h
    obtain ⟨hfind, hhealthy⟩ := Option.filter_eq_some_iff.mp hfound
    exact ⟨c, List.mem_of_find?_eq_some hfind, hhealthy, rfl⟩
  · obtain ⟨id, -, hid⟩ := List.exists_of_findSome?_eq_some h
    obtain ⟨c, hfind, rfl⟩ := Option.map_eq_some_iff.mp hid
    have hc := List.find?_some hfind
    simp only [Bool.and_eq_true] at hc
    exact ⟨c, List.mem_of_find?_eq_some hfind, hc.2, rfl⟩

theorem affinityTarget_targets (h : affinityTarget clusters action = some d) :
    Targets clusters d := by
  unfold affinityTarget at h
  split_ifs at h
  obtain ⟨c, hbest, rfl⟩ := Option.map_eq_some_iff.mp h
  obtain ⟨hmem, hhealthy⟩ := (selectBest_iff.mp hbest).mem
  exact ⟨c, hmem, hhealthy, rfl⟩

theorem cheapestTarget_targets (h : cheapestTarget clusters action = some d) :
    Targets clusters d := by
  unfold cheapestTarget at h
  split_ifs at h
  obtain ⟨c, hbest, rfl⟩ := Option.map_eq_some_iff.mp h
  obtain ⟨hmem, heligible⟩ := (selectBest_iff.mp hbest).mem
  exact ⟨c, hmem, (Bool.and_eq_true_iff.mp heligible).1, rfl⟩

theorem tierTarget_targets (h : tierTarget request clusters action = some d) :
    Targets clusters d := by
  unfold tierTarget at h
  split_ifs at h
  obtain ⟨c, hbest, rfl⟩ := Option.map_eq_some_iff.mp h
  obtain ⟨hmem, heligible⟩ := (selectBest_iff.mp hbest).mem
  exact ⟨c, hmem, (Bool.and_eq_true_iff.mp heligible).1, rfl⟩

theorem firstHealthy_targets {reason : String} (h : firstHealthy clusters reason = some d) :
    Targets clusters d := by
  obtain ⟨c, hfind, rfl⟩ := Option.map_eq_some_iff.mp h
  exact ⟨c, List.mem_of_find?_eq_some hfind, List.find?_some hfind, rfl⟩

theorem applyAction_cases (h : applyAction request clusters action = .ok d) :
    localTarget request clusters action = some d ∨ affinityTarget clusters action = some d ∨
      cheapestTarget clusters action = some d ∨ tierTarget request clusters action = some d ∨
      firstHealthy clusters "default" = some d := by
  unfold applyAction at h
  split at h
  · next hchoice =>
    cases h
    simp only [Option.or_eq_some_iff] at hchoice
    tauto
  · cases h

theorem applyAction_targets (h : applyAction request clusters action = .ok d) :
    Targets clusters d := by
  rcases applyAction_cases h with h | h | h | h | h
  · exact localTarget_targets h
  · exact affinityTarget_targets h
  · exact cheapestTarget_targets h
  · exact tierTarget_targets h
  · exact firstHealthy_targets h

theorem firstHealthy_exists {c : ClusterHealth} (hc : c ∈ clusters) (hhealthy : c.healthy = true)
    (reason : String) : ∃ d, firstHealthy clusters reason = some d := by
  obtain ⟨b, hb⟩ := Option.isSome_iff_exists.mp (List.find?_isSome.mpr ⟨c, hc, hhealthy⟩)
  exact ⟨_, Option.map_eq_some_iff.mpr ⟨b, hb, rfl⟩⟩

theorem applyAction_exists {c : ClusterHealth} (hc : c ∈ clusters) (hhealthy : c.healthy = true) :
    ∃ d, applyAction request clusters action = .ok d := by
  obtain ⟨d, hd⟩ := firstHealthy_exists hc hhealthy "default"
  unfold applyAction
  split
  · exact ⟨_, rfl⟩
  · next hnone => simp [hd] at hnone

end Targets

def Admissible (request : RoutingRequest) (c : ClusterHealth) : Prop :=
  c.healthy = true ∧ c.clusterID ∉ request.deniedClusters ∧
    (request.allowedClusters ≠ [] → c.clusterID ∈ request.allowedClusters)

variable {clusters : List ClusterHealth}

theorem mem_filterClustersByTenant {allowed denied : List String} {c : ClusterHealth} :
    c ∈ filterClustersByTenant clusters allowed denied ↔
      c ∈ clusters ∧ c.clusterID ∉ denied ∧ (allowed ≠ [] → c.clusterID ∈ allowed) := by
  unfold filterClustersByTenant
  split_ifs with hempty
  · simp only [Bool.and_eq_true, List.isEmpty_iff] at hempty
    simp [hempty]
  · simp [List.mem_filter, or_iff_not_imp_left]

variable {d : RouteDecision} {policy : FleetRoutingPolicySpec}

theorem evaluate_targets {request : RoutingRequest} (h : evaluate request clusters policy = .ok d) :
    Targets (filterClustersByTenant clusters request.allowedClusters request.deniedClusters) d := by
  unfold evaluate at h
  dsimp only at h
  split at h
  · exact applyAction_targets h
  · split at h
    · next hfirst =>
      cases h
      exact firstHealthy_targets hfirst
    · cases h

/-- Some admissible cluster is in the list exactly when there is a decision, and the decision is
for such a cluster. -/
theorem evaluate_safe_complete (request : RoutingRequest) (clusters : List ClusterHealth)
    (policy : FleetRoutingPolicySpec) :
    ((∃ d, evaluate request clusters policy = .ok d) ↔ ∃ c ∈ clusters, Admissible request c) ∧
      ∀ d, evaluate request clusters policy = .ok d →
        ∃ c ∈ clusters, Admissible request c ∧ d.targetCluster = c.clusterID := by
  have hsafe (d : RouteDecision) (h : evaluate request clusters policy = .ok d) :
      ∃ c ∈ clusters, Admissible request c ∧ d.targetCluster = c.clusterID := by
    obtain ⟨c, hc, hhealthy, htarget⟩ := evaluate_targets h
    rw [mem_filterClustersByTenant] at hc
    exact ⟨c, hc.1, ⟨hhealthy, hc.2⟩, htarget⟩
  refine ⟨⟨?_, ?_⟩, hsafe⟩
  · rintro ⟨d, h⟩
    obtain ⟨c, hc, hadmissible, -⟩ := hsafe d h
    exact ⟨c, hc, hadmissible⟩
  · rintro ⟨c, hc, hhealthy, hscope⟩
    have hkept := mem_filterClustersByTenant.mpr ⟨hc, hscope⟩
    unfold evaluate
    dsimp only
    split
    · exact applyAction_exists hkept hhealthy
    · obtain ⟨d, hd⟩ := firstHealthy_exists hkept hhealthy "default-healthy"
      exact ⟨d, by rw [hd]⟩

/-! ## Reasons -/

def Reasoned (d : RouteDecision) : Prop :=
  d.reason ∈ ["prefer-local", "failover", "kv-cache-affinity", "prefer-cheapest", "default",
      "default-healthy"] ∨
    ∃ tier, d.reason = "semantic-tier:" ++ tier

theorem firstHealthy_reason {reason : String}
    (h : firstHealthy clusters reason = some d) : d.reason = reason := by
  obtain ⟨c, -, rfl⟩ := Option.map_eq_some_iff.mp h
  rfl

theorem localTarget_reasoned {request : RoutingRequest} {action : RoutingAction}
    (h : localTarget request clusters action = some d) : Reasoned d := by
  unfold localTarget at h
  split_ifs at h
  dsimp only at h
  split at h
  · cases h
    exact .inl (by simp)
  · obtain ⟨id, -, hid⟩ := List.exists_of_findSome?_eq_some h
    obtain ⟨c, -, rfl⟩ := Option.map_eq_some_iff.mp hid
    exact .inl (by simp)

theorem applyAction_reasoned {request : RoutingRequest} {action : RoutingAction}
    (h : applyAction request clusters action = .ok d) : Reasoned d := by
  rcases applyAction_cases h with hlocal | haffinity | hcheapest | htier | hdefault
  · exact localTarget_reasoned hlocal
  · unfold affinityTarget at haffinity
    split_ifs at haffinity
    obtain ⟨c, -, rfl⟩ := Option.map_eq_some_iff.mp haffinity
    exact .inl (by simp)
  · unfold cheapestTarget at hcheapest
    split_ifs at hcheapest
    obtain ⟨c, -, rfl⟩ := Option.map_eq_some_iff.mp hcheapest
    exact .inl (by simp)
  · unfold tierTarget at htier
    split_ifs at htier
    obtain ⟨c, -, rfl⟩ := Option.map_eq_some_iff.mp htier
    exact .inr ⟨_, rfl⟩
  · rw [Reasoned, firstHealthy_reason hdefault]
    exact .inl (by simp)

theorem evaluate_reasoned {request : RoutingRequest}
    (h : evaluate request clusters policy = .ok d) : Reasoned d := by
  unfold evaluate at h
  dsimp only at h
  split at h
  · exact applyAction_reasoned h
  · split at h
    · next hfirst =>
      cases h
      rw [Reasoned, firstHealthy_reason hfirst]
      exact .inl (by simp)
    · cases h

end FleetLlmd.Routing
