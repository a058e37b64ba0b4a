import FleetLlmd.Routing.Evaluator

/-!
# Preferences of a routing rule

A rule that prefers local clusters looks at the first cluster of the source region only. One that
prefers cheap clusters compares remaining capacity, as `evaluator_test.go` expects.
-/

namespace FleetLlmd.Routing
open Go

def isLocal (request : RoutingRequest) (c : ClusterHealth) : Bool :=
  request.sourceRegion.toList.isPrefixOf c.clusterID.toList

def within (action : RoutingAction) (c : ClusterHealth) : Bool := c.healthy &&
  !(0 < action.maxLatencyMs && (Float64.ofInt action.maxLatencyMs).lt c.latencyMs)

def OnlyCheapest (action : RoutingAction) : Prop :=
  action.preferCheapest = true ∧ action.preferLocal = false ∧ action.kvCacheAffinity = false ∧
    action.targetModelTier = ""

section Preferences
variable (request : RoutingRequest) (clusters : List ClusterHealth) (action : RoutingAction)

def PrefersLocal : Prop :=
  request.sourceRegion ≠ "" ∧ ∃ c ∈ clusters, c.healthy = true ∧ isLocal request c = true

def PrefersCheapest : Prop :=
  OnlyCheapest action ∧ ∃ c ∈ clusters, within action c = true

def Cheapest (c : ClusterHealth) : Prop :=
  c ∈ clusters ∧ within action c = true ∧
    ∀ b ∈ clusters, within action b = true → b.costPerToken.lt c.costPerToken = false

structure Honours : Prop where
  nearest : PrefersLocal request clusters → ∀ action : RoutingAction, action.preferLocal = true →
    ∃ d, applyAction request clusters action = .ok d ∧
      ∃ c ∈ clusters, c.healthy = true ∧ isLocal request c = true ∧ d.targetCluster = c.clusterID
  cheapest : ∀ action, PrefersCheapest clusters action →
    ∃ d, applyAction request clusters action = .ok d ∧
      ∃ c, Cheapest clusters action c ∧ d.targetCluster = c.clusterID

structure Suited : Prop where
  nearest : PrefersLocal request clusters →
    (∃ c, clusters.find? (isLocal request) = some c ∧ c.healthy = true) ∨
      ∀ c ∈ clusters, c.healthy = true → isLocal request c = true
  cheapest : ∀ action, PrefersCheapest clusters action →
    ∃ c, Leads (within action) (·.capacityRemaining) clusters c ∧
      ∃ b, Cheapest clusters action b ∧ c.clusterID = b.clusterID

end Preferences

section Rule
variable {request : RoutingRequest} {clusters : List ClusterHealth} {action : RoutingAction}

theorem isLocal_congr {c b : ClusterHealth} (h : c.clusterID = b.clusterID) :
    isLocal request c = isLocal request b := by
  rw [isLocal, isLocal, h]

/-- The cluster that a rule for local clusters looks at, and the failovers after it. -/
theorem localTarget_eq (hlocal : action.preferLocal = true) :
    localTarget request clusters action =
      match (clusters.find? (isLocal request)).filter (·.healthy) with
      | some c => some { targetCluster := c.clusterID, reason := "prefer-local" }
      | none => (action.failover.getD []).findSome? fun id =>
          (clusters.find? fun c => c.clusterID == id && c.healthy).map fun c =>
            { targetCluster := c.clusterID, reason := "failover" } := by
  rw [localTarget, hlocal, Bool.not_true, if_neg Bool.false_ne_true]
  rfl

theorem applyAction_local {c : ClusterHealth} (hlocal : action.preferLocal = true)
    (hfind : clusters.find? (isLocal request) = some c) (hhealthy : c.healthy = true) :
    applyAction request clusters action =
      .ok { targetCluster := c.clusterID, reason := "prefer-local" } := by
  rw [applyAction, localTarget_eq hlocal, hfind, Option.filter_some_pos hhealthy]
  rfl

/-- Once the first local cluster is unhealthy, every healthy cluster is the target of some rule. -/
theorem applyAction_failover {c : ClusterHealth} (hc : c ∈ clusters) (hhealthy : c.healthy = true)
    (hfirst : ¬∃ c, clusters.find? (isLocal request) = some c ∧ c.healthy = true) :
    applyAction request clusters { preferLocal := true, failover := some [c.clusterID] } =
      .ok { targetCluster := c.clusterID, reason := "failover" } := by
  have hnone : (clusters.find? (isLocal request)).filter (·.healthy) = none :=
    Option.filter_eq_none_iff.mpr fun b hb hbhealthy => hfirst ⟨b, hb, hbhealthy⟩
  obtain ⟨b, hfind⟩ : ∃ b, clusters.find? (fun b => b.clusterID == c.clusterID && b.healthy) =
      some b := Option.isSome_iff_exists.mp (List.find?_isSome.mpr ⟨c, hc, by simp [hhealthy]⟩)
  have hb : b.clusterID = c.clusterID := by
    have hp := List.find?_some hfind
    simp only [Bool.and_eq_true, beq_iff_eq] at hp
    exact hp.1
  rw [applyAction, localTarget_eq rfl, hnone]
  simp [hfind, hb]

theorem applyAction_cheapest (honly : OnlyCheapest action)
    (h : ∃ c ∈ clusters, within action c = true) :
    ∃ c, Leads (within action) (·.capacityRemaining) clusters c ∧
      applyAction request clusters action =
        .ok { targetCluster := c.clusterID, reason := "prefer-cheapest" } := by
  obtain ⟨hcheapest, hlocal, haffinity, -⟩ := honly
  obtain ⟨b, hb, hwithin⟩ := h
  obtain ⟨c, hselect⟩ := selectBest_exists (·.capacityRemaining) hb hwithin
  refine ⟨c, selectBest_iff.mp hselect, ?_⟩
  have htarget : cheapestTarget clusters action =
      some { targetCluster := c.clusterID, reason := "prefer-cheapest" } := by
    rw [cheapestTarget, hcheapest]
    exact Option.map_eq_some_iff.mpr ⟨c, hselect, rfl⟩
  simp [applyAction, localTarget, affinityTarget, hlocal, haffinity, htarget]

end Rule

theorem preferences_honoured_iff (request : RoutingRequest) (clusters : List ClusterHealth) :
    Honours request clusters ↔ Suited request clusters := by
  constructor
  · intro h
    refine ⟨fun hp => ?_, fun action hp => ?_⟩
    · by_contra hnot
      obtain ⟨hfirst, hothers⟩ := not_or.mp hnot
      obtain ⟨c, hc, hhealthy, haway⟩ : ∃ c ∈ clusters, c.healthy = true ∧
          isLocal request c ≠ true := by
        simpa using hothers
      obtain ⟨d, hd, b, -, -, hlocal, htarget⟩ := h.nearest hp
        { preferLocal := true, failover := some [c.clusterID] } rfl
      rw [applyAction_failover hc hhealthy hfirst] at hd
      cases hd
      exact haway (isLocal_congr htarget ▸ hlocal)
    · obtain ⟨c, hleads, happly⟩ := @applyAction_cheapest request _ _ hp.1 hp.2
      obtain ⟨d, hd, b, hb, htarget⟩ := h.cheapest action hp
      rw [happly] at hd
      cases hd
      exact ⟨c, hleads, b, hb, htarget⟩
  · intro h
    refine ⟨fun hp action hlocal => ?_, fun action hp => ?_⟩
    · rcases h.nearest hp with ⟨c, hfind, hc⟩ | hall
      · exact ⟨_, applyAction_local hlocal hfind hc, c, List.mem_of_find?_eq_some hfind, hc,
          List.find?_some hfind, rfl⟩
      · obtain ⟨-, b, hb, hhealthy, -⟩ := hp
        obtain ⟨d, hd⟩ := @applyAction_exists request _ action _ hb hhealthy
        obtain ⟨c, hc, hchealthy, htarget⟩ := applyAction_targets hd
        exact ⟨d, hd, c, hc, hchealthy, hall c hc hchealthy, htarget⟩
    · obtain ⟨c, hleads, happly⟩ := @applyAction_cheapest request _ _ hp.1 hp.2
      obtain ⟨c', hleads', b, hb, hsame⟩ := h.cheapest action hp
      have hc := (selectBest_iff.mpr hleads').symm.trans (selectBest_iff.mpr hleads)
      cases hc
      exact ⟨_, happly, b, hb, hsame⟩

def sampleHealth (id : String) (healthy : Bool) : ClusterHealth :=
  { clusterID := id, healthy := healthy }

def sampleDear : ClusterHealth :=
  { sampleHealth "dear" true with capacityRemaining := .one, costPerToken := .one }

/-- The first cluster of the region is down: the request leaves the region although another of its
clusters is healthy. Of two clusters the dearer one with more capacity is taken. -/
theorem preferences_passed_over :
    ¬Honours { sourceRegion := "east" }
        [sampleHealth "west" true, sampleHealth "east-1" false, sampleHealth "east-2" true] ∧
      ¬Honours {} [sampleHealth "cheap" true, sampleDear] := by
  refine ⟨fun h => ?_, fun h => ?_⟩
  · obtain ⟨d, hd, c, -, -, hlocal, htarget⟩ := h.nearest
      ⟨by decide, _, .tail _ (.tail _ (.head _)), rfl, by decide⟩ { preferLocal := true } rfl
    cases hd
    rw [isLocal, ← htarget] at hlocal
    exact absurd hlocal (by decide)
  · obtain ⟨d, hd, c, ⟨hc, -, hcheap⟩, htarget⟩ := h.cheapest { preferCheapest := true }
      ⟨⟨rfl, rfl, rfl, rfl⟩, _, .head _, by decide⟩
    have hrun : (applyAction {} [sampleHealth "cheap" true, sampleDear]
        { preferCheapest := true }).toOption.map (·.targetCluster) = some "dear" := by
      decide +kernel
    rw [hd] at hrun
    have hdear := hcheap _ (.head _) (by decide)
    simp only [List.mem_cons, List.not_mem_nil, or_false] at hc
    rcases hc with rfl | rfl
    · exact absurd (htarget.symm.trans (Option.some.inj hrun)) (by decide)
    · have hless : Float64.zero.lt .one = true := by decide +kernel
      exact Bool.false_ne_true (hdear.symm.trans hless)

end FleetLlmd.Routing
