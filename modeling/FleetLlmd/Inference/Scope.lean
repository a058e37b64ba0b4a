import Mathlib.Data.List.GetD
import FleetLlmd.Inference.Forwarding

/-!
# Cluster scope of a tenant

A tenant's record may list the clusters it is allowed on and those it is denied. Nothing
on the way of a request reads these lists: the target of every request is a cluster of a
health view or of a session binding the gateway has seen. So the scope is respected, for
every request and whatever the gateway sees, exactly if every cluster is in scope.
-/

namespace FleetLlmd.Inference
open Go Effect Json Routing Quota Sql

def stringsAt (key : String) (m : Option (List (String × Value))) : List String :=
  match lookupKey key (m.getD []) with
  | some (.array items) => items.filterMap fun
    | .string s => some s
    | _ => none
  | _ => []

def InScope (t : TenantRecord) (cluster : String) : Prop :=
  cluster ∉ stringsAt "denied" t.clusterScope ∧
    (stringsAt "allowed" t.clusterScope ≠ [] → cluster ∈ stringsAt "allowed" t.clusterScope)

instance (t : TenantRecord) (cluster : String) : Decidable (InScope t cluster) :=
  inferInstanceAs (Decidable (_ ∧ _))

def shows (cluster : String) : Event gatewayCalls → Prop
  | ⟨.inferenceClusterHealth, health⟩ => ∃ c, List.Mem c health ∧ c.clusterID = cluster
  | ⟨.lookup _, bound⟩ => bound = some cluster
  | _ => False

def Seen (past : List (Event gatewayCalls)) (cluster : String) : Prop :=
  ∃ e ∈ past, shows cluster e

def Within (fleet : List String) (past : List (Event gatewayCalls)) : Prop :=
  ∀ cluster, Seen past cluster → cluster ∈ fleet

theorem Seen.mono {past past' : List (Event gatewayCalls)} {cluster : String}
    (h : Seen past cluster) (hsub : past <:+ past') : Seen past' cluster := by
  obtain ⟨e, he, hshows⟩ := h
  exact ⟨e, hsub.subset he, hshows⟩

structure ScopeEnforced (fc : FleetController) (t : TenantRecord) (fleet : List String) : Prop where
  routed : ∀ req : RouteRequest, req.tenantID = t.id →
    (fc.classifyAndRoute req).Meets (fun _ _ => True)
      (fun past result => Within fleet past →
        ∀ resp, result = .ok resp → InScope t resp.targetCluster) []
  forwarded : ∀ r : Request, r.chargedTo = t.id →
    (handleInference () fc r).Meets
      (fun past c => Within fleet (rights past) →
        ∀ u, c = Sum.inr (GatewayCall.upstream u) → InScope t u.targetCluster)
      (fun _ _ => True) []

section Targets
variable {fc : FleetController} {r : Request} {past : List (Event gatewayCalls)}

abbrev Finds {α : Type} (target : α → Option String) (p : Prog gatewayCalls α)
    (past : List (Event gatewayCalls)) : Prop :=
  p.Meets (fun _ c => isRouting c = true)
    (fun past a => ∀ cluster ∈ target a, Seen past cluster) past

def namedProvider (provider : String) : Option String :=
  if provider = "" then none else some provider

theorem eq_of_mem_namedProvider {provider cluster : String}
    (h : cluster ∈ namedProvider provider) : provider = cluster := by
  rw [namedProvider] at h
  split_ifs at h with hempty
  · cases h
  · exact Option.some.inj h

theorem namedProvider_of_ne {provider : String} (h : provider ≠ "") :
    provider ∈ namedProvider provider := by
  rw [namedProvider, if_neg h]
  rfl

theorem nextHealthyProvider_finds (model excluded : String) :
    Finds namedProvider (fc.nextHealthyProviderExcluding model excluded) past := by
  refine ⟨rfl, fun health => ?_⟩
  dsimp only
  split_ifs with hempty
  · exact nofun
  · refine ⟨rfl, fun (count : Nat) cluster hcluster => ?_⟩
    generalize hproviders : sortStrings _ = providers at *
    have hpos : 0 < providers.length := by
      apply List.length_pos_iff.mpr
      intro hnil
      rw [hnil] at hempty
      exact hempty rfl
    have hlt : count % providers.length < providers.length := Nat.mod_lt _ hpos
    have hget : providers.getD (count % providers.length) "" ∈ providers := by
      rw [List.getD_eq_getElem _ _ hlt]
      exact List.getElem_mem hlt
    obtain rfl := eq_of_mem_namedProvider hcluster
    rw [← hproviders] at hget ⊢
    obtain ⟨c, hc, hid⟩ := List.mem_map.mp (mem_sortStrings.mp hget)
    refine ⟨_, List.mem_cons_of_mem _ List.mem_cons_self, c, ?_, hid⟩
    exact List.mem_of_mem_filter hc

def routedTo : Except Error RouteResponse → Option String
  | .ok resp => some resp.targetCluster
  | .error _ => none

theorem evaluate_seen {request : RoutingRequest} {health : List ClusterHealth}
    {policy : FleetRoutingPolicySpec} {d : RouteDecision}
    (h : evaluate request health policy = .ok d)
    (hmem : ⟨.inferenceClusterHealth, health⟩ ∈ past) : Seen past d.targetCluster := by
  obtain ⟨c, hc, -, htarget⟩ := evaluate_targets h
  exact ⟨_, hmem, c, (mem_filterClustersByTenant.mp hc).1, htarget.symm⟩

theorem classified_target (resp : RouteResponse) (result : Option ClassifyResult) :
    (resp.classified result).targetCluster = resp.targetCluster := by
  cases result <;> rfl

theorem routeByPolicy_finds (req : RouteRequest) (result : Option ClassifyResult)
    (escalated : Bool) : Finds routedTo (fc.routeByPolicy req result escalated) past := by
  refine ⟨rfl, fun health => ⟨rfl, fun policy => ?_⟩⟩
  dsimp only
  cases hevaluate : evaluate (fc.routingRequest req result) health (policy.getD {}) with
  | error err => exact nofun
  | ok decision =>
    have hseen : Seen (⟨.inferenceClusterHealth, health⟩ :: past) decision.targetCluster :=
      evaluate_seen hevaluate List.mem_cons_self
    have hlater {past' : List (Event gatewayCalls)}
        (hsub : (⟨.inferenceClusterHealth, health⟩ :: past) <:+ past') :
        ∀ cluster ∈ some decision.targetCluster, Seen past' cluster := by
      intro cluster h
      cases h
      exact hseen.mono hsub
    by_cases hsession : fc.usesSession req.sessionID = true
    · dsimp only
      rw [if_pos hsession]
      cases result with
      | none =>
        exact ⟨rfl, fun _ => hlater ((List.suffix_cons _ _).trans (List.suffix_cons _ _))⟩
      | some label =>
        exact ⟨rfl, fun _ => ⟨rfl, fun _ => hlater
          ((List.suffix_cons _ _).trans ((List.suffix_cons _ _).trans (List.suffix_cons _ _)))⟩⟩
    · dsimp only
      rw [if_neg hsession]
      intro cluster h
      rw [routedTo, classified_target] at h
      exact hlater (List.suffix_cons _ _) cluster h

theorem classifyAndRoute_finds (req : RouteRequest) :
    Finds routedTo (fc.classifyAndRoute req) past := by
  refine ⟨rfl, fun result => ?_⟩
  dsimp only
  split_ifs
  · refine ⟨rfl, fun bound => ?_⟩
    cases bound with
    | none => exact routeByPolicy_finds req result false
    | some boundCluster =>
      have hkept {past' : List (Event gatewayCalls)}
          (hmem : ⟨.lookup req.sessionID, some boundCluster⟩ ∈ past') (resp : RouteResponse)
          (hresp : resp.targetCluster = boundCluster) :
          ∀ cluster ∈ routedTo (.ok resp), Seen past' cluster := by
        intro cluster h
        cases h
        exact ⟨_, hmem, congrArg some hresp.symm⟩
      cases result with
      | none => exact hkept List.mem_cons_self _ rfl
      | some label =>
        refine ⟨rfl, fun tier => ?_⟩
        dsimp only
        split_ifs
        · exact ⟨rfl, fun _ => routeByPolicy_finds req _ true⟩
        · exact hkept (List.mem_cons_of_mem _ List.mem_cons_self) _ rfl
  · exact routeByPolicy_finds req result false

def headedFor : Except Reply Routed → Option String
  | .ok x => some x.decision.targetCluster
  | .error _ => none

theorem finds_ok {x : Routed} (h : Seen past x.decision.targetCluster) :
    Finds headedFor (.done (.ok x)) past := by
  intro cluster hcluster
  cases hcluster
  exact h

theorem Finds.andThen {p : Prog gatewayCalls (Except Reply Routed)}
    {next : Routed → Prog gatewayCalls (Except Reply Routed)} (hp : Finds headedFor p past)
    (hnext : ∀ x past, Seen past x.decision.targetCluster → Finds headedFor (next x) past) :
    Finds headedFor (FleetController.andThen p next) past := by
  apply (Prog.meets_bind _ _ _).mpr
  refine hp.imp ?_
  intro past result hresult
  cases result with
  | error reply => exact nofun
  | ok x => exact hnext x past (hresult _ rfl)

theorem moveToProvider_finds (x : Routed) (model missing reason : String) :
    Finds headedFor (fc.moveToProvider x model missing reason) past := by
  apply (Prog.meets_bind _ _ _).mpr
  refine (nextHealthyProvider_finds model "").imp ?_
  intro past provider hseen
  split_ifs with hnone
  · exact nofun
  · have hprovider : Seen past provider :=
      hseen provider (namedProvider_of_ne (by simpa using hnone))
    rw [FleetController.rebind]
    split_ifs
    · exact ⟨rfl, fun _ => ⟨rfl, fun _ => finds_ok
        (hprovider.mono ((List.suffix_cons _ _).trans (List.suffix_cons _ _)))⟩⟩
    · exact finds_ok hprovider

theorem classify_finds : Finds headedFor (fc.classify r) past := by
  rw [FleetController.classify]
  cases FleetController.decodeBody r with
  | error reply => exact nofun
  | ok decoded =>
    apply (Prog.meets_bind _ _ _).mpr
    refine requestID_quiet.imp ?_
    intro past requestID _
    apply (Prog.meets_bind _ _ _).mpr
    refine (classifyAndRoute_finds _).imp ?_
    intro past result hseen
    cases result with
    | error err => exact nofun
    | ok decision => exact finds_ok (hseen _ rfl)

theorem route_finds : Finds headedFor (fc.route r) past := by
  apply classify_finds.andThen
  intro x past hx
  apply Finds.andThen
  · rw [FleetController.selectExplicit]
    split_ifs
    · exact moveToProvider_finds _ _ _ _
    · exact finds_ok hx
  · intro x past hx
    apply Finds.andThen
    · have hselected : Seen past (fc.selectModel x).decision.targetCluster := hx
      rw [FleetController.selectGPU]
      by_cases hgpu : ((fc.selectModel x).physicalModel != fc.cpuPhysicalModel) = true
      · rw [if_pos hgpu]
        exact moveToProvider_finds _ _ _ _
      · rw [if_neg hgpu]
        exact finds_ok hselected
    · intro x past hx
      rw [FleetController.selectCPU]
      split_ifs
      · exact moveToProvider_finds _ _ _ _
      · exact finds_ok hx

def SendsToSeen (past : List (Event gatewayCalls)) (c : GatewayCall) : Prop :=
  ∀ u, c = .upstream u → Seen past u.targetCluster

theorem sendsToSeen_of_isRouting {c : GatewayCall} (h : isRouting c = true) :
    SendsToSeen past c := by
  intro u heq
  rw [heq] at h
  cases h

theorem serve_sendsToSeen {x : Routed} (hx : Seen past x.decision.targetCluster) :
    (fc.serve r x).Meets SendsToSeen (fun _ _ => True) past := by
  rw [FleetController.serve]
  cases fc.inferenceTarget x.physicalModel with
  | error err => trivial
  | ok target =>
    refine ⟨sendsToSeen_of_isRouting rfl, fun created => ?_⟩
    dsimp only
    split_ifs
    · trivial
    · refine ⟨?_, fun first => ⟨sendsToSeen_of_isRouting rfl, fun canceled => ?_⟩⟩
      · intro u heq
        cases heq
        exact hx.mono (List.suffix_cons _ _)
      · dsimp only
        split_ifs
        · apply (Prog.meets_bind _ _ _).mpr
          refine (nextHealthyProvider_finds x.physicalModel x.decision.targetCluster).mono
            (fun _ _ h => sendsToSeen_of_isRouting h) ?_
          intro past cluster hseen
          split_ifs with hnone
          · trivial
          · refine ⟨?_, fun _ => trivial⟩
            intro u heq
            cases heq
            exact hseen cluster (namedProvider_of_ne (by simpa using hnone))
        · trivial

end Targets
section Enforced
variable {fc : FleetController} {t : TenantRecord} {fleet : List String}
  {past : List (Event (inferenceCalls Unit))}

def HandlesSeen (past : List (Event (inferenceCalls Unit))) (c : (inferenceCalls Unit).Call) :
    Prop :=
  ∀ u, c = Sum.inr (GatewayCall.upstream u) → Seen (rights past) u.targetCluster

theorem handlesSeen_inl (st : Statement Row Unit) : HandlesSeen past (.inl st) :=
  nofun

theorem handlesSeen_inr {c : GatewayCall} (h : isUpstream c = false) :
    HandlesSeen past (.inr c) := by
  intro u heq
  rw [Sum.inr.inj heq] at h
  cases h

theorem reserveShared_keepsSeen {cluster : String} (tenantID : String) (tokens : Int)
    (hseen : Seen (rights past) cluster) :
    (reserveShared () tenantID tokens).Meets HandlesSeen
      (fun past _ => Seen (rights past) cluster) past := by
  refine ⟨handlesSeen_inr rfl, fun profile => ⟨handlesSeen_inr rfl, fun now => ?_⟩⟩
  apply (Prog.meets_bind _ _ _).mpr
  have hany (past : List (Event (statements Row Unit))) :
      (PGTenantRepository.reserveQuota () tenantID (now.utc.truncate Time.minute) tokens
        profile.tokenLimit profile.concurrentLimit (int64 (tokens * costPerToken))
        profile.budgetCents).Meets (fun _ _ => True) (fun _ _ => True) past :=
    .of_forall (fun _ _ => trivial) (fun _ _ => trivial) _ past
  refine Prog.Meets.inl (J := fun past => Seen (rights past) cluster) (fun _ _ _ h => h) (hany _) ?_
    (fun _ st _ _ => handlesSeen_inl st) ?_
  · exact hseen.mono ((List.suffix_cons _ _).trans (List.suffix_cons _ _))
  · intro past result hpast _
    cases result with
    | error err => exact hpast
    | ok reservation => exact hpast

theorem reserve_keepsSeen {cluster : String} (tenantID : String) (check : QuotaCheckRequest)
    (hseen : Seen (rights past) cluster) :
    (reserve () fc.quotaEnforcer tenantID check).Meets HandlesSeen
      (fun past _ => Seen (rights past) cluster) past := by
  unfold reserve
  split_ifs
  · exact hseen
  · cases fc.quotaEnforcer with
    | absent => exact hseen
    | shared => exact reserveShared_keepsSeen tenantID _ hseen
    | unshared => exact ⟨handlesSeen_inr rfl, fun _ => hseen.mono (List.suffix_cons _ _)⟩
    | other => exact ⟨handlesSeen_inr rfl, fun _ => hseen.mono (List.suffix_cons _ _)⟩

theorem handleInference_handlesSeen (r : Request) :
    (handleInference () fc r).Meets HandlesSeen (fun _ _ => True) [] := by
  apply handleInference_ends (A := fun _ => True) (Q := fun _ => True) (B := fun _ => True)
    (J := fun x past => Seen (rights past) x.decision.targetCluster)
    (K := fun x past => Seen (rights past) x.decision.targetCluster)
  · exact ⟨trivial, fun _ => trivial⟩
  · exact fun past => ⟨handlesSeen_inr rfl, handlesSeen_inr rfl, handlesSeen_inr rfl⟩
  · exact fun _ => ⟨trivial, fun _ => trivial⟩
  · intro past _
    refine Prog.Meets.inr (J := fun _ => True) (fun _ _ _ _ _ => trivial) route_finds trivial
      (fun past c _ h => handlesSeen_inr (not_isUpstream_of_isRouting h)) ?_
    intro past result _ hseen
    refine ⟨trivial, ?_⟩
    cases result with
    | error reply => trivial
    | ok x => exact hseen _ rfl
  · intro x past hx
    exact (reserve_keepsSeen x.tenantID _ hx).imp fun _ _ h => ⟨trivial, fun _ _ _ => h⟩
  · intro x past hx
    refine Prog.Meets.inr (J := fun _ => True) (fun _ _ _ _ _ => trivial) (serve_sendsToSeen hx)
      trivial ?_ (fun _ _ _ _ => trivial)
    exact fun past c _ h u heq => h u (Sum.inr.inj heq)
  · intro x past _ _
    rw [release]
    split_ifs
    · exact ⟨handlesSeen_inl _, fun answer => by cases answer <;> trivial⟩
    · trivial
  · exact fun _ _ _ => trivial
  · exact fun _ _ _ => trivial

theorem modelClusters_empty : fc.modelClusters "" = [] := by
  have hunset (model : String) : (model != "" && "" == model) = false := by
    by_cases h : model = ""
    · rw [h]
      rfl
    · rw [Bool.and_eq_false_iff]
      exact .inr (beq_eq_false_iff_ne.mpr (Ne.symm h))
  rw [FleetController.modelClusters, hunset, hunset, if_neg (by decide), if_neg (by decide)]

theorem evaluate_only_healthy (request : RoutingRequest) (cluster : String)
    (hallowed : request.allowedClusters = []) (hdenied : request.deniedClusters = []) :
    evaluate request [{ clusterID := cluster, healthy := true }] {} =
      .ok { targetCluster := cluster, reason := "default-healthy" } := by
  rw [evaluate, hallowed, hdenied]
  rfl

theorem inScope_of_enforced (h : ScopeEnforced fc t fleet) {cluster : String}
    (hcluster : cluster ∈ fleet) : InScope t cluster := by
  have hsession : ¬ fc.usesSession "" = true := by simp [FleetController.usesSession]
  have hrouted := (h.routed ⟨"", "", "", t.id, "", ""⟩ rfl).2 none
  dsimp only at hrouted
  rw [if_neg hsession] at hrouted
  have hended := (hrouted.2 [{ clusterID := cluster, healthy := true }]).2 none
  dsimp only [Option.getD] at hended
  rw [evaluate_only_healthy _ _ modelClusters_empty rfl] at hended
  dsimp only at hended
  rw [if_neg hsession] at hended
  refine hended ?_ _ rfl
  intro seen hseen
  obtain ⟨e, he, hshows⟩ := hseen
  rcases List.mem_cons.mp he with rfl | he
  · cases hshows
  rcases List.mem_cons.mp he with rfl | he
  · obtain ⟨c, hc, rfl⟩ := hshows
    obtain rfl := List.mem_singleton.mp hc
    exact hcluster
  · obtain rfl := List.mem_singleton.mp he
    cases hshows

theorem cluster_scope_iff :
    ScopeEnforced fc t fleet ↔ ∀ cluster ∈ fleet, InScope t cluster := by
  constructor
  · intro h cluster hcluster
    exact inScope_of_enforced h hcluster
  · intro h
    constructor
    · intro req _
      refine (classifyAndRoute_finds req).mono (fun _ _ _ => trivial) ?_
      intro past result hseen hwithin resp hresp
      exact h _ (hwithin _ (hseen _ (hresp ▸ rfl)))
    · intro r _
      refine (handleInference_handlesSeen r).mono ?_ (fun _ _ h => h)
      intro past c hseen hwithin u heq
      exact h _ (hwithin _ (hseen u heq))

def deniedTenant : TenantRecord where
  id := "t"
  clusterScope := some [("denied", .array [.string "east"])]

/-- A request of a tenant denied the only healthy cluster is routed there and sent there. -/
theorem denied_cluster_served :
    ¬ InScope deniedTenant "east" ∧ sampleRequest.chargedTo = deniedTenant.id ∧
      routedTo ((sampleController.classifyAndRoute ⟨"hi", "", "", deniedTenant.id, "", ""⟩).run
        answer sampleWorld).1 = some "east" ∧
      (firstUpstream ((handleInference () sampleController sampleRequest).trace
        (Handler.sum Database.execute answer)
        (⟨fun _ => none, fun _ => none, none⟩, sampleWorld)) []).map
        (fun sent => sent.2.targetCluster) = some "east" := by
  decide +kernel

end Enforced

end FleetLlmd.Inference
