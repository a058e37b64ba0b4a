import FleetLlmd.Go.ServeMux
import FleetLlmd.Auth.Authorization
import FleetLlmd.Inference.Billing

/-!
# What a tenant reaches

The routes of `SetupRoutes` behind `AuthorizationMiddleware`. The middleware reads
`URL.Path` by its ends and the routes read it by its segments; for a tenant both
readings name the same tenant.
-/

namespace FleetLlmd.Server
open Go Auth

inductive Handler where
  | handleHealthz
  | handleReadyz
  | handleListClusters
  | handleRegisterCluster
  | handleDeregisterCluster
  | handleDrainCluster
  | handleActivateCluster
  | handleListPools
  | watchEndpoint
  | handleGetPoolState
  | webhookHandler
  | handleListTenants
  | handleCreateTenant
  | handleTenantUsage
  | handleFleetMetrics
  | handleModelMetrics
  | handleAgentStatus
  | handleAgentMetrics
  | handleAgentEvent
  | handleAgentPolicies
  | handleListRollouts
  | handleCreateRollout
  | handlePromoteRollout
  | handleRollbackRollout
  | handleVerifyChains
  | handleCostPricing
  | handleCostTokenomics
  | handleCostChargeback
  | handleCostProjection
  | handleCostSavings
  | handleCostAlerts
  | handleClassifyAndRoute
  | handleRefreshToken
  | handleModelPlaneClusters
  | handleModelPlaneDeployments
  | handleModelPlaneDeploymentCost
  | handleChatCompletions
  | handleCompletions
  | handleCapabilities
  | handlePlatformMetrics
  | handleIntent
  | handleSubmitIntentV2
  | handleGetIntentV2
  | handleGetOperationV2
  | handleApproveOperationV2
  | handleCancelOperationV2
  deriving DecidableEq

abbrev Route := Pattern × Handler

section Routes
open Handler

def route (method : String) (segments : List Segment) (handler : Handler) : Route :=
  (⟨method, segments⟩, handler)

def usageRoute : Route :=
  route "GET" ["api", "v1", "tenants", .wildcard "id", "usage"] handleTenantUsage

def probeRoutes : List Route :=
  [route "GET" ["healthz"] handleHealthz, route "GET" ["readyz"] handleReadyz]

def clusterRoutes : List Route :=
  [route "GET" ["api", "v1", "clusters"] handleListClusters,
    route "POST" ["api", "v1", "clusters"] handleRegisterCluster,
    route "DELETE" ["api", "v1", "clusters", .wildcard "id"] handleDeregisterCluster,
    route "POST" ["api", "v1", "clusters", .wildcard "id", "drain"] handleDrainCluster,
    route "POST" ["api", "v1", "clusters", .wildcard "id", "activate"] handleActivateCluster,
    route "GET" ["api", "v1", "pools"] handleListPools]

def reconcilerRoutes : List Route :=
  [route "POST" ["api", "v1", "webhook", "fleetinferencepool"] watchEndpoint,
    route "GET" ["api", "v1", "pools", .wildcard "name", "state"] handleGetPoolState]

def managementRoutes : List Route :=
  [route "POST" ["api", "v1", "webhook", "validate"] webhookHandler,
    route "GET" ["api", "v1", "tenants"] handleListTenants,
    route "POST" ["api", "v1", "tenants"] handleCreateTenant,
    usageRoute,
    route "GET" ["api", "v1", "metrics", "fleet"] handleFleetMetrics,
    route "GET" ["api", "v1", "metrics", "model", .wildcard "model"] handleModelMetrics,
    route "POST" ["api", "v1", "agent", "status"] handleAgentStatus,
    route "POST" ["api", "v1", "agent", "metrics"] handleAgentMetrics,
    route "POST" ["api", "v1", "agent", "events"] handleAgentEvent,
    route "GET" ["api", "v1", "agent", "policies", .wildcard "cluster_id"] handleAgentPolicies,
    route "GET" ["api", "v1", "rollouts"] handleListRollouts,
    route "POST" ["api", "v1", "rollouts"] handleCreateRollout,
    route "POST" ["api", "v1", "rollouts", .wildcard "id", "promote"] handlePromoteRollout,
    route "POST" ["api", "v1", "rollouts", .wildcard "id", "rollback"] handleRollbackRollout,
    route "GET" ["api", "v1", "verify", "chains"] handleVerifyChains,
    route "GET" ["api", "v1", "cost", "pricing"] handleCostPricing,
    route "GET" ["api", "v1", "cost", "tokenomics", .wildcard "model"] handleCostTokenomics,
    route "GET" ["api", "v1", "cost", "chargeback", .wildcard "tenant"] handleCostChargeback,
    route "GET" ["api", "v1", "cost", "projection"] handleCostProjection,
    route "GET" ["api", "v1", "cost", "savings"] handleCostSavings,
    route "GET" ["api", "v1", "cost", "alerts"] handleCostAlerts,
    route "POST" ["api", "v1", "route"] handleClassifyAndRoute,
    route "POST" ["api", "v1", "auth", "refresh"] handleRefreshToken,
    route "GET" ["api", "v1", "modelplane", "clusters"] handleModelPlaneClusters,
    route "GET" ["api", "v1", "modelplane", "deployments"] handleModelPlaneDeployments,
    route "GET" ["api", "v1", "modelplane", "cost", .wildcard "deployment"]
      handleModelPlaneDeploymentCost]

def inferenceRoutes : List Route :=
  [route "POST" ["v1", "chat", "completions"] handleChatCompletions,
    route "POST" ["v1", "completions"] handleCompletions,
    route "GET" ["api", "v1", "capabilities"] handleCapabilities]

def platformRoutes : List Route :=
  [route "GET" ["api", "v1", "metrics", "platform"] handlePlatformMetrics]

def intentRoutes : List Route :=
  [route "POST" ["api", "v1", "intents"] handleIntent,
    route "POST" ["api", "v2", "intents"] handleSubmitIntentV2,
    route "GET" ["api", "v2", "intents", .wildcard "id"] handleGetIntentV2,
    route "GET" ["api", "v2", "operations", .wildcard "id"] handleGetOperationV2,
    route "POST" ["api", "v2", "operations", .wildcard "id", "approve"] handleApproveOperationV2,
    route "POST" ["api", "v2", "operations", .wildcard "id", "cancel"] handleCancelOperationV2]

def setupRoutes (mode : String) (hasReconciler : Bool) : List Route :=
  let control := mode == "all" || mode == "control"
  let inference := mode == "all" || mode == "inference"
  probeRoutes ++
    (if control then
      clusterRoutes ++ (if hasReconciler then reconcilerRoutes else []) ++ managementRoutes
    else []) ++
    (if inference then inferenceRoutes else []) ++ (if control then platformRoutes else []) ++
    (if control || inference then intentRoutes else [])

def allRoutes : List Route :=
  probeRoutes ++ clusterRoutes ++ reconcilerRoutes ++ managementRoutes ++ inferenceRoutes ++
    platformRoutes ++ intentRoutes

theorem mem_allRoutes {mode : String} {hasReconciler : Bool} {r : Route}
    (h : r ∈ setupRoutes mode hasReconciler) : r ∈ allRoutes := by
  simp only [setupRoutes, List.mem_append, List.mem_ite_nil_right] at h
  simp only [allRoutes, List.mem_append]
  tauto

theorem usageRoute_of_mayBegin :
    ∀ r ∈ allRoutes, mayBegin tenantsPrefix r.1.segments = true → r = usageRoute := by
  decide +kernel

def isInference (handler : Handler) : Prop :=
  handler = handleChatCompletions ∨ handler = handleCompletions

instance (handler : Handler) : Decidable (isInference handler) :=
  inferInstanceAs (Decidable (_ ∨ _))

theorem isInference_of_mayBegin :
    ∀ r ∈ allRoutes, mayBegin (utf8 "/v1/chat/completions") r.1.segments = true ∨
      mayBegin (utf8 "/v1/completions") r.1.segments = true → isInference r.2 := by
  decide +kernel

end Routes

section Tenant
variable {method : String} {path : List Bytes} {handler : Handler}
  {values : List (String × Bytes)} {mode : String} {hasReconciler : Bool}

theorem dispatch_inference (hrequest : inferenceRequest method (urlPath path) = true)
    (h : dispatch (setupRoutes mode hasReconciler) method path = some (handler, values)) :
    method = "POST" ∧ isInference handler := by
  obtain ⟨p, hmem, hmatch⟩ := dispatch_eq_some h
  obtain ⟨-, hsegments⟩ := Pattern.match?_eq_some hmatch
  simp only [inferenceRequest, Bool.and_eq_true, Bool.or_eq_true, beq_iff_eq] at hrequest
  refine ⟨hrequest.1, isInference_of_mayBegin _ (mem_allRoutes hmem) ?_⟩
  rcases hrequest.2 with hpath | hpath
  · exact .inl (mayBegin_of_match hsegments (by rw [hpath]))
  · exact .inr (mayBegin_of_match hsegments (by rw [hpath]))

theorem tenantsPrefix_eq :
    tenantsPrefix = urlPath [utf8 "api", utf8 "v1", utf8 "tenants"] ++ [47] := by
  decide +kernel

theorem usageSuffix_eq : usageSuffix = 47 :: utf8 "usage" := by
  decide +kernel

theorem match_usageRoute (h : usageRoute.1.match? method path = some values) :
    ∃ id, urlPath path = tenantsPrefix ++ (id ++ usageSuffix) ∧ values = [("id", id)] := by
  obtain ⟨-, hapi⟩ := Pattern.match?_eq_some h
  obtain ⟨afterApi, rfl, hv1⟩ := matchSegments_literal hapi
  obtain ⟨afterV1, rfl, htenants⟩ := matchSegments_literal hv1
  obtain ⟨afterTenants, rfl, hid⟩ := matchSegments_literal htenants
  obtain ⟨id, afterId, afterValues, rfl, rfl, husage⟩ := matchSegments_wildcard hid
  obtain ⟨rest, rfl, hend⟩ := matchSegments_literal husage
  cases rest with
  | cons s rest => cases hend
  | nil =>
    cases hend
    refine ⟨id, ?_, rfl⟩
    rw [tenantsPrefix_eq, usageSuffix_eq]
    simp [urlPath]

theorem dispatch_usage {subject : String}
    (hrequest : tenantRequestAllowed subject method (urlPath path) = true)
    (h : dispatch (setupRoutes mode hasReconciler) method path = some (handler, values)) :
    handler = .handleTenantUsage ∧ values = [("id", utf8 subject)] ∧ utf8 subject ≠ [] := by
  obtain ⟨p, hmem, hmatch⟩ := dispatch_eq_some h
  obtain ⟨-, hsegments⟩ := Pattern.match?_eq_some hmatch
  obtain ⟨-, hprefix⟩ := tenantRequestAllowed_path hrequest
  have hroute := usageRoute_of_mayBegin _ (mem_allRoutes hmem) (mayBegin_of_match hsegments hprefix)
  cases hroute
  obtain ⟨id, hpath, rfl⟩ := match_usageRoute hmatch
  rw [hpath] at hrequest
  obtain ⟨rfl, hne⟩ := tenantRequestAllowed_id hrequest
  exact ⟨rfl, rfl, hne⟩

def ownTenant (identity : Identity) : String :=
  if identity.tenant = "" then identity.subject else identity.tenant

theorem tenantID_of_tenantOnly {identity : Identity} (htenant : TenantOnly identity)
    {r : Inference.Request} (hidentity : r.identity = some identity)
    (envelope : Inference.InferenceEnvelope) : r.tenantID envelope = ownTenant identity := by
  have hrole : Inference.roleTenant ∈ identity.roles := htenant.tenant
  simp [Inference.Request.tenantID, hidentity, hrole, ownTenant]

/-- A request of a tenant that is neither exempt nor denied, and that some route takes, asks for
inference, which is charged to the tenant whatever its body says, or for the tenant's own usage. -/
theorem tenant_reaches_own_data (exempt : List Bytes) (mode : String) (hasReconciler : Bool)
    (ctx : Context) (identity : Identity) (hidentity : ctx.identity = some identity)
    (htenant : TenantOnly identity) (method : String) (path : List Bytes)
    (hexempt : urlPath path ∉ exempt)
    (hpassed : authorizationMiddleware exempt ctx method (urlPath path) = .ok ())
    (handler : Handler) (values : List (String × Bytes))
    (hdispatch : dispatch (setupRoutes mode hasReconciler) method path = some (handler, values)) :
    (method = "POST" ∧ isInference handler ∧
      ∀ (τ : Type) (tx : τ) (fc : Inference.FleetController) (r : Inference.Request),
        r.identity = some identity →
          (∀ envelope, r.tenantID envelope = ownTenant identity) ∧
          (Inference.handleInference tx fc r).Meets
            (Inference.BillsOnly fc (ownTenant identity)) (fun _ _ => True) []) ∨
    (handler = .handleTenantUsage ∧ values = [("id", utf8 identity.tenant)] ∧
      identity.tenant ≠ "") := by
  rcases passed_of_tenantOnly hidentity htenant hexempt hpassed with hrequest | hrequest
  · obtain ⟨hmethod, hhandler⟩ := dispatch_inference hrequest hdispatch
    refine .inl ⟨hmethod, hhandler, fun τ tx fc r hr => ?_⟩
    have hown := tenantID_of_tenantOnly htenant hr
    exact ⟨hown, Inference.handleInference_bills hown⟩
  · obtain ⟨hhandler, hvalues, hne⟩ := dispatch_usage hrequest hdispatch
    refine .inr ⟨hhandler, hvalues, fun hempty => hne ?_⟩
    rw [hempty]
    decide +kernel

def sampleTenant : Identity := ⟨"alice", "acme", ["tenant"]⟩

def samplePath : List Bytes :=
  [utf8 "api", utf8 "v1", utf8 "tenants", utf8 "acme", utf8 "usage"]

theorem sample_reaches_own_data :
    let ctx : Context := ⟨some sampleTenant, none⟩
    authorizationMiddleware [] ctx "GET" (urlPath samplePath) = .ok () ∧
      dispatch (setupRoutes "all" true) "GET" samplePath =
        some (.handleTenantUsage, [("id", utf8 "acme")]) ∧
      sampleTenant.tenant ≠ "" := by
  intro ctx
  have hpassed : authorizationMiddleware [] ctx "GET" (urlPath samplePath) = .ok () := by
    decide +kernel
  have hdispatch : dispatch (setupRoutes "all" true) "GET" samplePath =
      some (.handleTenantUsage, [("id", utf8 "acme")]) := by
    decide +kernel
  have htenant : TenantOnly sampleTenant := ⟨by decide, by decide, by decide, by decide⟩
  have hreached := tenant_reaches_own_data [] "all" true ctx sampleTenant rfl htenant "GET"
    samplePath List.not_mem_nil hpassed _ _ hdispatch
  refine ⟨hpassed, hdispatch, ?_⟩
  rcases hreached with ⟨hmethod, -⟩ | ⟨-, -, hne⟩
  · exact absurd hmethod (by decide)
  · exact hne

end Tenant
end FleetLlmd.Server
