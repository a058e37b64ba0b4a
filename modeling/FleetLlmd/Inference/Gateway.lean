import FleetLlmd.Effect.Sum
import FleetLlmd.Quota.Enforcer
import FleetLlmd.Routing.Evaluator
import Mathlib.Data.List.Sort

/-!
# The gateway's surroundings

What the inference handlers are configured with, the calls they make besides the quota
tables, and the choice of a cluster: `classifyAndRoute` and the round robin over the
healthy providers of a model. Health views, sessions, policies, classifications and
upstream answers may change from call to call.
-/

namespace FleetLlmd.Inference
open Go Effect Json Routing Quota

structure ClassifyResult where
  classifierID : String := ""
  topLabel : String := ""
  topScore : Float64 := .zero
  margin : Float64 := .zero

inductive InferenceProviderName where
  | unset
  | praxis
  | llmdRouter
  | other (name : String)
  deriving DecidableEq

def InferenceProviderName.text : InferenceProviderName → String
  | .unset => ""
  | .praxis => "praxis"
  | .llmdRouter => "llm-d-router"
  | .other name => name

inductive EnforcerKind where
  | absent
  /-- The default enforcer over a repository that coordinates quotas. -/
  | shared
  /-- The default enforcer without one. -/
  | unshared
  | other
  deriving DecidableEq

structure FleetController where
  cpuModel : String := ""
  gpuModel : String := ""
  modelProviderClusters : List (String × List String) := []
  inferenceProviderName : InferenceProviderName := .unset
  praxisURL : String := ""
  praxisToken : String := ""
  llmdToken : String := ""
  llmdCPUURL : String := ""
  llmdGPUURL : String := ""
  routerUpstreamClusters : List (String × String) := []
  /-- The host of a URL text, empty if it has none or does not parse. -/
  urlHost : String → String := fun _ => ""
  hasSlots : Bool := false
  hasSessionTable : Bool := false
  quotaEnforcer : EnforcerKind := .absent

structure UpstreamRequest where
  url : String
  /-- The forwarded object, kept as the tree of its text. -/
  body : List (String × Raw)
  accept : String
  requestID : String
  targetCluster : String
  routingReason : String
  authorization : Option String

structure UpstreamResponse where
  statusCode : Nat
  header : List (String × String) := []
  body : Bytes := []

structure UpstreamError where
  timeout : Bool

inductive SlotResult where
  | acquired
  | canceled
  | full
  deriving DecidableEq

inductive GatewayCall where
  | acquireSlot
  | releaseSlot
  | unixNano
  | classifyPrompt (text requestID : String)
  | lookup (sessionID : String)
  | sessionTier (sessionID : String)
  | setSessionTier (sessionID tier : String)
  | bind (sessionID clusterID : String)
  | unbind (sessionID : String)
  | inferenceClusterHealth
  | routingPolicy (name : String)
  /-- The value of the route counter before it is increased. -/
  | routeCounter
  | profile (tenantID : String)
  | now
  | reserveLocal (tenantID : String) (request : QuotaCheckRequest)
  | checkQuota (tenantID : String) (request : QuotaCheckRequest)
  | newRequest (url : String)
  | upstream (request : UpstreamRequest)
  | contextDone

def GatewayCall.Answer : GatewayCall → Type
  | .acquireSlot => SlotResult
  | .unixNano => Nat
  | .classifyPrompt _ _ => Option ClassifyResult
  | .lookup _ => Option String
  | .sessionTier _ => Option String
  | .inferenceClusterHealth => List ClusterHealth
  | .routingPolicy _ => Option FleetRoutingPolicySpec
  | .routeCounter => Nat
  | .profile _ => TenantProfile
  | .now => Time
  | .reserveLocal _ _ => QuotaCheckResult
  | .checkQuota _ _ => Except Error QuotaCheckResult
  | .newRequest _ => Bool
  | .upstream _ => Except UpstreamError UpstreamResponse
  | .contextDone => Bool
  | .releaseSlot | .setSessionTier _ _ | .bind _ _ | .unbind _ => Unit

abbrev gatewayCalls : Signature where
  Call := GatewayCall
  Answer := GatewayCall.Answer

def defaultCPUModel : String := "granite-2b-cpu"
def defaultGPUModel : String := "ibm-granite/granite-3.1-8b-instruct"
def defaultGPUAlias : String := "granite-8b-gpu"

structure RouteRequest where
  text : String
  requestID : String
  model : String
  tenantID : String
  sessionID : String
  policy : String

structure RouteResponse where
  targetCluster : String
  reason : String
  semanticLabel : String := ""
  semanticScore : Float64 := .zero
  semanticMargin : Float64 := .zero
  classifierID : String := ""
  headersToInject : List (String × String) := []

def RouteResponse.classified (resp : RouteResponse) : Option ClassifyResult → RouteResponse
  | none => resp
  | some result =>
    { resp with
      semanticLabel := result.topLabel
      semanticScore := result.topScore
      semanticMargin := result.margin
      classifierID := result.classifierID }

def tierRank (label : String) : Int :=
  (lookupKey label [("SIMPLE", 0), ("MEDIUM", 1), ("COMPLEX", 2), ("REASONING", 3)]).getD (-1)

/-- `sort.Strings`. -/
def sortStrings (xs : List String) : List String :=
  xs.insertionSort fun a b => keyLt b a = false

theorem mem_sortStrings {xs : List String} {x : String} : x ∈ sortStrings xs ↔ x ∈ xs :=
  List.mem_insertionSort _

namespace FleetController
variable (fc : FleetController)

def cpuPhysicalModel : String := if fc.cpuModel == "" then defaultCPUModel else fc.cpuModel

def gpuPhysicalModel : String := if fc.gpuModel == "" then defaultGPUModel else fc.gpuModel

def modelProviders (model : String) : List String :=
  (lookupKey model fc.modelProviderClusters).getD []

def providersForModel (model : String) : List String := sortStrings (fc.modelProviders model)

def providerServesModel (provider model : String) : Bool :=
  (fc.modelProviders model).contains provider

def nextHealthyProviderExcluding (model excluded : String) : Prog gatewayCalls String :=
  .call .inferenceClusterHealth fun health =>
    let eligible (c : ClusterHealth) : Bool :=
      c.clusterID != excluded && (fc.modelProviders model).contains c.clusterID && c.healthy
    let providers := sortStrings ((health.filter eligible).map (·.clusterID))
    if providers.isEmpty then .done ""
    else .call .routeCounter fun (count : Nat) => .done (providers.getD (count % providers.length) "")

def nextHealthyProvider (model : String) : Prog gatewayCalls String :=
  fc.nextHealthyProviderExcluding model ""

def modelClusters (model : String) : List String :=
  if model == defaultCPUModel || (fc.cpuModel != "" && model == fc.cpuModel) then
    fc.providersForModel fc.cpuPhysicalModel
  else if model == defaultGPUModel || (fc.gpuModel != "" && model == fc.gpuModel) then
    fc.providersForModel fc.gpuPhysicalModel
  else []

def routingRequest (req : RouteRequest) (result : Option ClassifyResult) : RoutingRequest where
  model := req.model
  tenantID := req.tenantID
  sessionID := req.sessionID
  allowedClusters := fc.modelClusters req.model
  semanticLabel := (result.map (·.topLabel)).getD ""
  semanticScore := (result.map (·.topScore)).getD .zero
  semanticMargin := (result.map (·.margin)).getD .zero

def usesSession (sessionID : String) : Bool := sessionID != "" && fc.hasSessionTable

def routeByPolicy (req : RouteRequest) (result : Option ClassifyResult) (escalated : Bool) :
    Prog gatewayCalls (Except Error RouteResponse) :=
  .call .inferenceClusterHealth fun health =>
  .call (.routingPolicy req.policy) fun policy =>
    match evaluate (fc.routingRequest req result) health (policy.getD {}) with
    | .error err => .done (.error err)
    | .ok decision =>
      let resp : RouteResponse :=
        { targetCluster := decision.targetCluster
          reason := if escalated then "escalated:" ++ decision.reason else decision.reason
          headersToInject := decision.headersToInject }
      if fc.usesSession req.sessionID then
        .call (.bind req.sessionID decision.targetCluster) fun _ =>
          match result with
          | none => .done (.ok resp)
          | some r => .call (.setSessionTier req.sessionID r.topLabel) fun _ =>
            .done (.ok (resp.classified result))
      else .done (.ok (resp.classified result))

def routeBound (req : RouteRequest) (result : Option ClassifyResult) (boundCluster : String) :
    Prog gatewayCalls (Except Error RouteResponse) :=
  let kept : RouteResponse :=
    RouteResponse.classified { targetCluster := boundCluster, reason := "session-affinity" } result
  match result with
  | none => .done (.ok kept)
  | some r => .call (.sessionTier req.sessionID) fun tier =>
    if (tier.map tierRank).getD (-1) < tierRank r.topLabel then
      .call (.unbind req.sessionID) fun _ => fc.routeByPolicy req result true
    else .done (.ok kept)

def classifyAndRoute (req : RouteRequest) : Prog gatewayCalls (Except Error RouteResponse) :=
  .call (.classifyPrompt req.text req.requestID) fun result =>
    if fc.usesSession req.sessionID then
      .call (.lookup req.sessionID) fun
        | some boundCluster => fc.routeBound req result boundCluster
        | none => fc.routeByPolicy req result false
    else fc.routeByPolicy req result false

end FleetController

/-! ## Surroundings -/

abbrev World := (c : GatewayCall) → c.Answer

def sampleWorld : World
  | .acquireSlot => .acquired
  | .unixNano => (1767225600000000000 : Nat)
  | .classifyPrompt _ _ => (none : Option ClassifyResult)
  | .lookup _ => (none : Option String)
  | .sessionTier _ => (none : Option String)
  | .inferenceClusterHealth => [{ clusterID := "east", healthy := true }]
  | .routingPolicy _ => (none : Option Routing.FleetRoutingPolicySpec)
  | .routeCounter => (0 : Nat)
  | .profile _ => { tokenLimit := 1000, concurrentLimit := 2, budgetCents := 5000
                    tokenWindow := Time.zero, budgetMonth := Time.zero }
  | .now => (⟨1767225600000000000, 0⟩ : Time)
  | .reserveLocal _ _ => (⟨true, 0, "", ""⟩ : QuotaCheckResult)
  | .checkQuota _ _ => (.ok ⟨true, 0, "", ""⟩ : Except Error QuotaCheckResult)
  | .newRequest _ => true
  | .upstream _ => (.ok { statusCode := 200 } : Except UpstreamError UpstreamResponse)
  | .contextDone => false
  | .releaseSlot | .setSessionTier _ _ | .bind _ _ | .unbind _ => ()

end FleetLlmd.Inference
