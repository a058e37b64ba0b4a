import FleetLlmd.Json.Decode
import FleetLlmd.Quota.Shared
import FleetLlmd.Inference.Gateway

/-!
# The inference gateway

`handleInference` from the request's body to its reply. The body is decoded once into
an envelope, for routing and accounting, and once into a map, which is forwarded. A
granted reservation is released when the handler returns, whichever way it does.
-/

namespace FleetLlmd.Inference
open Go Effect Json Routing Quota Sql

structure Identity where
  subject : String
  tenant : String := ""
  roles : List String := []

structure Claims where
  subject : String
  role : String := ""

def roleTenant : String := "tenant"

structure Request where
  chat : Bool
  /-- Nothing if the body cannot be read. -/
  body : Option Bytes
  identity : Option Identity := none
  claims : Option Claims := none
  requestIDHeader : String := ""
  accept : String := ""
  path : String := ""

structure InferenceEnvelope where
  model : String := ""
  prompt : Option Raw := none
  messages : Option Raw := none
  tenantID : String := ""
  sessionID : String := ""
  policy : String := ""
  maxTokens : Int := 0

def inferenceEnvelopeFields : List (StructField InferenceEnvelope) :=
  [structField "model" (·.model) (fun e s => { e with model := s }) decodeString,
    structField "prompt" (·.prompt) (fun e r => { e with prompt := r }) decodeRawMessage,
    structField "messages" (·.messages) (fun e r => { e with messages := r }) decodeRawMessage,
    structField "tenant_id" (·.tenantID) (fun e s => { e with tenantID := s }) decodeString,
    structField "session_id" (·.sessionID) (fun e s => { e with sessionID := s }) decodeString,
    structField "policy" (·.policy) (fun e s => { e with policy := s }) decodeString,
    structField "max_tokens" (·.maxTokens) (fun e n => { e with maxTokens := n }) decodeInt]

def decodeInferenceEnvelope : Decoder InferenceEnvelope :=
  decodeStruct false inferenceEnvelopeFields

def textOf : Option Raw → Option String
  | some (.string lit) =>
    let text := String.ofList (unquote lit)
    if blank text then none else some text
  | _ => none

def decodeMessage : Decoder (Option Raw) :=
  decodeStruct false [structField "content" id (fun _ r => r) decodeRawMessage]

def inferenceText (e : InferenceEnvelope) (chat : Bool) : Except Error String :=
  if chat then
    match e.messages.map fun r => decodeSlice none decodeMessage r .nil with
    | some (.ok messages) =>
      if messages.items.isEmpty then .error (.sentinel "messages must be a non-empty array")
      else match messages.items.reverse.findSome? textOf with
        | some text => .ok text
        | none => .error (.sentinel "messages must contain text content")
    | _ => .error (.sentinel "messages must be a non-empty array")
  else match textOf e.prompt with
    | some text => .ok text
    | none => .error (.sentinel "prompt must be a non-empty string")

def Request.tenantID (r : Request) (e : InferenceEnvelope) : String :=
  match r.identity, r.claims with
  | some identity, _ =>
    if identity.roles.contains roleTenant || e.tenantID == "" then
      if identity.tenant == "" then identity.subject else identity.tenant
    else e.tenantID
  | none, some claims =>
    if claims.role == roleTenant || e.tenantID == "" then claims.subject else e.tenantID
  | none, none => e.tenantID

def InferenceEnvelope.requestedTokens (e : InferenceEnvelope) : Int :=
  if e.maxTokens ≤ 0 then 256 else e.maxTokens

def requestID (r : Request) : Prog gatewayCalls String :=
  let id := trimSpace r.requestIDHeader
  if id != "" && (utf8 id).length ≤ 128 then .done id
  else .call .unixNano fun n => .done ("fleet-" ++ String.ofList (natText n))

inductive Reply where
  | nothing
  | error (status : Nat) (message : Error)
  | inferenceError (status : Nat) (code : String) (message : Error) (requestID : String)
      (retryAfter : Option String)
  | proxied (status : Nat) (header : List (String × String)) (body : Bytes)

def noCapacity (message : Error) (requestID : String) : Reply :=
  .inferenceError 503 "no_compatible_capacity" message requestID none

inductive ModelClass where
  | unspecified
  | cpu
  | gpu
  deriving DecidableEq

structure Routed where
  requestID : String
  envelope : InferenceEnvelope
  members : List (String × Raw)
  tenantID : String
  modelClass : ModelClass
  physicalModel : String := ""
  decision : RouteResponse

structure InferenceTarget where
  baseURL : String
  apiToken : String
  provider : InferenceProviderName

def trimRightSlash (s : String) : String :=
  String.ofList ((chars s).reverse.dropWhile (· == '/')).reverse

def normalizeRouterUpstream (urlHost : String → String) (value : String) : String :=
  let value := trimSpace (toLower value)
  let value := if urlHost value == "" then value else urlHost value
  match value.toList.reverse with
  | '.' :: rest => String.ofList rest.reverse
  | _ => value

def retryableStatus (status : Nat) : Bool := status == 502 || status == 503 || status == 504

def retryableInferenceFailure : Except UpstreamError UpstreamResponse → Bool
  | .error _ => true
  | .ok resp => retryableStatus resp.statusCode

/-- `copyResponseHeaders`. -/
def copiedHeaders (header : List (String × String)) : List (String × String) :=
  ["Content-Type", "Cache-Control", "Retry-After"].filterMap fun key =>
    ((lookupKey key header).filter (· != "")).map fun value => (key, value)

def forwardedBody (members : List (String × Raw)) (physicalModel : String) : List (String × Raw) :=
  (insertKey "model" (.string (goEscaping.body physicalModel)) (ofEntries members)).filter
    fun m => m.1 != "tenant_id" && m.1 != "session_id" && m.1 != "policy"

namespace FleetController
variable (fc : FleetController)

def requestedModelClass (requested : String) : ModelClass :=
  if requested == "" then .unspecified
  else if requested == fc.cpuPhysicalModel || requested == defaultCPUModel then .cpu
  else if requested == fc.gpuPhysicalModel || requested == defaultGPUModel ||
    requested == defaultGPUAlias then .gpu
  else .unspecified

def inferenceTarget (physicalModel : String) : Except Error InferenceTarget :=
  let provider := if fc.inferenceProviderName = .unset then .praxis else fc.inferenceProviderName
  let configured (baseURL apiToken : String) : Except Error InferenceTarget :=
    let baseURL := trimRightSlash (trimSpace baseURL)
    if baseURL == "" then
      .error (.errorf "%s endpoint is not configured for model %q" [provider.text, physicalModel])
    else .ok ⟨baseURL, apiToken, provider⟩
  match provider with
  | .praxis => configured fc.praxisURL fc.praxisToken
  | .llmdRouter => configured
      (if physicalModel == fc.cpuPhysicalModel then fc.llmdCPUURL else fc.llmdGPUURL) fc.llmdToken
  | name => .error (.errorf "unsupported inference provider %q" [name.text])

def routerClusterForUpstream (value physicalModel : String) : Except Error String :=
  let cluster :=
    (lookupKey (normalizeRouterUpstream fc.urlHost value) fc.routerUpstreamClusters).getD ""
  if cluster == "" then .error (.errorf "Router returned an unrecognized upstream %q" [value])
  else if !fc.providerServesModel cluster physicalModel then
    .error (.errorf "Router selected upstream %q outside the exact-model provider set" [value])
  else .ok cluster

/-! ## Before the reservation -/

def decodeBody (r : Request) : Except Reply (InferenceEnvelope × List (String × Raw) × String) :=
  match r.body with
  | none => .error (.error 400 (.sentinel "invalid request body"))
  | some body =>
    match parse (runes body) with
    | none => .error (.error 400 (.sentinel "invalid JSON request"))
    | some raw =>
      match decodeInferenceEnvelope raw {} with
      | .error _ => .error (.error 400 (.sentinel "invalid JSON request"))
      | .ok envelope =>
        match inferenceText envelope r.chat with
        | .error err => .error (.error 400 err)
        | .ok text => .ok (envelope, (match raw with | .object members => members | _ => []), text)

def rebind (sessionID clusterID : String) : Prog gatewayCalls Unit :=
  if fc.usesSession sessionID then
    .call (.unbind sessionID) fun _ => .call (.bind sessionID clusterID) .done
  else .done ()

def moveToProvider (x : Routed) (model missing : String) (reason : String) :
    Prog gatewayCalls (Except Reply Routed) :=
  (fc.nextHealthyProvider model).bind fun provider =>
    if provider == "" then .done (.error (noCapacity (.sentinel missing) x.requestID))
    else (fc.rebind x.envelope.sessionID provider).bind fun _ =>
      .done (.ok
        { x with decision := { x.decision with targetCluster := provider, reason := reason } })

def selectExplicit (x : Routed) : Prog gatewayCalls (Except Reply Routed) :=
  if x.modelClass = .gpu then
    fc.moveToProvider x fc.gpuPhysicalModel
      "the requested GPU model has no compatible healthy provider" "explicit-model"
  else .done (.ok x)

def selectModel (x : Routed) : Routed :=
  let escalates := x.modelClass = .gpu || (x.modelClass = .unspecified &&
    (x.decision.semanticLabel == "COMPLEX" || x.decision.semanticLabel == "REASONING" ||
      fc.providerServesModel x.decision.targetCluster fc.gpuPhysicalModel))
  { x with physicalModel := if escalates then fc.gpuPhysicalModel else fc.cpuPhysicalModel }

def selectGPU (x : Routed) : Prog gatewayCalls (Except Reply Routed) :=
  if x.physicalModel != fc.cpuPhysicalModel then
    fc.moveToProvider x x.physicalModel
      "the selected GPU model has no compatible healthy provider"
      (if x.modelClass = .unspecified then "semantic-escalation" else x.decision.reason)
  else .done (.ok x)

def selectCPU (x : Routed) : Prog gatewayCalls (Except Reply Routed) :=
  if x.physicalModel == fc.cpuPhysicalModel && x.decision.reason != "session-affinity" then
    fc.moveToProvider x x.physicalModel
      "the requested CPU model has no compatible healthy provider" "compatible-round-robin"
  else .done (.ok x)

/-- `p` and, unless it has ended the request, `next`. -/
def andThen {α β : Type} (p : Prog gatewayCalls (Except Reply α))
    (next : α → Prog gatewayCalls (Except Reply β)) : Prog gatewayCalls (Except Reply β) :=
  p.bind fun
    | .error reply => .done (.error reply)
    | .ok a => next a

def classify (r : Request) : Prog gatewayCalls (Except Reply Routed) :=
  match decodeBody r with
  | .error reply => .done (.error reply)
  | .ok (envelope, members, text) =>
    (requestID r).bind fun requestID =>
    (fc.classifyAndRoute
      { text, requestID, model := envelope.model, tenantID := r.tenantID envelope
        sessionID := envelope.sessionID, policy := envelope.policy }).bind fun
    | .error err => .done (.error (noCapacity err requestID))
    | .ok decision => .done (.ok
      { requestID, envelope, members, tenantID := r.tenantID envelope
        modelClass := fc.requestedModelClass envelope.model, decision })

def route (r : Request) : Prog gatewayCalls (Except Reply Routed) :=
  andThen (fc.classify r) fun x =>
  andThen (fc.selectExplicit x) fun x =>
  andThen (fc.selectGPU (fc.selectModel x)) fc.selectCPU

/-! ## After the reservation -/

def upstreamRequest (r : Request) (x : Routed) (target : InferenceTarget) : UpstreamRequest where
  url := target.baseURL ++ r.path
  body := forwardedBody x.members x.physicalModel
  accept := r.accept
  requestID := x.requestID
  targetCluster := x.decision.targetCluster
  routingReason := x.decision.reason
  authorization := if target.apiToken == "" then none else some ("Bearer " ++ target.apiToken)

def proxy (x : Routed) (target : InferenceTarget) (resp : UpstreamResponse) : Reply :=
  .proxied resp.statusCode
    (copiedHeaders resp.header ++ [("X-Request-ID", x.requestID),
      ("X-Fleet-Routed-To", x.decision.targetCluster),
      ("X-Fleet-Routing-Reason", x.decision.reason), ("X-Fleet-Actual-Model", x.physicalModel),
      ("X-Fleet-Data-Plane", target.provider.text)]) resp.body

def respond (x : Routed) (target : InferenceTarget) :
    Except UpstreamError UpstreamResponse → Reply
  | .error err =>
    if err.timeout then
      .inferenceError 504 "upstream_timeout" (.sentinel "inference upstream timed out")
        x.requestID none
    else
      .inferenceError 502 "upstream_unavailable" (.sentinel "inference upstream failed")
        x.requestID none
  | .ok resp =>
    let unavailable : Reply :=
      noCapacity (.sentinel "the selected provider is unavailable") x.requestID
    if target.provider = .llmdRouter ∧ 200 ≤ resp.statusCode ∧ resp.statusCode < 300 then
      match fc.routerClusterForUpstream
          ((lookupKey "X-Fleet-Router-Upstream" resp.header).getD "") x.physicalModel with
      | .error _ => .inferenceError 502 "routing_evidence_mismatch" (.sentinel
          "Router execution identity did not match the fleet-qualified provider set") x.requestID none
      | .ok actualCluster =>
        proxy { x with decision := { x.decision with targetCluster := actualCluster } } target resp
    else if resp.statusCode = 503 then unavailable
    else proxy x target resp

def retry (r : Request) (x : Routed) (target : InferenceTarget)
    (first : Except UpstreamError UpstreamResponse) : Prog gatewayCalls Reply :=
  (fc.nextHealthyProviderExcluding x.physicalModel x.decision.targetCluster).bind fun cluster =>
    if cluster == "" then .done (fc.respond x target first)
    else
      .call (.upstream { upstreamRequest r x target with targetCluster := cluster }) fun second =>
        .done (fc.respond { x with decision :=
          { x.decision with targetCluster := cluster, reason := "health-failover" } } target second)

def serve (r : Request) (x : Routed) : Prog gatewayCalls Reply :=
  match fc.inferenceTarget x.physicalModel with
  | .error err => .done (.inferenceError 503 "gateway_not_configured" err x.requestID none)
  | .ok target =>
    .call (.newRequest (target.baseURL ++ r.path)) fun created =>
    if !created then .done (.inferenceError 500 "proxy_error"
      (.sentinel "could not create upstream request") x.requestID none)
    else
      .call (.upstream (upstreamRequest r x target)) fun first =>
      .call .contextDone fun canceled =>
      if !canceled && x.physicalModel == fc.cpuPhysicalModel && retryableInferenceFailure first then
        fc.retry r x target first
      else .done (fc.respond x target first)

end FleetController

/-! ## The handler -/

section Handler
variable {τ : Type} (tx : τ)

abbrev inferenceCalls (τ : Type) : Signature := (statements Row τ).sum gatewayCalls

def reservationResult (profile : TenantProfile) (tokens : Int) (r : QuotaReservation) :
    QuotaCheckResult :=
  let remaining := int64 (profile.tokenLimit - r.tokensReserved)
  let remainingBudget := formatBudget (int64 (profile.budgetCents - r.budgetSpent))
  if r.allowed then ⟨true, remaining, remainingBudget, ""⟩
  else ⟨false, remaining, remainingBudget,
    if int64 (r.tokensReserved + tokens) > profile.tokenLimit then
      tokenLimitExceeded tokens remaining
    else if int64 (r.budgetSpent + int64 (tokens * costPerToken)) > profile.budgetCents then
      budgetExceeded
    else "concurrent request limit exceeded"⟩

theorem reservationResult_allowed (profile : TenantProfile) (tokens : Int) (r : QuotaReservation) :
    (reservationResult profile tokens r).allowed = r.allowed := by
  unfold reservationResult
  cases hallowed : r.allowed <;> simp

/-- `DefaultQuotaEnforcer.ReserveQuota` over the shared tables. -/
def reserveShared (tenantID : String) (tokens : Int) :
    Prog (inferenceCalls τ) (Except Error QuotaCheckResult) :=
  .call (.inr (.profile tenantID)) fun profile =>
  .call (.inr .now) fun now =>
  (PGTenantRepository.reserveQuota tx tenantID (now.utc.truncate Time.minute) tokens
    profile.tokenLimit profile.concurrentLimit (int64 (tokens * costPerToken))
    profile.budgetCents).inl.bind fun
    | .error err => .done (.error err)
    | .ok reservation => .done (.ok (reservationResult profile tokens reservation))

def reserve (kind : EnforcerKind) (tenantID : String) (check : QuotaCheckRequest) :
    Prog (inferenceCalls τ) (Except Error QuotaCheckResult) :=
  if tenantID == "" then .done (.ok ⟨true, 0, "", ""⟩)
  else match kind with
    | .absent => .done (.ok ⟨true, 0, "", ""⟩)
    | .shared => reserveShared tx tenantID check.tokensRequested
    | .unshared => .call (.inr (.reserveLocal tenantID check)) fun result => .done (.ok result)
    | .other => .call (.inr (.checkQuota tenantID check)) .done

def release (kind : EnforcerKind) (tenantID : String) : Prog (inferenceCalls τ) Unit :=
  if tenantID != "" && kind = .shared then
    (PGTenantRepository.releaseQuota tenantID).inl.bind fun _ => .done ()
  else .done ()

variable (fc : FleetController) (r : Request)

def handleReserved (x : Routed) : Prog (inferenceCalls τ) Reply :=
  (reserve tx fc.quotaEnforcer x.tenantID
    ⟨x.envelope.requestedTokens, x.physicalModel, x.decision.targetCluster⟩).bind fun
  | .error _ => .done (.inferenceError 503 "quota_unavailable"
      (.sentinel "tenant quota service is unavailable") x.requestID none)
  | .ok result =>
    if !result.allowed then .done (.inferenceError 429 "quota_exceeded" (.sentinel result.reason)
      x.requestID (some "60"))
    else (fc.serve r x).inr.bind fun reply =>
      (release fc.quotaEnforcer x.tenantID).bind fun _ => .done reply

def handleAcquired : Prog (inferenceCalls τ) Reply :=
  (fc.route r).inr.bind fun
  | .error reply => .done reply
  | .ok x => handleReserved tx fc r x

def handleInference : Prog (inferenceCalls τ) Reply :=
  if !fc.hasSlots then handleAcquired tx fc r
  else .call (.inr .acquireSlot) fun
    | .acquired => (handleAcquired tx fc r).bind fun reply =>
      .call (.inr .releaseSlot) fun _ => .done reply
    | .canceled => .done .nothing
    | .full => (requestID r).inr.bind fun requestID =>
      .done (.inferenceError 429 "concurrency_limit"
        (.sentinel "inference gateway is at capacity") requestID (some "1"))

end Handler
/-! ## What routing leaves alone -/

def isUpstream : GatewayCall → Bool
  | .upstream _ => true
  | _ => false

def isRouting : GatewayCall → Bool
  | .upstream _ | .reserveLocal _ _ => false
  | _ => true

def isSelecting : GatewayCall → Bool
  | .unixNano | .classifyPrompt _ _ | .lookup _ | .sessionTier _ | .setSessionTier _ _ | .bind _ _
  | .unbind _ | .inferenceClusterHealth | .routingPolicy _ | .routeCounter => true
  | _ => false

def Keeps {α : Type} (R : α → Prop) : Except Reply α → Prop
  | .ok a => R a
  | .error _ => True

structure FromBody (r : Request) (x : Routed) : Prop where
  decoded : ∃ text, FleetController.decodeBody r = .ok (x.envelope, x.members, text)
  tenant : x.tenantID = r.tenantID x.envelope

abbrev Quiet {α : Type} (R : α → Prop) (p : Prog gatewayCalls α) (past : List (Event gatewayCalls)) :
    Prop :=
  p.Meets (fun _ c => isRouting c = true) (fun _ a => R a) past

abbrev Selects {α : Type} (R : α → Prop) (p : Prog gatewayCalls α)
    (past : List (Event gatewayCalls)) : Prop :=
  p.Meets (fun _ c => isSelecting c = true) (fun _ a => R a) past

theorem not_isUpstream_of_isRouting {c : GatewayCall} (h : isRouting c = true) :
    isUpstream c = false := by
  cases c <;> first | rfl | cases h

section Selects
variable {fc : FleetController} {r : Request} {past : List (Event gatewayCalls)}

theorem Selects.bind {α β : Type} {R : α → Prop} {R' : β → Prop} {p : Prog gatewayCalls α}
    {next : α → Prog gatewayCalls β} (hp : Selects R p past)
    (hnext : ∀ a past, R a → Selects R' (next a) past) : Selects R' (p.bind next) past := by
  apply (Prog.meets_bind p next past).mpr
  exact hp.imp (fun past a ha => hnext a past ha)

theorem Selects.andThen {α β : Type} {R : α → Prop} {R' : β → Prop}
    {p : Prog gatewayCalls (Except Reply α)} {next : α → Prog gatewayCalls (Except Reply β)}
    (hp : Selects (Keeps R) p past) (hnext : ∀ a past, R a → Selects (Keeps R') (next a) past) :
    Selects (Keeps R') (FleetController.andThen p next) past := by
  apply hp.bind
  intro result past hresult
  cases result with
  | error reply => trivial
  | ok a => exact hnext a past hresult

theorem requestID_selects : Selects (fun _ => True) (requestID r) past := by
  unfold requestID
  dsimp only
  split_ifs
  · trivial
  · exact ⟨rfl, fun _ => trivial⟩

theorem nextHealthyProvider_selects (model excluded : String) :
    Selects (fun _ => True) (fc.nextHealthyProviderExcluding model excluded) past := by
  refine ⟨rfl, fun health => ?_⟩
  dsimp only
  split_ifs
  · trivial
  · exact ⟨rfl, fun _ => trivial⟩

theorem serve_meets {x : Routed} {P : GatewayCall → Prop} (hnew : ∀ url, P (.newRequest url))
    (hdone : P .contextDone) (hselects : ∀ c, isSelecting c = true → P c)
    (hsends : ∀ u, u.body = forwardedBody x.members x.physicalModel → P (.upstream u)) :
    (fc.serve r x).Meets (fun _ c => P c) (fun _ _ => True) past := by
  rw [FleetController.serve]
  cases fc.inferenceTarget x.physicalModel with
  | error err => trivial
  | ok target =>
    refine ⟨hnew _, fun created => ?_⟩
    dsimp only
    split_ifs
    · trivial
    · refine ⟨hsends _ rfl, fun first => ⟨hdone, fun canceled => ?_⟩⟩
      dsimp only
      split_ifs
      · apply (Prog.meets_bind _ _ _).mpr
        refine (nextHealthyProvider_selects _ _).mono (fun _ c hc => hselects c hc) ?_
        intro past cluster _
        split_ifs
        · trivial
        · exact ⟨hsends _ rfl, fun _ => trivial⟩
      · trivial

theorem routeByPolicy_selects (req : RouteRequest) (result : Option ClassifyResult)
    (escalated : Bool) : Selects (fun _ => True) (fc.routeByPolicy req result escalated) past := by
  refine ⟨rfl, fun health => ⟨rfl, fun policy => ?_⟩⟩
  dsimp only
  cases evaluate (fc.routingRequest req result) health (policy.getD {}) with
  | error err => trivial
  | ok decision =>
    by_cases hsession : fc.usesSession req.sessionID = true
    · dsimp only
      rw [if_pos hsession]
      cases result with
      | none => exact ⟨rfl, fun _ => trivial⟩
      | some label => exact ⟨rfl, fun _ => ⟨rfl, fun _ => trivial⟩⟩
    · dsimp only
      rw [if_neg hsession]
      trivial

theorem classifyAndRoute_selects (req : RouteRequest) :
    Selects (fun _ => True) (fc.classifyAndRoute req) past := by
  refine ⟨rfl, fun result => ?_⟩
  split_ifs
  · refine ⟨rfl, fun bound => ?_⟩
    cases bound with
    | none => exact routeByPolicy_selects req result false
    | some cluster =>
      cases result with
      | none => trivial
      | some label =>
        refine ⟨rfl, fun tier => ?_⟩
        dsimp only
        split_ifs
        · exact ⟨rfl, fun _ => routeByPolicy_selects req _ true⟩
        · trivial
  · exact routeByPolicy_selects req result false

theorem rebind_selects (sessionID clusterID : String) :
    Selects (fun _ => True) (fc.rebind sessionID clusterID) past := by
  unfold FleetController.rebind
  split_ifs
  · exact ⟨rfl, fun _ => ⟨rfl, fun _ => trivial⟩⟩
  · trivial

theorem moveToProvider_selects {x : Routed} (hx : FromBody r x) (model missing reason : String) :
    Selects (Keeps (FromBody r)) (fc.moveToProvider x model missing reason) past := by
  apply (nextHealthyProvider_selects model "").bind
  intro provider past _
  split_ifs
  · trivial
  · exact (rebind_selects _ _).bind fun _ _ _ => ⟨hx.decoded, hx.tenant⟩

theorem classify_selects : Selects (Keeps (FromBody r)) (fc.classify r) past := by
  unfold FleetController.classify
  split
  · trivial
  · next envelope members text hdecoded =>
    apply requestID_selects.bind
    intro requestID past _
    apply (classifyAndRoute_selects _).bind
    intro decision past _
    cases decision with
    | error err => trivial
    | ok decision => exact ⟨⟨text, hdecoded⟩, rfl⟩

theorem route_selects : Selects (Keeps (FromBody r)) (fc.route r) past := by
  apply classify_selects.andThen
  intro x past hx
  refine Selects.andThen (R := FromBody r) ?_ ?_
  · unfold FleetController.selectExplicit
    split_ifs
    · exact moveToProvider_selects hx _ _ _
    · exact hx
  · intro x past hx
    refine Selects.andThen (R := FromBody r) ?_ ?_
    · have hselected : FromBody r (fc.selectModel x) := ⟨hx.decoded, hx.tenant⟩
      unfold FleetController.selectGPU
      by_cases hgpu : ((fc.selectModel x).physicalModel != fc.cpuPhysicalModel) = true
      · rw [if_pos hgpu]
        exact moveToProvider_selects hselected _ _ _
      · rw [if_neg hgpu]
        exact hselected
    · intro x past hx
      unfold FleetController.selectCPU
      split_ifs
      · exact moveToProvider_selects hx _ _ _
      · exact hx

end Selects

theorem isRouting_of_isSelecting {c : GatewayCall} (h : isSelecting c = true) :
    isRouting c = true := by
  cases c <;> first | rfl | cases h

theorem Selects.quiet {α : Type} {R : α → Prop} {p : Prog gatewayCalls α}
    {past : List (Event gatewayCalls)} (h : Selects R p past) : Quiet R p past :=
  h.mono (fun _ _ hc => isRouting_of_isSelecting hc) fun _ _ ha => ha

theorem requestID_quiet {r : Request} {past : List (Event gatewayCalls)} :
    Quiet (fun _ => True) (requestID r) past :=
  requestID_selects.quiet

theorem route_quiet {fc : FleetController} {r : Request} {past : List (Event gatewayCalls)} :
    Quiet (Keeps (FromBody r)) (fc.route r) past :=
  route_selects.quiet

/-! ## The quota calls -/

section Charging
variable {τ : Type} {tx : τ} {past : List (Event (inferenceCalls τ))}

def isCharging : (inferenceCalls τ).Call → Bool
  | .inl _ => true
  | .inr (.profile _) | .inr .now | .inr (.reserveLocal _ _) | .inr (.checkQuota _ _) => true
  | .inr _ => false

theorem charging_inl {α : Type} (p : Prog (statements Row τ) α) :
    (p.inl (T := gatewayCalls)).Meets (fun _ c => isCharging c = true) (fun _ _ => True) past :=
  Prog.Meets.inl (J := fun _ => True) (fun _ _ _ h => h)
    (.of_forall (G := fun _ _ => True) (Q := fun _ _ => True) (fun _ _ => trivial)
      (fun _ _ => trivial) p _) trivial
    (fun _ _ _ _ => rfl) (fun _ _ _ _ => trivial)

theorem reserve_charging (kind : EnforcerKind) (tenantID : String) (check : QuotaCheckRequest) :
    (reserve tx kind tenantID check).Meets (fun _ c => isCharging c = true) (fun _ _ => True)
      past := by
  rw [reserve.eq_def]
  split_ifs
  · trivial
  · cases kind with
    | absent => trivial
    | shared =>
      refine ⟨rfl, fun profile => ⟨rfl, fun now => ?_⟩⟩
      apply (Prog.meets_bind _ _ _).mpr
      refine (charging_inl _).imp ?_
      intro past result _
      cases result <;> trivial
    | unshared => exact ⟨rfl, fun _ => trivial⟩
    | other => exact ⟨rfl, fun _ => trivial⟩

theorem release_charging (kind : EnforcerKind) (tenantID : String) :
    (release kind tenantID).Meets (fun _ (c : (inferenceCalls τ).Call) => isCharging c = true)
      (fun _ _ => True) past := by
  rw [release]
  split_ifs
  · apply (Prog.meets_bind _ _ _).mpr
    exact (charging_inl _).imp fun _ _ _ => trivial
  · trivial

end Charging

/-- The handler, from its parts: what holds of a routed request when it is reserved for and when
it is served, and what has held since at the end. -/
theorem handleInference_ends {τ : Type} {tx : τ} {fc : FleetController} {r : Request}
    {G : List (Event (inferenceCalls τ)) → (inferenceCalls τ).Call → Prop}
    {A Q : List (Event (inferenceCalls τ)) → Prop}
    {J K : Routed → List (Event (inferenceCalls τ)) → Prop} {B : Routed → Prop}
    (hstart : A [] ∧ ∀ slot, A [⟨.inr .acquireSlot, slot⟩])
    (hslots : ∀ past, G past (.inr .acquireSlot) ∧ G past (.inr .releaseSlot) ∧
      G past (.inr .unixNano))
    (hrefused : ∀ slot, Q [⟨.inr .acquireSlot, slot⟩] ∧
      ∀ n, Q [⟨.inr .unixNano, n⟩, ⟨.inr .acquireSlot, slot⟩])
    (hroute : ∀ past, A past →
      (fc.route r).inr.Meets G (fun past a => Q past ∧ Keeps (fun x => J x past) a) past)
    (hreserve : ∀ x past, J x past →
      (reserve tx fc.quotaEnforcer x.tenantID
        ⟨x.envelope.requestedTokens, x.physicalModel, x.decision.targetCluster⟩).Meets G
        (fun past result => Q past ∧
          ∀ granted, result = .ok granted → granted.allowed = true → K x past) past)
    (hserve : ∀ x past, K x past → (fc.serve r x).inr.Meets G (fun past _ => Q past) past)
    (hrelease : ∀ x past, B x → Q past →
      (release fc.quotaEnforcer x.tenantID).Meets G (fun past _ => Q past) past)
    (hkeeps : ∀ x past, J x past → B x)
    (hreleased : ∀ past x, Q past → Q (⟨.inr .releaseSlot, x⟩ :: past)) :
    (handleInference tx fc r).Meets G (fun past _ => Q past) [] := by
  have hacquired (past : List (Event (inferenceCalls τ))) (hpast : A past) :
      (handleAcquired tx fc r).Meets G (fun past _ => Q past) past := by
    apply (Prog.meets_bind _ _ _).mpr
    refine (hroute past hpast).imp ?_
    intro past result hresult
    cases result with
    | error reply => exact hresult.1
    | ok x =>
      have hx : B x := hkeeps x past hresult.2
      apply (Prog.meets_bind _ _ _).mpr
      refine (hreserve x past hresult.2).imp ?_
      intro past result hgranted
      cases result with
      | error err => exact hgranted.1
      | ok granted =>
        dsimp only
        split_ifs with hdenied
        · exact hgranted.1
        · apply (Prog.meets_bind _ _ _).mpr
          refine (hserve x past (hgranted.2 granted rfl (by simpa using hdenied))).imp ?_
          intro past reply hserved
          apply (Prog.meets_bind _ _ _).mpr
          exact (hrelease x past hx hserved).imp fun _ _ h => h
  rw [handleInference]
  split_ifs
  · exact hacquired [] hstart.1
  · refine ⟨(hslots []).1, fun slot => ?_⟩
    cases slot with
    | acquired =>
      apply (Prog.meets_bind _ _ _).mpr
      refine (hacquired _ (hstart.2 .acquired)).imp ?_
      exact fun past _ hpast => ⟨(hslots past).2.1, fun _ => hreleased past _ hpast⟩
    | canceled => exact (hrefused .canceled).1
    | full =>
      apply (Prog.meets_bind _ _ _).mpr
      rw [requestID]
      dsimp only
      split_ifs
      · exact (hrefused .full).1
      · exact ⟨(hslots _).2.2, fun n => (hrefused .full).2 n⟩

end FleetLlmd.Inference
