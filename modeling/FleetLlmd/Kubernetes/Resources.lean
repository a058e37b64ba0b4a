import FleetLlmd.Intents.Codec
import FleetLlmd.Intents.Service
import FleetLlmd.Kubernetes.Collection

/-!
# FleetIntent and FleetOperation resources

The v1beta1 resources of `pkg/apis/fleet/v1beta1` and the projections between them
and the records of the service, from `pkg/intents/kubernetes_repository.go`.
Receipts, providers and authorizations have the same fields on both sides, and so
have journal entries, whose actor is the message of the resource; they are one
type here.
-/

namespace FleetLlmd.Intents
open Go Json Kubernetes

section Names

def isLabelChar (c : Char) : Bool :=
  ('a' ≤ c && c ≤ 'z') || ('0' ≤ c && c ≤ '9') || c == '-'

/-- `invalidDNSLabel.ReplaceAllString(name, "-")`; `inside` tells that the current run has its
hyphen already. -/
def replaceInvalid : Bool → List Char → List Char
  | _, [] => []
  | inside, c :: cs =>
    if isLabelChar c then c :: replaceInvalid false cs
    else if inside then replaceInvalid true cs
    else '-' :: replaceInvalid true cs

def trimHyphens (cs : List Char) : List Char := trimChars (· == '-') cs

def orResource (cs : List Char) : List Char := if cs.isEmpty then chars "resource" else cs

def resourceName (id : String) : String :=
  let original := trimSpace id
  let name := orResource (trimHyphens (replaceInvalid false (chars (toLower original))))
  if name ≠ chars original ∨ 63 < name.length then
    let short := orResource (if 46 < name.length then trimHyphens (name.take 46) else name)
    String.ofList (short ++ '-' :: chars (hexEncode ((sha256 (utf8 original)).take 8)))
  else String.ofList name

def idempotencyHash (key : String) : String := hexEncode ((sha256 (utf8 key)).take 16)

def firstNonEmpty : List String → String
  | [] => ""
  | value :: values => if blank value then firstNonEmpty values else trimSpace value

def originalIDAnnotation : String := "fleet.llm-d.ai/original-id"
def originalIntentIDAnnotation : String := "fleet.llm-d.ai/original-intent-id"
def idempotencyHashLabel : String := "fleet.llm-d.ai/idempotency-hash"
def restPayloadParameter : String := "restPayload"
def apiVersion : String := "fleet.llm-d.ai/v1beta1"

def originalResourceID (metadata : ObjectMeta) (key fallback : String) : String :=
  let value := trimSpace ((lookupKey key metadata.annotations).getD "")
  if value ≠ "" then value else fallback

def timeOrZero (value : Option Time) : Time := value.getD .zero

end Names

section Resources

structure NamespacedObjectReference where
  apiVersion : String
  kind : String
  name : String

structure IntentSpec where
  actionClass : String
  targetRef : NamespacedObjectReference
  /-- `decisionPackageRef`: address and digest. -/
  decisionPackageURI : String
  decisionPackageSHA256 : String
  /-- `proposer`: subject, attestation reference and ceiling. -/
  proposerSubject : String
  attestationRef : String
  ceiling : String
  evidence : List EvidenceDigest
  expiresAt : Time
  correlationID : String
  idempotencyKey : String
  parameters : List (String × Bytes)

structure IntentResourceStatus where
  correlationID : String
  phase : OperationState
  operationRefs : List String
  acceptedAt : Option Time

structure OperationSpec where
  intentRef : String
  actionClass : String
  targetRef : NamespacedObjectReference
  planDigest : Option String
  provider : Option ProviderReference
  authorizationRef : Option AuthorizationReference
  idempotencyKey : String

structure OperationResult where
  providerOperationID : String
  observedDigest : String

structure OperationStatus where
  correlationID : String
  phase : OperationState
  transitions : List OperationTransition
  result : Option OperationResult
  ledgerReceipts : List OperationLedgerReceipt
  compensationRef : Option String

abbrev IntentResource := Resource IntentSpec IntentResourceStatus
abbrev OperationResource := Resource OperationSpec OperationStatus

def IntentResourceStatus.initial : IntentResourceStatus := ⟨"", .empty, [], none⟩
def OperationStatus.initial : OperationStatus := ⟨"", .empty, [], none, [], none⟩

end Resources

section Projections

def operationAcceptedAt (operation : FleetOperation) : Option Time :=
  match operation.transitions.find? fun t => t.state = .accepted with
  | some t => some t.atTime
  | none => if operation.state = .accepted then some operation.updatedAt else none

def operationStatus (operation : FleetOperation) : OperationStatus where
  correlationID := operation.correlationID
  phase := operation.state
  transitions := operation.transitions.map fun t =>
    { t with reason := firstNonEmpty [t.reason, "state transition"] }
  result := if blank operation.observedDigest then none else some ⟨"", operation.observedDigest⟩
  ledgerReceipts := operation.ledgerReceipts
  compensationRef := none

def mergedOperationStatus (existing : OperationStatus) (operation : FleetOperation) :
    OperationStatus :=
  let next := operationStatus operation
  let result := existing.result.or next.result
  { next with
    correlationID := operation.correlationID
    result :=
      if blank operation.observedDigest then result
      else some { result.getD ⟨"", ""⟩ with observedDigest := operation.observedDigest }
    compensationRef := existing.compensationRef }

def operationFromResource (resource : OperationResource) : FleetOperation :=
  let id := originalResourceID resource.metadata originalIDAnnotation resource.metadata.name
  let created := timeOrZero resource.metadata.creationTimestamp
  { id := id
    objectUID := if blank resource.metadata.uid then id else resource.metadata.uid
    intentID := originalResourceID resource.metadata originalIntentIDAnnotation
      resource.spec.intentRef
    correlationID := resource.status.correlationID
    idempotencyKey := resource.spec.idempotencyKey
    actionClass := resource.spec.actionClass
    state := resource.status.phase
    planDigest := resource.spec.planDigest.getD ""
    provider := resource.spec.provider
    observedDigest := (resource.status.result.map (·.observedDigest)).getD ""
    authorizationRef := resource.spec.authorizationRef
    ledgerEntryID := (resource.status.ledgerReceipts.getLast?.map (·.entryID)).getD ""
    ledgerReceipts := resource.status.ledgerReceipts
    createdAt := created
    updatedAt := resource.status.transitions.foldl
      (fun updated t => if t.atTime.after updated then t.atTime else updated) created
    transitions := resource.status.transitions }

def desiredSpec (spec : OperationSpec) (operation : FleetOperation) : OperationSpec :=
  { spec with
    actionClass := if blank operation.actionClass then spec.actionClass else operation.actionClass
    planDigest := if blank operation.planDigest then spec.planDigest else some operation.planDigest
    provider := operation.provider.or spec.provider
    authorizationRef := operation.authorizationRef.or spec.authorizationRef }

def intentType (action : String) : IntentType :=
  if action = "fleet.prewarm" ∨ action = "fleet.pre-warm" then .preWarm
  else if action = "fleet.shed_load" ∨ action = "fleet.shed-load" then .shedLoad
  else if action = "fleet.kv_transfer" ∨ action = "fleet.kv-transfer" then .kvTransfer
  else .ofText (trimPrefix action "fleet.")

def intentFromResource (resource : IntentResource) : FleetIntent :=
  { FleetIntent.empty with
    id := originalResourceID resource.metadata originalIDAnnotation resource.metadata.name
    correlationID := resource.spec.correlationID
    idempotencyKey := resource.spec.idempotencyKey
    type := intentType resource.spec.actionClass
    pool := resource.spec.targetRef.name
    decisionPackageRef := resource.spec.decisionPackageURI
    decisionPackageDigest := resource.spec.decisionPackageSHA256
    expiresAt := some resource.spec.expiresAt
    proposer := some ⟨resource.spec.proposerSubject, resource.spec.attestationRef,
      resource.spec.ceiling, none⟩
    createdAt := timeOrZero resource.metadata.creationTimestamp
    evidence := resource.spec.evidence }

def normalizedIdempotencyKey (intent : FleetIntent) (operation : FleetOperation) :
    Except Error String :=
  let intentKey := trimSpace intent.idempotencyKey
  let operationKey := trimSpace operation.idempotencyKey
  if intentKey ≠ "" ∧ operationKey ≠ "" ∧ intentKey ≠ operationKey then
    .error (.errorf "intent and operation idempotency keys must match" [])
  else if intentKey ≠ "" then .ok intentKey
  else if operationKey ≠ "" then .ok operationKey
  else if blank intent.id then
    .error (.errorf "idempotency key or stable intent ID is required" [])
  else .ok ("legacy-intent:" ++ intent.id)

/-- `time.Duration(max(intent.HorizonSeconds, 300)) * time.Second`, which wraps around. -/
def horizon (intent : FleetIntent) : Int :=
  let nanos := max intent.horizonSeconds 300 * 1000000000
  (nanos + 9223372036854775808) % 18446744073709551616 - 9223372036854775808

/-- `now` is the creation time of the intent, or the current time if it has none. -/
def toIntentResource (intent : FleetIntent) (operation : FleetOperation) (now : Time) :
    Except Error IntentResource :=
  intent.marshal.map fun payload =>
    let proposer := (intent.proposer.map fun p => (p.subject, p.authorityRef, p.maxAction)).getD
      ("legacy-v1-client", "compat://v1", actionClass intent.type)
    { metadata :=
        { name := resourceName intent.id
          uid := ""
          resourceVersion := 0
          creationTimestamp := none
          labels := [(idempotencyHashLabel, idempotencyHash intent.idempotencyKey)]
          annotations := [.mk originalIDAnnotation intent.id] }
      spec :=
        { actionClass := actionClass intent.type
          targetRef := ⟨apiVersion, "FleetInferencePool",
            firstNonEmpty [intent.pool, intent.model, "unspecified"]⟩
          decisionPackageURI :=
            if intent.decisionPackageRef = "" then "compat://v1/intents/" ++ intent.id
            else intent.decisionPackageRef
          decisionPackageSHA256 :=
            if validSHA256 intent.decisionPackageDigest then intent.decisionPackageDigest
            else hexEncode (sha256 payload)
          proposerSubject := proposer.1
          attestationRef := proposer.2.1
          ceiling := proposer.2.2
          evidence := intent.evidence
          expiresAt := match intent.expiresAt with
            | some t => t.utc
            | none => ⟨now.nanos + horizon intent, 0⟩
          correlationID := intent.correlationID
          idempotencyKey := intent.idempotencyKey
          parameters := [(restPayloadParameter, payload)] }
      status :=
        { correlationID := intent.correlationID
          phase := operation.state
          operationRefs := [resourceName operation.id]
          acceptedAt := operationAcceptedAt operation } }

def toOperationResource (operation : FleetOperation) (intentResource : IntentResource) :
    OperationResource where
  metadata :=
    { name := resourceName operation.id
      uid := ""
      resourceVersion := 0
      creationTimestamp := none
      labels := [(idempotencyHashLabel, idempotencyHash operation.idempotencyKey)]
      annotations := [.mk originalIDAnnotation operation.id,
        .mk originalIntentIDAnnotation operation.intentID] }
  spec :=
    { intentRef := intentResource.metadata.name
      actionClass := firstNonEmpty [operation.actionClass, intentResource.spec.actionClass]
      targetRef := intentResource.spec.targetRef
      planDigest := if blank operation.planDigest then none else some operation.planDigest
      provider := operation.provider
      authorizationRef := operation.authorizationRef
      idempotencyKey := operation.idempotencyKey }
  status := operationStatus operation

end Projections
end FleetLlmd.Intents
