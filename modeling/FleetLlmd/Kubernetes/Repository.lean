import FleetLlmd.Intents.Repository
import FleetLlmd.Kubernetes.Resources

/-!
# The Kubernetes repository

`pkg/intents/kubernetes_repository.go`: every method is a program over requests to
the API server. A request that fails leaves the server as it is; which requests fail
is decided from outside, one outcome per request. The service over this repository
is the service program with each of its repository calls carried out by the method.
-/

namespace FleetLlmd.Intents
open Go Json Ledger Effect Kubernetes

inductive ApiCall where
  | postIntent (resource : IntentResource)
  | postOperation (resource : OperationResource)
  | getIntent (name : String)
  | getOperation (name : String)
  | listOperations (idempotencyHash : String)
  | putOperation (name : String) (resource : OperationResource)
  | putOperationStatus (name : String) (resource : OperationResource)
  | putIntentStatus (name : String) (resource : IntentResource)
  | deleteIntent (name : String)
  | deleteOperation (name : String)
  | now
  | timeNow
  | randRead
  | verifyProof (entryHash entryType : String)
  | recordProof (decision : FleetDecision)

abbrev ApiCall.Answer : ApiCall → Type
  | .postIntent _ | .getIntent _ | .putIntentStatus _ _ => Except Failure IntentResource
  | .postOperation _ | .getOperation _ | .putOperation _ _ | .putOperationStatus _ _ =>
    Except Failure OperationResource
  | .listOperations _ => Except Failure (List OperationResource)
  | .deleteIntent _ | .deleteOperation _ => Except Failure Unit
  | .now | .timeNow => Time
  | .randRead => Option Bytes
  | .verifyProof _ _ => Except Error (Option ProofVerification)
  | .recordProof _ => Except Error (Option ProofReceipt)

abbrev apiCalls : Signature := ⟨ApiCall, ApiCall.Answer⟩

abbrev ApiAction (α : Type) := Prog apiCalls α

def requestError : Failure → Error
  | .status code body =>
    if code = 404 then errNotFound
    else .errorf "Kubernetes API returned %d: %s" [String.ofList (natText code), trimSpace body]
  | .transport err => err

def settle {α : Type} : Except Failure α → Except Error α
  | .ok a => .ok a
  | .error failure => .error (requestError failure)

@[simp] theorem settle_ok {α : Type} (a : α) : settle (.ok a) = .ok a := rfl
@[simp] theorem settle_error {α : Type} (failure : Failure) :
    settle (.error failure : Except Failure α) = .error (requestError failure) := rfl

def postIntentRequest (resource : IntentResource) : ApiAction (Except Error IntentResource) :=
  (Prog.perform (S := apiCalls) (.postIntent resource)).bind fun answer => .done (settle answer)
def postOperationRequest (resource : OperationResource) :
    ApiAction (Except Error OperationResource) :=
  (Prog.perform (S := apiCalls) (.postOperation resource)).bind fun answer => .done (settle answer)
def getIntentRequest (name : String) : ApiAction (Except Error IntentResource) :=
  (Prog.perform (S := apiCalls) (.getIntent name)).bind fun answer => .done (settle answer)
def getOperationRequest (name : String) : ApiAction (Except Error OperationResource) :=
  (Prog.perform (S := apiCalls) (.getOperation name)).bind fun answer => .done (settle answer)
def listOperationsRequest (hash : String) : ApiAction (Except Error (List OperationResource)) :=
  (Prog.perform (S := apiCalls) (.listOperations hash)).bind fun answer => .done (settle answer)
def putOperationRequest (name : String) (resource : OperationResource) :
    ApiAction (Except Error OperationResource) :=
  (Prog.perform (S := apiCalls) (.putOperation name resource)).bind fun answer =>
    .done (settle answer)
def putOperationStatusRequest (name : String) (resource : OperationResource) :
    ApiAction (Except Error OperationResource) :=
  (Prog.perform (S := apiCalls) (.putOperationStatus name resource)).bind fun answer =>
    .done (settle answer)
def putIntentStatusRequest (name : String) (resource : IntentResource) :
    ApiAction (Except Error IntentResource) :=
  (Prog.perform (S := apiCalls) (.putIntentStatus name resource)).bind fun answer =>
    .done (settle answer)
def deleteIntentRequest (name : String) : ApiAction (Except Error Unit) :=
  (Prog.perform (S := apiCalls) (.deleteIntent name)).bind fun answer => .done (settle answer)
def deleteOperationRequest (name : String) : ApiAction (Except Error Unit) :=
  (Prog.perform (S := apiCalls) (.deleteOperation name)).bind fun answer => .done (settle answer)

@[simp] theorem request_bind {α β : Type} (c : ApiCall) (f : c.Answer → β) (k : β → ApiAction α) :
    (Prog.bind (α := no_index c.Answer) (Prog.perform (S := apiCalls) c) fun answer =>
      .done (f answer)).bind k = .call c fun answer => k (f answer) := rfl

namespace KubernetesRepository

def reconciled (intent : FleetIntent) (operation : FleetOperation) :
    Except Error (FleetIntent × FleetOperation) :=
  if blank intent.id || blank operation.id then
    .error (.errorf "intent and operation IDs must not be empty" [])
  else if operation.intentID ≠ "" ∧ operation.intentID ≠ intent.id then
    .error (.errorf "operation intent ID %q does not match intent ID %q"
      [operation.intentID, intent.id])
  else
    let correlationID := if intent.correlationID = "" then intent.id else intent.correlationID
    if operation.correlationID ≠ "" ∧ operation.correlationID ≠ correlationID then
      .error (.errorf "operation correlation ID %q does not match intent correlation ID %q"
        [operation.correlationID, correlationID])
    else
      (normalizedIdempotencyKey { intent with correlationID := correlationID } operation).map
        fun key =>
          ({ intent with correlationID := correlationID, idempotencyKey := key },
            { operation with
              intentID := intent.id
              correlationID := correlationID
              idempotencyKey := key })

def cleanupCreate (intentName operationName : String) : ApiAction Unit := do
  let _ ← deleteOperationRequest operationName
  let _ ← deleteIntentRequest intentName
  pure ()

def initializeStatus (intentResource createdIntent : IntentResource)
    (operationResource createdOperation : OperationResource) : ApiAction (Except Error Unit) := do
  match ← putOperationStatusRequest createdOperation.metadata.name
      { createdOperation with status := operationResource.status } with
  | .error err => do
    cleanupCreate createdIntent.metadata.name createdOperation.metadata.name
    pure (.error (.wrapf "initialize FleetOperation status: %w" [] err))
  | .ok _ => do
    match ← putIntentStatusRequest createdIntent.metadata.name
        { createdIntent with status := intentResource.status } with
    | .error err => do
      cleanupCreate createdIntent.metadata.name createdOperation.metadata.name
      pure (.error (.wrapf "initialize FleetIntent status: %w" [] err))
    | .ok _ => pure (.ok ())

def createResources (intentResource : IntentResource) (operationResource : OperationResource) :
    ApiAction (Except Error Unit) := do
  match ← postIntentRequest intentResource with
  | .error err => pure (.error (.wrapf "create FleetIntent: %w" [] err))
  | .ok createdIntent => do
    match ← postOperationRequest operationResource with
    | .error err => do
      let _ ← deleteIntentRequest createdIntent.metadata.name
      pure (.error (.wrapf "create FleetOperation: %w" [] err))
    | .ok createdOperation =>
      initializeStatus intentResource createdIntent operationResource createdOperation

def create (intent : FleetIntent) (operation : FleetOperation) : ApiAction (Except Error Unit) :=
  match reconciled intent operation with
  | .error err => pure (.error err)
  | .ok (intent, operation) => do
    let now ← if intent.createdAt.isZero then Prog.perform (S := apiCalls) .timeNow
      else pure intent.createdAt
    match toIntentResource intent operation now.utc with
    | .error err => pure (.error err)
    | .ok intentResource =>
      createResources intentResource (toOperationResource operation intentResource)

/-- `errors.Join`. -/
def joined : Option Error → Option Error → Except Error Unit
  | none, none => .ok ()
  | some err, none | none, some err => .error (.wrapf "%w" [] err)
  | some first, some second => .error (.wrapv "%v\n%w" [] first second)

def delete (intentID operationID : String) : ApiAction (Except Error Unit) := do
  let operationAnswer ← deleteOperationRequest (resourceName operationID)
  let intentAnswer ← deleteIntentRequest (resourceName intentID)
  pure (joined (failed "delete FleetOperation: %w" operationAnswer)
    (failed "delete FleetIntent: %w" intentAnswer))
where
  failed (format : String) : Except Error Unit → Option Error
    | .error err => some (.wrapf format [] err)
    | .ok () => none

def getIntent (id : String) : ApiAction (Except Error FleetIntent) := do
  match ← getIntentRequest (resourceName id) with
  | .error err => pure (.error err)
  | .ok resource =>
    match lookupKey restPayloadParameter resource.spec.parameters with
    | some raw =>
      match FleetIntent.unmarshal raw with
      | .error err => pure (.error (.wrapf "decode FleetIntent REST projection: %w" [] err))
      | .ok intent => pure (.ok intent)
    | none => pure (.ok (intentFromResource resource))

def getOperation (id : String) : ApiAction (Except Error FleetOperation) := do
  match ← getOperationRequest (resourceName id) with
  | .error err => pure (.error err)
  | .ok resource => pure (.ok (operationFromResource resource))

def findByIdempotencyKey (key : String) : ApiAction (Except Error FleetOperation) :=
  let key := trimSpace key
  if key = "" then pure (.error errNotFound)
  else do
    match ← listOperationsRequest (idempotencyHash key) with
    | .error err => pure (.error err)
    | .ok items =>
      match items.find? fun item => item.spec.idempotencyKey = key with
      | some item => pure (.ok (operationFromResource item))
      | none => pure (.error errNotFound)

def advancedIntent (resource : IntentResource) (operation : FleetOperation) : IntentResource :=
  { resource with
    status :=
      { correlationID := operation.correlationID
        phase := operation.state
        operationRefs :=
          if resource.status.operationRefs.isEmpty then [resourceName operation.id]
          else resource.status.operationRefs
        acceptedAt := resource.status.acceptedAt.or (operationAcceptedAt operation) } }

def updateIntentStatus (intentName : String) (operation : FleetOperation) :
    ApiAction (Except Error Unit) := do
  match ← getIntentRequest intentName with
  | .error err => pure (.error err)
  | .ok resource => do
    match ← putIntentStatusRequest intentName (advancedIntent resource operation) with
    | .error err => pure (.error err)
    | .ok _ => pure (.ok ())

/-- `UpdateOperation` from the write to the status on. -/
def updateStatus (name : String) (resource : OperationResource) (operation : FleetOperation) :
    ApiAction (Except Error Unit) := do
  match ← putOperationStatusRequest name
      { resource with status := mergedOperationStatus resource.status operation } with
  | .error err => pure (.error (.wrapf "update FleetOperation status: %w" [] err))
  | .ok resource => do
    match ← updateIntentStatus resource.spec.intentRef operation with
    | .error err => pure (.error (.wrapf "update FleetIntent status: %w" [] err))
    | .ok () => pure (.ok ())

def updateOperation (operation : FleetOperation) : ApiAction (Except Error Unit) := do
  match ← getOperationRequest (resourceName operation.id) with
  | .error err => pure (.error err)
  | .ok resource => do
    match ← putOperationRequest (resourceName operation.id)
        { resource with spec := desiredSpec resource.spec operation } with
    | .error err => pure (.error (.wrapf "update FleetOperation desired state: %w" [] err))
    | .ok resource => updateStatus (resourceName operation.id) resource operation

def carryOut : (c : ServiceCall) → ApiAction c.Answer
  | .create intent operation => create intent operation
  | .delete intentID operationID => delete intentID operationID
  | .getIntent id => getIntent id
  | .getOperation id => getOperation id
  | .findByIdempotencyKey key => findByIdempotencyKey key
  | .updateOperation operation => updateOperation operation
  | .now => Prog.perform (S := apiCalls) .now
  | .timeNow => Prog.perform (S := apiCalls) .timeNow
  | .randRead => Prog.perform (S := apiCalls) .randRead
  | .verifyProof entryHash entryType => Prog.perform (S := apiCalls) (.verifyProof entryHash entryType)
  | .recordProof decision => Prog.perform (S := apiCalls) (.recordProof decision)

end KubernetesRepository

section Server

structure Cluster where
  intents : Collection IntentSpec IntentResourceStatus
  operations : Collection OperationSpec OperationStatus

structure ApiServer (ε : Type) where
  environment : Environment ε
  stamp : ObjectMeta → ε → (String × Time) × ε

/-- `outcomes` says of each request to come whether it fails, and how; after them none fails. -/
structure Api (ε : Type) where
  cluster : Cluster
  environment : ε
  outcomes : List (Option Failure)

variable {ε α : Type}

def Api.next (w : Api ε) : Option Failure := w.outcomes.head?.join

def Api.advance (w : Api ε) : Api ε := { w with outcomes := w.outcomes.tail }

def Api.request (w : Api ε) (act : Cluster → Except Failure α × Cluster) :
    Except Failure α × Api ε :=
  match w.next with
  | some failure => (.error failure, w.advance)
  | none => ((act w.cluster).1, { w.advance with cluster := (act w.cluster).2 })

def Cluster.onIntents (cluster : Cluster)
    (r : Except Failure α × Collection IntentSpec IntentResourceStatus) :
    Except Failure α × Cluster :=
  (r.1, { cluster with intents := r.2 })

def Cluster.onOperations (cluster : Cluster)
    (r : Except Failure α × Collection OperationSpec OperationStatus) :
    Except Failure α × Cluster :=
  (r.1, { cluster with operations := r.2 })

def ApiServer.serve (S : ApiServer ε) : Handler apiCalls (Api ε)
  | .postIntent resource, w =>
    let ((uid, created), environment) := S.stamp resource.metadata w.environment
    { w with environment := environment }.request fun cluster =>
      cluster.onIntents (cluster.intents.post resource uid created .initial)
  | .postOperation resource, w =>
    let ((uid, created), environment) := S.stamp resource.metadata w.environment
    { w with environment := environment }.request fun cluster =>
      cluster.onOperations (cluster.operations.post resource uid created .initial)
  | .getIntent name, w => w.request fun cluster => (cluster.intents.get name, cluster)
  | .getOperation name, w => w.request fun cluster => (cluster.operations.get name, cluster)
  | .listOperations hash, w => w.request fun cluster =>
    (.ok (cluster.operations.list idempotencyHashLabel hash), cluster)
  | .putOperation name resource, w => w.request fun cluster =>
    cluster.onOperations (cluster.operations.put name resource)
  | .putOperationStatus name resource, w => w.request fun cluster =>
    cluster.onOperations (cluster.operations.putStatus name resource)
  | .putIntentStatus name resource, w => w.request fun cluster =>
    cluster.onIntents (cluster.intents.putStatus name resource)
  | .deleteIntent name, w => w.request fun cluster => cluster.onIntents (cluster.intents.delete name)
  | .deleteOperation name, w => w.request fun cluster =>
    cluster.onOperations (cluster.operations.delete name)
  | .now, w => let r := S.environment.now w.environment; (r.1, { w with environment := r.2 })
  | .timeNow, w =>
    let r := S.environment.timeNow w.environment
    (r.1, { w with environment := r.2 })
  | .randRead, w =>
    let r := S.environment.randRead w.environment
    (r.1, { w with environment := r.2 })
  | .verifyProof entryHash entryType, w =>
    let r := S.environment.verifyProof entryHash entryType w.environment
    (r.1, { w with environment := r.2 })
  | .recordProof decision, w =>
    let r := S.environment.recordProof decision w.environment
    (r.1, { w with environment := r.2 })

def overKubernetes (p : Action α) : ApiAction α := p.interpret KubernetesRepository.carryOut

def ApiServer.answer (S : ApiServer ε) : Handler calls (Api ε) :=
  fun c w => (KubernetesRepository.carryOut c).run S.serve w

theorem overKubernetes_run (S : ApiServer ε) (p : Action α) (w : Api ε) :
    (overKubernetes p).run S.serve w = p.run S.answer w := Prog.run_interpret _ _ p w

end Server
end FleetLlmd.Intents
