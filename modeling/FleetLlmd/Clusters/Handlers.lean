import FleetLlmd.Clusters.Repository
import FleetLlmd.Effect.Program
import FleetLlmd.Go.Calendar
import FleetLlmd.Go.Sha256
import FleetLlmd.Intents.Types
import FleetLlmd.Json.Decode
import FleetLlmd.Json.Encode

/-!
# Registering, deregistering, draining and activating a cluster

The handlers of `pkg/server/handlers_clusters.go` and `handlers_drain.go` over the
repository-backed client of `pkg/cluster/client`. Each of them changes a record, writes
the change to the ledger, and takes the change back when the ledger write fails.
Metrics and published events are left out: nothing reads them back.
-/

namespace FleetLlmd.Clusters
open Go Json Ledger Effect

/-! ## Calls -/

inductive ClusterCall where
  | create (r : ClusterRecord)
  | get (id : String)
  | update (r : ClusterRecord)
  | delete (id : String)
  | recordDecision (d : FleetDecision)
  | unbindCluster (id : String)
  | now

abbrev ClusterCall.Answer : ClusterCall → Type
  | .get _ => Except Error ClusterRecord
  | .create _ | .update _ | .delete _ | .recordDecision _ => Except Error Unit
  | .unbindCluster _ => Unit
  | .now => Time

abbrev clusterCalls : Signature := ⟨ClusterCall, ClusterCall.Answer⟩

/-! ## Registrations -/

structure ClusterRegistration where
  id : String := ""
  name : String := ""
  region : String := ""
  labels : Option Labels := none

def isAlphanumeric (c : Char) : Bool := ('a' ≤ c && c ≤ 'z') || ('0' ≤ c && c ≤ '9')

def dashed : Bool → List Char → List Char
  | _, [] => []
  | lastDash, c :: cs =>
    if isAlphanumeric c then c :: dashed false cs
    else if lastDash then dashed true cs
    else '-' :: dashed true cs

def stableClusterID (name : String) : String :=
  String.ofList (trimChars (· == '-') (dashed false (chars (toLower (trimSpace name)))))

def normalizeClusterRegistration (cluster : ClusterRegistration) :
    Except Error ClusterRegistration :=
  if blank cluster.name then .error (.sentinel "cluster name must not be empty")
  else
    let cluster := if blank cluster.id then { cluster with id := stableClusterID cluster.name }
      else cluster
    if cluster.id == "" then .error (.sentinel "cluster ID must not be empty") else .ok cluster

/-! ## The client -/

def ClusterRegistration.record (cluster : ClusterRegistration) : ClusterRecord where
  id := cluster.id
  name := cluster.name
  region := cluster.region
  labels := cluster.labels
  gpuAvailable := 0
  gpuTotal := 0
  status := "registered"
  registeredAt := Time.zero
  updatedAt := Time.zero

def registerClient (cluster : ClusterRegistration) : Prog clusterCalls (Except Error Unit) :=
  match normalizeClusterRegistration cluster with
  | .error err => .done (.error err)
  | .ok normalized => .call (.create normalized.record) .done

def deregisterClient (clusterID : String) : Prog clusterCalls (Except Error Unit) :=
  if clusterID == "" then .done (.error (.sentinel "cluster ID must not be empty"))
  else .call (.delete clusterID) .done

/-! ## The recorder -/

def decisionOf (type marshal : String) (members : List Member) : Except Error FleetDecision :=
  match encodeStruct members with
  | .error err => .error (.wrapf (marshal ++ ": %w") [] err)
  | .ok text =>
    .ok
      { type := type
        correlationID := ""
        content := encodeRunes text
        contentType := "application/json"
        idempotencyKey := ""
        inputHash := hexEncode (sha256 (encodeRunes text)) }

def clusterRegistrationDecision (clusterID name region : String) : Except Error FleetDecision :=
  decisionOf "fleet.cluster.registered" "marshal cluster registration"
    [member "cluster_id" (encodeString clusterID), member "name" (encodeString name),
      member "region" (encodeString region)]

def clusterDeregistrationDecision (clusterID reason : String) : Except Error FleetDecision :=
  decisionOf "fleet.cluster.deregistered" "marshal cluster deregistration"
    [member "cluster_id" (encodeString clusterID), member "reason" (encodeString reason)]

def placementDecision (model cluster : String) (replicas : Int) (gpuType reason : String) :
    Except Error FleetDecision :=
  decisionOf "fleet.placement.assigned" "marshal placement"
    [member "cluster" (encodeString cluster), member "gpu_type" (encodeString gpuType),
      member "model" (encodeString model), member "reason" (encodeString reason),
      member "replicas" (encodeInt replicas)]

def record : Except Error FleetDecision → Prog clusterCalls (Except Error Unit)
  | .error err => .done (.error err)
  | .ok decision => .call (.recordDecision decision) .done

/-! ## Requests and answers -/

/-- `body` is `none` if the request body cannot be read. -/
inductive ClusterRequest where
  | register (body : Option Bytes)
  | deregister (id : String)
  | drain (id : String)
  | activate (id : String)

inductive Reply where
  | json (status : Nat) (members : List (String × String))
  | error (status : Nat) (message : Error)

def Reply.isError : Reply → Bool
  | .json _ _ => false
  | .error _ _ => true

def clusterCompensationFailed : String :=
  "ledger write failed and cluster compensation failed: %v: %w"
def drainCompensationFailed : String :=
  "ledger write failed and drain compensation failed: %v: %w"
def activationCompensationFailed : String :=
  "ledger write failed and activation compensation failed: %v: %w"

def Reply.compensationFailed : Reply → Bool
  | .error _ (.wrapv format _ _ _) =>
    [clusterCompensationFailed, drainCompensationFailed, activationCompensationFailed].contains
      format
  | _ => false

def registrationFields : List (StructField ClusterRegistration) :=
  [structField "id" (·.id) (fun s x => { s with id := x }) decodeString,
    structField "name" (·.name) (fun s x => { s with name := x }) decodeString,
    structField "region" (·.region) (fun s x => { s with region := x }) decodeString,
    structField "labels" (·.labels) (fun s x => { s with labels := x }) decodeStringMap]

/-- `decodeJSON`: the first value of the body, whatever follows it. -/
def decodeJSON {α : Type} (d : Decoder α) (body : Option Bytes) (zero : α) : Except Error α :=
  match body with
  | none => .error (.sentinel "http: request body too large")
  | some content =>
    match parseValue (2 * (runes content).length + 2) maxNestingDepth (runes content) with
    | none => .error syntaxError
    | some (value, _) => d value zero

def registration (body : Option Bytes) : Except Reply ClusterRegistration :=
  match decodeJSON (decodeStruct false registrationFields) body {} with
  | .error err => .error (.error 400 (.wrapf "invalid JSON: %v" [] err))
  | .ok req =>
    if req.name == "" then .error (.error 400 (.sentinel "name is required"))
    else if 253 < (utf8 req.name).length then
      .error (.error 400 (.sentinel "name exceeds maximum length (253)"))
    else
      match normalizeClusterRegistration req with
      | .error err => .error (.error 400 err)
      | .ok reg => .ok reg

/-! ## Handlers -/

structure FleetController where
  fleetRecorder : Bool
  ledgerGatewayURL : String
  sessionTable : Bool

def cloneClusterRecord (r : ClusterRecord) : ClusterRecord :=
  { r with labels := some (r.labels.getD []) }

namespace FleetController
variable (fc : FleetController)

def registerCluster (reg : ClusterRegistration) : Prog clusterCalls (Except Error Unit) :=
  (registerClient reg).bind fun
  | .error err => .done (.error err)
  | .ok () =>
    if !fc.fleetRecorder then .done (.ok ())
    else (record (clusterRegistrationDecision reg.id reg.name reg.region)).bind fun
    | .ok () => .done (.ok ())
    | .error err =>
      if fc.ledgerGatewayURL == "" then .done (.ok ())
      else (deregisterClient reg.id).bind fun
      | .error rollbackErr =>
        .done (.error (.wrapv clusterCompensationFailed [] rollbackErr err))
      | .ok () => .done (.error (.wrapf "ledger write failed (fail-closed): %w" [] err))

def handleRegisterCluster (body : Option Bytes) : Prog clusterCalls Reply :=
  match registration body with
  | .error reply => .done reply
  | .ok reg =>
    (fc.registerCluster reg).bind fun
    | .error err => .done (.error (if err.is errClusterAlreadyExists then 409 else 500) err)
    | .ok () => .done (.json 201 [("status", "registered"), ("id", reg.id)])

def handleDeregisterCluster (id : String) : Prog clusterCalls Reply :=
  if id == "" then .done (.error 400 (.sentinel "cluster id is required"))
  else .call (.get id) fun
  | .error err => .done (.error 404 err)
  | .ok current =>
    (deregisterClient id).bind fun
    | .error err => .done (.error 404 err)
    | .ok () =>
      let answer := Reply.json 200 [("status", "deregistered"), ("id", id)]
      if !fc.fleetRecorder then .done answer
      else (record (clusterDeregistrationDecision id "operator-requested")).bind fun
      | .ok () => .done answer
      | .error err =>
        if fc.ledgerGatewayURL == "" then .done answer
        else .call (.create (cloneClusterRecord current)) fun
        | .error rollbackErr =>
          .done (.error 500 (.wrapv clusterCompensationFailed [] rollbackErr err))
        | .ok () => .done (.error 500 (.wrapf "ledger write failed (fail-closed): %v" [] err))

def recordToLedger (entryType clusterID : String) : Prog clusterCalls (Except Error Unit) :=
  if !fc.fleetRecorder then .done (.ok ())
  else (record (placementDecision entryType clusterID 0 "" entryType)).bind fun
  | .ok () => .done (.ok ())
  | .error err =>
    if fc.ledgerGatewayURL == "" then .done (.ok ())
    else .done (.error (.wrapf "ledger write failed (fail-closed): %w" [] err))

def changeRecord (entryType compensationFailed clusterID : String)
    (original changed : ClusterRecord) (succeed : Prog clusterCalls Reply) :
    Prog clusterCalls Reply :=
  .call (.update changed) fun
  | .error err => .done (.error 500 err)
  | .ok () => (fc.recordToLedger entryType clusterID).bind fun
    | .ok () => succeed
    | .error err => .call (.update original) fun
      | .error rollbackErr => .done (.error 500 (.wrapv compensationFailed [] rollbackErr err))
      | .ok () => .done (.error 500 err)

def unbindSessions (clusterID : String) : Prog clusterCalls Unit :=
  if fc.sessionTable then .call (.unbindCluster clusterID) .done else .done ()

def handleDrainCluster (clusterID : String) : Prog clusterCalls Reply :=
  if clusterID == "" then .done (.error 400 (.sentinel "cluster id is required"))
  else .call (.get clusterID) fun
  | .error _ => .done (.error 404 (.sentinel "cluster not found"))
  | .ok current =>
    if current.status == clusterStatusDraining then
      .done (.error 409 (.sentinel "cluster is already draining"))
    else if current.status == clusterStatusDrained then
      .done (.error 409 (.sentinel "cluster is already drained"))
    else if current.status != clusterStatusRunning && current.status != clusterStatusHealthy &&
        current.status != clusterStatusDegraded then
      .done (.error 409 (.sentinel "cluster must be Running, Healthy, or Degraded to drain"))
    else .call .now fun (now : Time) =>
      fc.changeRecord "fleet.cluster.drain_started" drainCompensationFailed clusterID
        (cloneClusterRecord current)
        { current with
          status := clusterStatusDraining
          labels := some (insertKey "drain_started_at" now.utc.rfc3339 (current.labels.getD [])) }
        ((fc.unbindSessions clusterID).bind fun _ =>
          .done (.json 200 [("cluster_id", clusterID), ("status", "draining")]))

def handleActivateCluster (clusterID : String) : Prog clusterCalls Reply :=
  if clusterID == "" then .done (.error 400 (.sentinel "cluster id is required"))
  else .call (.get clusterID) fun
  | .error _ => .done (.error 404 (.sentinel "cluster not found"))
  | .ok current =>
    if current.status == clusterStatusRunning || current.status == clusterStatusHealthy then
      .done (.json 200 [("cluster_id", clusterID), ("status", current.status)])
    else .call .now fun (now : Time) =>
      fc.changeRecord "fleet.cluster.activated" activationCompensationFailed clusterID
        (cloneClusterRecord current)
        { current with
          status := clusterStatusRunning
          labels := some (insertKey "activated_at" now.utc.rfc3339
            ((current.labels.getD []).filter fun e => e.1 != "drain_started_at")) }
        (.done (.json 200 [("cluster_id", clusterID), ("status", "running")]))

def handle : ClusterRequest → Prog clusterCalls Reply
  | .register body => fc.handleRegisterCluster body
  | .deregister id => fc.handleDeregisterCluster id
  | .drain id => fc.handleDrainCluster id
  | .activate id => fc.handleActivateCluster id

end FleetController

def ClusterRequest.decision : ClusterRequest → Except Error FleetDecision
  | .register body =>
    match registration body with
    | .error _ => .error (.sentinel "rejected")
    | .ok reg => clusterRegistrationDecision reg.id reg.name reg.region
  | .deregister id => clusterDeregistrationDecision id "operator-requested"
  | .drain id =>
    placementDecision "fleet.cluster.drain_started" id 0 "" "fleet.cluster.drain_started"
  | .activate id => placementDecision "fleet.cluster.activated" id 0 "" "fleet.cluster.activated"

end FleetLlmd.Clusters
