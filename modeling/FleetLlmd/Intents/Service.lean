import FleetLlmd.Effect.Pool
import FleetLlmd.Go.Sha256
import FleetLlmd.Intents.Evidence

/-!
# The intent service

`pkg/intents/service.go` and `evaluator.go`. A method of `Service` is a program
over the calls it makes: the repository, the clocks, the random source and the
immutable ledger. The service keeps no state of its own, so a program and the
answers to its calls determine everything.

`s.now` and `time.Now` are different calls: the service reads its own clock for
admission and authorization, and `appendTransition` reads the system clock.
-/

namespace FleetLlmd.Intents
open Go Ledger Effect

def errNotFound : Error := .sentinel "intent or operation not found"
def errInvalidTransition : Error := .sentinel "invalid operation transition"

inductive ServiceCall where
  | create (intent : FleetIntent) (operation : FleetOperation)
  | delete (intentID operationID : String)
  | getIntent (id : String)
  | getOperation (id : String)
  | findByIdempotencyKey (key : String)
  | updateOperation (operation : FleetOperation)
  | now
  | timeNow
  | randRead
  | verifyProof (entryHash entryType : String)
  | recordProof (decision : FleetDecision)

abbrev ServiceCall.Answer : ServiceCall → Type
  | .create _ _ => Except Error Unit
  | .delete _ _ => Except Error Unit
  | .getIntent _ => Except Error FleetIntent
  | .getOperation _ => Except Error FleetOperation
  | .findByIdempotencyKey _ => Except Error FleetOperation
  | .updateOperation _ => Except Error Unit
  | .now => Time
  | .timeNow => Time
  | .randRead => Option Bytes
  | .verifyProof _ _ => Except Error (Option ProofVerification)
  | .recordProof _ => Except Error (Option ProofReceipt)

abbrev calls : Signature := ⟨ServiceCall, ServiceCall.Answer⟩

abbrev Action (α : Type) := Prog calls α

abbrev ServiceEvent := Event calls

def createCall (intent : FleetIntent) (operation : FleetOperation) : Action (Except Error Unit) :=
  Prog.perform (S := calls) (.create intent operation)
def deleteCall (intentID operationID : String) : Action (Except Error Unit) :=
  Prog.perform (S := calls) (.delete intentID operationID)
def getIntentCall (id : String) : Action (Except Error FleetIntent) :=
  Prog.perform (S := calls) (.getIntent id)
def getOperationCall (id : String) : Action (Except Error FleetOperation) :=
  Prog.perform (S := calls) (.getOperation id)
def findByIdempotencyKeyCall (key : String) : Action (Except Error FleetOperation) :=
  Prog.perform (S := calls) (.findByIdempotencyKey key)
def updateOperationCall (operation : FleetOperation) : Action (Except Error Unit) :=
  Prog.perform (S := calls) (.updateOperation operation)
def nowCall : Action Time := Prog.perform (S := calls) .now
def timeNowCall : Action Time := Prog.perform (S := calls) .timeNow
def randReadCall : Action (Option Bytes) := Prog.perform (S := calls) .randRead
def verifyProofCall (entryHash entryType : String) :
    Action (Except Error (Option ProofVerification)) :=
  Prog.perform (S := calls) (.verifyProof entryHash entryType)
def recordProofCall (decision : FleetDecision) : Action (Except Error (Option ProofReceipt)) :=
  Prog.perform (S := calls) (.recordProof decision)

section Policy

structure PolicyConfig where
  minConfidence : Float64
  maxReplicasPerModel : Int
  requireHumanGate : Bool

def evaluate (intent : FleetIntent) (policy : PolicyConfig) : IntentResponse :=
  if intent.confidence.lt policy.minConfidence then
    { intentID := intent.id
      status := .deferred
      reason := "confidence " ++ intent.confidence.format2 ++ " below threshold " ++
        policy.minConfidence.format2 }
  else if policy.maxReplicasPerModel < intent.targetReplicas ∨
      policy.maxReplicasPerModel < intent.desiredReplicas then
    { intentID := intent.id
      status := .refused
      reason := "requested " ++
        String.ofList (intText (max intent.targetReplicas intent.desiredReplicas)) ++
        " replicas exceeds max " ++ String.ofList (intText policy.maxReplicasPerModel) }
  else if intent.type = .alert ∧ intent.severity = "critical" ∧ policy.requireHumanGate then
    { intentID := intent.id
      status := .deferred
      reason := "critical alert requires human approval" }
  else
    { intentID := intent.id
      status := .accepted
      reason := "policy checks passed; awaiting governance and observed actuation" }

def actionClass : IntentType → String
  | .preWarm => "fleet.prewarm"
  | .shedLoad => "fleet.shed_load"
  | .kvTransfer => "fleet.kv_transfer"
  | type => "fleet." ++ type.text

end Policy

section Identifiers

def newID (pre : String) : Action String := do
  match ← randReadCall with
  | some raw => pure (pre ++ "-" ++ hexEncode raw)
  | none => do
    let now ← timeNowCall
    pure (pre ++ "-" ++ String.ofList (intText now.nanos))

def keyedID (pre idempotencyKey : String) : String :=
  pre ++ "-" ++ hexEncode ((sha256 (utf8 idempotencyKey)).take 12)

def operationResourceID (pre idempotencyKey : String) : Action String :=
  if blank idempotencyKey then newID pre else pure (keyedID pre idempotencyKey)

end Identifiers

section Lifecycle

def allowedNext : OperationState → List OperationState
  | .received => [.accepted, .deferred, .rejected, .expired]
  | .deferred => [.accepted, .rejected, .expired, .failed]
  | .accepted => [.planned, .failed, .expired]
  | .planned => [.governancePending, .failed]
  | .governancePending => [.authorized, .rejected, .deferred, .failed, .quarantined]
  | .authorized => [.actuating, .failed, .expired, .quarantined]
  | .actuating => [.observing, .failed, .rollingBack, .quarantined]
  | .observing => [.verified, .failed, .rollingBack, .quarantined]
  | .verified => [.evidencePending, .rollingBack, .quarantined]
  | .evidencePending => [.succeeded, .rollingBack, .quarantined]
  | .rollingBack => [.rolledBack, .quarantined]
  | _ => []

def allowedTransition (source target : OperationState) : Bool := target ∈ allowedNext source

namespace FleetOperation

def extend (operation : FleetOperation) (state : OperationState) (reason actor : String)
    (now : Time) : FleetOperation :=
  { operation with
    state := state
    updatedAt := now
    transitions := operation.transitions ++
      [{ sequence := operation.transitions.length + 1
         state := state
         atTime := now
         reason := reason
         actor := actor
         ledgerEntryID := "" }] }

def markLast (entryID : String) : List OperationTransition → List OperationTransition
  | [] => []
  | [t] => [{ t with ledgerEntryID := entryID }]
  | t :: ts => t :: markLast entryID ts

def attach (operation : FleetOperation) (receipt : OperationLedgerReceipt) (now : Time) :
    FleetOperation :=
  { operation with
    ledgerEntryID := receipt.entryID
    ledgerReceipts := operation.ledgerReceipts ++ [receipt]
    transitions := markLast receipt.entryID operation.transitions
    updatedAt := now }

end FleetOperation

def appendTransition (operation : FleetOperation) (state : OperationState) (reason actor : String) :
    Action FleetOperation := do
  let now ← timeNowCall
  pure (operation.extend state reason actor now.utc)

def submissionFromOperation (operation : FleetOperation) (reason : String) : SubmissionResponse where
  intentID := operation.intentID
  operationID := operation.id
  correlationID := operation.correlationID
  state := operation.state
  reason := reason
  statusURL := "/api/v2/operations/" ++ operation.id

end Lifecycle

structure Service where
  policy : PolicyConfig
  proofs : Bool

namespace Service
variable (s : Service)

section Submit

def intentResourceID (intent : FleetIntent) : Action String :=
  if intent.id = "" then operationResourceID "intent" intent.idempotencyKey else pure intent.id

def complete (intent : FleetIntent) (id : String) (now : Time) : FleetIntent :=
  { intent with
    id := id
    correlationID := if intent.correlationID = "" then id else intent.correlationID
    createdAt := if intent.createdAt.isZero then now else intent.createdAt }

def received (intent : FleetIntent) (operationID : String) (now : Time) : FleetOperation where
  id := operationID
  objectUID := operationID
  intentID := intent.id
  correlationID := intent.correlationID
  idempotencyKey := intent.idempotencyKey
  actionClass := actionClass intent.type
  state := .received
  planDigest := ""
  provider := none
  observedDigest := ""
  authorizationRef := none
  ledgerEntryID := ""
  ledgerReceipts := []
  createdAt := now
  updatedAt := now
  transitions :=
    [{ sequence := 1
       state := .received
       atTime := now
       reason := "intent received"
       actor := "fleet-api"
       ledgerEntryID := "" }]

/-- `intent.ExpiresAt != nil && !intent.ExpiresAt.After(now)`. -/
def expiredAt (intent : FleetIntent) (now : Time) : Bool :=
  match intent.expiresAt with
  | none => false
  | some expiresAt => !expiresAt.after now

def admission (intent : FleetIntent) (now : Time) : Except Error (OperationState × String) :=
  if expiredAt intent now then .ok (.expired, "intent expired before admission")
  else
    let decision := evaluate intent s.policy
    match decision.status with
    | .accepted => .ok (.accepted, decision.reason)
    | .deferred => .ok (.deferred, decision.reason)
    | .refused => .ok (.rejected, decision.reason)
    | .executed => .error (.errorf "unsupported admission status %q" ["executed"])

def storeNew (intent : FleetIntent) (operation : FleetOperation) (reason : String) :
    Action (Except Error SubmissionResponse) := do
  match ← createCall intent operation with
  | .ok () => pure (.ok (submissionFromOperation operation reason))
  | .error err =>
    if intent.idempotencyKey = "" then pure (.error err)
    else do
      match ← findByIdempotencyKeyCall intent.idempotencyKey with
      | .ok existing => pure (.ok (submissionFromOperation existing "idempotent concurrent replay"))
      | .error _ => pure (.error err)

/-- `Submit` once no earlier operation with the key was found. -/
def admitNew (intent : FleetIntent) : Action (Except Error SubmissionResponse) := do
  let now ← nowCall
  let now := now.utc
  let id ← intentResourceID intent
  let intent := complete intent id now
  let operationID ← operationResourceID "operation" intent.idempotencyKey
  match s.admission intent now with
  | .error err => pure (.error err)
  | .ok (next, reason) => do
    let operation ← appendTransition (received intent operationID now) next reason "fleet-policy"
    storeNew intent operation reason

def submit (intent : FleetIntent) : Action (Except Error SubmissionResponse) :=
  if intent.idempotencyKey = "" then s.admitNew intent
  else do
    match ← findByIdempotencyKeyCall intent.idempotencyKey with
    | .ok existing => pure (.ok (submissionFromOperation existing "idempotent replay"))
    | .error err => if err.is errNotFound then s.admitNew intent else pure (.error err)

end Submit

section Receipts

def verifyLedgerReceipt (operation : FleetOperation) (receipt : OperationLedgerReceipt) :
    Action (Except Error Unit) :=
  match checkReceipt operation receipt with
  | .error err => pure (.error err)
  | .ok () =>
    if !s.proofs then pure (.error (.errorf "proof verifier is not configured" []))
    else do
      match ← verifyProofCall receipt.entryHash receipt.entryType with
      | .error err => pure (.error err)
      | .ok verification => pure (checkVerification operation receipt verification)

def verifyReceipts (operation : FleetOperation) (purpose : LedgerReceiptPurpose) :
    List OperationLedgerReceipt → Option Error → Action (Except Error Unit)
  | [], none => pure (.error (.errorf "receipt purpose %q is absent" [purpose.text]))
  | [], some lastErr => pure (.error lastErr)
  | receipt :: receipts, lastErr =>
    if receipt.purpose ≠ purpose then verifyReceipts operation purpose receipts lastErr
    else do
      match ← s.verifyLedgerReceipt operation receipt with
      | .ok () => pure (.ok ())
      | .error err => verifyReceipts operation purpose receipts (some err)

def verifyReceiptPurpose (operation : FleetOperation) (purpose : LedgerReceiptPurpose) :
    Action (Except Error Unit) :=
  s.verifyReceipts operation purpose operation.ledgerReceipts none

def sameEntry (receipt existing : OperationLedgerReceipt) : Bool :=
  existing.entryID = receipt.entryID || existing.entryHash = receipt.entryHash

def attachLedgerReceipt (id : String) (receipt : OperationLedgerReceipt) :
    Action (Except Error FleetOperation) := do
  match ← getOperationCall id with
  | .error err => pure (.error err)
  | .ok operation => do
    match ← s.verifyLedgerReceipt operation receipt with
    | .error err => pure (.error (.wrapf "verify immutable-ledger receipt: %w" [] err))
    | .ok () =>
      match operation.ledgerReceipts.find? (sameEntry receipt) with
      | some existing =>
        if existing = receipt then pure (.ok operation)
        else pure (.error (.errorf "immutable-ledger receipt conflicts with existing entry %q"
          [existing.entryID]))
      | none => do
        let now ← nowCall
        let operation := operation.attach receipt now.utc
        match ← updateOperationCall operation with
        | .error err => pure (.error err)
        | .ok () => pure (.ok operation)

end Receipts

section Transitions

def checkPlan (operation : FleetOperation) : Except Error Unit :=
  if !validSHA256 operation.planDigest then
    .error (.errorf "a durable SHA-256 plan digest is required" [])
  else
    match operation.provider with
    | none => .error (.errorf "a provider reference with type and name is required" [])
    | some provider =>
      if blank provider.type || blank provider.name then
        .error (.errorf "a provider reference with type and name is required" [])
      else .ok ()

def validateTransitionEvidence (operation : FleetOperation) (next : OperationState) :
    Action (Except Error Unit) :=
  match next with
  | .planned => pure (checkPlan operation)
  | .authorized => do
    let now ← nowCall
    pure (validateAuthorizationReference operation now.utc)
  | .actuating => do
    let now ← nowCall
    pure (validateAuthorizationReference operation now.utc)
  | .succeeded => do
    match ← s.verifyReceiptPurpose operation .outcome with
    | .error err => pure (.error (.wrapf
        "a durable verified immutable-ledger outcome receipt is required: %w" [] err))
    | .ok () => pure (.ok ())
  | _ => pure (.ok ())

def transition (id : String) (next : OperationState) (reason actor : String) :
    Action (Except Error FleetOperation) := do
  match ← getOperationCall id with
  | .error err => pure (.error err)
  | .ok operation =>
    if !allowedTransition operation.state next then
      pure (.error (.wrapf "%w: %s -> %s" [operation.state.text, next.text] errInvalidTransition))
    else do
      match ← s.validateTransitionEvidence operation next with
      | .error err => pure (.error (.wrapv "%w: %s -> %s: %v"
          [operation.state.text, next.text] err errInvalidTransition))
      | .ok () => do
        let operation ← appendTransition operation next reason actor
        match ← updateOperationCall operation with
        | .error err => pure (.error err)
        | .ok () => pure (.ok operation)

def approve (id actor : String) : Action (Except Error FleetOperation) :=
  s.transition id .accepted "human approval recorded" actor

def cancelTarget : OperationState → OperationState
  | .actuating | .observing | .verified | .evidencePending => .rollingBack
  | _ => .failed

def cancel (id actor : String) : Action (Except Error FleetOperation) := do
  match ← getOperationCall id with
  | .error err => pure (.error err)
  | .ok operation => s.transition id (cancelTarget operation.state) "operation cancelled" actor

end Transitions

def getIntent (id : String) : Action (Except Error FleetIntent) := getIntentCall id
def getOperation (id : String) : Action (Except Error FleetOperation) := getOperationCall id
def deleteSubmission (intentID operationID : String) : Action (Except Error Unit) :=
  deleteCall intentID operationID

end Service
end FleetLlmd.Intents
