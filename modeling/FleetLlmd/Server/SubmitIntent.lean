import FleetLlmd.Intents.Codec
import FleetLlmd.Intents.Outcome

/-!
# Submitting through the server

`submitIntent` of `pkg/server/handlers_intents.go`: submit to the service, write the
admission to the ledger, attach the receipt, and delete the submission again when a
configured ledger does not confirm it.
-/

namespace FleetLlmd.Server
open Go Json Intents Ledger

structure FleetController where
  intentService : Service
  fleetRecorder : Bool
  ledgerGatewayURL : String

def admissionMembers (intent : FleetIntent) (intentSpecDigest : String) (operation : FleetOperation)
    (reason : String) (state : OperationState) : List Member :=
  [member "schema_version" (encodeString "fleet.llm-d.ai/intent-admission/v1"),
    member "intent_id" (encodeString intent.id),
    member "operation_id" (encodeString operation.id),
    member "correlation_id" (encodeString operation.correlationID),
    member "idempotency_key" (encodeString intent.idempotencyKey),
    member "intent_spec_digest" (encodeString intentSpecDigest),
    FleetIntent.encode.text "decision_package_ref" intent.decisionPackageRef,
    FleetIntent.encode.text "decision_package_digest" intent.decisionPackageDigest,
    member "actor" (encodeString actor),
    member "intent_type" (encodeString intent.type.text),
    FleetIntent.encode.text "pool" intent.pool,
    FleetIntent.encode.text "model" intent.model,
    omitEmpty "target_clusters" intent.targetClusters.isEmpty (encodeStrings intent.targetClusters),
    FleetIntent.encode.count "desired_replicas" intent.desiredReplicas] ++
  member "admission_state" (encodeString state.text) ::
  [member "admission_reason" (encodeString reason),
    omitNone "expires_at" encodeTime intent.expiresAt]
where
  actor : String :=
    match intent.proposer with
    | some proposer => if blank proposer.subject then "fleet-api" else proposer.subject
    | none => "fleet-api"

def admissionReason (operation : FleetOperation) (submission : SubmissionResponse) : String :=
  match operation.transitions with
  | _ :: t :: _ => t.reason
  | _ => submission.reason

def admissionEvidence (intent : FleetIntent) (intentBytes : Bytes) (operation : FleetOperation)
    (submission : SubmissionResponse) : Except Error Bytes :=
  (encodeStruct (admissionMembers intent (hexEncode (sha256 intentBytes)) operation
    (admissionReason operation submission) operation.state)).map encodeRunes

def admissionEntryType (intent : FleetIntent) : String := "fleet.intent." ++ intent.type.text

def admissionDecision (intent : FleetIntent) (operation : FleetOperation)
    (submission : SubmissionResponse) (content : Bytes) : FleetDecision where
  type := admissionEntryType intent
  correlationID := submission.correlationID
  content := content
  contentType := "application/json"
  idempotencyKey := "fleet:" ++ operation.id ++ ":admission"
  inputHash := hexEncode (sha256 content)

def admissionReceipt (decision : FleetDecision) (receipt : ProofReceipt) :
    OperationLedgerReceipt where
  entryID := receipt.entryID
  entryHash := receipt.entryHash
  entryType := decision.type
  chainPosition := receipt.chainPosition
  writtenTS := receipt.timestamp.unixMilli
  inputHash := decision.inputHash
  purpose := .admission

namespace FleetController
variable (fc : FleetController)

def compensateConfiguredLedgerFailure (submission : SubmissionResponse) (ledgerErr : Error) :
    Action (Except Error SubmissionResponse) :=
  if fc.ledgerGatewayURL = "" then pure (.ok submission)
  else do
    match ← Service.deleteSubmission submission.intentID submission.operationID with
    | .error cleanupErr => pure (.error (.wrapv
        "ledger write failed and admission compensation failed: %v: %w" [] cleanupErr ledgerErr))
    | .ok () => pure (.error (.wrapf "ledger write failed (fail-closed): %w" [] ledgerErr))

def recordAdmission (submission : SubmissionResponse) (decision : FleetDecision) :
    Action (Except Error SubmissionResponse) := do
  match ← recordProofCall decision with
  | .error err => fc.compensateConfiguredLedgerFailure submission err
  | .ok none =>
    fc.compensateConfiguredLedgerFailure submission (.errorf "ledger returned no receipt" [])
  | .ok (some receipt) => do
    match ← fc.intentService.attachLedgerReceipt submission.operationID
        (admissionReceipt decision receipt) with
    | .ok _ => pure (.ok submission)
    | .error attachErr =>
      fc.compensateConfiguredLedgerFailure submission
        (.wrapf "attach immutable-ledger proof: %w" [] attachErr)

def proveAdmission (submission : SubmissionResponse) (intent : FleetIntent)
    (operation : FleetOperation) : Action (Except Error SubmissionResponse) :=
  match intent.marshal with
  | .error err => fc.compensateConfiguredLedgerFailure submission
      (.wrapf "marshal persisted intent evidence: %w" [] err)
  | .ok intentBytes =>
    match admissionEvidence intent intentBytes operation submission with
    | .error err => fc.compensateConfiguredLedgerFailure submission
        (.wrapf "marshal admission evidence: %w" [] err)
    | .ok content =>
      fc.recordAdmission submission (admissionDecision intent operation submission content)

def reloadAndProve (submission : SubmissionResponse) :
    Action (Except Error SubmissionResponse) := do
  match ← Service.getIntent submission.intentID with
  | .error err =>
    fc.compensateConfiguredLedgerFailure submission (.wrapf "reload persisted intent: %w" [] err)
  | .ok intent => do
    match ← Service.getOperation submission.operationID with
    | .error err =>
      fc.compensateConfiguredLedgerFailure submission
        (.wrapf "reload persisted operation: %w" [] err)
    | .ok operation => fc.proveAdmission submission intent operation

def submitIntent (intent : FleetIntent) : Action (Except Error SubmissionResponse) := do
  match ← fc.intentService.submit intent with
  | .error err => pure (.error err)
  | .ok submission =>
    if fc.fleetRecorder then fc.reloadAndProve submission else pure (.ok submission)

end FleetController
end FleetLlmd.Server
