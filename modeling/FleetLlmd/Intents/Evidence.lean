import FleetLlmd.Intents.Types
import FleetLlmd.Json.Decode

/-!
# Evidence checks

The checks of `pkg/intents/service.go` that an operation has to pass before it may
advance, as functions of the operation, the receipt, the ledger's answer and the
time: authorization references, ledger receipts and the outcome evidence that
binds a receipt to one operation.
-/

namespace FleetLlmd.Intents
open Go Json Ledger

def validSHA256 (value : String) : Bool :=
  (utf8 value).length == 64 && (chars value).all isHexDigit

def validReceiptPurpose : LedgerReceiptPurpose → Bool
  | .admission | .authorizationDecision | .outcome => true
  | .unlisted _ => false

def expectedLedgerEntryType (actionClass : String) (purpose : LedgerReceiptPurpose) : String :=
  match purpose with
  | .admission =>
    let action := trimPrefix actionClass "fleet."
    "fleet.intent." ++ if action = "prewarm" then IntentType.preWarm.text else action
  | .authorizationDecision => ledgerEntryTypeAuthorizationDecision
  | .outcome => ledgerEntryTypeOutcome
  | .unlisted _ => ""

def AuthorizationReference.required (ref : AuthorizationReference) : List (String × String) :=
  [("grant ID", ref.grantID), ("subject", ref.subject), ("action class", ref.actionClass),
    ("object UID", ref.objectUID), ("spec digest", ref.specDigest), ("audience", ref.audience),
    ("idempotency key", ref.idempotencyKey)]

def FleetOperation.authorizedUID (operation : FleetOperation) : String :=
  if blank operation.objectUID then operation.id else operation.objectUID

def validateAuthorizationReference (operation : FleetOperation) (now : Time) : Except Error Unit :=
  match operation.authorizationRef with
  | none => .error (.errorf "a fleet authorization reference is required" [])
  | some ref =>
    match ref.required.find? fun field => blank field.2 with
    | some field => .error (.errorf "fleet authorization %s is required" [field.1])
    | none =>
      if ref.actionClass ≠ operation.actionClass then
        .error (.errorf "fleet authorization action class %q does not match operation %q"
          [ref.actionClass, operation.actionClass])
      else if ref.objectUID ≠ operation.authorizedUID then
        .error (.errorf "fleet authorization object UID %q does not match operation %q"
          [ref.objectUID, operation.authorizedUID])
      else if !validSHA256 operation.planDigest || !equalFold ref.specDigest operation.planDigest then
        .error (.errorf "fleet authorization spec digest is not bound to the operation plan" [])
      else if ref.audience ≠ authorizationAudienceFleetController then
        .error (.errorf "fleet authorization audience %q does not match %q"
          [ref.audience, authorizationAudienceFleetController])
      else if ref.idempotencyKey ≠ operation.idempotencyKey then
        .error (.errorf "fleet authorization idempotency key does not match the operation" [])
      else if ref.expiresAt.isZero || !ref.expiresAt.after now then
        .error (.errorf "fleet authorization is expired" [])
      else if ref.breakGlass && blank ref.incidentRef then
        .error (.errorf "fleet break-glass authorization requires an incident reference" [])
      else .ok ()

def outcomeEvidenceSchemaV1 : String := "fleet.llm-d.ai/operation-outcome/v1"

structure OutcomeEvidenceV1 where
  schemaVersion : String
  operationID : String
  operationUID : String
  planDigest : String
  idempotencyKey : String
  observedDigest : String
  deriving DecidableEq

namespace OutcomeEvidenceV1

def empty : OutcomeEvidenceV1 := ⟨"", "", "", "", "", ""⟩

def fields : List (StructField OutcomeEvidenceV1) :=
  [structField "schema_version" schemaVersion (fun e s => { e with schemaVersion := s }) decodeString,
    structField "operation_id" operationID (fun e s => { e with operationID := s }) decodeString,
    structField "operation_uid" operationUID (fun e s => { e with operationUID := s }) decodeString,
    structField "plan_digest" planDigest (fun e s => { e with planDigest := s }) decodeString,
    structField "idempotency_key" idempotencyKey (fun e s => { e with idempotencyKey := s })
      decodeString,
    structField "observed_digest" observedDigest (fun e s => { e with observedDigest := s })
      decodeString]

def members (e : OutcomeEvidenceV1) : List (String × String) :=
  [("schema_version", e.schemaVersion), ("operation_id", e.operationID),
    ("operation_uid", e.operationUID), ("plan_digest", e.planDigest),
    ("idempotency_key", e.idempotencyKey), ("observed_digest", e.observedDigest)]

def marshal (e : OutcomeEvidenceV1) : Bytes :=
  encodeRunes (objectText goEscaping (e.members.map fun m => (m.1, goEscaping.quote m.2)))

end OutcomeEvidenceV1

def newOutcomeEvidence (operation : FleetOperation) : Except Error Bytes :=
  let operationID := trimSpace operation.id
  if operationID = "" then .error (.errorf "operation ID is required for outcome evidence" [])
  else
    let uid := trimSpace operation.objectUID
    let operationUID := if uid = "" then operationID else uid
    if !validSHA256 operation.planDigest then
      .error (.errorf "a SHA-256 plan digest is required for outcome evidence" [])
    else if !validSHA256 operation.observedDigest then
      .error (.errorf "a SHA-256 observed digest is required for outcome evidence" [])
    else .ok (OutcomeEvidenceV1.marshal
      { schemaVersion := outcomeEvidenceSchemaV1
        operationID := operationID
        operationUID := operationUID
        planDigest := toLower operation.planDigest
        idempotencyKey := operation.idempotencyKey
        observedDigest := toLower operation.observedDigest })

def verifyOutcomeEvidence (operation : FleetOperation) (content : Bytes) : Except Error Unit :=
  if content.isEmpty then
    .error (.errorf "outcome proof is missing its committed operation evidence" [])
  else
    match unmarshal (decodeStruct true OutcomeEvidenceV1.fields) content .empty with
    | .error err => .error (.wrapf "decode committed outcome evidence: %w" [] err)
    | .ok evidence =>
      match newOutcomeEvidence operation with
      | .error err => .error err
      | .ok expectedContent =>
        match unmarshal (decodeStruct false OutcomeEvidenceV1.fields) expectedContent .empty with
        | .error err => .error (.wrapf "construct expected outcome evidence: %w" [] err)
        | .ok expected =>
          if evidence ≠ expected || content ≠ expectedContent then
            .error (.errorf ("outcome proof content is not bound to this operation identity, " ++
              "plan, idempotency key, and observed digest") [])
          else .ok ()

def checkReceipt (operation : FleetOperation) (receipt : OperationLedgerReceipt) :
    Except Error Unit :=
  if blank receipt.entryID || blank receipt.entryHash || blank receipt.entryType ||
      receipt.chainPosition < 1 || receipt.writtenTS < 1 || !validSHA256 receipt.inputHash ||
      !validReceiptPurpose receipt.purpose then
    .error (.errorf ("receipt requires entry ID/hash/type, a SHA-256 input hash, " ++
      "positive chain position/written timestamp, and a recognized purpose") [])
  else if receipt.entryType ≠ expectedLedgerEntryType operation.actionClass receipt.purpose then
    .error (.errorf "entry type %q cannot satisfy purpose %q; expected %q"
      [receipt.entryType, receipt.purpose.text,
        expectedLedgerEntryType operation.actionClass receipt.purpose])
  else .ok ()

def checkVerification (operation : FleetOperation) (receipt : OperationLedgerReceipt)
    (answer : Option ProofVerification) : Except Error Unit :=
  match answer with
  | none => .error (.errorf "ledger rejected proof" [])
  | some verification =>
    if !verification.valid then
      if !blank verification.failureReason then
        .error (.errorf "ledger rejected proof: %s" [verification.failureReason])
      else .error (.errorf "ledger rejected proof" [])
    else if verification.entryType ≠ receipt.entryType then
      .error (.errorf "proof entry type does not match receipt" [])
    else if verification.entryID ≠ "" ∧ verification.entryID ≠ receipt.entryID then
      .error (.errorf "proof entry ID does not match receipt" [])
    else if verification.correlationID ≠ operation.correlationID then
      .error (.errorf "proof correlation ID %q does not match operation %q"
        [verification.correlationID, operation.correlationID])
    else if verification.inputHash ≠ receipt.inputHash then
      .error (.errorf "proof input hash does not match receipt" [])
    else
      match checkOutcome verification with
      | .error err => .error err
      | .ok () =>
        if verification.chainPosition ≠ receipt.chainPosition then
          .error (.errorf "proof chain position does not match receipt" [])
        else if verification.writtenAt.isZero ||
            verification.writtenAt.unixMilli ≠ receipt.writtenTS then
          .error (.errorf "proof written timestamp does not match receipt" [])
        else .ok ()
where
  /-- The part that only outcome receipts have to pass. -/
  checkOutcome (verification : ProofVerification) : Except Error Unit :=
    if receipt.purpose ≠ .outcome then .ok ()
    else if !validSHA256 operation.observedDigest then
      .error (.errorf ("operation requires a SHA-256 observed digest before outcome evidence " ++
        "can be attached") [])
    else if !equalFold receipt.inputHash operation.observedDigest then
      .error (.errorf "outcome input hash is not bound to the operation observed digest" [])
    else verifyOutcomeEvidence operation verification.content

section Accepted
variable {operation : FleetOperation} {receipt : OperationLedgerReceipt}

structure Authorizes (ref : AuthorizationReference) (operation : FleetOperation) (now : Time) :
    Prop where
  unexpired : ref.expiresAt.after now = true
  actionClass : ref.actionClass = operation.actionClass
  objectUID : ref.objectUID = operation.authorizedUID
  idempotencyKey : ref.idempotencyKey = operation.idempotencyKey
  specDigest : equalFold ref.specDigest operation.planDigest = true
  planDigest : validSHA256 operation.planDigest = true
  incident : ref.breakGlass = true → blank ref.incidentRef = false

theorem authorizes_of_validate {now : Time}
    (h : validateAuthorizationReference operation now = .ok ()) :
    ∃ ref, operation.authorizationRef = some ref ∧ Authorizes ref operation now := by
  unfold validateAuthorizationReference at h
  cases href : operation.authorizationRef with
  | none => simp [href] at h
  | some ref =>
    simp only [href] at h
    split at h
    · cases h
    · split_ifs at h with hclass huid hdigest haudience hkey hexpired hincident
      simp only [ne_eq, not_not] at hclass huid hkey
      simp only [Bool.or_eq_true, Bool.not_eq_true', not_or, Bool.not_eq_false] at hdigest hexpired
      refine ⟨ref, rfl, hexpired.2, hclass, huid, hkey, hdigest.2, hdigest.1, ?_⟩
      intro hglass
      simpa [hglass] using hincident

theorem newOutcomeEvidence_of_verify {content : Bytes}
    (h : verifyOutcomeEvidence operation content = .ok ()) :
    newOutcomeEvidence operation = .ok content := by
  unfold verifyOutcomeEvidence at h
  split_ifs at h with hempty
  split at h
  · cases h
  · split at h
    · cases h
    · next expectedContent hnew =>
      split at h
      · cases h
      · split_ifs at h with hdiffers
        simp only [ne_eq, Bool.or_eq_true, decide_eq_true_eq, not_or, not_not] at hdiffers
        rw [hnew, hdiffers.2]

structure Proves (verification : ProofVerification) (operation : FleetOperation)
    (receipt : OperationLedgerReceipt) : Prop where
  valid : verification.valid = true
  correlationID : verification.correlationID = operation.correlationID
  inputHash : verification.inputHash = receipt.inputHash
  outcome : receipt.purpose = .outcome →
    equalFold receipt.inputHash operation.observedDigest = true ∧
      newOutcomeEvidence operation = .ok verification.content

theorem proves_of_checkVerification {answer : Option ProofVerification}
    (h : checkVerification operation receipt answer = .ok ()) :
    ∃ verification, answer = some verification ∧ Proves verification operation receipt := by
  cases answer with
  | none => cases h
  | some verification =>
    cases hout : checkVerification.checkOutcome operation receipt verification with
    | error err =>
      simp only [checkVerification, hout] at h
      split_ifs at h
    | ok u =>
      simp only [checkVerification, hout] at h
      split_ifs at h with hvalid hreason htype hentry hcorrelation hinput
      simp only [Bool.not_eq_true', Bool.not_eq_false] at hvalid
      simp only [ne_eq, not_not] at hcorrelation hinput
      refine ⟨verification, rfl, hvalid, hcorrelation, hinput, ?_⟩
      intro hpurpose
      simp only [checkVerification.checkOutcome, hpurpose, ne_eq, not_true, if_false] at hout
      split_ifs at hout with hdigest hfold
      simp only [Bool.not_eq_true', Bool.not_eq_false] at hfold
      exact ⟨hfold, newOutcomeEvidence_of_verify hout⟩

end Accepted
end FleetLlmd.Intents
