import FleetLlmd.Json.Value

/-!
# Intents and operations

The records of `pkg/intents/types.go` and the ledger records the service reads.
The string enumerations of the source keep a constructor for every text outside
their constants, since a state or type read from storage or from a request can be
any text; that constructor only holds texts that are not constants, so that a
value is determined by its text.
-/

namespace FleetLlmd.Intents
open Go Json

abbrev Unlisted (constants : List String) := {text : String // text ∉ constants}

def intentTypeTexts : List String :=
  ["pre_warm", "scale", "shed_load", "alert", "migrate", "route", "deploy", "kv_transfer",
    "no_action"]

inductive IntentType where
  | preWarm | scale | shedLoad | alert | migrate | route | deploy | kvTransfer | noAction
  | unlisted (text : Unlisted intentTypeTexts)
  deriving DecidableEq

def IntentType.text : IntentType → String
  | .preWarm => "pre_warm"
  | .scale => "scale"
  | .shedLoad => "shed_load"
  | .alert => "alert"
  | .migrate => "migrate"
  | .route => "route"
  | .deploy => "deploy"
  | .kvTransfer => "kv_transfer"
  | .noAction => "no_action"
  | .unlisted text => text.1

inductive IntentStatus where
  | accepted | executed | refused | deferred
  deriving DecidableEq, Repr

def operationStateTexts : List String :=
  ["RECEIVED", "ACCEPTED", "PLANNED", "GOVERNANCE_PENDING", "AUTHORIZED", "ACTUATING", "OBSERVING",
    "VERIFIED", "EVIDENCE_PENDING", "SUCCEEDED", "REJECTED", "DEFERRED", "EXPIRED", "FAILED",
    "ROLLING_BACK", "ROLLED_BACK", "QUARANTINED"]

inductive OperationState where
  | received | accepted | planned | governancePending | authorized | actuating | observing
  | verified | evidencePending | succeeded | rejected | deferred | expired | failed
  | rollingBack | rolledBack | quarantined
  | unlisted (text : Unlisted operationStateTexts)
  deriving DecidableEq

def OperationState.text : OperationState → String
  | .received => "RECEIVED"
  | .accepted => "ACCEPTED"
  | .planned => "PLANNED"
  | .governancePending => "GOVERNANCE_PENDING"
  | .authorized => "AUTHORIZED"
  | .actuating => "ACTUATING"
  | .observing => "OBSERVING"
  | .verified => "VERIFIED"
  | .evidencePending => "EVIDENCE_PENDING"
  | .succeeded => "SUCCEEDED"
  | .rejected => "REJECTED"
  | .deferred => "DEFERRED"
  | .expired => "EXPIRED"
  | .failed => "FAILED"
  | .rollingBack => "ROLLING_BACK"
  | .rolledBack => "ROLLED_BACK"
  | .quarantined => "QUARANTINED"
  | .unlisted text => text.1

def OperationState.empty : OperationState := .unlisted ⟨"", by decide⟩

def listedOperationStates : List OperationState :=
  [.received, .accepted, .planned, .governancePending, .authorized, .actuating, .observing,
    .verified, .evidencePending, .succeeded, .rejected, .deferred, .expired, .failed,
    .rollingBack, .rolledBack, .quarantined]

def OperationState.ofText (text : String) : OperationState :=
  if h : text ∈ operationStateTexts then
    (listedOperationStates.find? (·.text == text)).getD .empty
  else .unlisted ⟨text, h⟩

@[simp] theorem OperationState.ofText_text (s : OperationState) : ofText s.text = s := by
  cases s with
  | unlisted t => exact dif_neg t.2
  | _ => decide

theorem OperationState.text_injective {s t : OperationState} (h : s.text = t.text) : s = t := by
  rw [← ofText_text s, h, ofText_text]

structure EvidenceDigest where
  uri : String
  sha256 : String
  mediaType : String
  deriving DecidableEq

structure ProposerAuthority where
  subject : String
  authorityRef : String
  maxAction : String
  expiresAt : Option Time
  deriving DecidableEq

structure FleetIntent where
  id : String
  correlationID : String
  idempotencyKey : String
  type : IntentType
  confidence : Float64
  horizonSeconds : Int
  justification : String
  stateSnapshot : Option (List (String × Value))
  createdAt : Time
  expiresAt : Option Time
  decisionPackageRef : String
  decisionPackageDigest : String
  evidence : List EvidenceDigest
  proposer : Option ProposerAuthority
  model : String
  pool : String
  targetReplicas : Int
  desiredReplicas : Int
  currentReplicas : Int
  targetClusters : List String
  maxInflight : Int
  durationSeconds : Int
  metric : String
  severity : String
  message : String
  reason : String
  recommendedAction : String

structure IntentResponse where
  intentID : String
  status : IntentStatus
  reason : String

structure OperationTransition where
  sequence : Int
  state : OperationState
  atTime : Time
  reason : String
  actor : String
  ledgerEntryID : String
  deriving DecidableEq

def receiptPurposeTexts : List String := ["admission", "authorization_decision", "outcome"]

inductive LedgerReceiptPurpose where
  | admission | authorizationDecision | outcome
  | unlisted (text : Unlisted receiptPurposeTexts)
  deriving DecidableEq

def LedgerReceiptPurpose.text : LedgerReceiptPurpose → String
  | .admission => "admission"
  | .authorizationDecision => "authorization_decision"
  | .outcome => "outcome"
  | .unlisted text => text.1

structure OperationLedgerReceipt where
  entryID : String
  entryHash : String
  entryType : String
  chainPosition : Int
  writtenTS : Int
  inputHash : String
  purpose : LedgerReceiptPurpose
  deriving DecidableEq

def authorizationAudienceFleetController : String := "fleet-llm-d"
def ledgerEntryTypeAuthorizationDecision : String := "fleet.operation.authorization_decision"
def ledgerEntryTypeOutcome : String := "fleet.operation.verified"

structure AuthorizationReference where
  grantID : String
  subject : String
  actionClass : String
  objectUID : String
  specDigest : String
  audience : String
  expiresAt : Time
  idempotencyKey : String
  breakGlass : Bool
  incidentRef : String
  deriving DecidableEq

structure ProviderReference where
  type : String
  name : String
  namespaceName : String
  externalID : String
  generation : Int
  deriving DecidableEq

structure FleetOperation where
  id : String
  objectUID : String
  intentID : String
  correlationID : String
  idempotencyKey : String
  actionClass : String
  state : OperationState
  planDigest : String
  provider : Option ProviderReference
  observedDigest : String
  authorizationRef : Option AuthorizationReference
  ledgerEntryID : String
  ledgerReceipts : List OperationLedgerReceipt
  createdAt : Time
  updatedAt : Time
  transitions : List OperationTransition
  deriving DecidableEq

/-- `FleetOperation{}`. -/
def FleetOperation.empty : FleetOperation where
  id := ""
  objectUID := ""
  intentID := ""
  correlationID := ""
  idempotencyKey := ""
  actionClass := ""
  state := .empty
  planDigest := ""
  provider := none
  observedDigest := ""
  authorizationRef := none
  ledgerEntryID := ""
  ledgerReceipts := []
  createdAt := .zero
  updatedAt := .zero
  transitions := []

structure SubmissionResponse where
  intentID : String
  operationID : String
  correlationID : String
  state : OperationState
  reason : String
  statusURL : String
  deriving DecidableEq

end FleetLlmd.Intents

namespace FleetLlmd.Ledger
open Go

structure FleetDecision where
  type : String
  correlationID : String
  content : Bytes
  contentType : String
  idempotencyKey : String
  inputHash : String
  deriving DecidableEq

structure ProofReceipt where
  entryID : String
  entryHash : String
  entryType : String
  chainPosition : Int
  timestamp : Time
  inputHash : String
  deriving DecidableEq

structure ProofVerification where
  valid : Bool
  entryID : String
  entryType : String
  correlationID : String
  inputHash : String
  content : Bytes
  chainPosition : Int
  failureReason : String
  writtenAt : Time
  deriving DecidableEq

end FleetLlmd.Ledger
