import FleetLlmd.Intents.Types
import FleetLlmd.Json.Decode
import FleetLlmd.Json.Encode

/-!
# Intents as JSON

`json.Marshal` of a `FleetIntent` and `json.Unmarshal` into one. The slices of the
destination keep their arrays while a text is read, so they are decoded next to the
intent and put into it at the end. Numbers of the state snapshot become `float64`.
-/

namespace FleetLlmd.Json
open Go

mutual

def Raw.toInterface : Raw → Except Error Value
  | .null => .ok .null
  | .bool b => .ok (.bool b)
  | .number lit =>
    match Float64.parse lit with
    | some x => .ok (.float x)
    | none => .error (typeError (.number lit) "float64")
  | .string lit => .ok (.string (String.ofList (unquote lit)))
  | .array items => (Raw.toInterfaceItems items).map .array
  | .object members => (Raw.toInterfaceEntries members []).map .object

def Raw.toInterfaceItems : List Raw → Except Error (List Value)
  | [] => .ok []
  | item :: items =>
    match item.toInterface, Raw.toInterfaceItems items with
    | .ok v, .ok vs => .ok (v :: vs)
    | .error err, _ => .error err
    | _, .error err => .error err

def Raw.toInterfaceEntries : List (String × Raw) → List (String × Value) →
    Except Error (List (String × Value))
  | [], m => .ok m
  | (key, value) :: members, m =>
    match value.toInterface with
    | .ok v => Raw.toInterfaceEntries members (insertKey key v m)
    | .error err => .error err

end

/-- `map[string]interface{}` without `UseNumber`. -/
def decodeInterfaceMap : Decoder (Option (List (String × Value)))
  | .null, _ => .ok none
  | .object members, m => (Raw.toInterfaceEntries members (m.getD [])).map some
  | r, _ => .error (typeError r "map[string]interface {}")

end FleetLlmd.Json

namespace FleetLlmd.Intents
open Go Json

def listedIntentTypes : List IntentType :=
  [.preWarm, .scale, .shedLoad, .alert, .migrate, .route, .deploy, .kvTransfer, .noAction]

def IntentType.ofText (text : String) : IntentType :=
  if h : text ∈ intentTypeTexts then
    (listedIntentTypes.find? (·.text == text)).getD .noAction
  else .unlisted ⟨text, h⟩

def EvidenceDigest.fields : List (StructField EvidenceDigest) :=
  [structField "uri" (·.uri) (fun e s => { e with uri := s }) decodeString,
    structField "sha256" (·.sha256) (fun e s => { e with sha256 := s }) decodeString,
    structField "media_type" (·.mediaType) (fun e s => { e with mediaType := s }) decodeString]

def ProposerAuthority.fields : List (StructField ProposerAuthority) :=
  [structField "subject" (·.subject) (fun p s => { p with subject := s }) decodeString,
    structField "authority_ref" (·.authorityRef) (fun p s => { p with authorityRef := s })
      decodeString,
    structField "max_action" (·.maxAction) (fun p s => { p with maxAction := s }) decodeString,
    structField "expires_at" (·.expiresAt) (fun p t => { p with expiresAt := t })
      (decodePointer .zero decodeTime)]

namespace FleetIntent

/-- `FleetIntent{}`. -/
def empty : FleetIntent where
  id := ""
  correlationID := ""
  idempotencyKey := ""
  type := .ofText ""
  confidence := .zero
  horizonSeconds := 0
  justification := ""
  stateSnapshot := none
  createdAt := .zero
  expiresAt := none
  decisionPackageRef := ""
  decisionPackageDigest := ""
  evidence := []
  proposer := none
  model := ""
  pool := ""
  targetReplicas := 0
  desiredReplicas := 0
  currentReplicas := 0
  targetClusters := []
  maxInflight := 0
  durationSeconds := 0
  metric := ""
  severity := ""
  message := ""
  reason := ""
  recommendedAction := ""

structure Draft where
  intent : FleetIntent
  evidence : Slice EvidenceDigest
  targetClusters : Slice String

namespace Draft

def field {α : Type} (name : String) (get : FleetIntent → α)
    (set : FleetIntent → α → FleetIntent) (d : Decoder α) : StructField Draft :=
  structField name (fun w => get w.intent) (fun w a => { w with intent := set w.intent a }) d

def fields : List (StructField Draft) :=
  [field "id" (·.id) (fun i s => { i with id := s }) decodeString,
    field "correlation_id" (·.correlationID) (fun i s => { i with correlationID := s }) decodeString,
    field "idempotency_key" (·.idempotencyKey) (fun i s => { i with idempotencyKey := s })
      decodeString,
    field "type" (·.type.text) (fun i s => { i with type := .ofText s }) decodeString,
    field "confidence" (·.confidence) (fun i x => { i with confidence := x }) decodeFloat64,
    field "horizon_seconds" (·.horizonSeconds) (fun i n => { i with horizonSeconds := n }) decodeInt,
    field "justification" (·.justification) (fun i s => { i with justification := s }) decodeString,
    field "state_snapshot" (·.stateSnapshot) (fun i m => { i with stateSnapshot := m })
      decodeInterfaceMap,
    field "created_at" (·.createdAt) (fun i t => { i with createdAt := t }) decodeTime,
    field "expires_at" (·.expiresAt) (fun i t => { i with expiresAt := t })
      (decodePointer .zero decodeTime),
    field "decision_package_ref" (·.decisionPackageRef)
      (fun i s => { i with decisionPackageRef := s }) decodeString,
    field "decision_package_digest" (·.decisionPackageDigest)
      (fun i s => { i with decisionPackageDigest := s }) decodeString,
    structField "evidence" (·.evidence) (fun w es => { w with evidence := es })
      (decodeSlice ⟨"", "", ""⟩ (decodeStruct false EvidenceDigest.fields)),
    field "proposer" (·.proposer) (fun i p => { i with proposer := p })
      (decodePointer ⟨"", "", "", none⟩ (decodeStruct false ProposerAuthority.fields)),
    field "model" (·.model) (fun i s => { i with model := s }) decodeString,
    field "pool" (·.pool) (fun i s => { i with pool := s }) decodeString,
    field "target_replicas" (·.targetReplicas) (fun i n => { i with targetReplicas := n }) decodeInt,
    field "desired_replicas" (·.desiredReplicas) (fun i n => { i with desiredReplicas := n })
      decodeInt,
    field "current_replicas" (·.currentReplicas) (fun i n => { i with currentReplicas := n })
      decodeInt,
    structField "target_clusters" (·.targetClusters) (fun w cs => { w with targetClusters := cs })
      (decodeSlice "" decodeString),
    field "max_inflight" (·.maxInflight) (fun i n => { i with maxInflight := n }) decodeInt,
    field "duration_seconds" (·.durationSeconds) (fun i n => { i with durationSeconds := n })
      decodeInt,
    field "metric" (·.metric) (fun i s => { i with metric := s }) decodeString,
    field "severity" (·.severity) (fun i s => { i with severity := s }) decodeString,
    field "message" (·.message) (fun i s => { i with message := s }) decodeString,
    field "reason" (·.reason) (fun i s => { i with reason := s }) decodeString,
    field "recommended_action" (·.recommendedAction) (fun i s => { i with recommendedAction := s })
      decodeString]

def finish (w : Draft) : FleetIntent :=
  { w.intent with evidence := w.evidence.items, targetClusters := w.targetClusters.items }

end Draft

def unmarshal (content : Bytes) : Except Error FleetIntent :=
  (Json.unmarshal (decodeStruct false Draft.fields) content ⟨.empty, .nil, .nil⟩).map Draft.finish

end FleetIntent

def EvidenceDigest.encode (e : EvidenceDigest) : Encoded :=
  encodeStruct
    [member "uri" (encodeString e.uri), member "sha256" (encodeString e.sha256),
      omitEmpty "media_type" (e.mediaType == "") (encodeString e.mediaType)]

def ProposerAuthority.encode (p : ProposerAuthority) : Encoded :=
  encodeStruct
    [member "subject" (encodeString p.subject),
      member "authority_ref" (encodeString p.authorityRef),
      omitEmpty "max_action" (p.maxAction == "") (encodeString p.maxAction),
      omitNone "expires_at" encodeTime p.expiresAt]

def encodeStrings (ss : List String) : Encoded := (encodeArray (ss.map encodeString)).map arrayText

namespace FleetIntent

def encode (i : FleetIntent) : Encoded :=
  encodeStruct
    [member "id" (encodeString i.id),
      text "correlation_id" i.correlationID,
      text "idempotency_key" i.idempotencyKey,
      member "type" (encodeString i.type.text),
      member "confidence" (encodeFloat64 i.confidence),
      member "horizon_seconds" (encodeInt i.horizonSeconds),
      member "justification" (encodeString i.justification),
      member "state_snapshot" (match i.stateSnapshot with
        | none => Value.null.encode
        | some entries => (Value.object entries).encode),
      member "created_at" (encodeTime i.createdAt),
      omitNone "expires_at" encodeTime i.expiresAt,
      text "decision_package_ref" i.decisionPackageRef,
      text "decision_package_digest" i.decisionPackageDigest,
      omitEmpty "evidence" i.evidence.isEmpty
        ((encodeArray (i.evidence.map EvidenceDigest.encode)).map arrayText),
      omitNone "proposer" ProposerAuthority.encode i.proposer,
      text "model" i.model,
      text "pool" i.pool,
      count "target_replicas" i.targetReplicas,
      count "desired_replicas" i.desiredReplicas,
      count "current_replicas" i.currentReplicas,
      omitEmpty "target_clusters" i.targetClusters.isEmpty (encodeStrings i.targetClusters),
      count "max_inflight" i.maxInflight,
      count "duration_seconds" i.durationSeconds,
      text "metric" i.metric,
      text "severity" i.severity,
      text "message" i.message,
      text "reason" i.reason,
      text "recommended_action" i.recommendedAction]
where
  text (name value : String) : Member := omitEmpty name (value == "") (encodeString value)
  count (name : String) (n : Int) : Member := omitEmpty name (n == 0) (encodeInt n)

def marshal (i : FleetIntent) : Except Error Bytes := i.encode.map encodeRunes

end FleetIntent

end FleetLlmd.Intents
