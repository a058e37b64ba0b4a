import FleetLlmd.Intents.GCLCanonical

/-!
# Decision packages

The CloudEvent and the decision package of `pkg/intents/gcl_adapter.go` as the strict decoder
reads them. Each field of the package also says in which form its text is plain, that is, in
which form the typed reading of the text follows from the untyped one.
-/

namespace FleetLlmd.Intents
open Go Json

structure GCLDecisionConstraint where
  constraintID : String := ""
  constraintType : String := ""
  hard : Option Bool := none
  bound : Option Float64 := none
  confidence : Option Float64 := none
  evidenceRefs : Slice String := .nil

structure GCLDecisionCandidate where
  candidateID : String := ""
  actionClass : String := ""
  parameters : Option (List (String × Value)) := none
  predictedEffect : Option (List (String × Value)) := none
  confidence : Option Float64 := none

structure GCLRejectedAlternative where
  candidate : GCLDecisionCandidate := {}
  reasonCode : String := ""
  reasoning : String := ""

structure GCLDecisionFalsification where
  candidateID : String := ""
  checkID : String := ""
  verdict : String := ""
  reasoning : String := ""
  evidenceRefs : Slice String := .nil

structure GCLProposerIdentity where
  agentID : String := ""
  workloadIdentity : String := ""
  trustDomain : String := ""

structure GCLAgentPromotionAttestation where
  provider : String := ""
  nonAuthoritative : Option Bool := none
  subject : String := ""
  actionClass : String := ""
  decision : String := ""
  consequenceScore : Option Float64 := none
  autonomyCeiling : Option Float64 := none
  attestationRef : String := ""
  issuedAt : Time := .zero
  expiresAt : Time := .zero

structure GCLDecisionPackage where
  schemaVersion : String := ""
  packageID : String := ""
  createdAt : Time := .zero
  expiresAt : Time := .zero
  correlationID : String := ""
  causationID : String := ""
  idempotencyID : String := ""
  tenant : String := ""
  zone : String := ""
  proposer : GCLProposerIdentity := {}
  agentPromotion : Option GCLAgentPromotionAttestation := none
  constraints : Slice GCLDecisionConstraint := .nil
  candidates : Slice GCLDecisionCandidate := .nil
  selectedCandidateID : String := ""
  rejectedAlternatives : Slice GCLRejectedAlternative := .nil
  falsificationResults : Slice GCLDecisionFalsification := .nil
  confidence : Option Float64 := none
  evidenceSources : Slice String := .nil
  evidenceRefs : Slice String := .nil

structure GCLSignedDecisionPackage where
  package : Option Raw := none
  digest : String := ""
  signature : String := ""
  algorithm : String := ""
  keyID : String := ""

structure GCLDecisionPackageCloudEvent where
  specVersion : String := ""
  id : String := ""
  source : String := ""
  type : String := ""
  subject : String := ""
  time : Time := .zero
  dataContentType : String := ""
  dataSchema : String := ""
  correlationID : String := ""
  causationID : String := ""
  idempotencyID : String := ""
  tenant : String := ""
  zone : String := ""
  traceparent : Option String := none
  expiry : Time := .zero
  evidence : Slice String := .nil
  data : GCLSignedDecisionPackage := {}

/-! ## The envelope -/

def signedPackageFields : List (StructField GCLSignedDecisionPackage) := [
  structField "package" (·.package) (fun s x => { s with package := x }) decodeRawMessage,
  structField "digest" (·.digest) (fun s x => { s with digest := x }) decodeString,
  structField "signature" (·.signature) (fun s x => { s with signature := x }) decodeString,
  structField "algorithm" (·.algorithm) (fun s x => { s with algorithm := x }) decodeString,
  structField "key_id" (·.keyID) (fun s x => { s with keyID := x }) decodeString]

def cloudEventFields : List (StructField GCLDecisionPackageCloudEvent) := [
  structField "specversion" (·.specVersion) (fun s x => { s with specVersion := x }) decodeString,
  structField "id" (·.id) (fun s x => { s with id := x }) decodeString,
  structField "source" (·.source) (fun s x => { s with source := x }) decodeString,
  structField "type" (·.type) (fun s x => { s with type := x }) decodeString,
  structField "subject" (·.subject) (fun s x => { s with subject := x }) decodeString,
  structField "time" (·.time) (fun s x => { s with time := x }) decodeTime,
  structField "datacontenttype" (·.dataContentType) (fun s x => { s with dataContentType := x })
    decodeString,
  structField "dataschema" (·.dataSchema) (fun s x => { s with dataSchema := x }) decodeString,
  structField "correlationid" (·.correlationID) (fun s x => { s with correlationID := x })
    decodeString,
  structField "causationid" (·.causationID) (fun s x => { s with causationID := x }) decodeString,
  structField "idempotencyid" (·.idempotencyID) (fun s x => { s with idempotencyID := x })
    decodeString,
  structField "tenant" (·.tenant) (fun s x => { s with tenant := x }) decodeString,
  structField "zone" (·.zone) (fun s x => { s with zone := x }) decodeString,
  structField "traceparent" (·.traceparent) (fun s x => { s with traceparent := x })
    (decodePointer "" decodeString),
  structField "expiry" (·.expiry) (fun s x => { s with expiry := x }) decodeTime,
  structField "evidence" (·.evidence) (fun s x => { s with evidence := x })
    (decodeSlice "" decodeString),
  structField "data" (·.data) (fun s x => { s with data := x })
    (decodeStruct true signedPackageFields)]

/-- `strictGCLJSONDecode(payload, &event)`. -/
def decodeCloudEvent (payload : Bytes) : Except Error GCLDecisionPackageCloudEvent :=
  unmarshal (decodeStruct true cloudEventFields) payload {}

/-! ## The package -/

def plainFloat : Form := spelled fun lit => !isWholeNegativeZero lit

def decodeFloatPointer : Decoder (Option Float64) := decodePointer .zero decodeFloat64
def decodeBoolPointer : Decoder (Option Bool) := decodePointer false decodeBool
def decodeStrings : Decoder (Slice String) := decodeSlice "" decodeString

def constraintFields : List (TypedField GCLDecisionConstraint) := [
  ⟨"constraint_id", _, (·.constraintID), fun s x => { s with constraintID := x },
    decodeString, anyText⟩,
  ⟨"constraint_type", _, (·.constraintType), fun s x => { s with constraintType := x },
    decodeString, anyText⟩,
  ⟨"hard", _, (·.hard), fun s x => { s with hard := x }, decodeBoolPointer, anyText⟩,
  ⟨"bound", _, (·.bound), fun s x => { s with bound := x }, decodeFloatPointer, plainFloat⟩,
  ⟨"confidence", _, (·.confidence), fun s x => { s with confidence := x },
    decodeFloatPointer, plainFloat⟩,
  ⟨"evidence_refs", _, (·.evidenceRefs), fun s x => { s with evidenceRefs := x },
    decodeStrings, eachItem anyText⟩]

def candidateFields : List (TypedField GCLDecisionCandidate) := [
  ⟨"candidate_id", _, (·.candidateID), fun s x => { s with candidateID := x },
    decodeString, anyText⟩,
  ⟨"action_class", _, (·.actionClass), fun s x => { s with actionClass := x },
    decodeString, anyText⟩,
  ⟨"parameters", _, (·.parameters), fun s x => { s with parameters := x },
    decodeMap, numbersAs⟩,
  ⟨"predicted_effect", _, (·.predictedEffect), fun s x => { s with predictedEffect := x },
    decodeMap, numbersAs⟩,
  ⟨"confidence", _, (·.confidence), fun s x => { s with confidence := x },
    decodeFloatPointer, plainFloat⟩]

def decodeFields {σ : Type} (fields : List (TypedField σ)) : Decoder σ :=
  decodeStruct true (fields.map TypedField.toStructField)

def rejectedFields : List (TypedField GCLRejectedAlternative) := [
  ⟨"candidate", _, (·.candidate), fun s x => { s with candidate := x },
    decodeFields candidateFields, TypedField.plainObject candidateFields⟩,
  ⟨"reason_code", _, (·.reasonCode), fun s x => { s with reasonCode := x },
    decodeString, anyText⟩,
  ⟨"reasoning", _, (·.reasoning), fun s x => { s with reasoning := x }, decodeString, anyText⟩]

def falsificationFields : List (TypedField GCLDecisionFalsification) := [
  ⟨"candidate_id", _, (·.candidateID), fun s x => { s with candidateID := x },
    decodeString, anyText⟩,
  ⟨"check_id", _, (·.checkID), fun s x => { s with checkID := x }, decodeString, anyText⟩,
  ⟨"verdict", _, (·.verdict), fun s x => { s with verdict := x }, decodeString, anyText⟩,
  ⟨"reasoning", _, (·.reasoning), fun s x => { s with reasoning := x }, decodeString, anyText⟩,
  ⟨"evidence_refs", _, (·.evidenceRefs), fun s x => { s with evidenceRefs := x },
    decodeStrings, eachItem anyText⟩]

def proposerFields : List (TypedField GCLProposerIdentity) := [
  ⟨"agent_id", _, (·.agentID), fun s x => { s with agentID := x }, decodeString, anyText⟩,
  ⟨"workload_identity", _, (·.workloadIdentity), fun s x => { s with workloadIdentity := x },
    decodeString, anyText⟩,
  ⟨"trust_domain", _, (·.trustDomain), fun s x => { s with trustDomain := x },
    decodeString, anyText⟩]

def attestationFields : List (TypedField GCLAgentPromotionAttestation) := [
  ⟨"provider", _, (·.provider), fun s x => { s with provider := x }, decodeString, anyText⟩,
  ⟨"non_authoritative", _, (·.nonAuthoritative), fun s x => { s with nonAuthoritative := x },
    decodeBoolPointer, anyText⟩,
  ⟨"subject", _, (·.subject), fun s x => { s with subject := x }, decodeString, anyText⟩,
  ⟨"action_class", _, (·.actionClass), fun s x => { s with actionClass := x },
    decodeString, anyText⟩,
  ⟨"decision", _, (·.decision), fun s x => { s with decision := x }, decodeString, anyText⟩,
  ⟨"consequence_score", _, (·.consequenceScore), fun s x => { s with consequenceScore := x },
    decodeFloatPointer, plainFloat⟩,
  ⟨"autonomy_ceiling", _, (·.autonomyCeiling), fun s x => { s with autonomyCeiling := x },
    decodeFloatPointer, plainFloat⟩,
  ⟨"attestation_ref", _, (·.attestationRef), fun s x => { s with attestationRef := x },
    decodeString, anyText⟩,
  ⟨"issued_at", _, (·.issuedAt), fun s x => { s with issuedAt := x }, decodeTime, unescaped⟩,
  ⟨"expires_at", _, (·.expiresAt), fun s x => { s with expiresAt := x }, decodeTime, unescaped⟩]

def packageFields : List (TypedField GCLDecisionPackage) := [
  ⟨"schema_version", _, (·.schemaVersion), fun s x => { s with schemaVersion := x },
    decodeString, anyText⟩,
  ⟨"package_id", _, (·.packageID), fun s x => { s with packageID := x }, decodeString, anyText⟩,
  ⟨"created_at", _, (·.createdAt), fun s x => { s with createdAt := x }, decodeTime, unescaped⟩,
  ⟨"expires_at", _, (·.expiresAt), fun s x => { s with expiresAt := x }, decodeTime, unescaped⟩,
  ⟨"correlation_id", _, (·.correlationID), fun s x => { s with correlationID := x },
    decodeString, anyText⟩,
  ⟨"causation_id", _, (·.causationID), fun s x => { s with causationID := x },
    decodeString, anyText⟩,
  ⟨"idempotency_id", _, (·.idempotencyID), fun s x => { s with idempotencyID := x },
    decodeString, anyText⟩,
  ⟨"tenant", _, (·.tenant), fun s x => { s with tenant := x }, decodeString, anyText⟩,
  ⟨"zone", _, (·.zone), fun s x => { s with zone := x }, decodeString, anyText⟩,
  ⟨"proposer", _, (·.proposer), fun s x => { s with proposer := x },
    decodeFields proposerFields, TypedField.plainObject proposerFields⟩,
  ⟨"agent_promotion", _, (·.agentPromotion), fun s x => { s with agentPromotion := x },
    decodePointer {} (decodeFields attestationFields), TypedField.plainObject attestationFields⟩,
  ⟨"constraints", _, (·.constraints), fun s x => { s with constraints := x },
    decodeSlice {} (decodeFields constraintFields),
    eachItem (TypedField.plainObject constraintFields)⟩,
  ⟨"candidates", _, (·.candidates), fun s x => { s with candidates := x },
    decodeSlice {} (decodeFields candidateFields),
    eachItem (TypedField.plainObject candidateFields)⟩,
  ⟨"selected_candidate_id", _, (·.selectedCandidateID),
    fun s x => { s with selectedCandidateID := x }, decodeString, anyText⟩,
  ⟨"rejected_alternatives", _, (·.rejectedAlternatives),
    fun s x => { s with rejectedAlternatives := x },
    decodeSlice {} (decodeFields rejectedFields),
    eachItem (TypedField.plainObject rejectedFields)⟩,
  ⟨"falsification_results", _, (·.falsificationResults),
    fun s x => { s with falsificationResults := x },
    decodeSlice {} (decodeFields falsificationFields),
    eachItem (TypedField.plainObject falsificationFields)⟩,
  ⟨"confidence", _, (·.confidence), fun s x => { s with confidence := x },
    decodeFloatPointer, plainFloat⟩,
  ⟨"evidence_sources", _, (·.evidenceSources), fun s x => { s with evidenceSources := x },
    decodeStrings, eachItem anyText⟩,
  ⟨"evidence_refs", _, (·.evidenceRefs), fun s x => { s with evidenceRefs := x },
    decodeStrings, eachItem anyText⟩]

/-- `strictGCLJSONDecode(event.Data.Package, &decision)`. -/
def decodeDecisionPackage (package : Raw) : Except Error GCLDecisionPackage :=
  decodeFields packageFields package {}

/-- In every object of the package that is read into a struct all names differ ignoring case,
timestamps are spelled without escapes, no float is spelled `-0`, and numbers in parameters and
predicted effects are spelled canonically. -/
def plainPackage (floorLog10 : Float64 → Int) (package : Raw) : Bool :=
  TypedField.plainObject packageFields (canonicalSpelling floorLog10) package

/-! ## What the decoder reads follows from the canonical text -/

section Agreement
variable {floorLog10 : Float64 → Int}

theorem agrees_floatPointer :
    Json.Agrees (canonicalSpelling floorLog10) plainFloat decodeFloatPointer none :=
  agrees_pointer (agrees_float64 (fun _ h => parse_canonicalSpelling (by simpa using h)) .zero)

theorem agrees_boolPointer : Json.Agrees
    (canonicalSpelling floorLog10) anyText decodeBoolPointer none :=
  agrees_pointer (agrees_bool false)

theorem agrees_strings :
    Json.Agrees (canonicalSpelling floorLog10) (eachItem anyText) decodeStrings .nil :=
  agrees_slice (agrees_string "")

/-- No two fields of a struct write to one place. -/
theorem fields_apart :
    constraintFields.Pairwise TypedField.Apart ∧ candidateFields.Pairwise TypedField.Apart ∧
      rejectedFields.Pairwise TypedField.Apart ∧ falsificationFields.Pairwise TypedField.Apart ∧
      proposerFields.Pairwise TypedField.Apart ∧ attestationFields.Pairwise TypedField.Apart ∧
      packageFields.Pairwise TypedField.Apart := by
  simp only [constraintFields, candidateFields, rejectedFields, falsificationFields,
    proposerFields, attestationFields, packageFields, List.pairwise_cons, List.forall_mem_cons,
    List.not_mem_nil, false_imp_iff, implies_true, List.Pairwise.nil, and_true]
  and_intros <;> exact ⟨fun _ _ => rfl, fun _ _ => rfl, fun _ _ _ => rfl⟩

theorem agrees_constraint :
    Json.Agrees (canonicalSpelling floorLog10) (TypedField.plainObject constraintFields)
      (decodeFields constraintFields) {} := by
  refine TypedField.agrees_struct fields_apart.1 ?_
  simp only [constraintFields, List.forall_mem_cons, List.not_mem_nil, false_imp_iff, implies_true,
    and_true]
  exact ⟨agrees_string _, agrees_string _, agrees_boolPointer, agrees_floatPointer,
    agrees_floatPointer, agrees_strings⟩

theorem agrees_candidate :
    Json.Agrees (canonicalSpelling floorLog10) (TypedField.plainObject candidateFields)
      (decodeFields candidateFields) {} := by
  refine TypedField.agrees_struct fields_apart.2.1 ?_
  simp only [candidateFields, List.forall_mem_cons, List.not_mem_nil, false_imp_iff, implies_true,
    and_true]
  exact ⟨agrees_string _, agrees_string _, agrees_map, agrees_map, agrees_floatPointer⟩

theorem agrees_rejected :
    Json.Agrees (canonicalSpelling floorLog10) (TypedField.plainObject rejectedFields)
      (decodeFields rejectedFields) {} := by
  refine TypedField.agrees_struct fields_apart.2.2.1 ?_
  simp only [rejectedFields, List.forall_mem_cons, List.not_mem_nil, false_imp_iff, implies_true,
    and_true]
  exact ⟨agrees_candidate, agrees_string _, agrees_string _⟩

theorem agrees_falsification :
    Json.Agrees (canonicalSpelling floorLog10) (TypedField.plainObject falsificationFields)
      (decodeFields falsificationFields) {} := by
  refine TypedField.agrees_struct fields_apart.2.2.2.1 ?_
  simp only [falsificationFields, List.forall_mem_cons, List.not_mem_nil, false_imp_iff,
    implies_true, and_true]
  exact ⟨agrees_string _, agrees_string _, agrees_string _, agrees_string _, agrees_strings⟩

theorem agrees_proposer :
    Json.Agrees (canonicalSpelling floorLog10) (TypedField.plainObject proposerFields)
      (decodeFields proposerFields) {} := by
  refine TypedField.agrees_struct fields_apart.2.2.2.2.1 ?_
  simp only [proposerFields, List.forall_mem_cons, List.not_mem_nil, false_imp_iff, implies_true,
    and_true]
  exact ⟨agrees_string _, agrees_string _, agrees_string _⟩

theorem agrees_attestation :
    Json.Agrees (canonicalSpelling floorLog10) (TypedField.plainObject attestationFields)
      (decodeFields attestationFields) {} := by
  refine TypedField.agrees_struct fields_apart.2.2.2.2.2.1 ?_
  simp only [attestationFields, List.forall_mem_cons, List.not_mem_nil, false_imp_iff, implies_true,
    and_true]
  exact ⟨agrees_string _, agrees_boolPointer, agrees_string _, agrees_string _, agrees_string _,
    agrees_floatPointer, agrees_floatPointer, agrees_string _, agrees_time _, agrees_time _⟩

theorem agrees_package :
    Json.Agrees (canonicalSpelling floorLog10) (TypedField.plainObject packageFields)
      (decodeFields packageFields) {} := by
  refine TypedField.agrees_struct fields_apart.2.2.2.2.2.2 ?_
  simp only [packageFields, List.forall_mem_cons, List.not_mem_nil, false_imp_iff, implies_true,
    and_true]
  exact ⟨agrees_string _, agrees_string _, agrees_time _, agrees_time _, agrees_string _,
    agrees_string _, agrees_string _, agrees_string _, agrees_string _, agrees_proposer,
    agrees_pointer agrees_attestation,
    agrees_slice agrees_constraint, agrees_slice agrees_candidate, agrees_string _,
    agrees_slice agrees_rejected, agrees_slice agrees_falsification, agrees_floatPointer,
    agrees_strings, agrees_strings⟩

theorem decodeDecisionPackage_agree {r r' : Raw} {canonical : Bytes}
    (hplain : plainPackage floorLog10 r = true) (hplain' : plainPackage floorLog10 r' = true)
    (h : canonicalGCLJSON floorLog10 r = .ok canonical)
    (h' : canonicalGCLJSON floorLog10 r' = .ok canonical) :
    (decodeDecisionPackage r).toOption =
      (decodeDecisionPackage r').toOption :=
  agrees_package r r' hplain hplain' (value_of_canonicalGCLJSON h h')

end Agreement
end FleetLlmd.Intents
