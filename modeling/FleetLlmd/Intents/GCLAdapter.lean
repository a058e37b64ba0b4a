import FleetLlmd.Go.Base64
import FleetLlmd.Go.Sha256
import FleetLlmd.Intents.GCLPackage
import FleetLlmd.Intents.Types

/-!
# Decoding decision packages

`pkg/intents/gcl_adapter.go`: a CloudEvent with a signed decision package is checked, its
signature verified over the canonical text of the package, and the selected candidate
projected into a fleet intent.
-/

namespace FleetLlmd.Intents
open Go Json

structure GCLPlatform where
  parseMediaType : String → Except Error (String × List (String × String))
  ed25519Verify : Bytes → Bytes → Bytes → Bool
  floorLog10 : Float64 → Int

def gclCloudEventContentType : String := "application/cloudevents+json"
def gclCloudEventType : String := "ai.llm-d.gcl.decision-package.v1"
def gclSchemaVersion : String := "gcl.llm-d.ai/decision-package/v1"
def gclSchemaURI : String := "https://schemas.llm-d.ai/gcl/decision-package/v1/schema.json"

def gclActionClasses : List (String × IntentType) := [
  ("fleet.deploy", .deploy), ("fleet.scale", .scale), ("fleet.route", .route),
  ("fleet.prewarm", .preWarm), ("fleet.shed_load", .shedLoad), ("fleet.migrate", .migrate),
  ("fleet.kv_transfer", .kvTransfer)]

/-! ## Patterns -/

def isLowerHex (c : Char) : Bool := isDigit c || ('a' ≤ c && c ≤ 'f')
def isLower (c : Char) : Bool := 'a' ≤ c && c ≤ 'z'
def isLetter (c : Char) : Bool := isLower c || ('A' ≤ c && c ≤ 'Z')

def hexGroups : List Nat → List Char → Bool
  | [], cs => cs.isEmpty
  | [n], cs => cs.length == n && cs.all isLowerHex
  | n :: ns, cs =>
    (cs.take n).length == n && (cs.take n).all isLowerHex && (cs.drop n).head? == some '-' &&
      hexGroups ns (cs.drop (n + 1))

def stripText (pre : String) (s : String) : Option (List Char) :=
  if pre.toList.isPrefixOf (chars s) then some ((chars s).drop pre.length) else none

def gclDigestPattern (s : String) : Bool := (stripText "sha256:" s).any (hexGroups [64])
def gclUUIDPattern (s : String) : Bool := hexGroups [8, 4, 4, 4, 12] (chars s)
def gclTraceparentPattern (s : String) : Bool := (stripText "00-" s).any (hexGroups [32, 16, 2])

def isSignatureChar (c : Char) : Bool := isLetter c || isDigit c || c == '_' || c == '-'
def gclHMACSignaturePattern (s : String) : Bool :=
  (chars s).length == 43 && (chars s).all isSignatureChar
def gclEd25519SignaturePattern (s : String) : Bool :=
  (chars s).length == 86 && (chars s).all isSignatureChar

def isSchemeChar (c : Char) : Bool := isLower c || isDigit c || c == '+' || c == '.' || c == '-'

def gclSourcePattern (s : String) : Bool :=
  match chars s with
  | [] => false
  | c :: cs => isLower c &&
    match cs.dropWhile isSchemeChar with
    | ':' :: rest => !rest.isEmpty && rest.all (· != '\n')
    | _ => false

def isHostChar (c : Char) : Bool := isLower c || isDigit c || c == '.' || c == '-'

def isPathChar (c : Char) : Bool :=
  isLetter c || isDigit c || "._~!$&'()*+,;=:@%-".toList.contains c

def splitSlash : List Char → List (List Char)
  | [] => [[]]
  | c :: cs =>
    match splitSlash cs with
    | part :: parts => if c = '/' then [] :: part :: parts else (c :: part) :: parts
    | [] => [[c]]

def gclSPIFFEPattern (s : String) : Bool :=
  match (stripText "spiffe://" s).map splitSlash with
  | some (host :: segments) => !host.isEmpty && host.all isHostChar &&
      segments.all fun segment => !segment.isEmpty && segment.all isPathChar
  | _ => false

def gclTrustDomainPattern (s : String) : Bool :=
  let isEdge (c : Char) : Bool := isLower c || isDigit c
  (chars s).head?.any isEdge && (chars s).getLast?.any isEdge && (chars s).all isHostChar

/-! ## Validation -/

def gclError (format : String) (args : List String) : Error :=
  .errorf ("GCL DecisionPackage " ++ format) args

def require (condition : Bool) (err : Error) : Except Error Unit :=
  if condition then .ok () else .error err

def eachIndexed {α : Type} (check : Nat → α → Except Error Unit) : Nat → List α → Except Error Unit
  | _, [] => .ok ()
  | i, x :: xs =>
    match check i x with
    | .error err => .error err
    | .ok () => eachIndexed check (i + 1) xs

def indexText (i : Nat) : String := String.ofList (natText i)

def validateGCLString (name value : String) (maxLength : Nat) : Except Error Unit :=
  require (decide (0 < (chars value).length ∧ (chars value).length ≤ maxLength))
    (gclError "%s must contain 1 to %d characters" [name, indexText maxLength])

/-- `-0` is not below zero. -/
def gclUnitInterval (x : Float64) : Bool :=
  !x.isNaN && !x.isInf && !x.lt .zero && !Float64.one.lt x

def validateGCLContentType (env : GCLPlatform) (contentType : String) : Except Error Unit :=
  match env.parseMediaType contentType with
  | .error err => .error (.wrapf "invalid Content-Type for GCL DecisionPackage: %w" [] err)
  | .ok (mediaType, params) =>
    if mediaType ≠ gclCloudEventContentType then
      .error (gclError "requires Content-Type %q" [gclCloudEventContentType])
    else
      match params.find? fun p => !equalFold p.1 "charset" || !equalFold p.2 "utf-8" with
      | some p => .error (.errorf "unsupported GCL DecisionPackage Content-Type parameter %q" [p.1])
      | none => .ok ()

def validateGCLProposer (proposer : GCLProposerIdentity) : Except Error Unit := do
  validateGCLString "proposer.agent_id" proposer.agentID 256
  require (gclSPIFFEPattern proposer.workloadIdentity)
    (gclError "proposer.workload_identity is not a valid SPIFFE URI" [])
  require (gclTrustDomainPattern proposer.trustDomain)
    (gclError "proposer.trust_domain is invalid" [])

def validateGCLAgentPromotion (attestation : GCLAgentPromotionAttestation)
    (packageCreatedAt : Time) : Except Error Unit := do
  require (attestation.provider == "agent-promotion")
    (gclError "agent_promotion.provider must be agent-promotion" [])
  require (attestation.nonAuthoritative == some true)
    (gclError "agent_promotion must be non-authoritative" [])
  validateGCLString "agent_promotion.subject" attestation.subject 256
  require (lookupKey attestation.actionClass gclActionClasses).isSome
    (gclError "agent_promotion.action_class %q is not canonical" [attestation.actionClass])
  require (["allow", "refuse", "route_human", "unavailable"].contains attestation.decision)
    (gclError "agent_promotion.decision %q is invalid" [attestation.decision])
  require (attestation.consequenceScore.any gclUnitInterval &&
      attestation.autonomyCeiling.any gclUnitInterval)
    (gclError "agent_promotion scores must be present and between 0 and 1" [])
  require (gclDigestPattern attestation.attestationRef)
    (gclError "agent_promotion.attestation_ref is invalid" [])
  require (!attestation.issuedAt.isZero && !attestation.expiresAt.isZero &&
      attestation.expiresAt.after attestation.issuedAt)
    (gclError "agent_promotion must expire after it is issued" [])
  require (attestation.expiresAt.after packageCreatedAt)
    (gclError "agent_promotion is already expired at package creation" [])

def validateGCLNestedEvidence (known : List String) : List String → Except Error Unit
  | [] => .ok ()
  | ref :: refs =>
    if !gclDigestPattern ref then .error (.errorf "nested evidence reference %q is invalid" [ref])
    else if !known.contains ref then
      .error (.errorf "nested evidence reference %q is absent from evidence_refs" [ref])
    else validateGCLNestedEvidence known refs

def validateGCLEvidence (record : String) (i : Nat) (known : List String) (refs : Slice String) :
    Except Error Unit :=
  if refs.items.isEmpty then .error (gclError (record ++ "[%d] requires evidence") [indexText i])
  else
    match validateGCLNestedEvidence known refs.items with
    | .error err =>
      .error (.wrapf ("GCL DecisionPackage " ++ record ++ "[%d]: %w") [indexText i] err)
    | .ok () => .ok ()

def validateGCLConstraint (known : List String) (i : Nat) (constraint : GCLDecisionConstraint) :
    Except Error Unit := do
  let path := "constraints[" ++ indexText i ++ "]"
  validateGCLString (path ++ ".constraint_id") constraint.constraintID 256
  validateGCLString (path ++ ".constraint_type") constraint.constraintType 128
  require (constraint.hard.isSome && constraint.bound.isSome)
    (gclError "constraints[%d] requires hard and bound" [indexText i])
  require (constraint.confidence.any gclUnitInterval)
    (gclError "constraints[%d].confidence must be present and between 0 and 1" [indexText i])
  validateGCLEvidence "constraints" i known constraint.evidenceRefs

def validateGCLCandidate (path : String) (candidate : GCLDecisionCandidate) :
    Except Error Unit := do
  validateGCLString (path ++ ".candidate_id") candidate.candidateID 256
  require (lookupKey candidate.actionClass gclActionClasses).isSome
    (gclError "%s.action_class %q is not canonical" [path, candidate.actionClass])
  require candidate.parameters.isSome (gclError "%s.parameters is required" [path])
  require (candidate.confidence.any gclUnitInterval)
    (gclError "%s.confidence must be present and between 0 and 1" [path])

def validateGCLEvidenceRefs (seen : List String) (i : Nat) : List String → Except Error Unit
  | [] => .ok ()
  | ref :: refs =>
    if !gclDigestPattern ref then
      .error (gclError "evidence_refs[%d] is not sha256:<64 lowercase hex>" [indexText i])
    else if seen.contains ref then
      .error (gclError "evidence references must be unique" [])
    else validateGCLEvidenceRefs (ref :: seen) (i + 1) refs

def validateGCLCandidates (seen : List String) (i : Nat) :
    List GCLDecisionCandidate → Except Error Unit
  | [] => .ok ()
  | candidate :: candidates =>
    match validateGCLCandidate ("candidates[" ++ indexText i ++ "]") candidate with
    | .error err => .error err
    | .ok () =>
      if seen.contains candidate.candidateID then
        .error (gclError "candidate ids must be unique" [])
      else validateGCLCandidates (candidate.candidateID :: seen) (i + 1) candidates

def validateGCLRejected (selected : String) (i : Nat) (rejected : GCLRejectedAlternative) :
    Except Error Unit := do
  let path := "rejected_alternatives[" ++ indexText i ++ "]"
  validateGCLCandidate (path ++ ".candidate") rejected.candidate
  require (rejected.candidate.candidateID != selected)
    (gclError "selected candidate cannot also be rejected" [])
  validateGCLString (path ++ ".reason_code") rejected.reasonCode 128
  validateGCLString (path ++ ".reasoning") rejected.reasoning 4096

def validateGCLFalsification (candidateIDs known : List String) (selected : String) (i : Nat)
    (result : GCLDecisionFalsification) : Except Error Unit := do
  let path := "falsification_results[" ++ indexText i ++ "]"
  require (candidateIDs.contains result.candidateID)
    (gclError "falsification_results[%d] references an unknown candidate" [indexText i])
  validateGCLString (path ++ ".check_id") result.checkID 256
  require (result.verdict == "survives" || result.verdict == "fails")
    (gclError "falsification_results[%d] has invalid verdict %q" [indexText i, result.verdict])
  validateGCLString (path ++ ".reasoning") result.reasoning 4096
  validateGCLEvidence "falsification_results" i known result.evidenceRefs
  require (result.candidateID != selected || result.verdict == "survives")
    (gclError "selected candidate must survive every falsification check" [])

def validateGCLDecisionPackage (decision : GCLDecisionPackage) (now : Time) :
    Except Error Unit := do
  require (decision.schemaVersion == gclSchemaVersion)
    (.errorf "unsupported GCL DecisionPackage schema_version %q" [decision.schemaVersion])
  require (gclUUIDPattern decision.packageID) (gclError "package_id must be a canonical UUID" [])
  require (!decision.createdAt.isZero && !decision.expiresAt.isZero)
    (gclError "created_at and expires_at are required" [])
  require (decision.expiresAt.after decision.createdAt)
    (gclError "must expire after it is created" [])
  require (!now.before decision.createdAt) (gclError "is not yet valid" [])
  require (now.before decision.expiresAt) (gclError "is expired" [])
  validateGCLString "correlation_id" decision.correlationID 256
  validateGCLString "causation_id" decision.causationID 256
  validateGCLString "idempotency_id" decision.idempotencyID 256
  validateGCLString "tenant" decision.tenant 256
  validateGCLString "zone" decision.zone 256
  validateGCLProposer decision.proposer
  match decision.agentPromotion with
  | some attestation => validateGCLAgentPromotion attestation decision.createdAt
  | none => .ok ()
  require (decision.confidence.any gclUnitInterval)
    (gclError "confidence must be present and between 0 and 1" [])
  require (!decision.evidenceSources.items.isEmpty)
    (gclError "requires at least one evidence source" [])
  eachIndexed (fun i source => require (!blank source)
    (gclError "evidence_sources[%d] is empty" [indexText i])) 0 decision.evidenceSources.items
  require (!decision.evidenceRefs.items.isEmpty)
    (gclError "requires at least one evidence reference" [])
  validateGCLEvidenceRefs [] 0 decision.evidenceRefs.items
  let known := decision.evidenceRefs.items
  require (!decision.constraints.items.isEmpty) (gclError "requires at least one constraint" [])
  eachIndexed (validateGCLConstraint known) 0 decision.constraints.items
  require (!decision.candidates.items.isEmpty) (gclError "requires at least one candidate" [])
  validateGCLCandidates [] 0 decision.candidates.items
  let candidateIDs := decision.candidates.items.map (·.candidateID)
  let selected := decision.selectedCandidateID
  require (candidateIDs.contains selected)
    (gclError "selected_candidate_id references an unknown candidate" [])
  require (!decision.rejectedAlternatives.isNil) (gclError "rejected_alternatives is required" [])
  eachIndexed (validateGCLRejected selected) 0 decision.rejectedAlternatives.items
  require (!decision.falsificationResults.items.isEmpty)
    (gclError "requires at least one falsification result" [])
  eachIndexed (validateGCLFalsification candidateIDs known selected) 0
    decision.falsificationResults.items
  require (decision.falsificationResults.items.any (·.candidateID == selected))
    (gclError "selected candidate requires a falsification result" [])

/-! ## Signature and envelope -/

def digestOf (content : Bytes) : String := "sha256:" ++ hexEncode (sha256 content)

def hmacRefused : Error :=
  gclError ("algorithm HMAC-SHA256 is refused: it is a shared secret, " ++
    "so it cannot prove GCL authorship. Re-sign with Ed25519, or set " ++
    "FLEET_ALLOW_HMAC_DECISION_PACKAGES=true for a migration window") []

def verifyGCLSignedPackage (env : GCLPlatform) (signed : GCLSignedDecisionPackage)
    (canonical : Bytes) (keyring : List (String × Bytes)) (allowLegacyHMAC : Bool) :
    Except Error Unit := do
  require (gclDigestPattern signed.digest) (gclError "digest must be sha256:<64 lowercase hex>" [])
  validateGCLString "data.key_id" signed.keyID 256
  require (signed.digest == digestOf canonical)
    (gclError "digest does not match canonical package" [])
  match lookupKey signed.keyID keyring with
  | none => .error (gclError "signing key %q is unknown" [signed.keyID])
  | some key =>
    if signed.algorithm = "Ed25519" then do
      require (gclEd25519SignaturePattern signed.signature)
        (gclError "Ed25519 signature must be 86-char unpadded base64url" [])
      require (key.length == 32)
        (gclError "Ed25519 public key %q must be exactly 32 bytes" [signed.keyID])
      match (rawURLDecode signed.signature).filter (·.length == 64) with
      | none => .error (gclError "signature is invalid" [])
      | some sig =>
        require (env.ed25519Verify key canonical sig) (gclError "signature verification failed" [])
    else if signed.algorithm = "HMAC-SHA256" then do
      require allowLegacyHMAC hmacRefused
      require (gclHMACSignaturePattern signed.signature)
        (gclError "HMAC signature must be 43-char unpadded base64url" [])
      require (decide (32 ≤ key.length))
        (gclError "signing key %q must contain at least 32 bytes" [signed.keyID])
      match (rawURLDecode signed.signature).filter (·.length == 32) with
      | none => .error (gclError "signature is invalid" [])
      | some sig =>
        require (sig == hmacSHA256 key canonical) (gclError "signature verification failed" [])
    else
      .error (gclError "algorithm %q is not supported (expected Ed25519 or HMAC-SHA256)"
        [signed.algorithm])

def expectedEventID (decision : GCLDecisionPackage) (digest : String) : String :=
  "urn:sha256:" ++
    hexEncode (sha256 (utf8 (decision.packageID ++ ":" ++ digest ++ ":" ++ gclCloudEventType)))

def validateGCLEnvelope (event : GCLDecisionPackageCloudEvent) (decision : GCLDecisionPackage) :
    Except Error Unit := do
  require (event.specVersion == "1.0") (gclError "CloudEvent specversion must be 1.0" [])
  require (event.type == gclCloudEventType)
    (gclError "CloudEvent type must be %q" [gclCloudEventType])
  require (event.dataContentType == "application/json")
    (gclError "CloudEvent datacontenttype must be application/json" [])
  require (event.dataSchema == gclSchemaURI)
    (gclError "CloudEvent dataschema must be %q" [gclSchemaURI])
  require (gclSourcePattern event.source) (gclError "CloudEvent source is invalid" [])
  require (event.traceparent.all gclTraceparentPattern)
    (gclError "CloudEvent traceparent is invalid" [])
  require (event.id == expectedEventID decision event.data.digest)
    (gclError "CloudEvent id does not match package identity" [])
  require (event.subject == "decision-package/" ++ decision.packageID)
    (gclError "CloudEvent subject does not match package_id" [])
  require (event.time.equal decision.createdAt && event.expiry.equal decision.expiresAt)
    (gclError "CloudEvent timestamps do not match package timestamps" [])
  require (event.correlationID == decision.correlationID &&
      event.causationID == decision.causationID && event.idempotencyID == decision.idempotencyID &&
      event.tenant == decision.tenant && event.zone == decision.zone)
    (gclError "CloudEvent extensions do not match package scope and identities" [])
  require (event.evidence.items == decision.evidenceRefs.items)
    (gclError "CloudEvent evidence does not match package evidence_refs" [])

/-! ## Projection -/

abbrev Parameters := List (String × Value)

def parameterError (text name : String) : Error :=
  gclError ("selected candidate parameter %q " ++ text) [name]

def optionalGCLStringParameter (parameters : Parameters) (name : String) :
    Except Error (Option String) :=
  match lookupKey name parameters with
  | none => .ok none
  | some (.string s) => .ok (some s)
  | some _ => .error (parameterError "must be a string" name)

def requiredGCLStringParameter (parameters : Parameters) (name : String) : Except Error String :=
  match optionalGCLStringParameter parameters name with
  | .error err => .error err
  | .ok value =>
    match value.filter (!blank ·) with
    | some s => .ok s
    | none => .error (gclError "selected candidate requires non-empty string parameter %q" [name])

def exponentOf : List Char → Int
  | _ :: '-' :: cs => -(digitsValue cs : Nat)
  | _ :: '+' :: cs => (digitsValue cs : Nat)
  | _ :: cs => (digitsValue cs : Nat)
  | [] => 0

def ratInteger (raw : List Char) : Option Int :=
  let sign : Int := if raw.head? = some '-' then -1 else 1
  let cs := if raw.head? = some '-' then raw.tail else raw
  let rest := cs.dropWhile isDigit
  let fraction := if rest.head? = some '.' then rest.tail.takeWhile isDigit else []
  let exp := exponentOf (if rest.head? = some '.' then rest.tail.dropWhile isDigit else rest)
  let digits := digitsValue (cs.takeWhile isDigit ++ fraction)
  let power := exp - fraction.length
  if ¬ (-9223372036854775808 ≤ exp ∧ exp ≤ 9223372036854775807) then none
  else if digits = 0 then some 0
  else if 1000000 < power.natAbs then none
  else if 0 ≤ power then some (sign * (digits * 10 ^ power.toNat))
  else if digits % 10 ^ (-power).toNat = 0 then some (sign * (digits / 10 ^ (-power).toNat))
  else none

def fleetRangeGCLInteger (raw : List Char) : Except Error Int :=
  match ratInteger raw with
  | none => .error (.errorf "must be an integer" [])
  | some n =>
    if -9223372036854775808 ≤ n ∧ n ≤ 9223372036854775807 then .ok n
    else .error (.errorf "is outside Fleet integer range" [])

def optionalGCLIntParameter (parameters : Parameters) (name : String) :
    Except Error (Option Int) :=
  let ranged (raw : List Char) : Except Error (Option Int) :=
    match fleetRangeGCLInteger raw with
    | .error err =>
      .error (.wrapf "GCL DecisionPackage selected candidate parameter %q %w" [name] err)
    | .ok n => .ok (some n)
  match lookupKey name parameters with
  | none => .ok none
  | some (.number lit) => ranged lit
  | some (.float x) =>
    if x.isNaN || x.isInf || x.magnitude % Float64.unitScale != 0 then
      .error (parameterError "must be an integer" name)
    else
      match x.formatShortest Float64.fixedText with
      | none => .error (parameterError "must be an integer" name)
      | some text => ranged text
  | some _ => .error (parameterError "must be an integer" name)

def stringItems (name : String) : Nat → List Value → Except Error (List String)
  | _, [] => .ok []
  | i, .string s :: items => (stringItems name (i + 1) items).map (s :: ·)
  | i, _ :: _ =>
    .error (gclError "selected candidate parameter %q[%d] must be a string" [name, indexText i])

def optionalGCLStringSliceParameter (parameters : Parameters) (name : String) :
    Except Error (Option (List String)) :=
  match lookupKey name parameters with
  | none => .ok none
  | some (.array items) => (stringItems name 0 items).map some
  | some _ => .error (parameterError "must be an array of strings" name)

def applyOptional {α : Type} (read : Except Error (Option α))
    (set : FleetIntent → α → FleetIntent) (intent : FleetIntent) : Except Error FleetIntent :=
  match read with
  | .error err => .error err
  | .ok none => .ok intent
  | .ok (some value) => .ok (set intent value)

def stringTargets : List (String × (FleetIntent → String → FleetIntent)) := [
  ("model", fun i v => { i with model := v }), ("metric", fun i v => { i with metric := v }),
  ("severity", fun i v => { i with severity := v }),
  ("message", fun i v => { i with message := v }),
  ("reason", fun i v => { i with reason := v }),
  ("recommended_action", fun i v => { i with recommendedAction := v })]

def intTargets : List (String × (FleetIntent → Int → FleetIntent)) := [
  ("target_replicas", fun i v => { i with targetReplicas := v }),
  ("replicas", fun i v => { i with desiredReplicas := v }),
  ("current_replicas", fun i v => { i with currentReplicas := v }),
  ("max_inflight", fun i v => { i with maxInflight := v }),
  ("duration_seconds", fun i v => { i with durationSeconds := v })]

def applyGCLParameters (parameters : Parameters) (intent : FleetIntent) :
    Except Error FleetIntent := do
  let intent ← stringTargets.foldlM (fun i t =>
    applyOptional (optionalGCLStringParameter parameters t.1) t.2 i) intent
  let intent ← intTargets.foldlM (fun i t =>
    applyOptional (optionalGCLIntParameter parameters t.1) t.2 i) intent
  applyOptional (optionalGCLStringSliceParameter parameters "target_clusters")
    (fun i v => { i with targetClusters := v }) intent

def pathEscape (s : String) : String :=
  let plain (c : Char) : Bool := isLetter c || isDigit c || "-_.~$&+=:@".toList.contains c
  String.ofList ((utf8 s).flatMap fun b =>
    if plain (Char.ofNat b.toNat) then [Char.ofNat b.toNat]
    else '%' :: (hexByte b).map Char.toUpper)

def mapValue : Option Parameters → Value
  | none => .null
  | some entries => .object entries

def projectGCLDecision (event : GCLDecisionPackageCloudEvent) (decision : GCLDecisionPackage) :
    Except Error FleetIntent := do
  match decision.candidates.items.find? (·.candidateID == decision.selectedCandidateID) with
  | none => .error (gclError "selected candidate is unavailable" [])
  | some selected =>
  match lookupKey selected.actionClass gclActionClasses with
  | none => .error (gclError "selected action class %q is unsupported" [selected.actionClass])
  | some intentType =>
  let parameters := selected.parameters.getD []
  let migrate := selected.actionClass == "fleet.migrate"
  if migrate then
    let _ ← requiredGCLStringParameter parameters "target_pool"
  let pool ← requiredGCLStringParameter parameters (if migrate then "source_pool" else "pool")
  let horizon := (decision.expiresAt.sub decision.createdAt).tdiv 1000000000
  require (decide (0 ≤ horizon ∧ horizon ≤ 9223372036854775807))
    (gclError "validity horizon cannot be represented by Fleet" [])
  let justification :=
    match decision.falsificationResults.items.find? (·.candidateID == selected.candidateID) with
    | some result => result.reasoning
    | none => "GCL decision " ++ decision.packageID ++ " selected candidate " ++
        selected.candidateID
  let evidence := decision.evidenceRefs.items.map fun ref =>
    let digest := trimPrefix ref "sha256:"
    { uri := "urn:sha256:" ++ digest, sha256 := digest, mediaType := "" : EvidenceDigest }
  let intent : FleetIntent := {
    id := decision.packageID
    correlationID := decision.correlationID
    idempotencyKey := decision.idempotencyID
    type := intentType
    confidence := decision.confidence.getD .zero
    horizonSeconds := horizon
    justification := justification
    stateSnapshot := some (ofEntries [
      ("parameters", mapValue selected.parameters),
      ("predicted_effect", mapValue selected.predictedEffect),
      ("tenant", .string decision.tenant),
      ("zone", .string decision.zone),
      ("causation_id", .string decision.causationID),
      ("event_id", .string event.id),
      ("event_source", .string event.source),
      ("proposer_agent_id", .string decision.proposer.agentID),
      ("proposer_trust_domain", .string decision.proposer.trustDomain)])
    createdAt := decision.createdAt.utc
    expiresAt := some decision.expiresAt.utc
    decisionPackageRef := "gcl://decision-packages/" ++ decision.packageID
    decisionPackageDigest := trimPrefix event.data.digest "sha256:"
    evidence := evidence
    proposer := some {
      subject := decision.proposer.workloadIdentity
      authorityRef := "gcl://signing-keys/" ++ pathEscape event.data.keyID
      maxAction := selected.actionClass
      expiresAt := some decision.expiresAt.utc }
    model := "", pool := pool, targetReplicas := 0, desiredReplicas := 0, currentReplicas := 0
    targetClusters := [], maxInflight := 0, durationSeconds := 0
    metric := "", severity := "", message := "", reason := "", recommendedAction := "" }
  applyGCLParameters parameters intent

/-! ## Decoding -/

def wrapError {α : Type} (format : String) : Except Error α → Except Error α
  | .ok a => .ok a
  | .error err => .error (.wrapf format [] err)

section Decoding
variable (env : GCLPlatform) (keyring : List (String × Bytes)) (allowLegacyHMAC : Bool)
  (now : Time)

def decodePackageOf (event : GCLDecisionPackageCloudEvent) (package : Raw) :
    Except Error FleetIntent := do
  let decision ← wrapError "decode GCL DecisionPackage data.package: %w"
    (decodeDecisionPackage package)
  validateGCLDecisionPackage decision now
  let canonical ← wrapError "canonicalize GCL DecisionPackage: %w"
    (canonicalGCLJSON env.floorLog10 package)
  verifyGCLSignedPackage env event.data canonical keyring allowLegacyHMAC
  validateGCLEnvelope event decision
  projectGCLDecision event decision

def decodeGCLEvent (event : GCLDecisionPackageCloudEvent) : Except Error FleetIntent :=
  match event.data.package with
  | none => .error (gclError "data.package is required" [])
  | some .null => .error (gclError "data.package is required" [])
  | some package => decodePackageOf env keyring allowLegacyHMAC now event package

def decodeGCLDecisionPackageCloudEvent (contentType : String) (payload : Bytes) :
    Except Error FleetIntent := do
  validateGCLContentType env contentType
  let event ← wrapError "decode GCL DecisionPackage CloudEvent: %w" (decodeCloudEvent payload)
  decodeGCLEvent env keyring allowLegacyHMAC now event

end Decoding

structure GCLEnvelope where
  specVersion : String
  id : String
  source : String
  type : String
  subject : String
  time : Time
  dataContentType : String
  dataSchema : String
  correlationID : String
  causationID : String
  idempotencyID : String
  tenant : String
  zone : String
  traceparent : Option String
  expiry : Time
  evidence : List String
  digest : String
  signature : String
  algorithm : String
  keyID : String
  deriving DecidableEq

def GCLDecisionPackageCloudEvent.envelope (e : GCLDecisionPackageCloudEvent) : GCLEnvelope :=
  ⟨e.specVersion, e.id, e.source, e.type, e.subject, e.time, e.dataContentType, e.dataSchema,
    e.correlationID, e.causationID, e.idempotencyID, e.tenant, e.zone, e.traceparent, e.expiry,
    e.evidence.items, e.data.digest, e.data.signature, e.data.algorithm, e.data.keyID⟩

def GCLEnvelope.event (v : GCLEnvelope) : GCLDecisionPackageCloudEvent :=
  ⟨v.specVersion, v.id, v.source, v.type, v.subject, v.time, v.dataContentType, v.dataSchema,
    v.correlationID, v.causationID, v.idempotencyID, v.tenant, v.zone, v.traceparent, v.expiry,
    .backed v.evidence [], ⟨none, v.digest, v.signature, v.algorithm, v.keyID⟩⟩

def signedText (env : GCLPlatform) (e : GCLDecisionPackageCloudEvent) : Option Bytes :=
  e.data.package.bind fun package => (canonicalGCLJSON env.floorLog10 package).toOption

end FleetLlmd.Intents
