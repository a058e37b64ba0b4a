import FleetLlmd.Server.Compensation

/-!
# Retrying a submission

With a ledger that answers a repeated write with its first entry, submitting an
admitted intent again changes nothing as long as the operation is still in the state
it was admitted into. The retry builds its evidence from the current state: once the
operation has moved, the digest no longer fits the recorded entry, the receipt is
refused, and the compensation deletes the operation.
-/

namespace FleetLlmd.Intents
open Go Json Ledger Effect Prog

section Ledger
variable {ρ ε α : Type} {R : Repository ρ} {E : Environment ε}

structure Confirms (verification : ProofVerification) (decision : FleetDecision)
    (receipt : ProofReceipt) : Prop where
  entryType : verification.entryType = decision.type
  entryID : verification.entryID = "" ∨ verification.entryID = receipt.entryID
  correlationID : verification.correlationID = decision.correlationID
  inputHash : verification.inputHash = decision.inputHash
  chainPosition : verification.chainPosition = receipt.chainPosition
  writtenAt : verification.writtenAt.isZero = false ∧
    verification.writtenAt.unixMilli = receipt.timestamp.unixMilli

/-- A ledger that never fails and never forgets: a write under a new key is recorded, one under a
known key is answered with the receipt of the first, and a proof verifies for the recorded entry
and its type alone. -/
structure IdempotentLedger (E : Environment ε)
    (recorded : ε → String → Option (FleetDecision × ProofReceipt)) : Prop where
  record_new : ∀ decision e, recorded e decision.idempotencyKey = none →
    ∃ receipt, (E.recordProof decision e).1 = .ok (some receipt) ∧
      recorded (E.recordProof decision e).2 decision.idempotencyKey = some (decision, receipt)
  record_seen : ∀ decision e first receipt,
    recorded e decision.idempotencyKey = some (first, receipt) →
      (E.recordProof decision e).1 = .ok (some receipt)
  verify_valid : ∀ e key decision receipt, recorded e key = some (decision, receipt) →
    ∃ verification, (E.verifyProof receipt.entryHash decision.type e).1 = .ok (some verification) ∧
      verification.valid = true
  verify_sound : ∀ e key decision receipt entryType verification,
    recorded e key = some (decision, receipt) →
    (E.verifyProof receipt.entryHash entryType e).1 = .ok (some verification) →
    verification.valid = true → entryType = decision.type ∧ Confirms verification decision receipt
  kept : ∀ e key entry, recorded e key = some entry →
    recorded (E.now e).2 key = some entry ∧ recorded (E.timeNow e).2 key = some entry ∧
    recorded (E.randRead e).2 key = some entry ∧
    (∀ entryHash entryType, recorded (E.verifyProof entryHash entryType e).2 key = some entry) ∧
    ∀ decision, recorded (E.recordProof decision e).2 key = some entry

variable {recorded : ε → String → Option (FleetDecision × ProofReceipt)}

theorem IdempotentLedger.serve_kept (h : IdempotentLedger E recorded) {key : String}
    {entry : FleetDecision × ProofReceipt} (c : ServiceCall) {w : World ρ ε}
    (hw : recorded w.environment key = some entry) :
    recorded (serve R E c w).2.environment key = some entry := by
  obtain ⟨hnow, htimeNow, hrandRead, hverify, hrecord⟩ := h.kept _ _ _ hw
  cases c with
  | now => exact hnow
  | timeNow => exact htimeNow
  | randRead => exact hrandRead
  | verifyProof entryHash entryType => exact hverify entryHash entryType
  | recordProof decision => exact hrecord decision
  | _ => exact hw

theorem IdempotentLedger.run_kept (h : IdempotentLedger E recorded) {key : String}
    {entry : FleetDecision × ProofReceipt} (p : Action α) {w : World ρ ε}
    (hw : recorded w.environment key = some entry) :
    recorded (p.run (serve R E) w).2.environment key = some entry := by
  induction p generalizing w with
  | done a => exact hw
  | call c k ih => exact ih _ (h.serve_kept c hw)

theorem IdempotentLedger.record (h : IdempotentLedger E recorded) (decision : FleetDecision)
    (e : ε) : ∃ first receipt, (E.recordProof decision e).1 = .ok (some receipt) ∧
      recorded (E.recordProof decision e).2 decision.idempotencyKey = some (first, receipt) := by
  cases hseen : recorded e decision.idempotencyKey with
  | none =>
    obtain ⟨receipt, hanswer, hrecorded⟩ := h.record_new decision e hseen
    exact ⟨decision, receipt, hanswer, hrecorded⟩
  | some entry =>
    obtain ⟨first, receipt⟩ := entry
    obtain ⟨-, -, -, -, hkept⟩ := h.kept _ _ _ hseen
    exact ⟨first, receipt, h.record_seen decision e first receipt hseen, hkept decision⟩

theorem Confirms.checkVerification {verification : ProofVerification} {decision : FleetDecision}
    {proof : ProofReceipt} {operation : FleetOperation} {receipt : OperationLedgerReceipt}
    (h : Confirms verification decision proof) (hvalid : verification.valid = true)
    (htype : receipt.entryType = decision.type) (hid : receipt.entryID = proof.entryID)
    (hcorrelation : operation.correlationID = decision.correlationID)
    (hinput : receipt.inputHash = decision.inputHash) (hpurpose : receipt.purpose = .admission)
    (hposition : receipt.chainPosition = proof.chainPosition)
    (hwritten : receipt.writtenTS = proof.timestamp.unixMilli) :
    Intents.checkVerification operation receipt (some verification) = .ok () := by
  have hentry : ¬(verification.entryID ≠ "" ∧ verification.entryID ≠ receipt.entryID) := by
    rw [hid]
    rcases h.entryID with hnone | hsame
    · exact fun hne => hne.1 hnone
    · exact fun hne => hne.2 hsame
  have houtcome : checkVerification.checkOutcome operation receipt verification = .ok () := by
    simp [checkVerification.checkOutcome, hpurpose]
  simp [Intents.checkVerification, hvalid, h.entryType, htype, hentry, h.correlationID,
    hcorrelation, h.inputHash, hinput, houtcome, h.chainPosition, hposition, h.writtenAt.1,
    h.writtenAt.2, hwritten]

end Ledger

section Attach
variable {ε : Type} {E : Environment ε} {s : Service}

variable {receipt : OperationLedgerReceipt} {w : World MemoryRepository ε}

theorem verifyLedgerReceipt_ok {operation : FleetOperation} :
    ((s.verifyLedgerReceipt operation receipt).run (serve memory E) w).1 = .ok () ↔
      checkReceipt operation receipt = .ok () ∧ s.proofs = true ∧ ∃ answer,
        (E.verifyProof receipt.entryHash receipt.entryType w.environment).1 = .ok answer ∧
          checkVerification operation receipt answer = .ok () := by
  unfold Service.verifyLedgerReceipt
  cases checkReceipt operation receipt with
  | error err => simp
  | ok u =>
    by_cases hproofs : s.proofs = true
    · simp only [hproofs, Bool.not_true, Bool.false_eq_true, if_false, bind_eq_bind,
        verifyProofCall, perform_bind, run_call, serve, true_and]
      cases (E.verifyProof receipt.entryHash receipt.entryType w.environment).1 with
      | error err => simp
      | ok answer => simp
    · simp [hproofs]

theorem attachLedgerReceipt_found {id : String} {operation : FleetOperation}
    (hop : w.repository.operations id = some operation)
    (hverified : ((s.verifyLedgerReceipt operation receipt).run (serve memory E) w).1 = .ok ())
    (hfind : operation.ledgerReceipts.find? (Service.sameEntry receipt) = some receipt) :
    ∃ environment, (s.attachLedgerReceipt id receipt).run (serve memory E) w =
      (.ok operation, ⟨w.repository, environment⟩) := by
  rcases hverify : (s.verifyLedgerReceipt operation receipt).run (serve memory E) w with
    ⟨verified, w₁⟩
  have hrepo := verifyLedgerReceipt_repository (R := memory) (E := E) s operation receipt w
  rw [hverify] at hrepo hverified
  have hget : memory.getOperation id w.repository = .ok operation := by
    simp [memory, MemoryRepository.getOperation, hop]
  refine ⟨w₁.environment, ?_⟩
  simp only at hverified hrepo
  simp only [Service.attachLedgerReceipt, bind_eq_bind, getOperationCall, perform_bind, run_call,
    serve, hget, run_bind]
  rw [← hrepo]
  simp [hverify, hverified, hfind]

end Attach

section Journal

def JournaledFor (reason : String) (operation : FleetOperation) : Prop :=
  ∃ t u ts, operation.transitions = t :: u :: ts ∧ u.reason = reason

theorem JournaledFor.extend {reason : String} {operation : FleetOperation}
    (h : JournaledFor reason operation) (next : OperationState) (why actor : String) (now : Time) :
    JournaledFor reason (operation.extend next why actor now) := by
  obtain ⟨t, u, ts, htransitions, hreason⟩ := h
  exact ⟨t, u, ts ++ _, congrArg (· ++ _) htransitions, hreason⟩

theorem JournaledFor.attach {reason : String} {operation : FleetOperation}
    (h : JournaledFor reason operation) (receipt : OperationLedgerReceipt) (now : Time) :
    JournaledFor reason (operation.attach receipt now) := by
  obtain ⟨t, u, ts, htransitions, hreason⟩ := h
  cases ts with
  | nil => exact ⟨t, { u with ledgerEntryID := receipt.entryID }, [],
      by simp [FleetOperation.attach, htransitions, FleetOperation.markLast], hreason⟩
  | cons v ts => exact ⟨t, u, FleetOperation.markLast receipt.entryID (v :: ts),
      by simp [FleetOperation.attach, htransitions, FleetOperation.markLast], hreason⟩

structure Continues (admitted : FleetOperation) (reason : String)
    (receipt : OperationLedgerReceipt) (current : FleetOperation) : Prop where
  id : current.id = admitted.id
  intentID : current.intentID = admitted.intentID
  correlationID : current.correlationID = admitted.correlationID
  actionClass : current.actionClass = admitted.actionClass
  journaled : JournaledFor reason current
  attached : current.ledgerReceipts.find? (Service.sameEntry receipt) = some receipt

variable {admitted current new : FleetOperation} {reason : String}
variable {receipt : OperationLedgerReceipt} {events : List ServiceEvent}

theorem Continues.appends (h : Continues admitted reason receipt current)
    {target : OperationState → Prop} (hnew : Appends target events current new) :
    Continues admitted reason receipt new := by
  obtain ⟨next, why, actor, now, rfl, -⟩ := hnew
  exact ⟨h.id, h.intentID, h.correlationID, h.actionClass, h.journaled.extend .., h.attached⟩

theorem Continues.attaches (h : Continues admitted reason receipt current)
    (hnew : Attaches events current new) : Continues admitted reason receipt new := by
  obtain ⟨added, now, rfl, -⟩ := hnew
  refine ⟨h.id, h.intentID, h.correlationID, h.actionClass, h.journaled.attach .., ?_⟩
  simp [FleetOperation.attach, List.find?_append, h.attached]

theorem Continues.write (h : Continues admitted reason receipt current) (e : EvidenceWrite) :
    Continues admitted reason receipt (e.apply current) :=
  ⟨h.id, h.intentID, h.correlationID, h.actionClass, h.journaled, h.attached⟩

end Journal

section Drafted
variable {ε : Type} {E : Environment ε} {given intent : FleetIntent} {operation : FleetOperation}
variable {reason : String} {w : World MemoryRepository ε}

theorem Drafted.journaledFor (h : Drafted E given w intent operation reason) :
    JournaledFor reason operation := by
  obtain ⟨now, next, later, hop⟩ := h.journaled
  rw [hop]
  exact ⟨_, _, [], rfl, rfl⟩

theorem Drafted.unattached (h : Drafted E given w intent operation reason) :
    operation.ledgerReceipts = [] := by
  obtain ⟨now, next, later, hop⟩ := h.journaled
  rw [hop]
  rfl

end Drafted

theorem request_index {ε : Type} {E : Environment ε} {s : Service} (r : Request)
    (hr : ∀ given, ¬r.scope.submits given) (w : World MemoryRepository ε) :
    ((r.action s).run (serve memory E) w).2.repository.idempotency = w.repository.idempotency := by
  have hrun := (r.action_meets s).run (h := serve memory E)
    (J := fun _ w' => w'.repository.idempotency = w.repository.idempotency) (s := w) rfl ?_
  · exact hrun.1
  · intro past w' c hJ hc
    cases c with
    | create intent operation =>
      obtain ⟨-, given, hscope, -⟩ := hc
      exact absurd hscope (hr given)
    | delete intentID operationID => exact hc.elim
    | updateOperation operation =>
      rw [← hJ]
      simp only [serve, memory, MemoryRepository.updateOperation]
      split_ifs <;> rfl
    | _ => exact hJ

end FleetLlmd.Intents

namespace FleetLlmd.Server
open Go Json Intents Ledger Effect Prog

section Evidence

def admissionContent (intent : FleetIntent) (operation : FleetOperation)
    (submission : SubmissionResponse) : Except Error Bytes :=
  match intent.marshal with
  | .error err => .error err
  | .ok intentBytes => admissionEvidence intent intentBytes operation submission

variable {reason : String}

theorem admissionReason_eq {operation : FleetOperation}
    (h : JournaledFor reason operation) (submission : SubmissionResponse) :
    admissionReason operation submission = reason := by
  obtain ⟨t, u, ts, htransitions, hreason⟩ := h
  simp [admissionReason, htransitions, hreason]

theorem admissionContent_submission {intent : FleetIntent} {operation : FleetOperation}
    (h : JournaledFor reason operation) (first second : SubmissionResponse) :
    admissionContent intent operation first = admissionContent intent operation second := by
  simp only [admissionContent, admissionEvidence, admissionReason_eq h]

theorem admissionContent_again {intent : FleetIntent} {old new : FleetOperation}
    {first : SubmissionResponse} {content : Bytes} (second : SubmissionResponse)
    (hid : new.id = old.id)
    (hcorrelation : new.correlationID = old.correlationID) (hold : JournaledFor reason old)
    (hnew : JournaledFor reason new) (h : admissionContent intent old first = .ok content) :
    ∃ content', admissionContent intent new second = .ok content' ∧
      (content' = content ↔ new.state = old.state) := by
  unfold admissionContent at h ⊢
  cases hbytes : intent.marshal with
  | error err => simp [hbytes] at h
  | ok intentBytes =>
    simp only [hbytes, admissionEvidence, admissionReason_eq hold, admissionReason_eq hnew] at h ⊢
    have hmembers : admissionMembers intent (hexEncode (sha256 intentBytes)) new reason =
        admissionMembers intent (hexEncode (sha256 intentBytes)) old reason := by
      funext state
      simp only [admissionMembers, hid, hcorrelation]
    rw [hmembers]
    cases htext : encodeStruct (admissionMembers intent (hexEncode (sha256 intentBytes)) old reason
        old.state) with
    | error err => simp [htext, Except.map] at h
    | ok text =>
      simp only [htext, Except.map, Except.ok.injEq] at h
      obtain ⟨text', htext'⟩ := encodeStruct_member_ok new.state.text htext
      refine ⟨encodeRunes text', ?_, ?_⟩
      · unfold admissionMembers
        rw [htext']
        rfl
      · rw [← h]
        constructor
        · intro hsame
          have hruns := congrArg runes hsame
          rw [runes_encodeRunes, runes_encodeRunes] at hruns
          rw [hruns] at htext'
          exact OperationState.text_injective (encodeStruct_member_inj htext' htext)
        · intro hstate
          rw [hstate] at htext'
          unfold admissionMembers at htext
          rw [htext, Except.ok.injEq] at htext'
          rw [htext']

end Evidence

section Runs
variable {ε : Type} {E : Environment ε} {fc : FleetController}

variable {submission : SubmissionResponse}

theorem reloadAndProve_run {intent : FleetIntent}
    {operation : FleetOperation} {content : Bytes} {w : World MemoryRepository ε}
    (hintent : w.repository.intents submission.intentID = some intent)
    (hoperation : w.repository.operations submission.operationID = some operation)
    (hcontent : admissionContent intent operation submission = .ok content) :
    (fc.reloadAndProve submission).run (serve memory E) w =
      (fc.recordAdmission submission (admissionDecision intent operation submission content)).run
        (serve memory E) w := by
  unfold admissionContent at hcontent
  cases hbytes : intent.marshal with
  | error err => simp [hbytes] at hcontent
  | ok intentBytes =>
    simp only [hbytes] at hcontent
    simp [FleetController.reloadAndProve, Service.getIntent, Service.getOperation, getIntentCall,
      getOperationCall, serve, memory, MemoryRepository.getIntent, MemoryRepository.getOperation,
      hintent, hoperation, FleetController.proveAdmission, hbytes, hcontent]

theorem reloadAndProve_ok (hgateway : fc.ledgerGatewayURL ≠ "")
    {response : SubmissionResponse} {w w' : World MemoryRepository ε}
    (h : (fc.reloadAndProve submission).run (serve memory E) w = (.ok response, w')) :
    ∃ intent operation content, w.repository.intents submission.intentID = some intent ∧
      w.repository.operations submission.operationID = some operation ∧
      admissionContent intent operation submission = .ok content := by
  have hnot (ledgerErr : Error) : (fc.compensateConfiguredLedgerFailure submission ledgerErr).run
      (serve memory E) w ≠ (.ok response, w') := by
    obtain ⟨err, hcompensate⟩ := compensate_run (E := E) hgateway submission ledgerErr w
    rw [hcompensate]
    intro hsame
    cases congrArg (·.1) hsame
  simp only [FleetController.reloadAndProve, Service.getIntent, Service.getOperation, bind_eq_bind,
    getIntentCall, perform_bind, run_call, serve] at h
  cases hintent : memory.getIntent submission.intentID w.repository with
  | error err =>
    simp only [hintent] at h
    exact absurd h (hnot _)
  | ok intent =>
    simp only [hintent, getOperationCall, perform_bind, run_call, serve] at h
    cases hoperation : memory.getOperation submission.operationID w.repository with
    | error err =>
      simp only [hoperation] at h
      exact absurd h (hnot _)
    | ok operation =>
      have hstored : w.repository.intents submission.intentID = some intent := by
        simp only [memory, MemoryRepository.getIntent] at hintent
        split at hintent <;> simp_all
      refine ⟨intent, operation, ?_⟩
      simp only [hoperation, FleetController.proveAdmission] at h
      unfold admissionContent
      cases hbytes : intent.marshal with
      | error err =>
        simp only [hbytes] at h
        exact absurd h (hnot _)
      | ok intentBytes =>
        simp only [hbytes] at h ⊢
        cases hcontent : admissionEvidence intent intentBytes operation submission with
        | error err =>
          simp only [hcontent] at h
          exact absurd h (hnot _)
        | ok content =>
          exact ⟨content, hstored, MemoryRepository.faithful.getOperation_ok hoperation, rfl⟩

theorem recordAdmission_run {decision : FleetDecision}
    {proof : ProofReceipt} {environment : ε} {w : World MemoryRepository ε}
    (hrecord : E.recordProof decision w.environment = (.ok (some proof), environment)) :
    (fc.recordAdmission submission decision).run (serve memory E) w =
      match (fc.intentService.attachLedgerReceipt submission.operationID
        (admissionReceipt decision proof)).run (serve memory E) ⟨w.repository, environment⟩ with
      | (.ok _, w') => (.ok submission, w')
      | (.error attachErr, w') => (fc.compensateConfiguredLedgerFailure submission
          (.wrapf "attach immutable-ledger proof: %w" [] attachErr)).run (serve memory E) w' := by
  simp only [FleetController.recordAdmission, bind_eq_bind, recordProofCall, perform_bind, run_call,
    serve, hrecord, run_bind]
  rcases (fc.intentService.attachLedgerReceipt submission.operationID
    (admissionReceipt decision proof)).run (serve memory E) ⟨w.repository, environment⟩ with
    ⟨attached, w'⟩
  cases attached with
  | ok operation => rfl
  | error err => rfl

theorem recordAdmission_ok (hgateway : fc.ledgerGatewayURL ≠ "")
    {decision : FleetDecision} {response : SubmissionResponse} {proof : ProofReceipt}
    {environment : ε} {w w' : World MemoryRepository ε}
    (hrecord : E.recordProof decision w.environment = (.ok (some proof), environment))
    (h : (fc.recordAdmission submission decision).run (serve memory E) w = (.ok response, w')) :
    response = submission ∧ ∃ result, (fc.intentService.attachLedgerReceipt submission.operationID
      (admissionReceipt decision proof)).run (serve memory E) ⟨w.repository, environment⟩ =
        (.ok result, w') := by
  rw [recordAdmission_run hrecord] at h
  rcases hattach : (fc.intentService.attachLedgerReceipt submission.operationID
    (admissionReceipt decision proof)).run (serve memory E) ⟨w.repository, environment⟩ with
    ⟨attached, w₁⟩
  rw [hattach] at h
  cases attached with
  | ok operation =>
    simp only [Prod.mk.injEq, Except.ok.injEq] at h
    exact ⟨h.1.symm, operation, by rw [h.2]⟩
  | error attachErr =>
    obtain ⟨err, hcompensate⟩ := compensate_run (E := E) hgateway submission
      (.wrapf "attach immutable-ledger proof: %w" [] attachErr) w₁
    simp only [hcompensate, Prod.mk.injEq] at h
    cases h.1

end Runs

section Admission
variable {ε : Type} {E : Environment ε} {s : Service}

structure Admission (s : Service) where
  intent : FleetIntent
  operation : FleetOperation
  reason : String
  content : Bytes
  decision : FleetDecision
  proof : ProofReceipt
  intentID : operation.intentID = intent.id
  journaled : JournaledFor reason operation
  evidence : ∀ submission, admissionContent intent operation submission = .ok content
  entryType : decision.type = admissionEntryType intent
  inputHash : decision.inputHash = hexEncode (sha256 content)
  correlationID : decision.correlationID = operation.correlationID
  checked : checkReceipt operation (admissionReceipt decision proof) = .ok ()
  proofs : s.proofs = true

def Admission.receipt (a : Admission s) : OperationLedgerReceipt :=
  admissionReceipt a.decision a.proof

def Admission.entryKey (a : Admission s) : String := "fleet:" ++ a.operation.id ++ ":admission"

structure Held (recorded : ε → String → Option (FleetDecision × ProofReceipt)) (a : Admission s)
    (w : World MemoryRepository ε) : Prop where
  indexed : w.repository.idempotency a.intent.idempotencyKey = some a.operation.id
  intent : w.repository.intents a.intent.id = some a.intent
  entry : recorded w.environment a.entryKey = some (a.decision, a.proof)
  keyed : Keyed MemoryRepository.faithful w
  current : ∃ current, w.repository.operations a.operation.id = some current ∧
    Continues a.operation a.reason a.receipt current

variable {recorded : ε → String → Option (FleetDecision × ProofReceipt)} {a : Admission s}
variable {w : World MemoryRepository ε}

section Writes
variable {w' : World MemoryRepository ε} (h : Held recorded a w)
  (hindex : w'.repository.idempotency = w.repository.idempotency)
  (hintents : w'.repository.intents = w.repository.intents)
  (hentry : recorded w'.environment a.entryKey = some (a.decision, a.proof))
include h hindex hintents hentry

theorem Held.stored {old new : FleetOperation} (hold : w.repository.operations new.id = some old)
    (hcontinues : Continues a.operation a.reason a.receipt old →
      Continues a.operation a.reason a.receipt new)
    (hoperations : w'.repository.operations =
      Function.update w.repository.operations new.id (some new)) : Held recorded a w' := by
  refine ⟨hindex ▸ h.indexed, hintents ▸ h.intent, hentry, ?_, ?_⟩
  · intro id operation hop
    simp only [MemoryRepository.faithful, hoperations] at hop
    exact forall_update h.keyed rfl id operation hop
  · obtain ⟨current, hcurrent, hcontinue⟩ := h.current
    rw [hoperations]
    by_cases hid : a.operation.id = new.id
    · rw [hid] at hcurrent ⊢
      rw [hold] at hcurrent
      cases hcurrent
      exact ⟨new, Function.update_self _ _ _, hcontinues hcontinue⟩
    · exact ⟨current, by rwa [Function.update_of_ne hid], hcontinue⟩

theorem Held.unchanged (hoperations : w'.repository.operations = w.repository.operations) :
    Held recorded a w' := by
  refine ⟨hindex ▸ h.indexed, hintents ▸ h.intent, hentry, ?_, hoperations ▸ h.current⟩
  intro id operation hop
  simp only [MemoryRepository.faithful, hoperations] at hop
  exact h.keyed id operation hop

end Writes

theorem Held.request (hledger : IdempotentLedger E recorded) (r : Request)
    (hr : ∀ given, ¬r.scope.submits given) (h : Held recorded a w) :
    Held recorded a ((r.action s).run (serve memory E) w).2 := by
  have hindex := request_index (E := E) (s := s) r hr w
  have hentry := hledger.run_kept (R := memory) (r.action s) h.entry
  cases request_effect (E := E) (s := s) MemoryRepository.faithful r w with
  | unchanged hs hi => exact h.unchanged hindex hi hentry hs
  | admitted given intent operation hscope hadmits hs hi hfresh => exact absurd hscope (hr given)
  | updated id old new hold hnew hs hi =>
    have hid : new.id = id := by
      rw [← h.keyed id old hold]
      rcases hnew with ⟨next, reason, actor, now, rfl, -⟩ | ⟨receipt, now, rfl, -⟩ <;> rfl
    refine h.stored hindex hi hentry (hid ▸ hold) ?_ hs
    intro hcontinues
    rcases hnew with happ | hatt
    · exact hcontinues.appends happ
    · exact hcontinues.attaches hatt

theorem Held.write (e : EvidenceWrite) (h : Held recorded a w) :
    Held recorded a (writeEvidence memory e w) := by
  unfold writeEvidence
  cases hget : memory.getOperation e.id w.repository with
  | error err => exact h
  | ok old =>
    have hold := MemoryRepository.faithful.getOperation_ok hget
    have hid : (e.apply old).id = e.id := h.keyed e.id old hold
    have hsome : (w.repository.operations (e.apply old).id).isSome := by
      rw [hid]
      exact Option.isSome_iff_exists.mpr ⟨old, hold⟩
    simp only [memory, MemoryRepository.updateOperation, hsome, if_true]
    exact h.stored rfl rfl h.entry (hid ▸ hold) (·.write e) rfl

def Elsewhere (E : Environment ε) (id : String) (given : FleetIntent)
    (w : World MemoryRepository ε) : Prop :=
  (replayed given w.repository).isSome ∨ ((identifiers given).run (serve memory E) w).1.2 ≠ id

theorem Held.submit (hledger : IdempotentLedger E recorded) {given : FleetIntent}
    (hgiven : Elsewhere E a.operation.id given w) (h : Held recorded a w) :
    Held recorded a (((Request.submit given).action s).run (serve memory E) w).2 := by
  have hentry := hledger.run_kept (R := memory) ((Request.submit given).action s) h.entry
  simp only [Request.action, run_bind, run_done] at hentry ⊢
  rw [submit_memory] at hentry ⊢
  cases hreplay : replayed given w.repository with
  | some existing => exact h
  | none =>
    obtain ⟨intent, operation, reason, environment, hdraft, hadmit⟩ :=
      admitNew_memory E s given w hreplay
    simp only [hreplay, hadmit] at hentry ⊢
    cases hcreate : w.repository.createError intent with
    | some err =>
      simp only [hcreate] at hentry ⊢
      exact h.unchanged rfl rfl hentry rfl
    | none =>
      simp only [hcreate] at hentry ⊢
      have hother : a.operation.id ≠ operation.id := by
        rcases hgiven with hsome | hne
        · rw [hreplay] at hsome
          cases hsome
        · rw [hdraft.ids] at hne
          exact hne.symm
      have hintent : a.intent.id ≠ intent.id := by
        intro hsame
        have hfree := intent_free hcreate
        rw [← hsame, h.intent] at hfree
        cases hfree
      refine ⟨?_, ?_, hentry, ?_, ?_⟩
      · simp only [MemoryRepository.put]
        split_ifs with hempty
        · exact h.indexed
        · have hkey : a.intent.idempotencyKey ≠ intent.idempotencyKey := by
            intro hsame
            have hfree := createError_none hempty hcreate
            rw [← hsame, h.indexed] at hfree
            cases hfree
          rw [Function.update_of_ne hkey]
          exact h.indexed
      · simp only [MemoryRepository.put, Function.update_of_ne hintent]
        exact h.intent
      · intro id op hop
        exact forall_update h.keyed rfl id op hop
      · simp only [MemoryRepository.put, Function.update_of_ne hother]
        exact h.current

end Admission

section Retry
variable {ε : Type} {E : Environment ε} {fc : FleetController}
variable {recorded : ε → String → Option (FleetDecision × ProofReceipt)}

def Spares (E : Environment ε) (s : Service) (id : String) :
    List Step → World MemoryRepository ε → Prop
  | [], _ => True
  | step :: steps, w =>
    (∀ given, step = .request (.submit given) → Elsewhere E id given w) ∧
      Spares E s id steps (step.perform memory E s w)

variable {w : World MemoryRepository ε}

theorem Held.run {s : Service} {a : Admission s} (hledger : IdempotentLedger E recorded)
    (steps : List Step) (hspares : Spares E s a.operation.id steps w)
    (h : Held recorded a w) : Held recorded a (runSteps memory E s steps w) := by
  induction steps generalizing w with
  | nil => exact h
  | cons step steps ih =>
    refine ih hspares.2 ?_
    cases step with
    | write e => exact h.write e
    | request r =>
      cases r with
      | submit given => exact h.submit hledger (hspares.1 given rfl)
      | _ => exact h.request hledger _ fun _ hscope => hscope

theorem attached_entry (hledger : IdempotentLedger E recorded) {key id : String}
    {decision first : FleetDecision} {proof : ProofReceipt} {operation result : FleetOperation}
    {w w' : World MemoryRepository ε} (hop : w.repository.operations id = some operation)
    (hentry : recorded w.environment key = some (first, proof))
    (h : (fc.intentService.attachLedgerReceipt id (admissionReceipt decision proof)).run
      (serve memory E) w = (.ok result, w')) :
    decision.type = first.type ∧ decision.inputHash = first.inputHash ∧
      first.correlationID = operation.correlationID ∧ fc.intentService.proofs = true ∧
      checkReceipt operation (admissionReceipt decision proof) = .ok () := by
  obtain ⟨operation', hop', hverified, -⟩ := attachLedgerReceipt_result h
  rw [hop] at hop'
  cases hop'
  obtain ⟨hcheck, hproofs, answer, hanswer, hpasses⟩ := verifyLedgerReceipt_ok.mp hverified
  obtain ⟨verification, rfl, hproves⟩ := proves_of_checkVerification hpasses
  obtain ⟨htype, hconfirms⟩ := hledger.verify_sound _ _ _ _ _ _ hentry hanswer hproves.valid
  exact ⟨htype, hproves.inputHash.symm.trans hconfirms.inputHash,
    hconfirms.correlationID.symm.trans hproves.correlationID, hproofs, hcheck⟩

structure Confirmed (fc : FleetController) (given : FleetIntent) (w : World MemoryRepository ε)
    (intent : FleetIntent) (operation : FleetOperation) (reason : String) (content : Bytes)
    (decision : FleetDecision) (proof : ProofReceipt) : Prop where
  drafted : Drafted E given w intent operation reason
  evidence : admissionContent intent operation (submissionFromOperation operation reason) =
    .ok content
  entryType : decision.type = admissionEntryType intent
  inputHash : decision.inputHash = hexEncode (sha256 content)
  correlationID : decision.correlationID = operation.correlationID
  checked : checkReceipt operation (admissionReceipt decision proof) = .ok ()
  proofs : fc.intentService.proofs = true

variable {given : FleetIntent} {submission : SubmissionResponse}

theorem first_submission (hledger : IdempotentLedger E recorded)
    (hrecorder : fc.fleetRecorder = true) (hgateway : fc.ledgerGatewayURL ≠ "")
    {w w' : World MemoryRepository ε}
    (hreplay : replayed given w.repository = none)
    (hfirst : (fc.submitIntent given).run (serve memory E) w = (.ok submission, w')) :
    ∃ intent operation reason content decision proof now,
      Confirmed (E := E) fc given w intent operation reason content decision proof ∧
      submission = submissionFromOperation operation reason ∧
      recorded w'.environment ("fleet:" ++ operation.id ++ ":admission") = some (decision, proof) ∧
      w'.repository = (w.repository.put intent operation).store
        (operation.attach (admissionReceipt decision proof) now) := by
  obtain ⟨intent, operation, reason, environment, hdraft, hadmit⟩ :=
    admitNew_memory E fc.intentService given w hreplay
  rw [submitIntent_run, submit_memory] at hfirst
  simp only [hreplay, hadmit] at hfirst
  cases hcreate : w.repository.createError intent with
  | some err =>
    simp only [hcreate, Prod.mk.injEq] at hfirst
    cases hfirst.1
  | none =>
    simp only [hcreate, hrecorder, if_true] at hfirst
    obtain ⟨stored, operation', content, hintent, hoperation, hcontent⟩ :=
      reloadAndProve_ok hgateway hfirst
    rw [reloadAndProve_run hintent hoperation hcontent] at hfirst
    simp only [submissionFromOperation, MemoryRepository.put, hdraft.intentID, Function.update_self,
      Option.some.injEq] at hintent hoperation
    subst hintent hoperation
    obtain ⟨decision, hdecision⟩ : ∃ decision, admissionDecision intent operation
      (submissionFromOperation operation reason) content = decision := ⟨_, rfl⟩
    obtain ⟨first, proof, hanswer, hentry⟩ := hledger.record decision environment
    obtain ⟨recordedIn, hrecord⟩ : ∃ e, E.recordProof decision environment = (.ok (some proof), e) :=
      ⟨_, Prod.ext hanswer rfl⟩
    rw [hrecord] at hentry
    rw [hdecision] at hfirst
    obtain ⟨hresponse, result, hattach⟩ := recordAdmission_ok hgateway hrecord hfirst
    have hstored : (w.repository.put intent operation).operations operation.id = some operation :=
      Function.update_self _ _ _
    obtain ⟨htype, hinput, hcorrelation, hproofs, hcheck⟩ :=
      attached_entry hledger hstored hentry hattach
    have hsame : admissionReceipt decision proof = admissionReceipt first proof := by
      simp only [admissionReceipt, htype, hinput]
    rw [hsame] at hattach hcheck
    have hkept := hledger.run_kept (R := memory) (fc.intentService.attachLedgerReceipt
      (submissionFromOperation operation reason).operationID (admissionReceipt first proof))
      (w := ⟨w.repository.put intent operation, recordedIn⟩) hentry
    simp only [hattach] at hkept
    obtain ⟨old, hop, -, hfind⟩ := attachLedgerReceipt_result hattach
    change (w.repository.put intent operation).operations operation.id = some old at hop
    rw [hstored] at hop
    cases hop
    rw [hdraft.unattached] at hfind
    rcases hfind with ⟨hfound, -⟩ | ⟨-, now, hrepo⟩
    · cases hfound
    subst hdecision
    exact ⟨intent, operation, reason, content, first, proof, now,
      ⟨hdraft, hcontent, htype.symm, hinput.symm, hcorrelation, hcheck, hproofs⟩, hresponse, hkept,
      hrepo⟩

theorem Confirmed.evidence_attach
    {intent : FleetIntent} {operation : FleetOperation} {reason : String} {content : Bytes}
    {decision : FleetDecision} {proof : ProofReceipt}
    (h : Confirmed (E := E) fc given w intent operation reason content decision proof)
    (receipt : OperationLedgerReceipt) (now : Time) (submission : SubmissionResponse) :
    admissionContent intent (operation.attach receipt now) submission = .ok content := by
  have hjournaled := h.drafted.journaledFor.attach receipt now
  have hid : (operation.attach receipt now).id = operation.id := rfl
  have hcorrelation : (operation.attach receipt now).correlationID = operation.correlationID := rfl
  have hsame : (operation.attach receipt now).state = operation.state := rfl
  obtain ⟨content', hcontent', hstate⟩ := admissionContent_again submission
    hid hcorrelation h.drafted.journaledFor hjournaled h.evidence
  rw [hcontent', hstate.mpr hsame]

def Confirmed.admission {given : FleetIntent} {w : World MemoryRepository ε}
    {intent : FleetIntent} {operation : FleetOperation} {reason : String} {content : Bytes}
    {decision : FleetDecision} {proof : ProofReceipt}
    (h : Confirmed (E := E) fc given w intent operation reason content decision proof)
    (now : Time) : Admission fc.intentService where
  intent := intent
  operation := operation.attach (admissionReceipt decision proof) now
  reason := reason
  content := content
  decision := decision
  proof := proof
  intentID := h.drafted.intentID
  journaled := h.drafted.journaledFor.attach _ now
  evidence := h.evidence_attach _ now
  entryType := h.entryType
  inputHash := h.inputHash
  correlationID := h.correlationID
  checked := h.checked
  proofs := h.proofs

theorem first_admission (hledger : IdempotentLedger E recorded)
    (hrecorder : fc.fleetRecorder = true) (hgateway : fc.ledgerGatewayURL ≠ "")
    (hkey : given.idempotencyKey ≠ "") {w w' : World MemoryRepository ε}
    (hkeyed : Keyed MemoryRepository.faithful w)
    (hfresh : w.repository.idempotency given.idempotencyKey = none)
    (hfirst : (fc.submitIntent given).run (serve memory E) w = (.ok submission, w')) :
    ∃ a : Admission fc.intentService, a.intent.idempotencyKey = given.idempotencyKey ∧
      submission.operationID = a.operation.id ∧ submission.intentID = a.intent.id ∧
      w'.repository.operations a.operation.id = some a.operation ∧ Held recorded a w' := by
  have hreplay : replayed given w.repository = none := by simp [replayed, hkey, hfresh]
  obtain ⟨intent, operation, reason, content, decision, proof, now, hconfirmed, hresponse, hentry,
    hrepo⟩ := first_submission hledger hrecorder hgateway hreplay hfirst
  obtain ⟨_, hcompleted⟩ := hconfirmed.drafted.completed
  have hindex : intent.idempotencyKey = given.idempotencyKey := by
    rw [hcompleted]
    rfl
  have hstored : w'.repository.operations operation.id =
      some (operation.attach (admissionReceipt decision proof) now) := by
    rw [hrepo]
    exact Function.update_self _ _ _
  refine ⟨hconfirmed.admission now, hindex, ?_, ?_, hstored, ?_, ?_, hentry, ?_, ?_⟩
  · rw [hresponse]
    rfl
  · rw [hresponse]
    exact hconfirmed.drafted.intentID
  · simp only [hrepo, MemoryRepository.store, MemoryRepository.put, Confirmed.admission, hindex,
      hkey, if_false, Function.update_self]
    rfl
  · rw [hrepo]
    exact Function.update_self _ _ _
  · intro id op hop
    simp only [hrepo, MemoryRepository.faithful, MemoryRepository.store] at hop
    exact forall_update (forall_update hkeyed rfl) rfl id op hop
  · refine ⟨_, hstored, rfl, rfl, rfl, rfl, hconfirmed.drafted.journaledFor.attach _ now, ?_⟩
    simp [FleetOperation.attach, hconfirmed.drafted.unattached, Admission.receipt,
      Confirmed.admission, Service.sameEntry]

def Collide (intent : FleetIntent) (old new : FleetOperation) (submission : SubmissionResponse) :
    Prop :=
  ∃ content content', admissionContent intent old submission = .ok content ∧
    admissionContent intent new submission = .ok content' ∧ content' ≠ content ∧
    hexEncode (sha256 content') = hexEncode (sha256 content)

def Retried (E : Environment ε) (fc : FleetController) (given : FleetIntent)
    (w : World MemoryRepository ε) (current : FleetOperation) : Prop :=
  ∃ response w', (fc.submitIntent given).run (serve memory E) w = (.ok response, w') ∧
    response.operationID = current.id ∧
    ∃ operation, w'.repository.operations current.id = some operation ∧
      operation.state = current.state ∧ operation.transitions = current.transitions ∧
      operation.ledgerReceipts = current.ledgerReceipts

/-- The answer to a submission whose operation is there already. -/
def replayOf (current : FleetOperation) : SubmissionResponse :=
  submissionFromOperation current "idempotent replay"

section Again
variable {a : Admission fc.intentService} {current : FleetOperation} {content : Bytes}
  (hledger : IdempotentLedger E recorded) (hrecorder : fc.fleetRecorder = true)
  (hkey : given.idempotencyKey ≠ "") (hgiven : a.intent.idempotencyKey = given.idempotencyKey)
  (h : Held recorded a w) (hcurrent : w.repository.operations a.operation.id = some current)
  (hcontinues : Continues a.operation a.reason a.receipt current)
  (hcontent : admissionContent a.intent current (replayOf current) = .ok content)
include hledger hrecorder hkey hgiven h hcurrent hcontinues hcontent

theorem Held.submitIntent_run :
    ∃ decision environment, decision.type = a.decision.type ∧
      decision.inputHash = hexEncode (sha256 content) ∧
      recorded environment a.entryKey = some (a.decision, a.proof) ∧
      E.recordProof decision w.environment = (.ok (some a.proof), environment) ∧
      (fc.submitIntent given).run (serve memory E) w =
        (fc.recordAdmission (replayOf current) decision).run
          (serve memory E) w := by
  have hreplay : replayed given w.repository = some current := by
    have hindexed := h.indexed
    rw [hgiven] at hindexed
    simp [replayed, hkey, hindexed, hcurrent]
  have hintent : w.repository.intents (replayOf current).intentID = some a.intent := by
    have hid : (replayOf current).intentID = a.intent.id :=
      hcontinues.intentID.trans a.intentID
    rw [hid]
    exact h.intent
  have hoperation : w.repository.operations (replayOf current).operationID = some current := by
    have hid : (replayOf current).operationID =
      a.operation.id := hcontinues.id
    rw [hid]
    exact hcurrent
  have hentryKey : (admissionDecision a.intent current (replayOf current) content).idempotencyKey =
      a.entryKey := by
    simp only [admissionDecision, hcontinues.id, Admission.entryKey]
  have hentry := h.entry
  rw [← hentryKey] at hentry
  obtain ⟨-, -, -, -, hkept⟩ := hledger.kept _ _ _ h.entry
  refine ⟨_, _, a.entryType.symm, rfl, hkept _, Prod.ext (hledger.record_seen _ _ _ _ hentry) rfl, ?_⟩
  rw [Server.submitIntent_run, submit_memory, hreplay]
  simp only [hrecorder, if_true]
  exact reloadAndProve_run hintent hoperation hcontent

theorem Held.retried_iff (hgateway : fc.ledgerGatewayURL ≠ "") :
    Retried E fc given w current ↔ hexEncode (sha256 content) = hexEncode (sha256 a.content) := by
  obtain ⟨decision, environment, htype, hinput, hentry, hrecord, hrun⟩ :=
    Held.submitIntent_run hledger hrecorder hkey hgiven h hcurrent hcontinues hcontent
  have hstored : (⟨w.repository, environment⟩ : World MemoryRepository ε).repository.operations
      (replayOf current).operationID = some current := by
    have hid : (replayOf current).operationID =
      a.operation.id := hcontinues.id
    rw [hid]
    exact hcurrent
  unfold Retried
  rw [hrun]
  constructor
  · rintro ⟨response, w', hok, -⟩
    obtain ⟨-, result, hattach⟩ := recordAdmission_ok hgateway hrecord hok
    obtain ⟨-, hdigest, -⟩ := attached_entry hledger hstored hentry hattach
    rw [← hinput, hdigest, a.inputHash]
  · intro hsame
    have hreceipt : admissionReceipt decision a.proof = a.receipt := by
      simp only [Admission.receipt, admissionReceipt, htype, hinput, hsame, a.inputHash]
    obtain ⟨verification, hanswer, hvalid⟩ := hledger.verify_valid _ _ _ _ hentry
    obtain ⟨-, hconfirms⟩ := hledger.verify_sound _ _ _ _ _ _ hentry hanswer hvalid
    have hverified : ((fc.intentService.verifyLedgerReceipt current a.receipt).run
        (serve memory E) ⟨w.repository, environment⟩).1 = .ok () := by
      refine verifyLedgerReceipt_ok.mpr ⟨?_, a.proofs, some verification, hanswer, ?_⟩
      · have hchecked := a.checked
        unfold checkReceipt at hchecked ⊢
        rw [hcontinues.actionClass]
        exact hchecked
      · exact hconfirms.checkVerification hvalid rfl rfl
          (hcontinues.correlationID.trans a.correlationID.symm) rfl rfl rfl rfl
    obtain ⟨environment', hattach⟩ := attachLedgerReceipt_found hstored hverified
      hcontinues.attached
    refine ⟨replayOf current, ⟨w.repository, environment'⟩, ?_,
      rfl, current, ?_, rfl, rfl, rfl⟩
    · rw [recordAdmission_run hrecord, hreceipt, hattach]
    · rw [hcontinues.id]
      exact hcurrent

end Again

/-- Whatever the service does between the two calls: submitted again, an admitted intent is answered
with its operation, which stays as it is, exactly if the operation is in the state it was admitted
into. (Short of a SHA-256 collision between the two evidence texts.) -/
theorem retry_idempotent_iff (hledger : IdempotentLedger E recorded) (fc : FleetController)
    (hrecorder : fc.fleetRecorder = true) (hgateway : fc.ledgerGatewayURL ≠ "")
    (given : FleetIntent) (hkey : given.idempotencyKey ≠ "") (w w₁ : World MemoryRepository ε)
    (hkeyed : Keyed MemoryRepository.faithful w)
    (hfresh : w.repository.idempotency given.idempotencyKey = none)
    (submission : SubmissionResponse)
    (hfirst : (fc.submitIntent given).run (serve memory E) w = (.ok submission, w₁))
    (steps : List Step) (hspares : Spares E fc.intentService submission.operationID steps w₁) :
    ∃ intent admitted current, w₁.repository.intents submission.intentID = some intent ∧
      w₁.repository.operations submission.operationID = some admitted ∧
      (runSteps memory E fc.intentService steps w₁).repository.operations submission.operationID =
        some current ∧
      current.id = submission.operationID ∧
      (Retried E fc given (runSteps memory E fc.intentService steps w₁) current ↔
        current.state = admitted.state ∨ Collide intent admitted current submission) := by
  obtain ⟨a, hgiven, hoperationID, hintentID, hadmitted, hheld⟩ :=
    first_admission hledger hrecorder hgateway hkey hkeyed hfresh hfirst
  rw [hoperationID] at hspares
  have hlater := hheld.run hledger steps hspares
  obtain ⟨current, hcurrent, hcontinues⟩ := hlater.current
  obtain ⟨content, hcontent, hstate⟩ := admissionContent_again submission
    hcontinues.id hcontinues.correlationID a.journaled hcontinues.journaled (a.evidence submission)
  have hagain := hcontent
  rw [admissionContent_submission hcontinues.journaled submission
    (replayOf current)] at hagain
  rw [hoperationID, hintentID, ← hcontinues.id]
  rw [← hcontinues.id] at hadmitted hcurrent
  refine ⟨a.intent, a.operation, current, hheld.intent, hadmitted, hcurrent, rfl, ?_⟩
  rw [hcontinues.id] at hcurrent
  rw [Held.retried_iff hledger hrecorder hkey hgiven hlater hcurrent hcontinues hagain hgateway]
  constructor
  · intro hdigest
    by_cases hsame : content = a.content
    · exact Or.inl (hstate.mp hsame)
    · exact Or.inr ⟨a.content, content, a.evidence submission, hcontent, hsame, hdigest⟩
  · rintro (hsame | ⟨old, new, hold, hnew, -, hdigest⟩)
    · rw [hstate.mpr hsame]
    · rw [a.evidence, Except.ok.injEq] at hold
      rw [hcontent, Except.ok.injEq] at hnew
      rw [hold, hnew]
      exact hdigest

end Retry

section Sample

def sampleProof (decision : FleetDecision) : ProofReceipt :=
  ⟨decision.idempotencyKey, decision.idempotencyKey, decision.type, 1, ⟨1000000, 0⟩,
    decision.inputHash⟩

def sampleEntry (entries : List FleetDecision) (key : String) : Option FleetDecision :=
  entries.find? fun decision => decision.idempotencyKey == key

def recordingEnvironment : Environment (List FleetDecision) where
  now entries := (⟨1000000000, 0⟩, entries)
  timeNow entries := (⟨1000000000, 0⟩, entries)
  randRead entries := (some [], entries)
  verifyProof entryHash entryType entries := (.ok ((sampleEntry entries entryHash).map fun decision =>
    { valid := decision.type == entryType
      entryID := ""
      entryType := decision.type
      correlationID := decision.correlationID
      inputHash := decision.inputHash
      content := decision.content
      chainPosition := 1
      failureReason := ""
      writtenAt := ⟨1000000, 0⟩ }), entries)
  recordProof decision entries :=
    match sampleEntry entries decision.idempotencyKey with
    | some first => (.ok (some (sampleProof first)), entries)
    | none => (.ok (some (sampleProof decision)), entries ++ [decision])

def sampleRecorded (entries : List FleetDecision) (key : String) :
    Option (FleetDecision × ProofReceipt) :=
  (sampleEntry entries key).map fun decision => (decision, sampleProof decision)

theorem sampleEntry_key {entries : List FleetDecision} {key : String} {decision : FleetDecision}
    (h : sampleEntry entries key = some decision) : decision.idempotencyKey = key := by
  have hkey := List.find?_some h
  simpa using hkey

theorem sampleRecorded_eq {entries : List FleetDecision} {key : String} {decision : FleetDecision}
    {proof : ProofReceipt} (h : sampleRecorded entries key = some (decision, proof)) :
    sampleEntry entries key = some decision ∧ proof = sampleProof decision := by
  obtain ⟨found, hfound, hsame⟩ := Option.map_eq_some_iff.mp h
  cases hsame
  exact ⟨hfound, rfl⟩

theorem recordingEnvironment_idempotent : IdempotentLedger recordingEnvironment sampleRecorded where
  record_new decision entries h := by
    have hnone : sampleEntry entries decision.idempotencyKey = none := Option.map_eq_none_iff.mp h
    refine ⟨sampleProof decision, ?_⟩
    unfold sampleEntry at hnone
    simp [recordingEnvironment, sampleRecorded, sampleEntry, hnone]
  record_seen decision entries first proof h := by
    obtain ⟨hfound, rfl⟩ := sampleRecorded_eq h
    simp only [recordingEnvironment, hfound]
  verify_valid entries key decision proof h := by
    obtain ⟨hfound, rfl⟩ := sampleRecorded_eq h
    have hkey := sampleEntry_key hfound
    simp [recordingEnvironment, sampleProof, hkey, hfound]
  verify_sound entries key decision proof entryType verification h hanswer hvalid := by
    obtain ⟨hfound, rfl⟩ := sampleRecorded_eq h
    have hkey := sampleEntry_key hfound
    simp only [recordingEnvironment, sampleProof, hkey, hfound, Option.map_some, Except.ok.injEq,
      Option.some.injEq] at hanswer
    subst hanswer
    simp only [beq_iff_eq] at hvalid
    exact ⟨hvalid.symm, rfl, Or.inl rfl, rfl, rfl, rfl, rfl, rfl⟩
  kept entries key entry h := by
    refine ⟨h, h, h, fun _ _ => h, fun decision => ?_⟩
    simp only [recordingEnvironment]
    cases sampleEntry entries decision.idempotencyKey with
    | some first => exact h
    | none =>
      obtain ⟨found, hfound, hsame⟩ := Option.map_eq_some_iff.mp h
      unfold sampleEntry at hfound
      simp only [sampleRecorded, sampleEntry, List.find?_append, hfound, Option.some_or,
        Option.map_some, hsame]

def sampleSubmitted : Except Error SubmissionResponse × World MemoryRepository (List FleetDecision) :=
  (sampleController.submitIntent sampleIntent).run (serve memory recordingEnvironment) ⟨.empty, []⟩

def sampleCancelled : World MemoryRepository (List FleetDecision) :=
  runSteps memory recordingEnvironment sampleService [.request (.cancel sampleID "")]
    sampleSubmitted.2

def cancelledRetry : Except Error SubmissionResponse × World MemoryRepository (List FleetDecision) :=
  (sampleController.submitIntent sampleIntent).run (serve memory recordingEnvironment)
    sampleCancelled

set_option maxRecDepth 20000 in
theorem sample_runs : (∃ submission, sampleSubmitted.1 = .ok submission) ∧
    (∃ operation, sampleCancelled.repository.operations sampleID = some operation) ∧
    (∃ err, cancelledRetry.1 = .error err) ∧
    cancelledRetry.2.repository.operations sampleID = none := by
  have hrun : (sampleSubmitted.1.toOption.isSome &&
      (sampleCancelled.repository.operations sampleID).isSome &&
      cancelledRetry.1.toOption.isNone &&
      (cancelledRetry.2.repository.operations sampleID).isNone) = true := by
    decide +kernel
  simp only [Bool.and_eq_true, Option.isNone_iff_eq_none, Option.isSome_iff_exists] at hrun
  obtain ⟨⟨⟨⟨submission, hfirst⟩, hbefore⟩, hretry⟩, hafter⟩ := hrun
  refine ⟨?_, hbefore, ?_, hafter⟩
  · cases hok : sampleSubmitted.1 with
    | ok response => exact ⟨response, rfl⟩
    | error err =>
      rw [hok] at hfirst
      cases hfirst
  · cases hok : cancelledRetry.1 with
    | error err => exact ⟨err, rfl⟩
    | ok response =>
      rw [hok] at hretry
      cases hretry

/-- Right after its admission, the sample intent can be submitted again. -/
theorem retry_idempotent_iff_sample : ∃ submission admitted,
    sampleSubmitted.1 = .ok submission ∧
      sampleSubmitted.2.repository.operations submission.operationID = some admitted ∧
      Retried recordingEnvironment sampleController sampleIntent sampleSubmitted.2 admitted := by
  obtain ⟨⟨submission, hfirst⟩, -⟩ := sample_runs
  have hrun : (sampleController.submitIntent sampleIntent).run (serve memory recordingEnvironment)
      ⟨.empty, []⟩ = sampleSubmitted := rfl
  generalize sampleSubmitted = result at hfirst hrun ⊢
  obtain ⟨response, w⟩ := result
  cases hfirst
  obtain ⟨intent, admitted, current, -, hadmitted, hcurrent, -, hiff⟩ :=
    retry_idempotent_iff recordingEnvironment_idempotent sampleController rfl (by decide)
      sampleIntent (by decide) ⟨.empty, []⟩ w (fun _ _ h => nomatch h) rfl submission hrun [] trivial
  simp only [runSteps, List.foldl_nil] at hcurrent hiff
  rw [hadmitted, Option.some.injEq] at hcurrent
  subst hcurrent
  exact ⟨submission, admitted, rfl, hadmitted, hiff.mpr (Or.inl rfl)⟩

/-- Submitted again after it was cancelled, the sample intent is refused and loses its operation,
although the ledger never failed. -/
theorem cancelled_retry_deletes : IdempotentLedger recordingEnvironment sampleRecorded ∧
    (∃ submission, sampleSubmitted.1 = .ok submission) ∧
    (∃ operation, sampleCancelled.repository.operations sampleID = some operation) ∧
    (∃ err, cancelledRetry.1 = .error err) ∧
    cancelledRetry.2.repository.operations sampleID = none :=
  ⟨recordingEnvironment_idempotent, sample_runs⟩

end Sample
end FleetLlmd.Server
