import FleetLlmd.Server.SubmitIntent

/-!
# Compensation

When the ledger does not confirm an admission, `submitIntent` deletes the submission.
That restores the repository if the call itself stored the submission under a fresh
operation identifier; on a replay it deletes the operation of an earlier call.
-/

namespace FleetLlmd.Intents
open Go Ledger Effect Prog

section Quiet
variable {ρ ε α : Type} {R : Repository ρ} {E : Environment ε}

theorem quiet_run {G : List ServiceEvent → ServiceCall → Prop} {P : List ServiceEvent → α → Prop}
    {p : Action α} (hp : p.Meets G (fun later a => Quiet [] later ∧ P later a) [])
    (w : World ρ ε) : (p.run (serve R E) w).2.repository = w.repository := by
  have hstep (past : List ServiceEvent) (w' : World ρ ε) (c : ServiceCall)
      (hJ : NoWrite past → w'.repository = w.repository) (_ : G past c)
      (hno : NoWrite (⟨c, (serve R E c w').1⟩ :: past)) :
      (serve R E c w').2.repository = w.repository := by
    rw [serve_unchanged (hno _ List.mem_cons_self)]
    exact hJ fun e he => hno e (List.mem_cons_of_mem _ he)
  have hrun := hp.run (h := serve R E)
    (J := fun past w' => NoWrite past → w'.repository = w.repository) (fun _ => rfl) hstep
  exact hrun.1 (hrun.2.1.noWrite noWrite_nil)

theorem intentResourceID_repository (s : Service) (given : FleetIntent) (w : World ρ ε) :
    ((Service.intentResourceID given).run (serve R E) w).2.repository = w.repository :=
  quiet_run (intentResourceID_meets (s := s) given) w

theorem operationResourceID_repository (s : Service) (given : FleetIntent) (pre key : String)
    (w : World ρ ε) :
    ((operationResourceID pre key).run (serve R E) w).2.repository = w.repository :=
  quiet_run (operationResourceID_meets (s := s) given pre key) w

theorem verifyLedgerReceipt_repository (s : Service) (operation : FleetOperation)
    (receipt : OperationLedgerReceipt) (w : World ρ ε) :
    ((s.verifyLedgerReceipt operation receipt).run (serve R E) w).2.repository = w.repository := by
  have hmeets : (s.verifyLedgerReceipt operation receipt).Meets
      (Justified s ⟨fun _ => False, fun _ _ => False⟩) _ [] :=
    verifyLedgerReceipt_meets operation receipt
  exact quiet_run hmeets w

end Quiet

section Submit
variable {ε : Type} (E : Environment ε) (s : Service) (given : FleetIntent)

def identifiers : Action (String × String) := do
  let _ ← nowCall
  let id ← Service.intentResourceID given
  let operationID ← operationResourceID "operation" given.idempotencyKey
  pure (id, operationID)

def replayed (r : MemoryRepository) : Option FleetOperation :=
  if given.idempotencyKey = "" then none
  else (r.idempotency given.idempotencyKey).map fun id => (r.operations id).getD .empty

structure Drafted (w : World MemoryRepository ε) (intent : FleetIntent)
    (operation : FleetOperation) (reason : String) : Prop where
  ids : ((identifiers given).run (serve memory E) w).1 = (intent.id, operation.id)
  completed : ∃ now, intent = Service.complete given intent.id now
  journaled : ∃ now next later, operation =
    (Service.received intent operation.id now).extend next reason "fleet-policy" later

theorem admission_ok (intent : FleetIntent) (now : Time) :
    ∃ next reason, s.admission intent now = .ok (next, reason) := by
  unfold Service.admission
  split_ifs with hexpired
  · exact ⟨_, _, rfl⟩
  · unfold evaluate
    dsimp only
    split_ifs <;> exact ⟨_, _, rfl⟩

theorem storeNew_memory (intent : FleetIntent) (operation : FleetOperation) (reason : String)
    (w : World MemoryRepository ε) (hfree : replayed intent w.repository = none) :
    (Service.storeNew intent operation reason).run (serve memory E) w =
      match w.repository.createError intent with
      | some err => (.error err, w)
      | none => (.ok (submissionFromOperation operation reason),
          ⟨w.repository.put intent operation, w.environment⟩) := by
  simp only [Service.storeNew, bind_eq_bind, createCall, perform_bind, run_call, serve, memory,
    MemoryRepository.create]
  cases herr : w.repository.createError intent with
  | none => rfl
  | some err =>
    by_cases hkey : intent.idempotencyKey = ""
    · simp [hkey]
    · simp only [replayed, hkey, if_false, Option.map_eq_none_iff] at hfree
      simp [hkey, findByIdempotencyKeyCall, serve, MemoryRepository.findByIdempotencyKey, hfree]

theorem admitNew_memory (w : World MemoryRepository ε)
    (hfree : replayed given w.repository = none) :
    ∃ intent operation reason environment, Drafted E given w intent operation reason ∧
      (s.admitNew given).run (serve memory E) w =
        match w.repository.createError intent with
        | some err => (.error err, ⟨w.repository, environment⟩)
        | none => (.ok (submissionFromOperation operation reason),
            ⟨w.repository.put intent operation, environment⟩) := by
  -- the world after the first clock reading, after each identifier, and after the second reading
  rcases hnow : serve memory E .now w with ⟨now, w₁⟩
  rcases hid : (Service.intentResourceID given).run (serve memory E) w₁ with ⟨id, w₂⟩
  rcases hoperation : (operationResourceID "operation" given.idempotencyKey).run (serve memory E) w₂
    with ⟨operationID, w₃⟩
  rcases hlater : serve memory E .timeNow w₃ with ⟨later, w₄⟩
  have hrepo : w₄.repository = w.repository := by
    have h₁ : w₁.repository = w.repository := congrArg (·.2.repository) hnow.symm
    have h₂ := intentResourceID_repository (R := memory) (E := E) s given w₁
    have h₃ := operationResourceID_repository (R := memory) (E := E) s given "operation"
      given.idempotencyKey w₂
    have h₄ : w₄.repository = w₃.repository := congrArg (·.2.repository) hlater.symm
    rw [hid] at h₂
    rw [hoperation] at h₃
    rw [h₄, h₃, h₂, h₁]
  obtain ⟨next, reason, hadm⟩ := admission_ok s (Service.complete given id now.utc) now.utc
  refine ⟨Service.complete given id now.utc,
    (Service.received (Service.complete given id now.utc) operationID now.utc).extend next reason
      "fleet-policy" later.utc, reason, w₄.environment,
    ⟨?_, ⟨now.utc, rfl⟩, ⟨now.utc, next, later.utc, rfl⟩⟩, ?_⟩
  · simp only [identifiers, bind_eq_bind, nowCall, perform_bind, run_call, run_bind, pure_eq_done,
      run_done, hnow, hid, hoperation]
    rfl
  · rw [← hrepo] at hfree ⊢
    have hcompleted : replayed (Service.complete given id now.utc) w₄.repository = none := hfree
    have hkey : (Service.complete given id now.utc).idempotencyKey = given.idempotencyKey := rfl
    refine Eq.trans ?_ (storeNew_memory E _ _ reason w₄ hcompleted)
    simp only [Service.admitNew, appendTransition, bind_eq_bind, nowCall, perform_bind, timeNowCall,
      pure_eq_done, call_bind, done_bind, run_call, run_bind, hnow, hid, hkey, hoperation, hadm,
      hlater]

theorem submit_memory (w : World MemoryRepository ε) :
    (s.submit given).run (serve memory E) w =
      match replayed given w.repository with
      | some existing => (.ok (submissionFromOperation existing "idempotent replay"), w)
      | none => (s.admitNew given).run (serve memory E) w := by
  unfold Service.submit replayed
  by_cases hkey : given.idempotencyKey = ""
  · simp [hkey]
  · simp only [hkey, if_false, bind_eq_bind, findByIdempotencyKeyCall, perform_bind, run_call,
      serve, memory, MemoryRepository.findByIdempotencyKey]
    cases w.repository.idempotency given.idempotencyKey with
    | some id => rfl
    | none => simp

end Submit

section Drafted
variable {ε : Type} {E : Environment ε} {given intent : FleetIntent} {operation : FleetOperation}
variable {reason : String} {w : World MemoryRepository ε}

variable (h : Drafted E given w intent operation reason)
include h

theorem Drafted.intentID : operation.intentID = intent.id := by
  obtain ⟨now, next, later, hop⟩ := h.journaled
  rw [hop]
  rfl

theorem Drafted.idempotencyKey : operation.idempotencyKey = intent.idempotencyKey := by
  obtain ⟨now, next, later, hop⟩ := h.journaled
  rw [hop]
  rfl

theorem Drafted.replayed (r : MemoryRepository) :
    Intents.replayed intent r = Intents.replayed given r := by
  obtain ⟨now, hintent⟩ := h.completed
  rw [hintent]
  rfl

end Drafted

section Attach
variable {ε : Type} {E : Environment ε} {s : Service}

def MemoryRepository.store (r : MemoryRepository) (operation : FleetOperation) :
    MemoryRepository :=
  { r with operations := Function.update r.operations operation.id (some operation) }

theorem attachLedgerReceipt_result {id : String} {receipt : OperationLedgerReceipt}
    {w w' : World MemoryRepository ε} {result : Except Error FleetOperation}
    (h : (s.attachLedgerReceipt id receipt).run (serve memory E) w = (result, w')) :
    match result with
    | .error _ => w'.repository = w.repository
    | .ok _ => ∃ operation, w.repository.operations id = some operation ∧
      ((s.verifyLedgerReceipt operation receipt).run (serve memory E) w).1 = .ok () ∧
      (operation.ledgerReceipts.find? (Service.sameEntry receipt) = some receipt ∧
          w'.repository = w.repository ∨
        operation.ledgerReceipts.find? (Service.sameEntry receipt) = none ∧ ∃ now,
          w'.repository = w.repository.store (operation.attach receipt now)) := by
  simp only [Service.attachLedgerReceipt, bind_eq_bind, getOperationCall, perform_bind, run_call,
    serve] at h
  cases hget : memory.getOperation id w.repository with
  | error err =>
    simp only [hget, pure_eq_done, run_done, Prod.mk.injEq] at h
    obtain ⟨rfl, rfl⟩ := h
    rfl
  | ok operation =>
    have hop := MemoryRepository.faithful.getOperation_ok hget
    rcases hverify : (s.verifyLedgerReceipt operation receipt).run (serve memory E) w with
      ⟨verified, w₁⟩
    have hrepo := verifyLedgerReceipt_repository (R := memory) (E := E) s operation receipt w
    rw [hverify] at hrepo
    simp only [hget, run_bind, hverify] at h
    cases verified with
    | error err =>
      simp only [pure_eq_done, run_done, Prod.mk.injEq] at h
      obtain ⟨rfl, rfl⟩ := h
      exact hrepo
    | ok u =>
      cases hfind : operation.ledgerReceipts.find? (Service.sameEntry receipt) with
      | some existing =>
        simp only [hfind] at h
        split_ifs at h with hsame <;> simp only [pure_eq_done, run_done, Prod.mk.injEq] at h <;>
          obtain ⟨rfl, rfl⟩ := h
        · exact ⟨operation, hop, by rw [hverify], .inl ⟨hsame ▸ hfind, hrepo⟩⟩
        · exact hrepo
      | none =>
        simp only [hfind, nowCall, perform_bind, run_call, updateOperationCall, serve, memory,
          MemoryRepository.updateOperation] at h
        split_ifs at h <;> simp only [pure_eq_done, run_done, Prod.mk.injEq] at h <;>
          obtain ⟨rfl, rfl⟩ := h
        · exact ⟨operation, hop, by rw [hverify], .inr ⟨hfind, _, by rw [← hrepo]; rfl⟩⟩
        · exact hrepo

end Attach

theorem intent_free {r : MemoryRepository} {intent : FleetIntent}
    (h : r.createError intent = none) : r.intents intent.id = none := by
  unfold MemoryRepository.createError at h
  split_ifs at h with h₁ h₂ <;> simpa using h₁

theorem remove_put {r : MemoryRepository} {intent : FleetIntent} {operation : FleetOperation}
    (hcreate : r.createError intent = none) (hoperation : r.operations operation.id = none)
    (hkey : operation.idempotencyKey = intent.idempotencyKey) :
    (r.put intent operation).remove intent.id operation.id = r := by
  have hintent := intent_free hcreate
  have hrestore {α : Type} (f : String → Option α) (k : String) (v : Option α) (h : f k = none) :
      Function.update (Function.update f k v) k none = f := by
    rw [Function.update_idem, ← h, Function.update_eq_self]
  have hstored : (r.put intent operation).operations operation.id = some operation :=
    Function.update_self _ _ _
  obtain ⟨intents, operations, idempotency⟩ := r
  simp only [MemoryRepository.remove, hstored, hkey]
  simp only [MemoryRepository.put, MemoryRepository.mk.injEq]
  refine ⟨hrestore intents _ _ hintent, hrestore operations _ _ hoperation, ?_⟩
  by_cases hempty : intent.idempotencyKey = ""
  · simp [hempty]
  · have hfree := createError_none hempty hcreate
    simp only [hempty, if_false]
    exact hrestore idempotency _ _ hfree

end FleetLlmd.Intents

namespace FleetLlmd.Server
open Go Intents Ledger Effect Prog

section Runs
variable {ε : Type} {E : Environment ε} {fc : FleetController}

def undone (submission : SubmissionResponse) (r : MemoryRepository) : MemoryRepository :=
  (MemoryRepository.delete submission.intentID submission.operationID r).2

theorem compensate_run (hgateway : fc.ledgerGatewayURL ≠ "") (submission : SubmissionResponse)
    (ledgerErr : Error) (w : World MemoryRepository ε) :
    ∃ err, (fc.compensateConfiguredLedgerFailure submission ledgerErr).run (serve memory E) w =
      (.error err, ⟨undone submission w.repository, w.environment⟩) := by
  simp only [FleetController.compensateConfiguredLedgerFailure, hgateway, if_false,
    Service.deleteSubmission, bind_eq_bind, deleteCall, perform_bind, run_call, serve, memory,
    undone]
  cases (MemoryRepository.delete submission.intentID submission.operationID w.repository).1 with
  | error cleanupErr => exact ⟨_, rfl⟩
  | ok u => exact ⟨_, rfl⟩

theorem compensate_run_local (hgateway : fc.ledgerGatewayURL = "") (submission : SubmissionResponse)
    (ledgerErr : Error) (w : World MemoryRepository ε) :
    (fc.compensateConfiguredLedgerFailure submission ledgerErr).run (serve memory E) w =
      (.ok submission, w) := by
  simp [FleetController.compensateConfiguredLedgerFailure, hgateway]

def ProvenOrUndone (E : Environment ε) (fc : FleetController) (submission : SubmissionResponse)
    (r : MemoryRepository)
    (result : Except Error SubmissionResponse × World MemoryRepository ε) : Prop :=
  (∃ ledgerErr w, w.repository = r ∧ result =
      (fc.compensateConfiguredLedgerFailure submission ledgerErr).run (serve memory E) w) ∨
    (result.1 = .ok submission ∧
      ∃ decision e receipt, (E.recordProof decision e).1 = .ok (some receipt))

theorem recordAdmission_cases (submission : SubmissionResponse) (decision : FleetDecision)
    (w : World MemoryRepository ε) : ProvenOrUndone E fc submission w.repository
      ((fc.recordAdmission submission decision).run (serve memory E) w) := by
  simp only [FleetController.recordAdmission, bind_eq_bind, recordProofCall, perform_bind, run_call]
  rcases hrecord : serve memory E (.recordProof decision) w with ⟨answer, w₁⟩
  have hrepo : w₁.repository = w.repository := congrArg (·.2.repository) hrecord.symm
  have hanswer : (E.recordProof decision w.environment).1 = answer := congrArg (·.1) hrecord
  rcases answer with err | (_ | receipt)
  · exact Or.inl ⟨_, w₁, hrepo, rfl⟩
  · exact Or.inl ⟨_, w₁, hrepo, rfl⟩
  · rcases hattach : (fc.intentService.attachLedgerReceipt submission.operationID
      (admissionReceipt decision receipt)).run (serve memory E) w₁ with ⟨attached, w₂⟩
    simp only [run_bind, hattach]
    cases attached with
    | ok operation => exact Or.inr ⟨rfl, decision, _, receipt, hanswer⟩
    | error attachErr =>
      exact Or.inl ⟨_, w₂, (attachLedgerReceipt_result hattach).trans hrepo, rfl⟩

theorem reloadAndProve_cases (fc : FleetController) (submission : SubmissionResponse)
    (w : World MemoryRepository ε) :
    ProvenOrUndone E fc submission w.repository
      ((fc.reloadAndProve submission).run (serve memory E) w) := by
  simp only [FleetController.reloadAndProve, Service.getIntent, Service.getOperation, bind_eq_bind,
    getIntentCall, perform_bind, run_call, serve]
  cases memory.getIntent submission.intentID w.repository with
  | error err => exact Or.inl ⟨_, w, rfl, rfl⟩
  | ok intent =>
    simp only [getOperationCall, perform_bind, run_call, serve]
    cases memory.getOperation submission.operationID w.repository with
    | error err => exact Or.inl ⟨_, w, rfl, rfl⟩
    | ok operation =>
      simp only [FleetController.proveAdmission]
      cases intent.marshal with
      | error err => exact Or.inl ⟨_, w, rfl, rfl⟩
      | ok intentBytes =>
        simp only
        cases admissionEvidence intent intentBytes operation submission with
        | error err => exact Or.inl ⟨_, w, rfl, rfl⟩
        | ok content => exact recordAdmission_cases submission _ w

theorem reloadAndProve_error {submission : SubmissionResponse} {w : World MemoryRepository ε}
    {result : World MemoryRepository ε} {err : Error}
    (h : (fc.reloadAndProve submission).run (serve memory E) w = (.error err, result)) :
    fc.ledgerGatewayURL ≠ "" ∧ result.repository = undone submission w.repository := by
  rcases reloadAndProve_cases (E := E) fc submission w with
    ⟨ledgerErr, w₁, hrepo, hrun⟩ | ⟨hok, -⟩
  · rw [h] at hrun
    by_cases hgateway : fc.ledgerGatewayURL = ""
    · rw [compensate_run_local hgateway] at hrun
      cases hrun
    · obtain ⟨err', hcompensate⟩ := compensate_run (E := E) hgateway submission ledgerErr w₁
      rw [hcompensate, hrepo] at hrun
      cases hrun
      exact ⟨hgateway, rfl⟩
  · rw [h] at hok
    cases hok

def Refuses (E : Environment ε) : Prop :=
  ∀ decision e, ∃ refusal, (E.recordProof decision e).1 = .error refusal

theorem reloadAndProve_refused (hgateway : fc.ledgerGatewayURL ≠ "") (hrefuses : Refuses E)
    (submission : SubmissionResponse) (w : World MemoryRepository ε) :
    ∃ err, ((fc.reloadAndProve submission).run (serve memory E) w).1 = .error err := by
  rcases reloadAndProve_cases (E := E) fc submission w with
    ⟨ledgerErr, w₁, hrepo, hrun⟩ | ⟨-, decision, e, receipt, hrecord⟩
  · obtain ⟨err, hcompensate⟩ := compensate_run (E := E) hgateway submission ledgerErr w₁
    exact ⟨err, by rw [hrun, hcompensate]⟩
  · obtain ⟨refusal, hrefusal⟩ := hrefuses decision e
    rw [hrefusal] at hrecord
    cases hrecord

end Runs

section Exact
variable {ε : Type} (E : Environment ε)

def withLedger (verify : String → String → ε → Except Error (Option ProofVerification) × ε)
    (record : FleetDecision → ε → Except Error (Option ProofReceipt) × ε) : Environment ε :=
  { E with verifyProof := verify, recordProof := record }

def Recoverable (fc : FleetController) (given : FleetIntent) (w : World MemoryRepository ε) :
    Prop :=
  fc.fleetRecorder = false ∨ fc.ledgerGatewayURL = "" ∨
    match replayed given w.repository with
    | some existing => w.repository.operations existing.id = none ∧
        w.repository.intents existing.intentID = none
    | none =>
      let ids := ((identifiers given).run (serve memory E) w).1
      (w.repository.intents ids.1).isSome ∨ w.repository.operations ids.2 = none

variable {E} {verify : String → String → ε → Except Error (Option ProofVerification) × ε}
variable {record : FleetDecision → ε → Except Error (Option ProofReceipt) × ε}

theorem operationResourceID_withLedger (pre key : String) (w : World MemoryRepository ε) :
    (operationResourceID pre key).run (serve memory (withLedger E verify record)) w =
      (operationResourceID pre key).run (serve memory E) w := by
  unfold operationResourceID newID
  split_ifs
  · simp only [bind_eq_bind, randReadCall, perform_bind, run_call]
    have hsame : serve memory (withLedger E verify record) .randRead w =
      serve memory E .randRead w := rfl
    rw [hsame]
    cases (serve memory E .randRead w).1 <;> rfl
  · rfl

theorem identifiers_withLedger (given : FleetIntent) (w : World MemoryRepository ε) :
    (identifiers given).run (serve memory (withLedger E verify record)) w =
      (identifiers given).run (serve memory E) w := by
  have hsame : serve memory (withLedger E verify record) .now w = serve memory E .now w := rfl
  simp only [identifiers, bind_eq_bind, nowCall, perform_bind, run_call, run_bind, pure_eq_done,
    run_done, hsame, operationResourceID_withLedger]
  unfold Service.intentResourceID
  split_ifs
  · simp only [operationResourceID_withLedger]
  · rfl

variable {r : MemoryRepository}

theorem createError_eq_none {intent : FleetIntent}
    (hintent : r.intents intent.id = none) (hfree : replayed intent r = none) :
    r.createError intent = none := by
  unfold replayed at hfree
  unfold MemoryRepository.createError
  by_cases hkey : intent.idempotencyKey = ""
  · simp [hintent, hkey]
  · simp only [hkey, if_false, Option.map_eq_none_iff] at hfree
    simp [hintent, hkey, hfree]

variable {submission : SubmissionResponse}

theorem undone_of_present
    (h : r.operations submission.operationID ≠ none ∨ r.intents submission.intentID ≠ none) :
    undone submission r ≠ r := by
  intro hsame
  have hremove : undone submission r = r.remove submission.intentID submission.operationID := by
    unfold undone MemoryRepository.delete
    rw [if_neg]
    simp only [Bool.and_eq_true, Option.isNone_iff_eq_none, not_and_or]
    exact h
  rw [hremove] at hsame
  rcases h with hoperation | hintent
  · apply hoperation
    rw [← hsame]
    exact Function.update_self _ _ _
  · apply hintent
    rw [← hsame]
    exact Function.update_self _ _ _

theorem undone_of_absent (hoperation : r.operations submission.operationID = none)
    (hintent : r.intents submission.intentID = none) : undone submission r = r := by
  simp [undone, MemoryRepository.delete, hoperation, hintent]

theorem undone_put {intent : FleetIntent} {operation : FleetOperation}
    {reason : String} (hid : operation.intentID = intent.id) :
    undone (submissionFromOperation operation reason) (r.put intent operation) =
      (r.put intent operation).remove intent.id operation.id := by
  have hstored : (r.put intent operation).operations operation.id = some operation :=
    Function.update_self _ _ _
  simp [undone, MemoryRepository.delete, submissionFromOperation, hstored, hid]

variable {fc : FleetController} {given : FleetIntent}

theorem submitIntent_run {w : World MemoryRepository ε} :
    (fc.submitIntent given).run (serve memory E) w =
      match (fc.intentService.submit given).run (serve memory E) w with
      | (.error err, w') => (.error err, w')
      | (.ok submission, w') =>
        if fc.fleetRecorder then (fc.reloadAndProve submission).run (serve memory E) w'
        else (.ok submission, w') := by
  simp only [FleetController.submitIntent, bind_eq_bind, run_bind]
  rcases (fc.intentService.submit given).run (serve memory E) w with ⟨err | submission, w'⟩
  · rfl
  · dsimp only
    split_ifs <;> rfl

theorem Recoverable.unchanged
    {w w' : World MemoryRepository ε} {err : Error} (h : Recoverable E fc given w)
    (hrun : (fc.submitIntent given).run (serve memory (withLedger E verify record)) w =
      (.error err, w')) : w'.repository = w.repository := by
  rw [submitIntent_run, submit_memory] at hrun
  cases hreplay : replayed given w.repository with
  | some existing =>
    simp only [hreplay] at hrun
    split_ifs at hrun with hrecorder
    · obtain ⟨hgateway, hrepo⟩ := reloadAndProve_error hrun
      have habsent := (h.resolve_left (by simp [hrecorder])).resolve_left hgateway
      simp only [hreplay] at habsent
      rw [hrepo]
      exact undone_of_absent habsent.1 habsent.2
    · cases hrun
  | none =>
    obtain ⟨intent, operation, reason, environment, hdraft, hadmit⟩ :=
      admitNew_memory (withLedger E verify record) fc.intentService given w hreplay
    simp only [hreplay, hadmit] at hrun
    cases hcreate : w.repository.createError intent with
    | some err' =>
      simp only [hcreate, Prod.mk.injEq] at hrun
      rw [← hrun.2]
    | none =>
      simp only [hcreate] at hrun
      split_ifs at hrun with hrecorder
      · obtain ⟨hgateway, hrepo⟩ := reloadAndProve_error hrun
        have hfree := (h.resolve_left (by simp [hrecorder])).resolve_left hgateway
        have hids := hdraft.ids
        rw [identifiers_withLedger] at hids
        simp only [hreplay, hids, intent_free hcreate, Option.isSome_none, Bool.false_eq_true,
          false_or] at hfree
        rw [hrepo, undone_put hdraft.intentID]
        exact remove_put hcreate hfree hdraft.idempotencyKey
      · cases hrun

/-- The other direction: a ledger that refuses every write makes a submission fail and take
something with it that was there before. -/
theorem Recoverable.of_unchanged {w : World MemoryRepository ε} (hrefuses : Refuses E)
    (h : ∀ err w', (fc.submitIntent given).run (serve memory E) w = (.error err, w') →
      w'.repository = w.repository) : Recoverable E fc given w := by
  by_cases hrecorder : fc.fleetRecorder
  swap
  · exact Or.inl (Bool.eq_false_iff.mpr hrecorder)
  by_cases hgateway : fc.ledgerGatewayURL = ""
  · exact Or.inr (Or.inl hgateway)
  refine Or.inr (Or.inr ?_)
  have hundone (submission : SubmissionResponse) (w₁ : World MemoryRepository ε)
      (hsubmit : (fc.intentService.submit given).run (serve memory E) w = (.ok submission, w₁)) :
      undone submission w₁.repository = w.repository := by
    obtain ⟨err, herr⟩ := reloadAndProve_refused hgateway hrefuses submission w₁
    have hrun : (fc.reloadAndProve submission).run (serve memory E) w₁ = (.error err, _) :=
      Prod.ext herr rfl
    rw [← (reloadAndProve_error hrun).2]
    apply h err
    rw [submitIntent_run, hsubmit, ← hrun]
    simp [hrecorder]
  cases hreplay : replayed given w.repository with
  | some existing =>
    have hsubmit := submit_memory E fc.intentService given w
    rw [hreplay] at hsubmit
    by_contra hpresent
    refine undone_of_present (r := w.repository) ?_ (hundone _ w hsubmit)
    exact not_and_or.mp hpresent
  | none =>
    obtain ⟨intent, operation, reason, environment, hdraft, hadmit⟩ :=
      admitNew_memory E fc.intentService given w hreplay
    simp only [hdraft.ids]
    by_contra hlost
    simp only [not_or, Bool.not_eq_true, Option.isSome_eq_false_iff, Option.isNone_iff_eq_none]
      at hlost
    obtain ⟨hintent, hoperation⟩ := hlost
    have hcreate := createError_eq_none hintent ((hdraft.replayed _).trans hreplay)
    have hsubmit := submit_memory E fc.intentService given w
    simp only [hreplay, hadmit, hcreate] at hsubmit
    have hsame := hundone _ _ hsubmit
    rw [undone_put hdraft.intentID] at hsame
    apply hoperation
    rw [← hsame]
    exact Function.update_self _ _ _

/-- Whatever the ledger answers, a submission that fails leaves the repository as it was, exactly
under this condition. -/
theorem failed_submission_unchanged (fc : FleetController) (E : Environment ε)
    (given : FleetIntent) (w : World MemoryRepository ε) :
    (∀ verify record err w', (fc.submitIntent given).run
        (serve memory (withLedger E verify record)) w = (.error err, w') →
      w'.repository = w.repository) ↔ Recoverable E fc given w := by
  constructor
  · intro h
    let refuse : FleetDecision → ε → Except Error (Option ProofReceipt) × ε :=
      fun _ e => (.error (.sentinel "ledger unavailable"), e)
    have hrefuses : Refuses (withLedger E E.verifyProof refuse) := fun _ _ => ⟨_, rfl⟩
    have hrecoverable := Recoverable.of_unchanged hrefuses (h E.verifyProof refuse)
    unfold Recoverable at hrecoverable ⊢
    rwa [identifiers_withLedger] at hrecoverable
  · intro h verify record err w' hrun
    exact h.unchanged hrun

end Exact

section Sample

def sampleController : FleetController := ⟨sampleService, true, "https://ledger"⟩

def refusingEnvironment : Environment Unit :=
  withLedger sampleEnvironment sampleEnvironment.verifyProof
    fun _ e => (.error (.sentinel "ledger unavailable"), e)

def sampleAdmitted : World MemoryRepository Unit :=
  runSteps memory sampleEnvironment sampleService [.request (.submit sampleIntent)] sampleWorld

def refusedReplay : Except Error SubmissionResponse × World MemoryRepository Unit :=
  (sampleController.submitIntent sampleIntent).run (serve memory refusingEnvironment) sampleAdmitted

set_option maxRecDepth 20000 in
/-- Submitted again while the ledger is down, the intent loses the operation it was given the first
time. -/
theorem replay_deletes_operation :
    (∃ err, refusedReplay.1 = .error err) ∧
      (∃ operation, sampleAdmitted.repository.operations sampleID = some operation) ∧
      refusedReplay.2.repository.operations sampleID = none := by
  have hrun : (refusedReplay.1.toOption.isNone && (sampleAdmitted.repository.operations
      sampleID).isSome && (refusedReplay.2.repository.operations sampleID).isNone) = true := by
    decide +kernel
  simp only [Bool.and_eq_true, Option.isNone_iff_eq_none, Option.isSome_iff_exists] at hrun
  obtain ⟨⟨hresult, hbefore⟩, hafter⟩ := hrun
  refine ⟨?_, hbefore, hafter⟩
  cases hfailed : refusedReplay.1 with
  | error err => exact ⟨err, rfl⟩
  | ok response =>
    rw [hfailed] at hresult
    cases hresult

end Sample
end FleetLlmd.Server
