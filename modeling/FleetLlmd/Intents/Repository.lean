import FleetLlmd.Intents.Writes

/-!
# Repositories and runs

The `Repository` interface, its in-memory implementation, and the runs of the
service over a repository and an environment of clocks, random source and ledger.
`cloneIntent` and `cloneOperation` copy what Go would share by reference; values
here are never shared, so they have no counterpart.

A `Faithful` repository stores what it is given. The claims about sequences of
service calls are about every such repository.
-/

namespace FleetLlmd.Intents
open Go Ledger Effect Prog

structure Repository (ρ : Type) where
  create : FleetIntent → FleetOperation → ρ → Except Error Unit × ρ
  delete : String → String → ρ → Except Error Unit × ρ
  getIntent : String → ρ → Except Error FleetIntent
  getOperation : String → ρ → Except Error FleetOperation
  findByIdempotencyKey : String → ρ → Except Error FleetOperation
  updateOperation : FleetOperation → ρ → Except Error Unit × ρ

section Memory

structure MemoryRepository where
  intents : String → Option FleetIntent
  operations : String → Option FleetOperation
  idempotency : String → Option String

namespace MemoryRepository

/-- `NewMemoryRepository`. -/
def empty : MemoryRepository := ⟨fun _ => none, fun _ => none, fun _ => none⟩

def put (r : MemoryRepository) (intent : FleetIntent) (operation : FleetOperation) :
    MemoryRepository where
  intents := Function.update r.intents intent.id (some intent)
  operations := Function.update r.operations operation.id (some operation)
  idempotency :=
    if intent.idempotencyKey = "" then r.idempotency
    else Function.update r.idempotency intent.idempotencyKey (some operation.id)

def createError (r : MemoryRepository) (intent : FleetIntent) : Option Error :=
  if (r.intents intent.id).isSome then some (.errorf "intent %q already exists" [intent.id])
  else if intent.idempotencyKey = "" then none
  else
    match r.idempotency intent.idempotencyKey with
    | some existing =>
      some (.errorf "idempotency key already belongs to operation %q" [existing])
    | none => none

def create (intent : FleetIntent) (operation : FleetOperation) (r : MemoryRepository) :
    Except Error Unit × MemoryRepository :=
  match r.createError intent with
  | some err => (.error err, r)
  | none => (.ok (), r.put intent operation)

def remove (r : MemoryRepository) (intentID operationID : String) : MemoryRepository where
  intents := Function.update r.intents intentID none
  operations := Function.update r.operations operationID none
  idempotency :=
    match r.operations operationID with
    | some operation =>
      if operation.idempotencyKey = "" then r.idempotency
      else Function.update r.idempotency operation.idempotencyKey none
    | none => r.idempotency

def delete (intentID operationID : String) (r : MemoryRepository) :
    Except Error Unit × MemoryRepository :=
  if (r.operations operationID).isNone && (r.intents intentID).isNone then (.error errNotFound, r)
  else (.ok (), r.remove intentID operationID)

def getIntent (id : String) (r : MemoryRepository) : Except Error FleetIntent :=
  match r.intents id with
  | some intent => .ok intent
  | none => .error errNotFound

def getOperation (id : String) (r : MemoryRepository) : Except Error FleetOperation :=
  match r.operations id with
  | some operation => .ok operation
  | none => .error errNotFound

def findByIdempotencyKey (key : String) (r : MemoryRepository) : Except Error FleetOperation :=
  match r.idempotency key with
  | some id => .ok ((r.operations id).getD .empty)
  | none => .error errNotFound

def updateOperation (operation : FleetOperation) (r : MemoryRepository) :
    Except Error Unit × MemoryRepository :=
  if (r.operations operation.id).isSome then
    (.ok (), { r with operations := Function.update r.operations operation.id (some operation) })
  else (.error errNotFound, r)

end MemoryRepository

def memory : Repository MemoryRepository where
  create := MemoryRepository.create
  delete := MemoryRepository.delete
  getIntent := MemoryRepository.getIntent
  getOperation := MemoryRepository.getOperation
  findByIdempotencyKey := MemoryRepository.findByIdempotencyKey
  updateOperation := MemoryRepository.updateOperation

end Memory

structure Faithful {ρ : Type} (R : Repository ρ) where
  stored : ρ → String → Option FleetOperation
  intents : ρ → String → Option FleetIntent
  getOperation_ok : ∀ {id s operation}, R.getOperation id s = .ok operation →
    stored s id = some operation
  create_ok : ∀ {intent operation s u}, (R.create intent operation s).1 = .ok u →
    stored (R.create intent operation s).2 =
        Function.update (stored s) operation.id (some operation) ∧
      intents (R.create intent operation s).2 =
        Function.update (intents s) intent.id (some intent) ∧ intents s intent.id = none
  create_error : ∀ {intent operation s err}, (R.create intent operation s).1 = .error err →
    stored (R.create intent operation s).2 = stored s ∧
      intents (R.create intent operation s).2 = intents s
  update_ok : ∀ {operation s u}, (R.updateOperation operation s).1 = .ok u →
    stored (R.updateOperation operation s).2 =
        Function.update (stored s) operation.id (some operation) ∧
      intents (R.updateOperation operation s).2 = intents s
  update_error : ∀ {operation s err}, (R.updateOperation operation s).1 = .error err →
    stored (R.updateOperation operation s).2 = stored s ∧
      intents (R.updateOperation operation s).2 = intents s
  delete_stored : ∀ {intentID operationID s id operation},
    stored (R.delete intentID operationID s).2 id = some operation → stored s id = some operation

def MemoryRepository.faithful : Faithful memory where
  stored r := r.operations
  intents r := r.intents
  getOperation_ok {id s operation} h := by
    simp only [memory, MemoryRepository.getOperation] at h
    split at h <;> simp_all
  create_ok {intent operation s u} h := by
    simp only [memory, MemoryRepository.create] at h ⊢
    cases hc : s.createError intent with
    | some err => simp [hc] at h
    | none =>
      refine ⟨rfl, rfl, ?_⟩
      simp only [MemoryRepository.createError] at hc
      split_ifs at hc with h1 h2 <;> simpa using h1
  create_error {intent operation s err} h := by
    simp only [memory, MemoryRepository.create] at h ⊢
    cases hc : s.createError intent with
    | some err => exact ⟨rfl, rfl⟩
    | none => simp [hc] at h
  update_ok {operation s u} h := by
    simp only [memory, MemoryRepository.updateOperation] at h ⊢
    split_ifs at h ⊢ with hs
    exact ⟨rfl, rfl⟩
  update_error {operation s err} h := by
    simp only [memory, MemoryRepository.updateOperation] at h ⊢
    split_ifs at h ⊢ with hs
    exact ⟨rfl, rfl⟩
  delete_stored {intentID operationID s id operation} h := by
    simp only [memory, MemoryRepository.delete] at h
    split_ifs at h with habsent
    · exact h
    · change Function.update s.operations operationID none id = some operation at h
      by_cases hid : id = operationID
      · simp [hid] at h
      · rwa [Function.update_of_ne hid] at h

section Worlds

structure Environment (ε : Type) where
  now : ε → Time × ε
  timeNow : ε → Time × ε
  randRead : ε → Option Bytes × ε
  verifyProof : String → String → ε → Except Error (Option ProofVerification) × ε
  recordProof : FleetDecision → ε → Except Error (Option ProofReceipt) × ε

structure World (ρ ε : Type) where
  repository : ρ
  environment : ε

variable {ρ ε : Type} (R : Repository ρ) (E : Environment ε)

def serve : Handler calls (World ρ ε)
  | .create intent operation, w =>
    let r := R.create intent operation w.repository
    (r.1, { w with repository := r.2 })
  | .delete intentID operationID, w =>
    let r := R.delete intentID operationID w.repository
    (r.1, { w with repository := r.2 })
  | .getIntent id, w => (R.getIntent id w.repository, w)
  | .getOperation id, w => (R.getOperation id w.repository, w)
  | .findByIdempotencyKey key, w => (R.findByIdempotencyKey key w.repository, w)
  | .updateOperation operation, w =>
    let r := R.updateOperation operation w.repository
    (r.1, { w with repository := r.2 })
  | .now, w => let r := E.now w.environment; (r.1, { w with environment := r.2 })
  | .timeNow, w => let r := E.timeNow w.environment; (r.1, { w with environment := r.2 })
  | .randRead, w => let r := E.randRead w.environment; (r.1, { w with environment := r.2 })
  | .verifyProof entryHash entryType, w =>
    let r := E.verifyProof entryHash entryType w.environment
    (r.1, { w with environment := r.2 })
  | .recordProof decision, w =>
    let r := E.recordProof decision w.environment
    (r.1, { w with environment := r.2 })

end Worlds

inductive Request where
  | submit (intent : FleetIntent)
  | transition (id : String) (next : OperationState) (reason actor : String)
  | approve (id actor : String)
  | cancel (id actor : String)
  | attachLedgerReceipt (id : String) (receipt : OperationLedgerReceipt)

def Request.action (s : Service) : Request → Action Unit
  | .submit intent => (s.submit intent).bind fun _ => .done ()
  | .transition id next reason actor => (s.transition id next reason actor).bind fun _ => .done ()
  | .approve id actor => (s.approve id actor).bind fun _ => .done ()
  | .cancel id actor => (s.cancel id actor).bind fun _ => .done ()
  | .attachLedgerReceipt id receipt => (s.attachLedgerReceipt id receipt).bind fun _ => .done ()

def Request.scope : Request → Scope
  | .submit intent => ⟨fun i => i = intent, fun _ _ => False⟩
  | .transition id next _ _ => ⟨fun _ => False, fun i n => i = id ∧ n = next⟩
  | .approve id _ => ⟨fun _ => False, fun i n => i = id ∧ n = .accepted⟩
  | .cancel id _ => ⟨fun _ => False, fun i n => i = id ∧ (n = .failed ∨ n = .rollingBack)⟩
  | .attachLedgerReceipt _ _ => ⟨fun _ => False, fun _ _ => False⟩

theorem Request.action_meets (s : Service) (r : Request) :
    (r.action s).Meets (Justified s r.scope) (fun _ _ => True) [] := by
  cases r with
  | submit intent =>
    simp only [Request.action, meets_bind, meets_done]
    exact (submit_meets intent noWrite_nil).mono (fun _ _ h => h.justified rfl) (fun _ _ _ => trivial)
  | transition id next reason actor =>
    simp only [Request.action, meets_bind, meets_done]
    exact transition_meets reason actor ⟨rfl, rfl⟩ noWrite_nil
  | approve id actor =>
    simp only [Request.action, meets_bind, meets_done]
    exact approve_meets actor ⟨rfl, rfl⟩ noWrite_nil
  | cancel id actor =>
    simp only [Request.action, meets_bind, meets_done]
    exact cancel_meets actor ⟨rfl, Or.inl rfl⟩ ⟨rfl, Or.inr rfl⟩ noWrite_nil
  | attachLedgerReceipt id receipt =>
    simp only [Request.action, meets_bind, meets_done]
    exact attachLedgerReceipt_meets id receipt noWrite_nil

structure EvidenceWrite where
  id : String
  planDigest : String
  provider : Option ProviderReference
  authorizationRef : Option AuthorizationReference
  observedDigest : String

def EvidenceWrite.apply (w : EvidenceWrite) (operation : FleetOperation) : FleetOperation :=
  { operation with
    planDigest := w.planDigest
    provider := w.provider
    authorizationRef := w.authorizationRef
    observedDigest := w.observedDigest }

inductive Step where
  | request (r : Request)
  | write (w : EvidenceWrite)

section Runs
variable {ρ ε : Type} (R : Repository ρ) (E : Environment ε) (s : Service)

def writeEvidence (e : EvidenceWrite) (w : World ρ ε) : World ρ ε :=
  match R.getOperation e.id w.repository with
  | .ok operation => { w with repository := (R.updateOperation (e.apply operation) w.repository).2 }
  | .error _ => w

def Step.perform : Step → World ρ ε → World ρ ε
  | .request r, w => ((r.action s).run (serve R E) w).2
  | .write e, w => writeEvidence R e w

def runSteps (steps : List Step) (w : World ρ ε) : World ρ ε :=
  steps.foldl (fun w step => step.perform R E s w) w

end Runs
end FleetLlmd.Intents
