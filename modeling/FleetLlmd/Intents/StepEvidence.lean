import FleetLlmd.Intents.Lifecycle

/-!
# Evidence at the step

An operation does not get into `ACTUATING` without an authorization that fits it at
that moment, nor into `SUCCEEDED` without an outcome receipt that the ledger
confirms at that moment, however its evidence fields change between calls.
-/

namespace FleetLlmd.Intents
open Go Ledger Effect Prog

def AuthorizedAt (events : List ServiceEvent) (operation : FleetOperation) : Prop :=
  ∃ ref now, operation.authorizationRef = some ref ∧ ⟨.now, now⟩ ∈ events ∧
    Authorizes ref operation now.utc

def OutcomeProven (events : List ServiceEvent) (operation : FleetOperation) : Prop :=
  ∃ receipt ∈ operation.ledgerReceipts, receipt.purpose = .outcome ∧
    ∃ verification : ProofVerification,
      ⟨.verifyProof receipt.entryHash receipt.entryType, .ok (some verification)⟩ ∈ events ∧
      verification.valid = true ∧ verification.correlationID = operation.correlationID ∧
      equalFold verification.inputHash operation.observedDigest = true ∧
      newOutcomeEvidence operation = .ok verification.content

def Kept (stored : String → Option FleetOperation) (operation : FleetOperation) : Prop :=
  ∃ old, stored operation.id = some old ∧ old.state = operation.state ∧
    old.journal = operation.journal

def Evidenced (stored : String → Option FleetOperation) (events : List ServiceEvent)
    (operation : FleetOperation) : Prop :=
  (operation.state = .actuating → Kept stored operation ∨ AuthorizedAt events operation) ∧
    (operation.state = .succeeded → Kept stored operation ∨ OutcomeProven events operation)

theorem Kept.evidenced {stored : String → Option FleetOperation} {events : List ServiceEvent}
    {operation : FleetOperation} (h : Kept stored operation) : Evidenced stored events operation :=
  ⟨fun _ => Or.inl h, fun _ => Or.inl h⟩

section Transitions
variable {events : List ServiceEvent} {old : FleetOperation}

theorem authorizedAt_extend (h : HasEvidence events old .actuating) (reason actor : String)
    (now : Time) : AuthorizedAt events (old.extend .actuating reason actor now) := by
  obtain ⟨t, ht, hvalid⟩ := h
  obtain ⟨ref, href, hauth⟩ := authorizes_of_validate hvalid
  exact ⟨ref, t, href, ht, ⟨hauth.unexpired, hauth.actionClass, hauth.objectUID,
    hauth.idempotencyKey, hauth.specDigest, hauth.planDigest, hauth.incident⟩⟩

theorem outcomeProven_extend (h : HasEvidence events old .succeeded) (reason actor : String)
    (now : Time) : OutcomeProven events (old.extend .succeeded reason actor now) := by
  obtain ⟨receipt, hmem, hp, -, answer, hanswer, hcheck⟩ := h
  obtain ⟨verification, rfl, hproves⟩ := proves_of_checkVerification hcheck
  obtain ⟨hhash, hcontent⟩ := hproves.outcome hp
  exact ⟨receipt, hmem, hp, verification, hanswer, hproves.valid, hproves.correlationID,
    hproves.inputHash ▸ hhash, hcontent⟩

end Transitions

section Runs
variable {ρ ε : Type} {R : Repository ρ} {E : Environment ε} {s : Service}

def Keyed (F : Faithful R) (w : World ρ ε) : Prop :=
  ∀ id operation, F.stored w.repository id = some operation → operation.id = id

theorem Keyed.run {F : Faithful R} (steps : List Step) {w : World ρ ε} (h : Keyed F w) :
    Keyed F (runSteps R E s steps w) := by
  refine runSteps_induct (P := Keyed F) ?_ ?_ steps h
  · intro r w hw
    cases request_effect (E := E) (s := s) F r w with
    | unchanged hs hi => unfold Keyed; rwa [hs]
    | admitted given intent operation hscope hadmits hs hi hfresh =>
      unfold Keyed
      rw [hs]
      exact forall_update hw rfl
    | updated id old new hold hnew hs hi =>
      unfold Keyed
      rw [hs]
      exact forall_update hw rfl
  · intro e w hw
    unfold Keyed
    obtain ⟨-, -, hs | ⟨old, -, hs⟩⟩ := writeEvidence_stored F e w
    · rwa [hs]
    · rw [hs]
      exact forall_update hw rfl

/-- In every run, with evidence fields written arbitrarily between the calls: an operation that a
request leaves in `ACTUATING` or `SUCCEEDED` either was there with the same journal before, or the
request itself has the evidence. -/
theorem step_evidence (F : Faithful R) (steps : List Step) (w : World ρ ε)
    (hempty : ∀ id, F.stored w.repository id = none) (r : Request) (id : String)
    (operation : FleetOperation)
    (hop : F.stored ((r.action s).run (serve R E) (runSteps R E s steps w)).2.repository id =
      some operation) :
    (operation.state = .actuating →
      Kept (F.stored (runSteps R E s steps w).repository) operation ∨
        AuthorizedAt ((r.action s).trace (serve R E) (runSteps R E s steps w)) operation) ∧
    (operation.state = .succeeded →
      Kept (F.stored (runSteps R E s steps w).repository) operation ∨
        OutcomeProven ((r.action s).trace (serve R E) (runSteps R E s steps w)) operation) := by
  have hkeyed : Keyed F (runSteps R E s steps w) :=
    Keyed.run steps fun id op hop => by simp [hempty id] at hop
  generalize runSteps R E s steps w = w at hop hkeyed ⊢
  have hself (id : String) (op : FleetOperation) (hop : F.stored w.repository id = some op) :
      Evidenced (F.stored w.repository) ((r.action s).trace (serve R E) w) op :=
    Kept.evidenced ⟨op, (hkeyed id op hop).symm ▸ hop, rfl, rfl⟩
  change Evidenced _ _ operation
  cases request_effect (E := E) (s := s) F r w with
  | unchanged hs hi =>
    rw [hs] at hop
    exact hself id operation hop
  | admitted given intent new hscope hadmits hs hi hfresh =>
    rw [hs] at hop
    refine forall_update hself ?_ id operation hop
    -- admission only leads to states that need no evidence
    obtain ⟨_, _, _, _, next, _, -, -, -, -, -, hadm, rfl⟩ := hadmits
    rcases admission_edge hadm with rfl | rfl | rfl | rfl <;> exact ⟨nofun, nofun⟩
  | updated id' old new hold hnew hs hi =>
    rw [hs] at hop
    refine forall_update hself ?_ id operation hop
    rcases hnew with ⟨next, reason, actor, now, rfl, -, -, -, hev⟩ | ⟨receipt, now, rfl, -⟩
    · refine ⟨fun hstate => Or.inr ?_, fun hstate => Or.inr ?_⟩
      · cases (show next = .actuating from hstate)
        exact authorizedAt_extend hev reason actor _
      · cases (show next = .succeeded from hstate)
        exact outcomeProven_extend hev reason actor _
    · have hid : old.id = id' := hkeyed id' old hold
      exact Kept.evidenced ⟨old, hid.symm ▸ hold, rfl, (old.attach_journal receipt now.utc).symm⟩

theorem step_evidence_sample : ∃ operation,
    sampleStored sampleSteps = some operation ∧ operation.state = .succeeded ∧
      (Kept (MemoryRepository.faithful.stored (runSteps memory sampleEnvironment sampleService
          sampleBefore sampleWorld).repository) operation ∨
        OutcomeProven ((sampleLast.action sampleService).trace (serve memory sampleEnvironment)
          (runSteps memory sampleEnvironment sampleService sampleBefore sampleWorld))
          operation) := by
  obtain ⟨operation, hop, hstate⟩ := sample_succeeds
  rw [sampleStored, sampleSteps, runSteps_concat] at hop
  have h := step_evidence MemoryRepository.faithful sampleBefore sampleWorld (fun _ => rfl)
    sampleLast sampleID operation hop
  rw [sampleStored, sampleSteps, runSteps_concat]
  exact ⟨operation, hop, hstate, h.2 hstate⟩

end Runs
end FleetLlmd.Intents
