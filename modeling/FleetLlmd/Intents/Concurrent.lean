import FleetLlmd.Intents.Expiry

/-!
# Concurrent requests

Any number of requests interleave call by call. A method reads an operation,
changes the copy and writes it back, and no repository compares what it overwrites
with what was read. If at every write the stored operation is still the one that
was read, journals and receipts only grow and terminal states are final; a write
that has been overtaken undoes what was stored in between.
-/

namespace FleetLlmd.Intents
open Effect Prog

section Pools
variable {ρ ε ι : Type} [DecidableEq ι] (R : Repository ρ) (E : Environment ε) (s : Service)

def serving (requests : ι → Request) (w : World ρ ε) : Pool calls Unit ι (World ρ ε) :=
  (fun i => Thread.start ((requests i).action s), w)

def interleave (requests : ι → Request) (moves : List (Move ι EvidenceWrite)) (w : World ρ ε) :
    World ρ ε :=
  (Pool.exec (serve R E) (writeEvidence R) moves (serving s requests w)).2

end Pools

theorem serving_allMeet {ρ ε ι : Type} {s : Service} (requests : ι → Request) (w : World ρ ε) :
    Pool.AllMeet (fun i => Justified s (requests i).scope) (fun _ _ _ => True)
      (serving s requests w) :=
  fun i => (requests i).action_meets s

section Growth

def OperationState.terminal (state : OperationState) : Bool := (allowedNext state).isEmpty

theorem not_allowed_of_terminal {state next : OperationState} (h : state.terminal = true) :
    allowedTransition state next = false := by
  rw [OperationState.terminal, List.isEmpty_iff] at h
  simp [allowedTransition, h]

structure Grows (old new : FleetOperation) : Prop where
  journal : old.journal <+: new.journal
  receipts : old.ledgerReceipts <+: new.ledgerReceipts
  terminal : old.state.terminal = true → new.state = old.state

theorem Grows.refl (operation : FleetOperation) : Grows operation operation :=
  ⟨List.prefix_refl _, List.prefix_refl _, fun _ => rfl⟩

theorem Grows.trans {a b c : FleetOperation} (hab : Grows a b) (hbc : Grows b c) : Grows a c where
  journal := hab.journal.trans hbc.journal
  receipts := hab.receipts.trans hbc.receipts
  terminal h := by
    have hb := hab.terminal h
    rw [← hb] at h
    rw [hbc.terminal h, hb]

theorem Appends.grows {target : OperationState → Prop} {past : List ServiceEvent}
    {old new : FleetOperation} (h : Appends target past old new) : Grows old new := by
  obtain ⟨next, reason, actor, now, rfl, -, -, hedge, -⟩ := h
  refine ⟨?_, List.prefix_refl _, fun hterminal => ?_⟩
  · simp only [FleetOperation.journal, FleetOperation.extend, List.map_append]
    exact List.prefix_append _ _
  · rw [not_allowed_of_terminal hterminal] at hedge
    cases hedge

theorem Attaches.grows {past : List ServiceEvent} {old new : FleetOperation}
    (h : Attaches past old new) : Grows old new := by
  obtain ⟨receipt, now, rfl, -⟩ := h
  refine ⟨?_, List.prefix_append _ _, fun _ => rfl⟩
  simp [FleetOperation.attach_journal]

end Growth

section Runs
variable {ρ ε ι : Type} [DecidableEq ι] {R : Repository ρ} {E : Environment ε} {s : Service}

def UpToDate (F : Faithful R) (past : List ServiceEvent) : ServiceCall → World ρ ε → Prop
  | .updateOperation _, w =>
    ∀ read ∈ lastRead past, F.stored w.repository read.1 = some read.2
  | _, _ => True

instance (F : Faithful R) (past : List ServiceEvent) (w : World ρ ε) :
    (c : ServiceCall) → Decidable (UpToDate F past c w)
  | .updateOperation _ => inferInstanceAs (Decidable (∀ read ∈ lastRead past, _ = some read.2))
  | .create _ _ | .delete _ _ | .getIntent _ | .getOperation _ | .findByIdempotencyKey _
  | .now | .timeNow | .randRead | .verifyProof _ _ | .recordProof _ => isTrue trivial

def StoreGrows (F : Faithful R) (w w' : World ρ ε) : Prop :=
  ∀ id old, F.stored w.repository id = some old →
    ∃ new, F.stored w'.repository id = some new ∧ Grows old new

theorem StoreGrows.of_stored {F : Faithful R} {w w' : World ρ ε}
    (h : F.stored w'.repository = F.stored w.repository) : StoreGrows F w w' :=
  fun id old hold => ⟨old, by rw [h, hold], Grows.refl old⟩

theorem StoreGrows.of_update {F : Faithful R} {w w' : World ρ ε} {old new : FleetOperation}
    (hold : F.stored w.repository new.id = some old) (hgrows : Grows old new)
    (h : F.stored w'.repository = Function.update (F.stored w.repository) new.id (some new)) :
    StoreGrows F w w' := by
  intro id before hbefore
  rw [h]
  by_cases hid : id = new.id
  · subst hid
    rw [hold] at hbefore
    cases hbefore
    exact ⟨new, Function.update_self _ _ _, hgrows⟩
  · exact ⟨before, by rw [Function.update_of_ne hid, hbefore], Grows.refl before⟩

theorem upToDate_call (F : Faithful R) {scope : Scope} (hscope : ∀ given, ¬scope.submits given)
    {past : List ServiceEvent} {c : ServiceCall} {w : World ρ ε} (hkeyed : Keyed F w)
    (hc : Justified s scope past c) (hfresh : UpToDate F past c w) :
    Keyed F (serve R E c w).2 ∧ StoreGrows F w (serve R E c w).2 := by
  rcases serve_stored (E := E) F hc w with
    ⟨hs, -⟩ | ⟨intent, operation, rfl, -⟩ | ⟨new, rfl, hs, -⟩
  · refine ⟨?_, StoreGrows.of_stored hs⟩
    unfold Keyed
    rwa [hs]
  · obtain ⟨-, given, hgiven, -⟩ := hc
    exact absurd hgiven (hscope given)
  · obtain ⟨-, id, old, hread, hnew⟩ := hc
    have hold : F.stored w.repository id = some old := hfresh (id, old) hread
    have hid : new.id = id := by
      rw [← hkeyed id old hold]
      rcases hnew with ⟨_, _, _, _, rfl, -⟩ | ⟨_, _, rfl, -⟩ <;> rfl
    rw [← hid] at hold
    refine ⟨?_, StoreGrows.of_update hold (hnew.elim Appends.grows Attaches.grows) hs⟩
    unfold Keyed
    rw [hs]
    exact forall_update hkeyed rfl

theorem writeEvidence_grows (F : Faithful R) (e : EvidenceWrite) {w : World ρ ε}
    (hkeyed : Keyed F w) :
    Keyed F (writeEvidence R e w) ∧ StoreGrows F w (writeEvidence R e w) := by
  obtain ⟨-, -, hs | ⟨old, hold, hs⟩⟩ := writeEvidence_stored F e w
  · refine ⟨?_, StoreGrows.of_stored hs⟩
    unfold Keyed
    rwa [hs]
  · have hid : (e.apply old).id = e.id := hkeyed e.id old hold
    rw [← hid] at hold
    refine ⟨?_, StoreGrows.of_update hold ⟨List.prefix_refl _, List.prefix_refl _, fun _ => rfl⟩ hs⟩
    unfold Keyed
    rw [hs]
    exact forall_update hkeyed rfl

/-- In every interleaving of transitions, approvals, cancellations and receipts whose updates are
all up to date, what is stored later continues what was stored earlier. -/
theorem journal_grows (F : Faithful R) (requests : ι → Request)
    (hupdates : ∀ i given, ¬(requests i).scope.submits given) (w : World ρ ε) (hkeyed : Keyed F w)
    (moves moves' : List (Move ι EvidenceWrite))
    (hfresh : Pool.Observes (serve R E) (writeEvidence R) (UpToDate F) (moves ++ moves')
      (serving s requests w)) (id : String) (old : FleetOperation)
    (hold : F.stored (interleave R E s requests moves w).repository id = some old) :
    ∃ new, F.stored (interleave R E s requests (moves ++ moves') w).repository id = some new ∧
      old.journal <+: new.journal ∧
      (∀ receipt ∈ old.ledgerReceipts, receipt ∈ new.ledgerReceipts) ∧
      (old.state.terminal = true → new.state = old.state) := by
  have hrule := Pool.exec_rule (serve R E) (writeEvidence R)
    (G := fun i => Justified s (requests i).scope) (Q := fun _ _ (_ : Unit) => True)
    (C := UpToDate F) (I := fun _ w => Keyed F w) (R := StoreGrows F)
    (fun w => StoreGrows.of_stored rfl)
    (fun _ _ _ h h' id old hold =>
      let ⟨_, hmid, hgrows⟩ := h id old hold
      let ⟨new, hnew, hgrows'⟩ := h' id _ hmid
      ⟨new, hnew, hgrows.trans hgrows'⟩)
    (fun _ w i c hk hc hf => upToDate_call F (hupdates i) hk hc hf)
    (fun _ w e hk => writeEvidence_grows F e hk)
  rw [Pool.observes_append] at hfresh
  obtain ⟨hmeet, hmid, -⟩ := hrule moves (serving_allMeet requests w) hkeyed hfresh.1
  obtain ⟨-, -, hgrows⟩ := hrule moves' hmeet hmid hfresh.2
  obtain ⟨new, hnew, hg⟩ := hgrows id old hold
  refine ⟨new, ?_, hg.journal, hg.receipts.subset, hg.terminal⟩
  rw [interleave, Pool.exec_append]
  exact hnew

end Runs

section Sample

def sampleDeferred : World MemoryRepository Unit :=
  runSteps memory sampleEnvironment sampleService
    [.request (.submit (sampleAlert ⟨2000000000, 0⟩))] sampleWorld

theorem sampleDeferred_keyed : Keyed MemoryRepository.faithful sampleDeferred :=
  Keyed.run _ fun _ _ h => nomatch h

def sampleRequests : Bool → Request
  | false => .approve sampleID "operator"
  | true => .cancel sampleID "operator"

theorem sampleRequests_updates (i : Bool) (given : FleetIntent) :
    ¬(sampleRequests i).scope.submits given := by
  cases i <;> exact id

def approvalMoves (n : Nat) : List (Move Bool EvidenceWrite) := List.replicate n (.thread false)
def cancelMoves : List (Move Bool EvidenceWrite) := List.replicate 4 (.thread true)

def sampleInterleaved (moves : List (Move Bool EvidenceWrite)) : Option FleetOperation :=
  MemoryRepository.faithful.stored
    (interleave memory sampleEnvironment sampleService sampleRequests moves
      sampleDeferred).repository sampleID

set_option maxRecDepth 20000 in
theorem journal_grows_sample : ∃ old new,
    sampleInterleaved (approvalMoves 3) = some old ∧ old.state = .accepted ∧
      sampleInterleaved (approvalMoves 3 ++ cancelMoves) = some new ∧
      old.journal <+: new.journal := by
  have hstate : (sampleInterleaved (approvalMoves 3)).map (·.state) = some .accepted := by
    decide +kernel
  obtain ⟨old, hold, hstate⟩ := Option.map_eq_some_iff.mp hstate
  have hfresh : Pool.Observes (serve memory sampleEnvironment) (writeEvidence memory)
      (UpToDate MemoryRepository.faithful) (approvalMoves 3 ++ cancelMoves)
      (serving sampleService sampleRequests sampleDeferred) := by decide +kernel
  obtain ⟨new, hnew, hjournal, -⟩ := journal_grows MemoryRepository.faithful sampleRequests
    sampleRequests_updates sampleDeferred sampleDeferred_keyed (approvalMoves 3) cancelMoves hfresh
    sampleID old hold
  exact ⟨old, new, hold, hstate, hnew, hjournal⟩

set_option maxRecDepth 20000 in
/-- The approval reads, the cancellation completes in `FAILED`, and the approval's write then puts
the operation into `ACCEPTED` with the cancellation gone from its journal. -/
theorem overtaken_update : ∃ old new,
    sampleInterleaved (approvalMoves 1 ++ cancelMoves) = some old ∧
      sampleInterleaved ((approvalMoves 1 ++ cancelMoves) ++ approvalMoves 2) = some new ∧
      old.state = .failed ∧ old.state.terminal = true ∧ new.state = .accepted ∧
      ¬old.journal <+: new.journal := by
  have hrun : ((sampleInterleaved (approvalMoves 1 ++ cancelMoves)).bind fun old =>
      (sampleInterleaved ((approvalMoves 1 ++ cancelMoves) ++ approvalMoves 2)).map fun new =>
        (old.state, new.state, decide (old.journal <+: new.journal))) =
      some (.failed, .accepted, false) := by decide +kernel
  obtain ⟨old, hold, hrun⟩ := Option.bind_eq_some_iff.mp hrun
  obtain ⟨new, hnew, hpair⟩ := Option.map_eq_some_iff.mp hrun
  simp only [Prod.mk.injEq, decide_eq_false_iff_not] at hpair
  obtain ⟨hfailed, haccepted, hlost⟩ := hpair
  refine ⟨old, new, hold, hnew, hfailed, ?_, haccepted, hlost⟩
  rw [hfailed]
  rfl

end Sample
end FleetLlmd.Intents
