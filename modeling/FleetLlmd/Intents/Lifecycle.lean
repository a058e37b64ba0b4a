import FleetLlmd.Intents.Runs
import Mathlib.Data.List.Chain

/-!
# The operation journal

Every stored operation carries the journal of how it got into its state. In every
run the journal is numbered from one, starts at `RECEIVED`, follows the edges of
`allowedTransition` and ends in the operation's state; since each state from
`PLANNED` to `SUCCEEDED` has one predecessor, success is always the end of the
same nine states.
-/

namespace FleetLlmd.Intents
open Go Effect Prog

namespace FleetOperation

def states (operation : FleetOperation) : List OperationState :=
  operation.transitions.map (·.state)

def journal (operation : FleetOperation) : List OperationTransition :=
  operation.transitions.map fun t => { t with ledgerEntryID := "" }

theorem map_markLast {β : Type} (f : OperationTransition → β)
    (hf : ∀ t id, f { t with ledgerEntryID := id } = f t) (entryID : String)
    (ts : List OperationTransition) : (markLast entryID ts).map f = ts.map f := by
  fun_induction markLast entryID ts with
  | case1 => rfl
  | case2 t => simp [hf]
  | case3 t ts hne ih => simp [ih]

section Attach
variable (operation : FleetOperation) (receipt : OperationLedgerReceipt) (now : Time)

@[simp] theorem attach_states : (operation.attach receipt now).states = operation.states :=
  map_markLast _ (fun _ _ => rfl) _ _

@[simp] theorem attach_journal : (operation.attach receipt now).journal = operation.journal :=
  map_markLast _ (fun _ _ => rfl) _ _

theorem attach_sequences : (operation.attach receipt now).transitions.map (·.sequence) =
    operation.transitions.map (·.sequence) :=
  map_markLast _ (fun _ _ => rfl) _ _

theorem attach_length :
    (operation.attach receipt now).transitions.length = operation.transitions.length := by
  simpa only [List.length_map] using congrArg List.length (operation.attach_sequences receipt now)

end Attach

@[simp] theorem extend_states (operation : FleetOperation) (next : OperationState)
    (reason actor : String) (now : Time) :
    (operation.extend next reason actor now).states = operation.states ++ [next] := by
  simp [states, extend]

end FleetOperation

def Traced (states : List OperationState) : Prop :=
  states.head? = some .received ∧ states.IsChain fun a b => allowedTransition a b = true

theorem Traced.append {states : List OperationState} {last next : OperationState}
    (h : Traced states) (hlast : states.getLast? = some last)
    (hedge : allowedTransition last next = true) : Traced (states ++ [next]) := by
  refine ⟨?_, List.isChain_append.mpr ⟨h.2, List.isChain_singleton _, ?_⟩⟩
  · rw [List.head?_append, h.1, Option.some_or]
  · intro a ha b hb
    rw [hlast] at ha
    cases ha
    cases hb
    exact hedge

theorem Traced.pred {states : List OperationState} {last : OperationState}
    (h : Traced (states ++ [last])) (hlast : last ≠ .received) :
    ∃ before previous, states = before ++ [previous] ∧ Traced (before ++ [previous]) ∧
      allowedTransition previous last = true := by
  rcases List.eq_nil_or_concat' states with rfl | ⟨before, previous, rfl⟩
  · exact absurd (Option.some.inj h.1) hlast
  · refine ⟨before, previous, rfl, ⟨?_, (List.isChain_append.mp h.2).1⟩, ?_⟩
    · have hhead := h.1
      cases before <;> simpa using hhead
    · exact (List.isChain_append.mp h.2).2.2 previous (by simp) last (by simp)

section Predecessors
variable {state : OperationState}

def OperationState.origin : OperationState → OperationState
  | .succeeded => .evidencePending
  | .evidencePending => .verified
  | .verified => .observing
  | .observing => .actuating
  | .actuating => .authorized
  | .authorized => .governancePending
  | .governancePending => .planned
  | _ => .accepted

theorem allowed_from {next : OperationState} (h : allowedTransition state next = true)
    (hnext : next ∈ [.succeeded, .evidencePending, .verified, .observing, .actuating, .authorized,
      .governancePending, .planned]) : state = next.origin := by
  simp only [List.mem_cons, List.not_mem_nil, or_false] at hnext
  rcases hnext with rfl | rfl | rfl | rfl | rfl | rfl | rfl | rfl <;> cases state <;>
    simp_all [allowedTransition, allowedNext, OperationState.origin]

end Predecessors

def successPath : List OperationState :=
  [.accepted, .planned, .governancePending, .authorized, .actuating, .observing, .verified,
    .evidencePending, .succeeded]

theorem Traced.successPath {states : List OperationState} (h : Traced states)
    (hlast : states.getLast? = some .succeeded) : Intents.successPath <:+ states := by
  obtain ⟨l, rfl⟩ := List.getLast?_eq_some_iff.mp hlast
  -- one step back from each of the states but the first
  iterate 8
    obtain ⟨l, _, rfl, h, he⟩ := h.pred (by decide)
    cases allowed_from he (by decide)
  exact ⟨l, by simp [Intents.successPath, OperationState.origin]⟩

structure Journaled (operation : FleetOperation) : Prop where
  sequences : operation.transitions.map (·.sequence) =
    (List.range operation.transitions.length).map fun i : Nat => (i : Int) + 1
  traced : Traced operation.states
  last : operation.states.getLast? = some operation.state

theorem Journaled.extend {operation : FleetOperation} (h : Journaled operation)
    {next : OperationState} (hedge : allowedTransition operation.state next = true)
    (reason actor : String) (now : Time) : Journaled (operation.extend next reason actor now) where
  sequences := by
    simp only [FleetOperation.extend, List.map_append, h.sequences, List.length_append,
      List.length_singleton, List.range_succ, List.map_cons, List.map_nil]
  traced := by
    rw [FleetOperation.extend_states]
    exact h.traced.append h.last hedge
  last := by
    rw [FleetOperation.extend_states, List.getLast?_concat]
    rfl

theorem Journaled.attach {operation : FleetOperation} (h : Journaled operation)
    (receipt : OperationLedgerReceipt) (now : Time) : Journaled (operation.attach receipt now) where
  sequences := by
    rw [FleetOperation.attach_sequences, FleetOperation.attach_length]
    exact h.sequences
  traced := by rw [FleetOperation.attach_states]; exact h.traced
  last := by rw [FleetOperation.attach_states]; exact h.last

theorem journaled_received (intent : FleetIntent) (operationID : String) (now : Time) :
    Journaled (Service.received intent operationID now) where
  sequences := rfl
  traced := ⟨rfl, List.isChain_singleton _⟩
  last := rfl

theorem admission_edge {s : Service} {intent : FleetIntent} {now : Time} {next : OperationState}
    {reason : String} (h : s.admission intent now = .ok (next, reason)) :
    next = .expired ∨ next = .accepted ∨ next = .deferred ∨ next = .rejected := by
  unfold Service.admission at h
  split_ifs at h with hexpired
  · cases h
    exact Or.inl rfl
  · dsimp only at h
    split at h <;> cases h <;> simp

theorem journaled_stable (s : Service) : Stable s Journaled where
  admits := by
    rintro given events intent operation ⟨id, operationID, now, later, next, reason, -, -, -, -, -,
      hadm, rfl⟩
    refine (journaled_received intent operationID now.utc).extend ?_ _ _ _
    rcases admission_edge hadm with rfl | rfl | rfl | rfl <;> rfl
  appends := by
    rintro target events old new hold ⟨next, reason, actor, now, rfl, -, -, hedge, -⟩
    exact hold.extend hedge reason actor _
  attaches := by
    rintro events old new hold ⟨receipt, now, rfl, -⟩
    exact hold.attach receipt _
  write _ h := ⟨h.sequences, h.traced, h.last⟩

section Runs
variable {ρ ε : Type} {R : Repository ρ} {E : Environment ε} {s : Service}

/-- In every run from an empty repository the journal of every stored operation accounts for its
state, and success comes at the end of the success path. -/
theorem stored_journal (F : Faithful R) (steps : List Step) (w : World ρ ε)
    (hempty : ∀ id, F.stored w.repository id = none) (id : String) (operation : FleetOperation)
    (hop : F.stored (runSteps R E s steps w).repository id = some operation) :
    operation.transitions.map (·.sequence) =
        (List.range operation.transitions.length).map (fun i : Nat => (i : Int) + 1) ∧
      operation.states.head? = some .received ∧
      operation.states.IsChain (fun a b => allowedTransition a b = true) ∧
      operation.states.getLast? = some operation.state ∧
      (operation.state = .succeeded →
        [.accepted, .planned, .governancePending, .authorized, .actuating, .observing, .verified,
          .evidencePending, .succeeded] <:+ operation.states) := by
  have h := (journaled_stable s).run F steps (fun id op hop => by simp [hempty id] at hop) hop
  refine ⟨h.sequences, h.traced.1, h.traced.2, h.last, fun hstate => ?_⟩
  exact h.traced.successPath (hstate ▸ h.last)

end Runs

section Sample

def zeroDigest : String := "0000000000000000000000000000000000000000000000000000000000000000"

def sampleID : String := "operation-8254c329a92850f6d539dd37"

def sampleIntent : FleetIntent where
  id := "i"
  correlationID := "c"
  idempotencyKey := "k"
  type := .scale
  confidence := .one
  horizonSeconds := 60
  justification := ""
  stateSnapshot := none
  createdAt := ⟨1, 0⟩
  expiresAt := none
  decisionPackageRef := ""
  decisionPackageDigest := ""
  evidence := []
  proposer := none
  model := ""
  pool := "p"
  targetReplicas := 0
  desiredReplicas := 1
  currentReplicas := 0
  targetClusters := []
  maxInflight := 0
  durationSeconds := 0
  metric := ""
  severity := ""
  message := ""
  reason := ""
  recommendedAction := ""

def sampleOutcome : OutcomeEvidenceV1 where
  schemaVersion := outcomeEvidenceSchemaV1
  operationID := sampleID
  operationUID := sampleID
  planDigest := zeroDigest
  idempotencyKey := "k"
  observedDigest := zeroDigest

def sampleReceipt : OperationLedgerReceipt :=
  ⟨"e", "h", ledgerEntryTypeOutcome, 1, 1, zeroDigest, .outcome⟩

def sampleEnvironment : Environment Unit where
  now e := (⟨1000000000, 0⟩, e)
  timeNow e := (⟨1000000000, 0⟩, e)
  randRead e := (some [], e)
  verifyProof _ entryType e := (.ok (some
    { valid := true
      entryID := ""
      entryType := entryType
      correlationID := "c"
      inputHash := zeroDigest
      content := sampleOutcome.marshal
      chainPosition := 1
      failureReason := ""
      writtenAt := ⟨1000000, 0⟩ }), e)
  recordProof _ e := (.ok none, e)

def sampleService : Service := ⟨⟨.zero, 8, true⟩, true⟩

def sampleAuthorization : AuthorizationReference where
  grantID := "g"
  subject := "s"
  actionClass := "fleet.scale"
  objectUID := sampleID
  specDigest := zeroDigest
  audience := authorizationAudienceFleetController
  expiresAt := ⟨2000000000, 0⟩
  idempotencyKey := "k"
  breakGlass := false
  incidentRef := ""

def sampleBefore : List Step :=
  let advance (next : OperationState) : Step := .request (.transition sampleID next "" "")
  [.request (.submit sampleIntent),
    .write ⟨sampleID, zeroDigest, some ⟨"t", "n", "", "", 0⟩, some sampleAuthorization, zeroDigest⟩,
    advance .planned, advance .governancePending, advance .authorized, advance .actuating,
    advance .observing, advance .verified, advance .evidencePending,
    .request (.attachLedgerReceipt sampleID sampleReceipt)]

def sampleLast : Request := .transition sampleID .succeeded "" ""

def sampleSteps : List Step := sampleBefore ++ [.request sampleLast]

def sampleWorld : World MemoryRepository Unit := ⟨.empty, ()⟩

def sampleStored (steps : List Step) : Option FleetOperation :=
  MemoryRepository.faithful.stored
    (runSteps memory sampleEnvironment sampleService steps sampleWorld).repository sampleID

set_option maxRecDepth 20000 in
theorem sample_succeeds : ∃ operation,
    sampleStored sampleSteps = some operation ∧ operation.state = .succeeded := by
  have h : (sampleStored sampleSteps).map (·.state) = some .succeeded := by decide +kernel
  exact Option.map_eq_some_iff.mp h

theorem stored_journal_sample : ∃ operation,
    sampleStored sampleSteps = some operation ∧ operation.state = .succeeded ∧
      [.accepted, .planned, .governancePending, .authorized, .actuating, .observing, .verified,
        .evidencePending, .succeeded] <:+ operation.states := by
  obtain ⟨operation, hop, hstate⟩ := sample_succeeds
  have h := stored_journal MemoryRepository.faithful sampleSteps sampleWorld (fun _ => rfl) sampleID
    operation hop
  exact ⟨operation, hop, hstate, h.2.2.2.2 hstate⟩

end Sample
end FleetLlmd.Intents
