import FleetLlmd.Intents.Submissions
import FleetLlmd.Json.Render

/-!
# Outcome evidence belongs to one operation

The evidence text that an outcome receipt commits to reads back as the evidence it
was made from, so it determines the identifier of its operation; identifiers made
by `Submit` pass unchanged through the trimming. Since a receipt is attached only
after the ledger returned the operation's own evidence for it, no entry of the
ledger serves two operations, in any interleaving of requests.
-/

namespace FleetLlmd.Intents
open Go Json Ledger Effect Prog

namespace OutcomeEvidenceV1

theorem unmarshal_marshal (disallowUnknown : Bool) (e : OutcomeEvidenceV1) :
    unmarshal (decodeStruct disallowUnknown fields) e.marshal .empty = .ok e := by
  let text := Rendered.object goEscaping (e.members.map fun m => (m.1, .string goEscaping m.2))
  have hmarshal : e.marshal = encodeRunes text.text := rfl
  have hdepth : text.depth = 1 := rfl
  rw [hmarshal, Rendered.unmarshal_text text (by rw [hdepth]; decide)]
  simp [text, Rendered.object, Rendered.string, members, decodeStruct, decodeMembers, findField,
    fields, structField, decodeString, goEscaping.unquote_body, empty, Except.map]

theorem marshal_injective {e e' : OutcomeEvidenceV1} (h : e.marshal = e'.marshal) : e = e' := by
  have hread := unmarshal_marshal true e
  rw [h, unmarshal_marshal true e'] at hread
  exact (Except.ok.inj hread).symm

theorem marshal_ne_nil (e : OutcomeEvidenceV1) : e.marshal.isEmpty = false := by
  unfold marshal objectText encodeRunes
  rfl

end OutcomeEvidenceV1

section Exact
variable {operation : FleetOperation} {bytes : Bytes}

theorem newOutcomeEvidence_ok (h : newOutcomeEvidence operation = .ok bytes) :
    ∃ e : OutcomeEvidenceV1, e.operationID = trimSpace operation.id ∧ bytes = e.marshal := by
  unfold newOutcomeEvidence at h
  dsimp only at h
  split_ifs at h <;> cases h <;> exact ⟨_, rfl, rfl⟩

theorem verifyOutcomeEvidence_iff (h : newOutcomeEvidence operation = .ok bytes) (content : Bytes) :
    verifyOutcomeEvidence operation content = .ok () ↔ content = bytes := by
  constructor
  · intro hverify
    have hnew := newOutcomeEvidence_of_verify hverify
    rw [h] at hnew
    exact (Except.ok.inj hnew).symm
  · intro hcontent
    obtain ⟨e, -, hbytes⟩ := newOutcomeEvidence_ok h
    rw [hcontent]
    unfold verifyOutcomeEvidence
    rw [h, hbytes]
    simp [e.marshal_ne_nil, OutcomeEvidenceV1.unmarshal_marshal]

end Exact

section Identifiers

theorem isSpace_hexDigit {n : Nat} (h : n < 16) : isSpace (hexDigit n) = false := by
  interval_cases n <;> rfl

theorem hexEncode_noSpace (raw : Bytes) : ∀ c ∈ (hexEncode raw).toList, isSpace c = false := by
  intro c hc
  simp only [hexEncode, String.toList_ofList, List.mem_flatMap, hexByte, List.mem_cons,
    List.not_mem_nil, or_false] at hc
  obtain ⟨b, -, rfl | rfl⟩ := hc
  · have hb := b.toNat_lt
    exact isSpace_hexDigit (by omega)
  · exact isSpace_hexDigit (by omega)

theorem decimalDigits_noSpace (fuel n : Nat) (acc : List Char)
    (hacc : ∀ c ∈ acc, isSpace c = false) :
    ∀ c ∈ decimalDigits fuel n acc, isSpace c = false := by
  induction fuel generalizing n acc with
  | zero => exact hacc
  | succ fuel ih =>
    have hcons : ∀ c ∈ hexDigit (n % 10) :: acc, isSpace c = false := by
      intro c hc
      rcases List.mem_cons.mp hc with rfl | htail
      · exact isSpace_hexDigit (by omega)
      · exact hacc c htail
    rw [decimalDigits]
    split_ifs with hn
    · exact hcons
    · exact ih (n / 10) _ hcons

theorem natText_noSpace (n : Nat) : ∀ c ∈ natText n, isSpace c = false :=
  decimalDigits_noSpace _ n [] (by simp)

theorem intText_noSpace (n : Int) : ∀ c ∈ intText n, isSpace c = false := by
  intro c hc
  cases n with
  | ofNat n => exact natText_noSpace n c hc
  | negSucc n =>
    rcases List.mem_cons.mp hc with rfl | htail
    · rfl
    · exact natText_noSpace (n + 1) c htail

theorem trimSpace_resourceID {key id : String} (h : IsResourceID "operation" key id) :
    trimSpace id = id := by
  have htail (tail : String) (ht : ∀ c ∈ tail.toList, isSpace c = false) :
      trimSpace ("operation" ++ "-" ++ tail) = "operation" ++ "-" ++ tail := by
    apply trimSpace_eq_self
    intro c hc
    rw [String.toList_append, List.mem_append] at hc
    rcases hc with hname | hrest
    · have hnames : ("operation" ++ "-").toList.all (fun c => !isSpace c) = true := by decide
      simpa using List.all_eq_true.mp hnames c hname
    · exact ht c hrest
  unfold IsResourceID at h
  split_ifs at h with hblank
  · rcases h with ⟨raw, rfl⟩ | ⟨n, rfl⟩
    · exact htail _ (hexEncode_noSpace raw)
    · exact htail _ (by simpa using intText_noSpace n)
  · rw [h]
    exact htail _ (hexEncode_noSpace _)

end Identifiers

section Owned
variable {content : String → Bytes} {past : List ServiceEvent}

structure Owned (content : String → Bytes) (operation : FleetOperation) : Prop where
  id : trimSpace operation.id = operation.id
  receipts : ∀ receipt ∈ operation.ledgerReceipts, receipt.purpose = .outcome →
    ∃ e : OutcomeEvidenceV1, e.operationID = operation.id ∧ content receipt.entryHash = e.marshal

theorem Owned.same_id {a b : FleetOperation} (ha : Owned content a) (hb : Owned content b)
    {r r' : OperationLedgerReceipt} (hr : r ∈ a.ledgerReceipts) (hp : r.purpose = .outcome)
    (hr' : r' ∈ b.ledgerReceipts) (hp' : r'.purpose = .outcome)
    (hhash : r.entryHash = r'.entryHash) :
    a.id = b.id := by
  obtain ⟨e, he, hcontent⟩ := ha.receipts r hr hp
  obtain ⟨e', he', hcontent'⟩ := hb.receipts r' hr' hp'
  rw [hhash, hcontent'] at hcontent
  rw [← he, ← he', OutcomeEvidenceV1.marshal_injective hcontent]

theorem Admits.owned {s : Service} {given intent : FleetIntent} {operation : FleetOperation}
    (h : Admits s given past intent operation) : Owned content operation := by
  obtain ⟨id, operationID, now, later, next, reason, -, -, hid, -, -, -, rfl⟩ := h
  exact ⟨trimSpace_resourceID hid, nofun⟩

theorem Appends.owned {target : OperationState → Prop} {old new : FleetOperation}
    (h : Appends target past old new) (hold : Owned content old) : Owned content new := by
  obtain ⟨next, reason, actor, now, rfl, -⟩ := h
  exact ⟨hold.id, hold.receipts⟩

def Truthful (content : String → Bytes) (past : List ServiceEvent) : Prop :=
  ∀ entryHash entryType (verification : ProofVerification),
    ⟨.verifyProof entryHash entryType, .ok (some verification)⟩ ∈ past →
      verification.content = content entryHash

theorem Attaches.owned {old new : FleetOperation} (h : Attaches past old new)
    (htruthful : Truthful content past) (hold : Owned content old) : Owned content new := by
  obtain ⟨receipt, now, rfl, -, hverified, -⟩ := h
  refine ⟨hold.id, fun r hr hp => ?_⟩
  rcases List.mem_append.mp hr with hbefore | hadded
  · exact hold.receipts r hbefore hp
  · rw [List.mem_singleton] at hadded
    subst hadded
    obtain ⟨-, answer, hmem, hcheck⟩ := hverified
    obtain ⟨verification, rfl, hproves⟩ := proves_of_checkVerification hcheck
    obtain ⟨-, hnew⟩ := hproves.outcome hp
    obtain ⟨e, he, hbytes⟩ := newOutcomeEvidence_ok hnew
    refine ⟨e, he.trans hold.id, ?_⟩
    rw [← htruthful _ _ verification hmem, hbytes]

end Owned

section Runs
variable {ρ ε ι : Type} {R : Repository ρ} {E : Environment ε} {s : Service}
variable {content : String → Bytes}

def LedgerHolds (E : Environment ε) (content : String → Bytes) : Prop :=
  ∀ entryHash entryType e verification,
    (E.verifyProof entryHash entryType e).1 = .ok (some verification) →
      verification.content = content entryHash

inductive Disturbance where
  | write (e : EvidenceWrite)
  | delete (intentID operationID : String)

def disturb (R : Repository ρ) : Disturbance → World ρ ε → World ρ ε
  | .write e, w => writeEvidence R e w
  | .delete intentID operationID, w =>
    { w with repository := (R.delete intentID operationID w.repository).2 }

structure AllOwned (F : Faithful R) (content : String → Bytes) (pasts : ι → List ServiceEvent)
    (w : World ρ ε) : Prop where
  stored : ∀ id operation, F.stored w.repository id = some operation → Owned content operation
  read : ∀ i id operation, ⟨.getOperation id, .ok operation⟩ ∈ pasts i → Owned content operation
  truthful : ∀ i, Truthful content (pasts i)

variable {pasts : ι → List ServiceEvent}

theorem AllOwned.stored_call {F : Faithful R} {w : World ρ ε}
    (h : AllOwned F content pasts w) {scope : Scope} {i : ι} {c : ServiceCall}
    (hc : Justified s scope (pasts i) c) (id : String) (operation : FleetOperation)
    (hop : F.stored (serve R E c w).2.repository id = some operation) :
    Owned content operation := by
  rcases serve_stored (E := E) F hc w with
    ⟨hs, -⟩ | ⟨intent, new, rfl, hs, -⟩ | ⟨new, rfl, hs, -⟩
  · rw [hs] at hop
    exact h.stored id operation hop
  · obtain ⟨-, given, -, hadmits⟩ := hc
    rw [hs] at hop
    exact forall_update h.stored hadmits.owned id operation hop
  · obtain ⟨-, id', old, hread, hnew⟩ := hc
    have hold : Owned content old := h.read i id' old (mem_of_lastRead hread)
    rw [hs] at hop
    refine forall_update h.stored ?_ id operation hop
    rcases hnew with happ | hatt
    · exact happ.owned hold
    · exact hatt.owned (h.truthful i) hold

theorem AllOwned.call [DecidableEq ι] {F : Faithful R} (hledger : LedgerHolds E content)
    {w : World ρ ε} (h : AllOwned F content pasts w)
    {scope : Scope} {i : ι} {c : ServiceCall} (hc : Justified s scope (pasts i) c) :
    AllOwned F content (Function.update pasts i (⟨c, (serve R E c w).1⟩ :: pasts i))
      (serve R E c w).2 := by
  refine ⟨h.stored_call hc, ?_, ?_⟩
  · intro j id operation hmem
    rcases mem_update_cons hmem with hold | ⟨-, hnew⟩
    · exact h.read j id operation hold
    · cases c with
      | getOperation id' =>
        injection hnew with hcall hanswer
        exact h.stored id' operation (F.getOperation_ok hanswer.symm)
      | _ => cases hnew
  · intro j entryHash entryType verification hmem
    rcases mem_update_cons hmem with hold | ⟨-, hnew⟩
    · exact h.truthful j entryHash entryType verification hold
    · cases c with
      | verifyProof entryHash' entryType' =>
        injection hnew with hcall hanswer
        injection hcall with hhash htype
        subst hhash htype
        exact hledger entryHash entryType w.environment verification hanswer.symm
      | _ => cases hnew

theorem AllOwned.disturb {F : Faithful R} {w : World ρ ε}
    (h : AllOwned F content pasts w) (d : Disturbance) :
    AllOwned F content pasts (disturb R d w) := by
  refine ⟨?_, h.read, h.truthful⟩
  cases d with
  | write e =>
    obtain ⟨-, -, hs | ⟨old, hold, hs⟩⟩ := writeEvidence_stored F e w
    · simp only [Intents.disturb, hs]
      exact h.stored
    · have hown := h.stored e.id old hold
      simp only [Intents.disturb, hs]
      exact forall_update h.stored ⟨hown.id, hown.receipts⟩
  | delete intentID operationID =>
    intro id operation hop
    exact h.stored id operation (F.delete_stored hop)

def disturbed [DecidableEq ι] (R : Repository ρ) (E : Environment ε) (s : Service)
    (requests : ι → Request) (moves : List (Move ι Disturbance)) (w : World ρ ε) : World ρ ε :=
  (Pool.exec (serve R E) (disturb R) moves (serving s requests w)).2

/-- In every interleaving of requests, two operations that succeed, at whatever moments, on outcome
receipts for the same ledger entry are the same operation; and the evidence that an operation
accepts is exactly the text `NewOutcomeEvidence` makes of it. -/
theorem outcome_evidence_not_reused [DecidableEq ι] (F : Faithful R) (content : String → Bytes)
    (hledger : LedgerHolds E content) (requests : ι → Request) (w : World ρ ε)
    (hempty : ∀ id, F.stored w.repository id = none) (moves moves' : List (Move ι Disturbance)) :
    (∀ id a id' b, F.stored (disturbed R E s requests moves w).repository id = some a →
      F.stored (disturbed R E s requests (moves ++ moves') w).repository id' = some b →
      a.state = .succeeded → b.state = .succeeded →
      ∀ r ∈ a.ledgerReceipts, r.purpose = .outcome →
        ∀ r' ∈ b.ledgerReceipts, r'.purpose = .outcome → r.entryHash = r'.entryHash →
          a.id = b.id) ∧
    (∀ operation bytes, newOutcomeEvidence operation = .ok bytes →
      ∀ text, verifyOutcomeEvidence operation text = .ok () ↔ text = bytes) := by
  have hrule (moves : List (Move ι Disturbance)) :
      ∀ id operation, F.stored (disturbed R E s requests moves w).repository id = some operation →
        Owned content operation := by
    have hstart : AllOwned F content (serving s requests w).pasts w :=
      ⟨fun id op hop => by simp [hempty id] at hop, (fun _ _ _ h => nomatch h),
        fun _ _ _ _ h => nomatch h⟩
    obtain ⟨-, hend⟩ := Pool.exec_invariant (serve R E) (disturb R)
      (I := fun pasts w => AllOwned F content pasts w) (fun _ _ _ _ h hc => h.call hledger hc)
      (fun _ _ d h => h.disturb d) moves (serving_allMeet requests w) hstart
    exact hend.stored
  refine ⟨?_, fun operation bytes h => verifyOutcomeEvidence_iff h⟩
  intro id a id' b ha hb _ _ r hr hp r' hr' hp' hhash
  exact (hrule moves id a ha).same_id (hrule (moves ++ moves') id' b hb) hr hp hr' hp' hhash

end Runs

section Sample

def sampleContent (_ : String) : Bytes := sampleOutcome.marshal

theorem sampleContent_holds : LedgerHolds sampleEnvironment sampleContent := by
  intro entryHash entryType e verification h
  injection h with h
  injection h with h
  rw [← h]
  rfl

def sampleThreads (i : Nat) : Request :=
  (sampleSteps.filterMap fun step =>
    match step with
    | .request r => some r
    | .write _ => none).getD i sampleLast

def movesInOrder : Nat → List Step → List (Move Nat Disturbance)
  | _, [] => []
  | i, .request _ :: steps => List.replicate 5 (.thread i) ++ movesInOrder (i + 1) steps
  | i, .write e :: steps => .outside (.write e) :: movesInOrder i steps

set_option maxRecDepth 20000 in
theorem outcome_evidence_not_reused_sample : ∃ a,
    MemoryRepository.faithful.stored (disturbed memory sampleEnvironment sampleService sampleThreads
        (movesInOrder 0 sampleSteps) sampleWorld).repository sampleID = some a ∧
      a.state = .succeeded ∧ sampleReceipt ∈ a.ledgerReceipts ∧
      (∀ id' b, MemoryRepository.faithful.stored (disturbed memory sampleEnvironment sampleService
          sampleThreads (movesInOrder 0 sampleSteps ++ []) sampleWorld).repository id' = some b →
        b.state = .succeeded → ∀ r' ∈ b.ledgerReceipts, r'.purpose = .outcome →
          sampleReceipt.entryHash = r'.entryHash → a.id = b.id) ∧
      ∀ text, verifyOutcomeEvidence a text = .ok () ↔ text = sampleOutcome.marshal := by
  have hrun : (MemoryRepository.faithful.stored (disturbed memory sampleEnvironment sampleService
      sampleThreads (movesInOrder 0 sampleSteps) sampleWorld).repository sampleID).map
        (fun a => (a.state, a.ledgerReceipts, newOutcomeEvidence a)) =
      some (.succeeded, [sampleReceipt], .ok sampleOutcome.marshal) := by decide +kernel
  obtain ⟨a, ha, hfacts⟩ := Option.map_eq_some_iff.mp hrun
  simp only [Prod.mk.injEq] at hfacts
  obtain ⟨hstate, hreceipts, hnew⟩ := hfacts
  obtain ⟨hreuse, hexact⟩ := outcome_evidence_not_reused (E := sampleEnvironment)
    (s := sampleService) MemoryRepository.faithful sampleContent sampleContent_holds sampleThreads
    sampleWorld (fun _ => rfl) (movesInOrder 0 sampleSteps) []
  have hmem : sampleReceipt ∈ a.ledgerReceipts := by simp [hreceipts]
  refine ⟨a, ha, hstate, hmem, ?_, hexact a _ hnew⟩
  intro id' b hb hsucceeded r' hr' hp' hhash
  exact hreuse sampleID a id' b ha hb hstate hsucceeded sampleReceipt hmem rfl r' hr' hp' hhash

end Sample
end FleetLlmd.Intents
