import FleetLlmd.Intents.Service

/-!
# What the service writes, and after what

For every method of the service and every environment: which operation a write
carries, and which answers the call had received before it. Each later statement
about runs, sequential or interleaved, starts from these facts; no other module
looks into the bodies of the methods.
-/

namespace FleetLlmd.Intents
open Go Ledger Effect Prog

def lastRead : List ServiceEvent → Option (String × FleetOperation)
  | [] => none
  | ⟨.getOperation id, .ok operation⟩ :: _ => some (id, operation)
  | ⟨.getOperation _, .error _⟩ :: _ => none
  | _ :: past => lastRead past

variable {operation : FleetOperation} {past : List ServiceEvent}

theorem mem_of_lastRead {id : String}
    (h : lastRead past = some (id, operation)) : ⟨.getOperation id, .ok operation⟩ ∈ past := by
  induction past with
  | nil => cases h
  | cons e past ih =>
    rcases e with ⟨c, answer⟩
    cases c with
    | getOperation id' =>
      cases answer with
      | ok operation' =>
        cases h
        exact List.mem_cons_self
      | error err => cases h
    | _ => exact List.mem_cons_of_mem _ (ih h)

def ServiceCall.writes : ServiceCall → Bool
  | .create _ _ | .delete _ _ | .updateOperation _ => true
  | _ => false

def NoWrite (past : List ServiceEvent) : Prop := ∀ e ∈ past, e.1.writes = false

structure Quiet (past later : List ServiceEvent) : Prop where
  subset : past ⊆ later
  lastRead : lastRead later = lastRead past
  noWrite : NoWrite past → NoWrite later

theorem Quiet.refl (past : List ServiceEvent) : Quiet past past :=
  ⟨List.Subset.refl _, rfl, id⟩

theorem Quiet.trans {past later last : List ServiceEvent} (h : Quiet past later)
    (h' : Quiet later last) : Quiet past last :=
  ⟨List.Subset.trans h.subset h'.subset, h'.lastRead.trans h.lastRead, h'.noWrite ∘ h.noWrite⟩

theorem noWrite_nil : NoWrite [] := fun _ h => nomatch h

theorem NoWrite.cons (h : NoWrite past) {e : ServiceEvent}
    (he : e.1.writes = false) : NoWrite (e :: past) := by
  intro e' he'
  rcases List.mem_cons.mp he' with rfl | htail
  · exact he
  · exact h e' htail

section QuietCalls
variable (past : List ServiceEvent)

theorem quiet_now (t : Time) : Quiet past (⟨.now, t⟩ :: past) :=
  ⟨List.subset_cons_self _ _, rfl, fun h => h.cons rfl⟩

theorem quiet_timeNow (t : Time) : Quiet past (⟨.timeNow, t⟩ :: past) :=
  ⟨List.subset_cons_self _ _, rfl, fun h => h.cons rfl⟩

theorem quiet_randRead (raw : Option Bytes) : Quiet past (⟨.randRead, raw⟩ :: past) :=
  ⟨List.subset_cons_self _ _, rfl, fun h => h.cons rfl⟩

theorem quiet_verifyProof (entryHash entryType : String)
    (answer : Except Error (Option ProofVerification)) :
    Quiet past (⟨.verifyProof entryHash entryType, answer⟩ :: past) :=
  ⟨List.subset_cons_self _ _, rfl, fun h => h.cons rfl⟩

end QuietCalls

def Verified (past : List ServiceEvent) (operation : FleetOperation)
    (receipt : OperationLedgerReceipt) : Prop :=
  checkReceipt operation receipt = .ok () ∧
    ∃ answer, ⟨.verifyProof receipt.entryHash receipt.entryType, .ok answer⟩ ∈ past ∧
      checkVerification operation receipt answer = .ok ()

def HasEvidence (past : List ServiceEvent) (operation : FleetOperation) : OperationState → Prop
  | .planned => Service.checkPlan operation = .ok ()
  | .authorized | .actuating =>
    ∃ now, ⟨.now, now⟩ ∈ past ∧ validateAuthorizationReference operation now.utc = .ok ()
  | .succeeded => ∃ receipt ∈ operation.ledgerReceipts,
    receipt.purpose = .outcome ∧ Verified past operation receipt
  | _ => True

theorem Verified.mono {past past' : List ServiceEvent}
    {receipt : OperationLedgerReceipt} (h : Verified past operation receipt)
    (hsub : past ⊆ past') : Verified past' operation receipt := by
  obtain ⟨hcheck, answer, hmem, hv⟩ := h
  exact ⟨hcheck, answer, hsub hmem, hv⟩

theorem HasEvidence.mono {past past' : List ServiceEvent}
    {next : OperationState} (h : HasEvidence past operation next) (hsub : past ⊆ past') :
    HasEvidence past' operation next := by
  cases next with
  | authorized | actuating =>
    obtain ⟨now, hmem, hv⟩ := h
    exact ⟨now, hsub hmem, hv⟩
  | succeeded =>
    obtain ⟨receipt, hmem, hp, hv⟩ := h
    exact ⟨receipt, hmem, hp, hv.mono hsub⟩
  | _ => exact h

def Appends (target : OperationState → Prop) (past : List ServiceEvent)
    (old new : FleetOperation) : Prop :=
  ∃ next reason actor now, new = old.extend next reason actor (Time.utc now) ∧ target next ∧
    ⟨.timeNow, now⟩ ∈ past ∧ allowedTransition old.state next = true ∧ HasEvidence past old next

def Attaches (past : List ServiceEvent) (old new : FleetOperation) : Prop :=
  ∃ receipt now, new = old.attach receipt (Time.utc now) ∧ ⟨.now, now⟩ ∈ past ∧
    Verified past old receipt ∧ old.ledgerReceipts.find? (Service.sameEntry receipt) = none

def IsResourceID (pre idempotencyKey id : String) : Prop :=
  if blank idempotencyKey then
    (∃ raw, id = pre ++ "-" ++ hexEncode raw) ∨ ∃ n, id = pre ++ "-" ++ String.ofList (intText n)
  else id = keyedID pre idempotencyKey

def Admits (s : Service) (given : FleetIntent) (past : List ServiceEvent) (intent : FleetIntent)
    (operation : FleetOperation) : Prop :=
  ∃ (id operationID : String) (now later : Time) (next : OperationState) (reason : String),
    intent = Service.complete given id now.utc ∧
    (if given.id = "" then IsResourceID "intent" given.idempotencyKey id else id = given.id) ∧
    IsResourceID "operation" given.idempotencyKey operationID ∧
    ⟨.now, now⟩ ∈ past ∧ ⟨.timeNow, later⟩ ∈ past ∧
    s.admission intent now.utc = .ok (next, reason) ∧
    operation = (Service.received intent operationID now.utc).extend next reason "fleet-policy"
      later.utc

section Mono
variable {past later : List ServiceEvent}

theorem Appends.mono {target : OperationState → Prop} {old new : FleetOperation}
    (h : Appends target past old new) (hsub : past ⊆ later) : Appends target later old new := by
  obtain ⟨next, reason, actor, now, hnew, htarget, hnow, hedge, hev⟩ := h
  exact ⟨next, reason, actor, now, hnew, htarget, hsub hnow, hedge, hev.mono hsub⟩

theorem Attaches.mono {old new : FleetOperation} (h : Attaches past old new)
    (hsub : past ⊆ later) : Attaches later old new := by
  obtain ⟨receipt, now, hnew, hnow, hv, hfind⟩ := h
  exact ⟨receipt, now, hnew, hsub hnow, hv.mono hsub, hfind⟩

theorem Admits.mono {s : Service} {given intent : FleetIntent}
    (h : Admits s given past intent operation) (hsub : past ⊆ later) :
    Admits s given later intent operation := by
  obtain ⟨id, operationID, now, at', next, reason, hi, hid, hop, hnow, hat, hrest⟩ := h
  exact ⟨id, operationID, now, at', next, reason, hi, hid, hop, hsub hnow, hsub hat, hrest⟩

end Mono

def SubmitCalls (s : Service) (given : FleetIntent) (past : List ServiceEvent) :
    ServiceCall → Prop
  | .create intent operation => NoWrite past ∧ Admits s given past intent operation
  | .findByIdempotencyKey key => key = given.idempotencyKey ∧ key ≠ ""
  | .now | .timeNow | .randRead => True
  | _ => False

def Submitted (given : FleetIntent) (past : List ServiceEvent)
    (result : Except Error SubmissionResponse) : Prop :=
  ∀ response, result = .ok response → ∃ operation reason,
    response = submissionFromOperation operation reason ∧
      ((∃ intent, ⟨.create intent operation, .ok ()⟩ ∈ past) ∨
        ⟨.findByIdempotencyKey given.idempotencyKey, .ok operation⟩ ∈ past)

structure Scope where
  submits : FleetIntent → Prop
  target : String → OperationState → Prop

def Justified (s : Service) (scope : Scope) (past : List ServiceEvent) : ServiceCall → Prop
  | .create intent operation => NoWrite past ∧
    ∃ given, scope.submits given ∧ Admits s given past intent operation
  | .updateOperation new => NoWrite past ∧ ∃ id old, lastRead past = some (id, old) ∧
    (Appends (scope.target id) past old new ∨ Attaches past old new)
  | .delete _ _ | .recordProof _ => False
  | _ => True

theorem SubmitCalls.justified {s : Service} {given : FleetIntent} {scope : Scope} {c : ServiceCall}
    (hscope : scope.submits given)
    (h : SubmitCalls s given past c) : Justified s scope past c := by
  cases c with
  | create intent operation => exact ⟨h.1, given, hscope, h.2⟩
  | now | timeNow | randRead | findByIdempotencyKey key => trivial
  | _ => exact h.elim

section Submit
variable {s : Service} {past : List ServiceEvent}

variable (given : FleetIntent)

theorem newID_meets (pre : String) :
    (newID pre).Meets (SubmitCalls s given)
      (fun later id => Quiet past later ∧ ((∃ raw, id = pre ++ "-" ++ hexEncode raw) ∨
        ∃ n, id = pre ++ "-" ++ String.ofList (intText n))) past := by
  simp only [newID, bind_eq_bind, randReadCall, perform_bind, meets_call]
  refine ⟨trivial, ?_⟩
  rintro (_ | raw)
  · simp only [timeNowCall, perform_bind, meets_call]
    refine ⟨trivial, fun now => ⟨?_, Or.inr ⟨now.nanos, rfl⟩⟩⟩
    exact (quiet_randRead past none).trans (quiet_timeNow _ now)
  · exact ⟨quiet_randRead past _, Or.inl ⟨raw, rfl⟩⟩

theorem operationResourceID_meets (pre key : String) :
    (operationResourceID pre key).Meets (SubmitCalls s given)
      (fun later id => Quiet past later ∧ IsResourceID pre key id) past := by
  unfold operationResourceID
  by_cases hblank : blank key
  · simp only [hblank, if_true, IsResourceID]
    exact newID_meets given pre
  · simp [hblank, IsResourceID, Quiet.refl]

theorem intentResourceID_meets :
    (Service.intentResourceID given).Meets (SubmitCalls s given)
      (fun later id => Quiet past later ∧ (if given.id = "" then
        IsResourceID "intent" given.idempotencyKey id else id = given.id)) past := by
  unfold Service.intentResourceID
  by_cases hid : given.id = ""
  · simp only [hid, if_true]
    exact operationResourceID_meets given "intent" _
  · simp [hid, Quiet.refl]

theorem admitNew_meets (hpast : NoWrite past) :
    (s.admitNew given).Meets (SubmitCalls s given) (Submitted given) past := by
  simp only [Service.admitNew, bind_eq_bind, nowCall, perform_bind, meets_call]
  refine ⟨trivial, fun now => ?_⟩
  rw [meets_bind]
  refine (intentResourceID_meets given).imp ?_
  rintro past₁ id ⟨hquiet₁, hid⟩
  rw [meets_bind]
  refine (operationResourceID_meets given "operation" _).imp ?_
  rintro past₂ operationID ⟨hquiet₂, hoperationID⟩
  have hquiet := hquiet₁.trans hquiet₂
  cases hadm : s.admission (Service.complete given id now.utc) now.utc with
  | error err => simp [Submitted]
  | ok decision =>
    simp only [appendTransition, Service.storeNew, bind_eq_bind, timeNowCall, perform_bind,
      pure_eq_done, call_bind, done_bind, createCall, meets_call]
    refine ⟨trivial, fun later => ⟨⟨?_, ?_⟩, ?_⟩⟩
    · exact (hquiet.noWrite (hpast.cons rfl)).cons rfl
    · refine ⟨id, operationID, now, later, decision.1, decision.2, rfl, hid, hoperationID, ?_,
        List.mem_cons_self, hadm, rfl⟩
      exact List.mem_cons_of_mem _ (hquiet.subset List.mem_cons_self)
    · rintro (err | u)
      · by_cases hkey : given.idempotencyKey = ""
        · simp [Service.complete, hkey, Submitted]
        · simp only [Service.complete, hkey, if_false, findByIdempotencyKeyCall, perform_bind,
            meets_call]
          refine ⟨⟨rfl, hkey⟩, ?_⟩
          rintro (err' | existing)
          · simp [Submitted]
          · intro response hr
            cases hr
            exact ⟨existing, _, rfl, Or.inr List.mem_cons_self⟩
      · intro response hr
        cases hr
        exact ⟨_, _, rfl, Or.inl ⟨_, List.mem_cons_self⟩⟩

theorem submit_meets (hpast : NoWrite past) :
    (s.submit given).Meets (SubmitCalls s given) (Submitted given) past := by
  unfold Service.submit
  by_cases hkey : given.idempotencyKey = ""
  · simp only [hkey, if_true]
    exact admitNew_meets given hpast
  · simp only [hkey, if_false, bind_eq_bind, findByIdempotencyKeyCall, perform_bind, meets_call]
    refine ⟨⟨rfl, hkey⟩, ?_⟩
    rintro (err | existing)
    · by_cases herr : err.is errNotFound
      · simp only [herr, if_true]
        exact admitNew_meets given (hpast.cons rfl)
      · simp [herr, Submitted]
    · intro response hr
      cases hr
      exact ⟨existing, _, rfl, Or.inr List.mem_cons_self⟩

end Submit

section Methods
variable {s : Service} {scope : Scope} {past : List ServiceEvent}

theorem verifyLedgerReceipt_meets (operation : FleetOperation) (receipt : OperationLedgerReceipt) :
    (s.verifyLedgerReceipt operation receipt).Meets (Justified s scope)
      (fun later r => Quiet past later ∧ (r = .ok () → Verified later operation receipt))
      past := by
  unfold Service.verifyLedgerReceipt
  cases hcheck : checkReceipt operation receipt with
  | error err => simp [Quiet.refl]
  | ok u =>
    by_cases hproofs : s.proofs
    · simp only [hproofs, Bool.not_true, Bool.false_eq_true, if_false, bind_eq_bind,
        verifyProofCall, perform_bind, meets_call]
      refine ⟨trivial, ?_⟩
      rintro (err | answer)
      · exact ⟨quiet_verifyProof past _ _ _, by simp⟩
      · refine ⟨quiet_verifyProof past _ _ _, fun hv => ?_⟩
        exact ⟨hcheck, answer, List.mem_cons_self, hv⟩
    · simp [hproofs, Quiet.refl]

theorem verifyReceipts_meets (operation : FleetOperation) (purpose : LedgerReceiptPurpose)
    (receipts : List OperationLedgerReceipt) (lastErr : Option Error) :
    (s.verifyReceipts operation purpose receipts lastErr).Meets (Justified s scope)
      (fun later r => Quiet past later ∧ (r = .ok () →
        ∃ receipt ∈ receipts, receipt.purpose = purpose ∧ Verified later operation receipt))
      past := by
  induction receipts generalizing lastErr past with
  | nil => cases lastErr <;> simp [Service.verifyReceipts, Quiet.refl]
  | cons receipt receipts ih =>
    by_cases hp : receipt.purpose = purpose
    · simp only [Service.verifyReceipts, hp, ne_eq, not_true, if_false, bind_eq_bind, meets_bind]
      refine (verifyLedgerReceipt_meets operation receipt).imp ?_
      rintro later (err | u) ⟨hquiet, hv⟩
      · refine (ih (some err)).imp ?_
        rintro last r ⟨hquiet', hv'⟩
        refine ⟨hquiet.trans hquiet', fun hr => ?_⟩
        obtain ⟨receipt', hmem, hreceipt'⟩ := hv' hr
        exact ⟨receipt', List.mem_cons_of_mem _ hmem, hreceipt'⟩
      · exact ⟨hquiet, fun _ => ⟨receipt, List.mem_cons_self, hp, hv rfl⟩⟩
    · simp only [Service.verifyReceipts, hp, ne_eq, not_false_eq_true, if_true]
      refine (ih lastErr).imp ?_
      rintro later r ⟨hquiet, hv⟩
      refine ⟨hquiet, fun hr => ?_⟩
      obtain ⟨receipt', hmem, hreceipt'⟩ := hv hr
      exact ⟨receipt', List.mem_cons_of_mem _ hmem, hreceipt'⟩

theorem validateTransitionEvidence_meets (operation : FleetOperation) (next : OperationState) :
    (s.validateTransitionEvidence operation next).Meets (Justified s scope)
      (fun later r => Quiet past later ∧ (r = .ok () → HasEvidence later operation next))
      past := by
  unfold Service.validateTransitionEvidence
  split
  case h_1 => simp [HasEvidence, Quiet.refl]
  case h_4 =>
    simp only [Service.verifyReceiptPurpose, bind_eq_bind, meets_bind]
    refine (verifyReceipts_meets operation .outcome operation.ledgerReceipts none).mono
      (fun _ _ h => h) ?_
    rintro later (err | u) ⟨hquiet, hv⟩
    · exact ⟨hquiet, by simp⟩
    · exact ⟨hquiet, fun _ => hv rfl⟩
  case h_5 hplanned hauthorized hactuating hsucceeded =>
    refine ⟨Quiet.refl past, fun _ => ?_⟩
    cases next <;> trivial
  -- an authorization is checked against one reading of the service clock
  all_goals
    simp only [bind_eq_bind, nowCall, perform_bind, meets_call]
    refine ⟨trivial, fun now => ⟨quiet_now past now, fun hr => ?_⟩⟩
    exact ⟨now, List.mem_cons_self, hr⟩

theorem transition_meets {id : String} {next : OperationState} (reason actor : String)
    (htarget : scope.target id next) (hpast : NoWrite past) :
    (s.transition id next reason actor).Meets (Justified s scope) (fun _ _ => True) past := by
  simp only [Service.transition, bind_eq_bind, getOperationCall, perform_bind, meets_call]
  refine ⟨trivial, ?_⟩
  rintro (err | operation)
  · trivial
  · by_cases hallowed : allowedTransition operation.state next
    · simp only [hallowed, Bool.not_true, Bool.false_eq_true, if_false, meets_bind]
      refine (validateTransitionEvidence_meets operation next).imp ?_
      rintro later (err | u) ⟨hquiet, hv⟩
      · trivial
      · simp only [appendTransition, bind_eq_bind, timeNowCall, perform_bind, pure_eq_done,
          call_bind, done_bind, meets_call, updateOperationCall]
        refine ⟨trivial, fun now => ⟨⟨?_, id, operation, hquiet.lastRead, Or.inl ?_⟩, ?_⟩⟩
        · exact (hquiet.noWrite (hpast.cons rfl)).cons rfl
        · refine ⟨next, reason, actor, now, rfl, htarget, List.mem_cons_self, hallowed, ?_⟩
          exact (hv rfl).mono (List.subset_cons_self _ _)
        · rintro (err | u) <;> trivial
    · simp [hallowed]

theorem approve_meets {id : String} (actor : String) (htarget : scope.target id .accepted)
    (hpast : NoWrite past) :
    (s.approve id actor).Meets (Justified s scope) (fun _ _ => True) past :=
  transition_meets _ actor htarget hpast

theorem cancel_meets {id : String} (actor : String) (hfailed : scope.target id .failed)
    (hrollingBack : scope.target id .rollingBack) (hpast : NoWrite past) :
    (s.cancel id actor).Meets (Justified s scope) (fun _ _ => True) past := by
  simp only [Service.cancel, bind_eq_bind, getOperationCall, perform_bind, meets_call]
  refine ⟨trivial, ?_⟩
  rintro (err | operation)
  · trivial
  · refine transition_meets _ actor ?_ (hpast.cons rfl)
    unfold Service.cancelTarget
    split
    iterate 4 exact hrollingBack
    exact hfailed

theorem attachLedgerReceipt_meets (id : String) (receipt : OperationLedgerReceipt)
    (hpast : NoWrite past) :
    (s.attachLedgerReceipt id receipt).Meets (Justified s scope) (fun _ _ => True) past := by
  simp only [Service.attachLedgerReceipt, bind_eq_bind, getOperationCall, perform_bind, meets_call]
  refine ⟨trivial, ?_⟩
  rintro (err | operation)
  · trivial
  · simp only [meets_bind]
    refine (verifyLedgerReceipt_meets operation receipt).imp ?_
    rintro later (err | u) ⟨hquiet, hv⟩
    · trivial
    · cases hfind : operation.ledgerReceipts.find? (Service.sameEntry receipt) with
      | some existing => dsimp only; split_ifs <;> trivial
      | none =>
        simp only [nowCall, perform_bind, meets_call, updateOperationCall]
        refine ⟨trivial, fun now => ⟨⟨?_, id, operation, hquiet.lastRead, Or.inr ?_⟩, ?_⟩⟩
        · exact (hquiet.noWrite (hpast.cons rfl)).cons rfl
        · refine ⟨receipt, now, rfl, List.mem_cons_self, ?_, hfind⟩
          exact (hv rfl).mono (List.subset_cons_self _ _)
        · rintro (err | u) <;> trivial

end Methods
end FleetLlmd.Intents
