import FleetLlmd.Kubernetes.Repository

/-!
# A transition that fails half-way

`Service.Transition` over the Kubernetes repository reads the operation, and
`UpdateOperation` then reads it again, writes its resource, writes its status and
writes the status of its intent. A failure up to the write of the status leaves the
operation as it is read; a failure after it does not.
-/

namespace FleetLlmd.Intents
open Go Effect Kubernetes Prog

section Requests
variable {ε α : Type} {w : Api ε}

def Api.outcome (w : Api ε) (n : Nat) : Option Failure := (w.outcomes[n]?).join

theorem Api.next_eq (w : Api ε) : w.next = w.outcome 0 := by
  simp [Api.next, Api.outcome, List.head?_eq_getElem?]

def Api.after (w : Api ε) (cluster : Cluster) : Api ε := { w.advance with cluster := cluster }

@[simp] theorem Api.after_outcome (w : Api ε) (cluster : Cluster) (n : Nat) :
    (w.after cluster).outcome n = w.outcome (n + 1) := by
  simp [Api.after, Api.advance, Api.outcome, List.getElem?_tail]

@[simp] theorem Api.after_cluster (w : Api ε) (cluster : Cluster) :
    (w.after cluster).cluster = cluster := rfl
@[simp] theorem Api.after_environment (w : Api ε) (cluster : Cluster) :
    (w.after cluster).environment = w.environment := rfl

theorem Api.request_failed {failure : Failure} (h : w.outcome 0 = some failure)
    (act : Cluster → Except Failure α × Cluster) :
    w.request act = (.error failure, w.after w.cluster) := by
  simp only [Api.request, Api.next_eq, h]
  rfl

theorem Api.request_passed (h : w.outcome 0 = none) (act : Cluster → Except Failure α × Cluster) :
    w.request act = ((act w.cluster).1, w.after (act w.cluster).2) := by
  simp only [Api.request, Api.next_eq, h]
  rfl

end Requests

section Environment
variable {ρ ε α : Type} {S : ApiServer ε} {s : Service}

def ServiceCall.asks : ServiceCall → Bool
  | .now | .timeNow | .randRead | .verifyProof _ _ | .recordProof _ => true
  | _ => false

theorem asks_run {Q : List ServiceEvent → α → Prop} {p : Action α} {past : List ServiceEvent}
    (hp : p.Meets (fun _ (c : ServiceCall) => c.asks = true) Q past) (R : Repository ρ) (r : ρ)
    (w : Api ε) :
    p.run S.answer w = ((p.run (serve R S.environment) ⟨r, w.environment⟩).1,
      { w with environment :=
          (p.run (serve R S.environment) ⟨r, w.environment⟩).2.environment }) := by
  induction p generalizing past w with
  | done a => rfl
  | call c k ih =>
    obtain ⟨hc, hk⟩ := hp
    cases c with
    | now | timeNow | randRead | verifyProof entryHash entryType | recordProof decision =>
      exact ih _ (hk _) _
    | _ => cases hc

theorem verifyLedgerReceipt_asks (operation : FleetOperation) (receipt : OperationLedgerReceipt)
    (past : List ServiceEvent) : (s.verifyLedgerReceipt operation receipt).Meets
      (fun _ (c : ServiceCall) => c.asks = true) (fun _ _ => True) past := by
  unfold Service.verifyLedgerReceipt
  cases checkReceipt operation receipt with
  | error err => trivial
  | ok u =>
    split_ifs
    · trivial
    · simp only [bind_eq_bind, verifyProofCall, perform_bind, meets_call]
      refine ⟨rfl, fun answer => ?_⟩
      cases answer <;> trivial

theorem verifyReceipts_asks (operation : FleetOperation) (purpose : LedgerReceiptPurpose)
    (receipts : List OperationLedgerReceipt) (lastErr : Option Error) (past : List ServiceEvent) :
    (s.verifyReceipts operation purpose receipts lastErr).Meets
      (fun _ (c : ServiceCall) => c.asks = true) (fun _ _ => True) past := by
  induction receipts generalizing lastErr past with
  | nil => cases lastErr <;> trivial
  | cons receipt receipts ih =>
    unfold Service.verifyReceipts
    split_ifs
    · exact ih _ _
    · simp only [bind_eq_bind, meets_bind]
      refine (verifyLedgerReceipt_asks operation receipt past).imp ?_
      intro later result _
      cases result with
      | ok u => trivial
      | error err => exact ih _ _

theorem validateTransitionEvidence_asks (operation : FleetOperation) (next : OperationState)
    (past : List ServiceEvent) : (s.validateTransitionEvidence operation next).Meets
      (fun _ (c : ServiceCall) => c.asks = true) (fun _ _ => True) past := by
  unfold Service.validateTransitionEvidence
  cases next with
  | authorized | actuating => exact ⟨rfl, fun _ => trivial⟩
  | succeeded =>
    simp only [bind_eq_bind, meets_bind]
    refine (verifyReceipts_asks operation .outcome operation.ledgerReceipts none past).imp ?_
    intro later result _
    cases result <;> trivial
  | _ => trivial

def Evidences (S : ApiServer ε) (s : Service) (operation : FleetOperation) (next : OperationState)
    (e : ε) : Except Error Unit :=
  ((s.validateTransitionEvidence operation next).run (serve memory S.environment) ⟨.empty, e⟩).1

theorem validateTransitionEvidence_run (operation : FleetOperation) (next : OperationState)
    (w : Api ε) : ∃ e, (s.validateTransitionEvidence operation next).run S.answer w =
      (Evidences S s operation next w.environment, { w with environment := e }) :=
  ⟨_, asks_run (validateTransitionEvidence_asks operation next []) memory .empty w⟩

end Environment

def Cluster.withOperation (cluster : Cluster) (name : String) (r : OperationResource) : Cluster :=
  { cluster with operations := cluster.operations.set name (some r) }

@[simp] theorem Cluster.withOperation_intents (cluster : Cluster) (name : String)
    (r : OperationResource) : (cluster.withOperation name r).intents = cluster.intents := rfl

namespace KubernetesRepository
variable {ε : Type} {S : ApiServer ε} {w : Api ε}

theorem getOperation_run (id : String) (w : Api ε) : (getOperation id).run S.serve w =
    (match w.outcome 0, w.cluster.operations.find (resourceName id) with
      | some failure, _ => .error (requestError failure)
      | none, none => .error errNotFound
      | none, some r => .ok (operationFromResource r), w.after w.cluster) := by
  simp only [getOperation, bind_eq_bind, getOperationRequest, request_bind, run_call,
    ApiServer.serve]
  cases hfail : w.outcome 0 with
  | some failure => simp [Api.request_failed hfail]
  | none =>
    simp only [Api.request_passed hfail, Collection.get]
    cases w.cluster.operations.find (resourceName id) with
    | none => rfl
    | some r => rfl

theorem updateIntentStatus_run (name : String) (operation : FleetOperation) (w : Api ε) :
    ((updateIntentStatus name operation).run S.serve w).2.cluster.operations =
        w.cluster.operations ∧
      (((updateIntentStatus name operation).run S.serve w).1 = .ok () ↔
        w.outcome 0 = none ∧ (w.cluster.intents.find name).isSome ∧ w.outcome 1 = none) := by
  simp only [updateIntentStatus, bind_eq_bind, getIntentRequest, request_bind, run_call,
    ApiServer.serve]
  cases hget : w.outcome 0 with
  | some failure => simp [Api.request_failed hget]
  | none =>
    simp only [Api.request_passed hget, Collection.get]
    cases hfind : w.cluster.intents.find name with
    | none => simp
    | some r =>
      simp only [settle_ok, putIntentStatusRequest, request_bind, run_call, ApiServer.serve]
      cases hput : w.outcome 1 with
      | some failure =>
        have hfailed : (w.after w.cluster).outcome 0 = some failure := by simpa using hput
        simp [Api.request_failed hfailed]
      | none =>
        have hpassed : (w.after w.cluster).outcome 0 = none := by simpa using hput
        have hversion : r.metadata.resourceVersion =
          (advancedIntent r operation).metadata.resourceVersion := rfl
        simp [Api.request_passed hpassed, Cluster.onIntents, Collection.putStatus,
          Collection.replace_ok hfind hversion]

def statusWritten (operation : FleetOperation) (r : OperationResource) : OperationResource :=
  Collection.withStatus { r with status := mergedOperationStatus r.status operation } r

@[simp] theorem statusWritten_intentRef (operation : FleetOperation) (r : OperationResource) :
    (statusWritten operation r).spec.intentRef = r.spec.intentRef := rfl

def specWritten (operation : FleetOperation) (r : OperationResource) : OperationResource :=
  Collection.withSpec { r with spec := desiredSpec r.spec operation } r

@[simp] theorem specWritten_intentRef (operation : FleetOperation) (r : OperationResource) :
    (specWritten operation r).spec.intentRef = r.spec.intentRef := rfl

theorem updateStatus_failed {failure : Failure} (h : w.outcome 0 = some failure) (name : String)
    (resource : OperationResource) (operation : FleetOperation) :
    ∃ err, (updateStatus name resource operation).run S.serve w =
      (.error err, w.after w.cluster) := by
  simp only [updateStatus, bind_eq_bind, putOperationStatusRequest, request_bind, run_call,
    ApiServer.serve, Api.request_failed h]
  exact ⟨_, rfl⟩

section Written
variable {resource : OperationResource} {name : String} (h : w.outcome 0 = none)
  (hfind : w.cluster.operations.find name = some resource) (operation : FleetOperation)
include h hfind

theorem putOperationStatus_serve :
    S.serve (.putOperationStatus name
        { resource with status := mergedOperationStatus resource.status operation }) w =
      (.ok (statusWritten operation resource),
        w.after (w.cluster.withOperation name (statusWritten operation resource))) := by
  simp only [ApiServer.serve, Api.request_passed h, Cluster.onOperations, Collection.putStatus,
    Collection.replace_ok hfind rfl]
  rfl

theorem putOperation_serve :
    S.serve (.putOperation name { resource with spec := desiredSpec resource.spec operation }) w =
      (.ok (specWritten operation resource),
        w.after (w.cluster.withOperation name (specWritten operation resource))) := by
  simp only [ApiServer.serve, Api.request_passed h, Cluster.onOperations, Collection.put,
    Collection.replace_ok hfind rfl]
  rfl

theorem updateStatus_passed :
    ((updateStatus name resource operation).run S.serve w).2.cluster.operations =
        w.cluster.operations.set name (some (statusWritten operation resource)) ∧
      (((updateStatus name resource operation).run S.serve w).1 = .ok () ↔
        w.outcome 1 = none ∧ (w.cluster.intents.find resource.spec.intentRef).isSome ∧
          w.outcome 2 = none) := by
  have hintent := updateIntentStatus_run (S := S) resource.spec.intentRef operation
    (w.after (w.cluster.withOperation name (statusWritten operation resource)))
  simp only [updateStatus, bind_eq_bind, putOperationStatusRequest, request_bind, run_call,
    putOperationStatus_serve h hfind, settle_ok, run_bind, statusWritten_intentRef]
  generalize (updateIntentStatus resource.spec.intentRef operation).run S.serve _ = result
    at hintent ⊢
  obtain ⟨answer, w₂⟩ := result
  simp only [Api.after_cluster, Api.after_outcome] at hintent
  cases answer <;> exact ⟨hintent.1, by simpa using hintent.2⟩

end Written

theorem updateOperation_unwritten {operation : FleetOperation}
    (h : ¬(w.outcome 0 = none ∧ (w.cluster.operations.find (resourceName operation.id)).isSome ∧
      w.outcome 1 = none ∧ w.outcome 2 = none)) :
    (∃ err, ((updateOperation operation).run S.serve w).1 = .error err) ∧
      (((updateOperation operation).run S.serve w).2.cluster.operations = w.cluster.operations ∨
        ∃ r, w.cluster.operations.find (resourceName operation.id) = some r ∧
          ((updateOperation operation).run S.serve w).2.cluster.operations =
            w.cluster.operations.set (resourceName operation.id)
              (some (specWritten operation r))) := by
  simp only [updateOperation, bind_eq_bind, getOperationRequest, request_bind, run_call]
  cases hget : w.outcome 0 with
  | some failure => simp [ApiServer.serve, Api.request_failed hget]
  | none =>
    simp only [ApiServer.serve, Api.request_passed hget, Collection.get]
    cases hfind : w.cluster.operations.find (resourceName operation.id) with
    | none => simp
    | some r =>
      simp only [settle_ok, putOperationRequest, request_bind, run_call]
      cases hput : (w.after w.cluster).outcome 0 with
      | some failure => simp [ApiServer.serve, Api.request_failed hput]
      | none =>
        simp only [putOperation_serve hput hfind, settle_ok]
        cases hstatus : ((w.after w.cluster).after (w.cluster.withOperation
            (resourceName operation.id) (specWritten operation r))).outcome 0 with
        | none =>
          simp only [Api.after_outcome] at hput hstatus
          exact absurd ⟨hget, by rw [hfind]; rfl, hput, hstatus⟩ h
        | some failure =>
          obtain ⟨err, hrun⟩ := updateStatus_failed (S := S) hstatus
            (resourceName operation.id) (specWritten operation r) operation
          rw [Api.after_cluster] at hrun ⊢
          rw [hrun]
          exact ⟨⟨err, rfl⟩, Or.inr ⟨r, rfl, rfl⟩⟩

theorem updateOperation_written {operation : FleetOperation} {r : OperationResource}
    (hget : w.outcome 0 = none)
    (hfind : w.cluster.operations.find (resourceName operation.id) = some r)
    (hput : w.outcome 1 = none) (hstatus : w.outcome 2 = none) :
    ((updateOperation operation).run S.serve w).2.cluster.operations.find
    (resourceName operation.id)
        = some (statusWritten operation (specWritten operation r)) ∧
      (∀ name, name ≠ resourceName operation.id →
        ((updateOperation operation).run S.serve w).2.cluster.operations.find name =
          w.cluster.operations.find name) ∧
      (((updateOperation operation).run S.serve w).1 = .ok () ↔
        w.outcome 3 = none ∧ (w.cluster.intents.find r.spec.intentRef).isSome ∧
          w.outcome 4 = none) := by
  have hput' : (w.after w.cluster).outcome 0 = none := by simpa using hput
  obtain ⟨w₂, hw₂⟩ : ∃ w₂, (w.after w.cluster).after (w.cluster.withOperation
    (resourceName operation.id) (specWritten operation r)) = w₂ := ⟨_, rfl⟩
  have hstatus' : w₂.outcome 0 = none := by rw [← hw₂]; simpa using hstatus
  have hstored : w₂.cluster.operations.find (resourceName operation.id) =
      some (specWritten operation r) := by
    rw [← hw₂]
    exact Collection.set_find_self _ _ _
  have hrun : (updateOperation operation).run S.serve w =
      (updateStatus (resourceName operation.id) (specWritten operation r) operation).run
        S.serve w₂ := by
    simp only [updateOperation, bind_eq_bind, getOperationRequest, request_bind, run_call,
      ApiServer.serve, Api.request_passed hget, Collection.get, hfind, settle_ok,
      putOperationRequest]
    have hserve := putOperation_serve (S := S) (w := w.after w.cluster) hput' hfind operation
    simp only [ApiServer.serve] at hserve
    rw [hserve, settle_ok, Api.after_cluster, hw₂]
  obtain ⟨hoperations, hok⟩ := updateStatus_passed (S := S) hstatus' hstored operation
  rw [hrun, hoperations, hok]
  refine ⟨Collection.set_find_self _ _ _, ?_, ?_⟩
  · intro name hne
    rw [Collection.set_find_of_ne _ hne, ← hw₂]
    exact Collection.set_find_of_ne _ hne _
  · rw [← hw₂]
    simp

end KubernetesRepository
section Transition
variable {ε : Type} {S : ApiServer ε} {s : Service}

theorem allowedTransition_ne {state next : OperationState}
    (h : allowedTransition state next = true) : next ≠ state := by
  intro hsame
  subst hsame
  cases next <;> simp [allowedTransition, allowedNext] at h

def FleetOperation.durable (operation : FleetOperation) : OperationState ×
    List OperationTransition × List OperationLedgerReceipt × String × Option ProviderReference ×
      Option AuthorizationReference :=
  (operation.state, operation.transitions, operation.ledgerReceipts, operation.planDigest,
    operation.provider, operation.authorizationRef)

def Cluster.readOperation (cluster : Cluster) (id : String) : Option FleetOperation :=
  (cluster.operations.find (resourceName id)).map operationFromResource

theorem desiredSpec_same (spec : OperationSpec) (operation : FleetOperation)
    (hplan : operation.planDigest = spec.planDigest.getD "") (hprovider : operation.provider =
      spec.provider) (hauthorization : operation.authorizationRef = spec.authorizationRef) :
    (desiredSpec spec operation).planDigest.getD "" = spec.planDigest.getD "" ∧
      (desiredSpec spec operation).provider = spec.provider ∧
      (desiredSpec spec operation).authorizationRef = spec.authorizationRef := by
  have hor {α : Type} (o : Option α) : o.or o = o := by cases o <;> rfl
  simp only [desiredSpec, hprovider, hauthorization, hor, and_self, and_true]
  split_ifs
  · rfl
  · rw [Option.getD_some, hplan]

theorem specWritten_durable (r : OperationResource) (next : OperationState)
    (reason actor : String) (now : Time) :
    (operationFromResource (KubernetesRepository.specWritten
      ((operationFromResource r).extend next reason actor now) r)).durable =
        (operationFromResource r).durable := by
  obtain ⟨hplan, hprovider, hauthorization⟩ := desiredSpec_same r.spec
    ((operationFromResource r).extend next reason actor now) rfl rfl rfl
  generalize (operationFromResource r).extend next reason actor now = operation at *
  simp only [FleetOperation.durable, operationFromResource, KubernetesRepository.specWritten,
    Collection.withSpec, hplan, hprovider, hauthorization]

def Stranded (S : ApiServer ε) (s : Service) (id : String) (next : OperationState) (w : Api ε) :
    Prop :=
  ∃ r, w.cluster.operations.find (resourceName id) = some r ∧
    resourceName (operationFromResource r).id = resourceName id ∧
    allowedTransition (operationFromResource r).state next = true ∧
    Evidences S s (operationFromResource r) next w.environment = .ok () ∧
    w.outcome 0 = none ∧ w.outcome 1 = none ∧ w.outcome 2 = none ∧ w.outcome 3 = none ∧
    ¬(w.outcome 4 = none ∧ (w.cluster.intents.find r.spec.intentRef).isSome ∧ w.outcome 5 = none)

/-- A transition up to its update: it ends there in an error and has written nothing, or it
updates the operation it has read. -/
theorem transition_run (id : String) (next : OperationState) (reason actor : String) (w : Api ε) :
    ((∃ err w', (s.transition id next reason actor).run S.answer w = (.error err, w') ∧
        w'.cluster = w.cluster) ∧ ¬Stranded S s id next w) ∨
      ∃ r now e, w.outcome 0 = none ∧ w.cluster.operations.find (resourceName id) = some r ∧
        allowedTransition (operationFromResource r).state next = true ∧
        Evidences S s (operationFromResource r) next w.environment = .ok () ∧
        (s.transition id next reason actor).run S.answer w =
          let operation := (operationFromResource r).extend next reason actor now
          let result := (KubernetesRepository.updateOperation operation).run S.serve
            { w.after w.cluster with environment := e }
          (result.1.map fun _ => operation, result.2) := by
  have hget : S.answer (.getOperation id) w = _ := KubernetesRepository.getOperation_run id w
  simp only [Service.transition, bind_eq_bind, getOperationCall, perform_bind, run_call, hget]
  cases hread : w.outcome 0 with
  | some failure =>
    refine Or.inl ⟨⟨_, _, rfl, rfl⟩, ?_⟩
    rintro ⟨r, -, -, -, -, hpass, -⟩
    rw [hread] at hpass
    cases hpass
  | none =>
    cases hfind : w.cluster.operations.find (resourceName id) with
    | none =>
      refine Or.inl ⟨⟨_, _, rfl, rfl⟩, ?_⟩
      rintro ⟨r, hfound, -⟩
      rw [hfind] at hfound
      cases hfound
    | some r =>
      by_cases hallowed : allowedTransition (operationFromResource r).state next = true
      · obtain ⟨e, hevidence⟩ := validateTransitionEvidence_run (S := S) (s := s)
          (operationFromResource r) next (w.after w.cluster)
        simp only [hallowed, Bool.not_true, Bool.false_eq_true, if_false, run_bind, hevidence,
          Api.after_environment]
        cases hpasses : Evidences S s (operationFromResource r) next w.environment with
        | error err =>
          refine Or.inl ⟨⟨_, _, rfl, rfl⟩, ?_⟩
          rintro ⟨r', hfound, -, -, hok, -⟩
          rw [hfind, Option.some.injEq] at hfound
          rw [← hfound, hpasses] at hok
          cases hok
        | ok u =>
          refine Or.inr ⟨r, (S.environment.timeNow e).1.utc, (S.environment.timeNow e).2, trivial, rfl,
            hallowed, hpasses, ?_⟩
          simp only [appendTransition, bind_eq_bind, timeNowCall, perform_bind, pure_eq_done,
            call_bind, done_bind, run_call, updateOperationCall]
          rcases hupdate : (KubernetesRepository.updateOperation ((operationFromResource r).extend
            next reason actor (S.environment.timeNow e).1.utc)).run S.serve
              { w.after w.cluster with environment := (S.environment.timeNow e).2 } with ⟨answer, w'⟩
          have hanswer : S.answer (.updateOperation ((operationFromResource r).extend next reason
            actor (S.answer .timeNow { w.after w.cluster with environment := e }).1.utc))
              (S.answer .timeNow { w.after w.cluster with environment := e }).2 = (answer, w') :=
            hupdate
          rw [hanswer]
          cases answer <;> rfl
      · have hrefused : (!allowedTransition (operationFromResource r).state next) = true := by
          simpa using hallowed
        simp only [hrefused, if_true]
        refine Or.inl ⟨⟨_, _, rfl, rfl⟩, ?_⟩
        rintro ⟨r', hfound, -, hedge, -⟩
        rw [hfind, Option.some.injEq] at hfound
        exact hallowed (hfound ▸ hedge)

/-- Whatever requests fail: a transition that returns an error leaves the operation as it is read,
exactly unless it fails between the status of the operation and that of its intent. -/
theorem failed_transition_unchanged_iff (S : ApiServer ε) (s : Service) (id : String)
    (next : OperationState) (reason actor : String) (w : Api ε) :
    (∀ err w', (overKubernetes (s.transition id next reason actor)).run S.serve w = (.error err, w') →
      (w'.cluster.readOperation id).map FleetOperation.durable =
        (w.cluster.readOperation id).map FleetOperation.durable) ↔ ¬Stranded S s id next w := by
  rw [overKubernetes_run]
  rcases transition_run (S := S) (s := s) id next reason actor w with
    ⟨⟨err, w', hrun, hsame⟩, hnot⟩ | ⟨r, now, e, hread, hfind, hallowed, hpasses, hrun⟩
  · refine ⟨fun _ => hnot, fun _ err' w'' hrun' => ?_⟩
    rw [hrun, Prod.mk.injEq] at hrun'
    rw [← hrun'.2, hsame]
  · obtain ⟨operation, hop⟩ : ∃ operation,
      (operationFromResource r).extend next reason actor now = operation := ⟨_, rfl⟩
    obtain ⟨w₁, hw₁⟩ : ∃ w₁ : Api ε, { w.after w.cluster with environment := e } = w₁ := ⟨_, rfl⟩
    rcases hupdate : (KubernetesRepository.updateOperation operation).run S.serve w₁ with ⟨answer, w'⟩
    simp only [hop, hw₁, hupdate] at hrun
    have hcluster : w₁.cluster = w.cluster := by rw [← hw₁]; rfl
    have houtcome (n : Nat) : w₁.outcome n = w.outcome (n + 1) := by
      rw [← hw₁]
      exact Api.after_outcome w w.cluster n
    have hid : resourceName operation.id = resourceName (operationFromResource r).id := by
      rw [← hop]
      rfl
    have hthere : w₁.cluster.operations.find (resourceName id) = some r := by rw [hcluster, hfind]
    by_cases hwritten : w₁.outcome 0 = none ∧
        (w₁.cluster.operations.find (resourceName operation.id)).isSome ∧
        w₁.outcome 1 = none ∧ w₁.outcome 2 = none
    · obtain ⟨hget, hsome, hput, hstatus⟩ := hwritten
      obtain ⟨r', hfind'⟩ := Option.isSome_iff_exists.mp hsome
      obtain ⟨hself, hothers, hok⟩ :=
        KubernetesRepository.updateOperation_written (S := S) hget hfind' hput hstatus
      simp only [hupdate] at hself hothers hok
      by_cases hname : resourceName operation.id = resourceName id
      · -- the operation that was read has been written, and its state is another one
        rw [hname, hthere, Option.some.injEq] at hfind'
        subst hfind'
        have hchanged : (w'.cluster.readOperation id).map FleetOperation.durable ≠
            (w.cluster.readOperation id).map FleetOperation.durable := by
          intro hsame
          rw [Cluster.readOperation, Cluster.readOperation, ← hname, hself, hname, hfind] at hsame
          simp only [Option.map_some, Option.some.injEq] at hsame
          have hstate := congrArg Prod.fst hsame
          refine allowedTransition_ne hallowed (Eq.trans ?_ hstate)
          rw [← hop]
          rfl
        constructor
        · rintro hunchanged ⟨r', hfound, -, -, -, -, -, -, -, hintent⟩
          rw [hfind] at hfound
          cases hfound
          rw [hcluster, houtcome, houtcome] at hok
          cases answer with
          | ok u => exact hintent (hok.mp rfl)
          | error err => exact hchanged (hunchanged err w' hrun)
        · intro hnot err w'' hrun'
          rw [hrun] at hrun'
          cases answer with
          | ok u => cases congrArg Prod.fst hrun'
          | error err' =>
            refine absurd ⟨r, hfind, ?_, hallowed, hpasses, hread, ?_, ?_, ?_, ?_⟩ hnot
            · rw [← hid, hname]
            · rw [← houtcome, hget]
            · rw [← houtcome, hput]
            · rw [← houtcome, hstatus]
            · intro hintent
              rw [← hcluster, ← houtcome, ← houtcome] at hintent
              cases hok.mpr hintent
      · -- another operation has been written
        have hnot : ¬Stranded S s id next w := by
          rintro ⟨r', hfound, hsame, -⟩
          rw [hfind] at hfound
          cases hfound
          exact hname (hid.trans hsame)
        refine ⟨fun _ => hnot, fun _ err w'' hrun' => ?_⟩
        rw [hrun, Prod.mk.injEq] at hrun'
        rw [← hrun'.2, Cluster.readOperation, Cluster.readOperation, hothers _ (Ne.symm hname),
          hcluster]
    · obtain ⟨-, hkept⟩ := KubernetesRepository.updateOperation_unwritten (S := S) hwritten
      simp only [hupdate] at hkept
      have hnot : ¬Stranded S s id next w := by
        rintro ⟨r', hfound, hsame, -, -, -, hget, hput, hstatus, -⟩
        rw [hfind] at hfound
        cases hfound
        apply hwritten
        rw [houtcome, houtcome, houtcome, hid, hsame, hthere]
        exact ⟨hget, rfl, hput, hstatus⟩
      refine ⟨fun _ => hnot, fun _ err w'' hrun' => ?_⟩
      rw [hrun, Prod.mk.injEq] at hrun'
      rw [← hrun'.2, Cluster.readOperation, Cluster.readOperation]
      rcases hkept with hsame | ⟨r', hfind', hset⟩
      · rw [hsame, hcluster]
      · rw [hset]
        by_cases hname : resourceName id = resourceName operation.id
        · rw [← hname, hthere, Option.some.injEq] at hfind'
          subst hfind'
          rw [hname, Collection.set_find_self, ← hname, hfind, ← hop]
          simp only [Option.map_some, specWritten_durable]
        · rw [Collection.set_find_of_ne _ hname, hcluster]

end Transition
section Sample

def sampleMeta (name : String) : ObjectMeta := ⟨name, "u", 1, none, [], []⟩

def sampleOperationResource : OperationResource where
  metadata := sampleMeta "o"
  spec := ⟨"i", "fleet.scale", ⟨"", "", "p"⟩, none, none, none, "k"⟩
  status := ⟨"c", .accepted, [], none, [], none⟩

def sampleIntentResource : IntentResource where
  metadata := sampleMeta "i"
  spec := ⟨"fleet.scale", ⟨"", "", "p"⟩, "", "", "", "", "", [], .zero, "c", "k", []⟩
  status := ⟨"c", .accepted, ["o"], none⟩

def stillServer : ApiServer Unit where
  environment :=
    { now := fun e => (.zero, e)
      timeNow := fun e => (.zero, e)
      randRead := fun e => (none, e)
      verifyProof := fun _ _ e => (.ok none, e)
      recordProof := fun _ e => (.ok none, e) }
  stamp := fun _ e => (("u", .zero), e)

def sampleApi : Api Unit where
  cluster :=
    { intents := Collection.empty.set "i" (some sampleIntentResource)
      operations := Collection.empty.set "o" (some sampleOperationResource) }
  environment := ()
  outcomes := [none, none, none, none, none, some (.status 500 "")]

def strandedRun : Except Error FleetOperation × Api Unit :=
  (overKubernetes ((⟨⟨.zero, 8, true⟩, true⟩ : Service).transition "o" .failed "r" "a")).run
    stillServer.serve sampleApi

/-- The transition returns an error, and the operation is read as failed afterwards. -/
theorem stranded_transition : (∃ err, strandedRun.1 = .error err) ∧
    (sampleApi.cluster.readOperation "o").map (·.state) = some .accepted ∧
    (strandedRun.2.cluster.readOperation "o").map (·.state) = some .failed := by
  have hrun : (strandedRun.1.toOption.isNone &&
      decide ((sampleApi.cluster.readOperation "o").map (·.state) = some .accepted) &&
      decide ((strandedRun.2.cluster.readOperation "o").map (·.state) = some .failed)) = true := by
    decide +kernel
  simp only [Bool.and_eq_true, decide_eq_true_eq] at hrun
  obtain ⟨⟨hfailed, hbefore⟩, hafter⟩ := hrun
  refine ⟨?_, hbefore, hafter⟩
  cases hanswer : strandedRun.1 with
  | error err => exact ⟨err, rfl⟩
  | ok operation =>
    rw [hanswer] at hfailed
    cases hfailed

end Sample
end FleetLlmd.Intents
