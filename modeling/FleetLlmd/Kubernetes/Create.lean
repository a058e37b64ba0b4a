import FleetLlmd.Effect.Interrupt
import FleetLlmd.Intents.Lifecycle
import FleetLlmd.Kubernetes.Transition

/-!
# A creation that fails

`KubernetesRepository.Create` posts an intent and an operation and then writes their
statuses. Whichever request fails, what was posted is deleted again, and a resource that
was there before keeps its place, since its name cannot be posted.
-/

namespace FleetLlmd.Kubernetes.Collection
variable {σ τ : Type} {c₀ c : Collection σ τ} {name : String}

structure Adds (c₀ c : Collection σ τ) (name : String) : Prop where
  free : c₀.find name = none
  others : ∀ other, other ≠ name → c.find other = c₀.find other

def Posted (c c' : Collection σ τ) (r : Resource σ τ) : Except Failure (Resource σ τ) → Prop
  | .error _ => c' = c
  | .ok stored => stored.metadata.name = r.metadata.name ∧ c.Adds c' r.metadata.name

theorem posted (r : Resource σ τ) (uid : String) (created : Go.Time) (initial : τ) :
    c.Posted (c.post r uid created initial).2 r (c.post r uid created initial).1 := by
  rw [post]
  cases hfind : c.find r.metadata.name with
  | some stored => rfl
  | none => exact ⟨rfl, hfind, fun other hne => set_find_of_ne c hne _⟩

theorem Adds.of_find_eq {c₁ : Collection σ τ} (h : c₀.Adds c name) (hsame : c₀.find = c₁.find) :
    c₁.Adds c name :=
  ⟨by rw [← hsame, h.free], fun other hne => by rw [h.others other hne, hsame]⟩

theorem Adds.set (h : c₀.Adds c name) (r : Option (Resource σ τ)) : c₀.Adds (c.set name r) name :=
  ⟨h.free, fun other hne => (set_find_of_ne c hne r).trans (h.others other hne)⟩

theorem Adds.replace (h : c₀.Adds c name) (version : Nat) (next : Resource σ τ → Resource σ τ) :
    c₀.Adds (c.replace name version next).2 name := by
  rw [Collection.replace]
  cases c.find name with
  | none => exact h
  | some stored =>
    dsimp only
    split_ifs
    · exact h.set _
    · exact h

theorem Adds.delete (h : c₀.Adds c name) : (c.delete name).2.find = c₀.find := by
  have hothers : ∀ other, other ≠ name → (c.delete name).2.find other = c₀.find other := by
    intro other hne
    rw [Collection.delete]
    cases c.find name with
    | none => exact h.others other hne
    | some stored => exact (h.set none).others other hne
  have hself : (c.delete name).2.find name = none := by
    rw [Collection.delete]
    cases hfind : c.find name with
    | none => exact hfind
    | some stored => exact set_find_self c name none
  funext other
  by_cases hname : other = name
  · rw [hname, hself, h.free]
  · exact hothers other hname

end FleetLlmd.Kubernetes.Collection

namespace FleetLlmd.Intents
open Go Kubernetes Effect Prog

section Undo
variable {ε α : Type} {S : ApiServer ε} {w w' : Api ε}

def cleaned : Event apiCalls → Bool
  | ⟨.deleteIntent _, answer⟩ | ⟨.deleteOperation _, answer⟩ => answer.isOk
  | _ => true

def ApiServer.cleaning (S : ApiServer ε) : Behaviour apiCalls (Api ε) :=
  fun c w answer w' => S.serve c w = (answer, w') ∧ cleaned ⟨c, answer⟩ = true

def SameResources (cluster₀ cluster : Cluster) : Prop :=
  cluster.intents.find = cluster₀.intents.find ∧ cluster.operations.find = cluster₀.operations.find

variable {answer : Except Failure IntentResource}

theorem Api.request_cluster {act : Cluster → Except Failure α × Cluster} {answer : Except Failure α}
    (h : w.request act = (answer, w')) :
    ((∃ failure, answer = .error failure) ∧ w'.cluster = w.cluster) ∨
      (act w.cluster).1 = answer ∧ w'.cluster = (act w.cluster).2 := by
  rw [Api.request] at h
  cases hnext : w.next <;> rw [hnext] at h <;> cases h
  · exact .inr ⟨rfl, rfl⟩
  · exact .inl ⟨⟨_, rfl⟩, rfl⟩

theorem Api.request_ok {act : Cluster → Except Failure α × Cluster} {a : α}
    (h : w.request act = (.ok a, w')) : w'.cluster = (act w.cluster).2 := by
  obtain ⟨⟨failure, herr⟩, -⟩ | hok := Api.request_cluster h
  · cases herr
  · exact hok.2

theorem serve_postIntent {r : IntentResource} (h : S.serve (.postIntent r) w = (answer, w')) :
    w'.cluster.operations = w.cluster.operations ∧
      w.cluster.intents.Posted w'.cluster.intents r answer := by
  simp only [ApiServer.serve] at h
  rcases Api.request_cluster h with ⟨⟨failure, rfl⟩, hcluster⟩ | ⟨rfl, hcluster⟩ <;> rw [hcluster]
  · exact ⟨rfl, rfl⟩
  · exact ⟨rfl, Collection.posted ..⟩

theorem serve_postOperation {r : OperationResource} {answer : Except Failure OperationResource}
    (h : S.serve (.postOperation r) w = (answer, w')) :
    w'.cluster.intents = w.cluster.intents ∧
      w.cluster.operations.Posted w'.cluster.operations r answer := by
  simp only [ApiServer.serve] at h
  rcases Api.request_cluster h with ⟨⟨failure, rfl⟩, hcluster⟩ | ⟨rfl, hcluster⟩ <;> rw [hcluster]
  · exact ⟨rfl, rfl⟩
  · exact ⟨rfl, Collection.posted ..⟩

theorem serve_deleteIntent {name : String} {u : Unit}
    (h : S.serve (.deleteIntent name) w = (.ok u, w')) :
    w'.cluster = { w.cluster with intents := (w.cluster.intents.delete name).2 } := by
  simp only [ApiServer.serve] at h
  exact Api.request_ok h

theorem serve_deleteOperation {name : String} {u : Unit}
    (h : S.serve (.deleteOperation name) w = (.ok u, w')) :
    w'.cluster = { w.cluster with operations := (w.cluster.operations.delete name).2 } := by
  simp only [ApiServer.serve] at h
  exact Api.request_ok h

theorem serve_putOperationStatus {name : String} {r : OperationResource}
    {answer : Except Failure OperationResource}
    (h : S.serve (.putOperationStatus name r) w = (answer, w')) :
    w'.cluster.intents = w.cluster.intents ∧
      (w'.cluster.operations = w.cluster.operations ∨
        w'.cluster.operations = (w.cluster.operations.putStatus name r).2) := by
  simp only [ApiServer.serve] at h
  rcases Api.request_cluster h with ⟨-, hcluster⟩ | ⟨-, hcluster⟩ <;> rw [hcluster]
  · exact ⟨rfl, .inl rfl⟩
  · exact ⟨rfl, .inr rfl⟩

theorem serve_putIntentStatus {name : String} {r : IntentResource}
    (h : S.serve (.putIntentStatus name r) w = (answer, w')) :
    w'.cluster.operations = w.cluster.operations ∧
      (w'.cluster.intents = w.cluster.intents ∨
        w'.cluster.intents = (w.cluster.intents.putStatus name r).2) := by
  simp only [ApiServer.serve] at h
  rcases Api.request_cluster h with ⟨-, hcluster⟩ | ⟨-, hcluster⟩ <;> rw [hcluster]
  · exact ⟨rfl, .inl rfl⟩
  · exact ⟨rfl, .inr rfl⟩

variable {cluster₀ : Cluster} {intentName operationName : String}

theorem deleteIntent_undoes (hadds : cluster₀.intents.Adds w.cluster.intents intentName)
    (hoperations : w.cluster.operations.find = cluster₀.operations.find) :
    (deleteIntentRequest intentName).Guards S.cleaning (fun _ => True)
      (fun _ w => SameResources cluster₀ w.cluster) w := by
  refine ⟨trivial, fun answer w' h => ⟨trivial, ?_⟩⟩
  obtain ⟨hserve, hcleaned⟩ := h
  cases answer with
  | error failure => cases hcleaned
  | ok u =>
    rw [SameResources, serve_deleteIntent hserve]
    exact ⟨hadds.delete, hoperations⟩

theorem cleanupCreate_undoes (hintents : cluster₀.intents.Adds w.cluster.intents intentName)
    (hoperations : cluster₀.operations.Adds w.cluster.operations operationName) :
    (KubernetesRepository.cleanupCreate intentName operationName).Guards S.cleaning (fun _ => True)
      (fun _ w => SameResources cluster₀ w.cluster) w := by
  rw [KubernetesRepository.cleanupCreate]
  simp only [bind_eq_bind, deleteOperationRequest, request_bind]
  refine ⟨trivial, fun answer w' h => ?_⟩
  obtain ⟨hserve, hcleaned⟩ := h
  cases answer with
  | error failure => cases hcleaned
  | ok u =>
    have hundoes : (deleteIntentRequest intentName).Guards S.cleaning (fun _ => True)
        (fun _ w => SameResources cluster₀ w.cluster) w' := by
      apply deleteIntent_undoes
      · rw [serve_deleteOperation hserve]
        exact hintents
      · rw [serve_deleteOperation hserve]
        exact hoperations.delete
    exact hundoes.bind fun _ _ hsame => ⟨trivial, hsame⟩

def Undone (cluster₀ : Cluster) (result : Except Error Unit) (w : Api ε) : Prop :=
  result.isOk = false → SameResources cluster₀ w.cluster

theorem cleanupCreate_then {err : Error}
    (hintents : cluster₀.intents.Adds w.cluster.intents intentName)
    (hoperations : cluster₀.operations.Adds w.cluster.operations operationName) :
    ((KubernetesRepository.cleanupCreate intentName operationName).bind fun _ =>
      .done (.error err)).Guards S.cleaning (fun _ => True) (Undone cluster₀) w :=
  (cleanupCreate_undoes hintents hoperations).bind fun _ _ hsame => ⟨trivial, fun _ => hsame⟩

theorem initializeStatus_undoes {intentResource createdIntent : IntentResource}
    {operationResource createdOperation : OperationResource}
    (hintents : cluster₀.intents.Adds w.cluster.intents createdIntent.metadata.name)
    (hoperations : cluster₀.operations.Adds w.cluster.operations createdOperation.metadata.name) :
    (KubernetesRepository.initializeStatus intentResource createdIntent operationResource
      createdOperation).Guards S.cleaning (fun _ => True) (Undone cluster₀) w := by
  rw [KubernetesRepository.initializeStatus]
  simp only [bind_eq_bind, putOperationStatusRequest, request_bind]
  refine ⟨trivial, fun answer w₁ h₁ => ?_⟩
  obtain ⟨hsame₁, hstatus₁⟩ := serve_putOperationStatus h₁.1
  rw [← hsame₁] at hintents
  -- a write of a status touches no other name, whether it is made or not
  have hoperations₁ :
      cluster₀.operations.Adds w₁.cluster.operations createdOperation.metadata.name := by
    rcases hstatus₁ with hstatus | hstatus
    · rwa [hstatus]
    · rw [hstatus]
      exact hoperations.replace _ _
  cases answer with
  | error failure => exact cleanupCreate_then hintents hoperations₁
  | ok written =>
    simp only [settle_ok, putIntentStatusRequest, request_bind]
    refine ⟨trivial, fun answer w₂ h₂ => ?_⟩
    obtain ⟨hsame₂, hstatus₂⟩ := serve_putIntentStatus h₂.1
    cases answer with
    | ok written => exact ⟨trivial, by rintro ⟨⟩⟩
    | error failure =>
      apply cleanupCreate_then
      · rcases hstatus₂ with hstatus | hstatus
        · rwa [hstatus]
        · rw [hstatus]
          exact hintents.replace _ _
      · rwa [hsame₂]

theorem createResources_undoes (intentResource : IntentResource)
    (operationResource : OperationResource) (hsame : SameResources cluster₀ w.cluster) :
    (KubernetesRepository.createResources intentResource operationResource).Guards S.cleaning
      (fun _ => True) (Undone cluster₀) w := by
  rw [KubernetesRepository.createResources]
  simp only [bind_eq_bind, postIntentRequest, request_bind]
  refine ⟨trivial, fun answer w₁ h₁ => ?_⟩
  obtain ⟨hoperations₁, hposted₁⟩ := serve_postIntent h₁.1
  cases answer with
  | error failure =>
    refine ⟨trivial, fun _ => ?_⟩
    rw [SameResources, hposted₁, hoperations₁]
    exact hsame
  | ok createdIntent =>
    obtain ⟨hname₁, hadds₁⟩ := hposted₁
    have hintents : cluster₀.intents.Adds w₁.cluster.intents createdIntent.metadata.name :=
      hname₁ ▸ hadds₁.of_find_eq hsame.1
    simp only [settle_ok, postOperationRequest, request_bind]
    refine ⟨trivial, fun answer w₂ h₂ => ?_⟩
    obtain ⟨hintents₂, hposted₂⟩ := serve_postOperation h₂.1
    rw [← hintents₂] at hintents
    cases answer with
    | error failure =>
      have hundoes := deleteIntent_undoes (S := S) hintents (by rw [hposted₂, hoperations₁, hsame.2])
      exact hundoes.bind fun _ _ hundone => ⟨trivial, fun _ => hundone⟩
    | ok createdOperation =>
      obtain ⟨hname₂, hadds₂⟩ := hposted₂
      rw [hoperations₁] at hadds₂
      exact initializeStatus_undoes hintents (hname₂ ▸ hadds₂.of_find_eq hsame.2)

theorem create_undoes (intent : FleetIntent) (operation : FleetOperation) (w : Api ε) :
    (KubernetesRepository.create intent operation).Guards S.cleaning (fun _ => True)
      (Undone w.cluster) w := by
  rw [KubernetesRepository.create]
  cases KubernetesRepository.reconciled intent operation with
  | error err => exact ⟨trivial, fun _ => ⟨rfl, rfl⟩⟩
  | ok reconciled =>
    dsimp only
    split_ifs
    · refine ⟨trivial, fun now w' h => ?_⟩
      have hsame : SameResources w.cluster w'.cluster := by
        rw [← (Prod.mk.inj h.1).2]
        exact ⟨rfl, rfl⟩
      simp only [done_bind]
      cases toIntentResource reconciled.1 reconciled.2 now.utc with
      | error err => exact ⟨trivial, fun _ => hsame⟩
      | ok intentResource => exact createResources_undoes _ _ hsame
    · simp only [bind_eq_bind, pure_eq_done, done_bind]
      cases toIntentResource reconciled.1 reconciled.2 reconciled.1.createdAt.utc with
      | error err => exact ⟨trivial, fun _ => ⟨rfl, rfl⟩⟩
      | ok intentResource => exact createResources_undoes _ _ ⟨rfl, rfl⟩

/-- Whichever requests fail, a creation that returns an error leaves the resources as they were,
as long as the deletions it asks for are made. -/
theorem failed_create_undone (S : ApiServer ε) (intent : FleetIntent) (operation : FleetOperation)
    (w : Api ε) (hdeletions : ∀ e ∈ (KubernetesRepository.create intent operation).trace S.serve w,
      cleaned e = true) (err : Error)
    (herr : ((KubernetesRepository.create intent operation).run S.serve w).1 = .error err) :
    SameResources w.cluster
      ((KubernetesRepository.create intent operation).run S.serve w).2.cluster := by
  have hends := (create_undoes intent operation w).ends (Ends.of_run hdeletions)
  refine hends ?_
  rw [herr]
  rfl

end Undo

section Sample

def sampleCreated : FleetOperation := { FleetOperation.empty with id := "o" }

def takenApi : Api Unit where
  cluster :=
    { intents := .empty
      operations := Collection.empty.set "o" (some sampleOperationResource) }
  environment := ()
  outcomes := []

def takenRun : Except Error Unit × Api Unit :=
  (KubernetesRepository.create sampleIntent sampleCreated).run stillServer.serve takenApi

theorem taken_create_undone :
    takenRun.1.isOk = false ∧ SameResources takenApi.cluster takenRun.2.cluster := by
  have hfailed : takenRun.1.isOk = false := by decide +kernel
  have hcleaned : ∀ e ∈ (KubernetesRepository.create sampleIntent sampleCreated).trace
      stillServer.serve takenApi, cleaned e = true := by decide +kernel
  refine ⟨hfailed, ?_⟩
  rw [takenRun] at hfailed ⊢
  cases hrun : ((KubernetesRepository.create sampleIntent sampleCreated).run stillServer.serve
      takenApi).1 with
  | ok u =>
    rw [hrun] at hfailed
    cases hfailed
  | error err =>
    exact failed_create_undone stillServer sampleIntent sampleCreated takenApi hcleaned err hrun

end Sample
end FleetLlmd.Intents
