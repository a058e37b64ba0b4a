import FleetLlmd.Clusters.Agents
import FleetLlmd.Clusters.FailClosed
import FleetLlmd.Clusters.Health
import FleetLlmd.Inference.Gateway

/-!
# Drains among the other calls

Drains, activations, agent reports, passes of the SWIM synchroniser and routed requests,
interleaved call by call over the cluster records and the session table they share. What
surrounds them (metrics, probes, classifications, policies) may change at any time.

Every write of a record goes back to a copy read before. `Writes` says for each of the
calls how the record it writes follows from the copy; `Binds` says that a session is bound
only to a cluster of a health view read before.
-/

namespace FleetLlmd.Drain
open Go Json Ledger Effect Sql Clusters Routing
open Inference (gatewayCalls GatewayCall RouteRequest RouteResponse)

abbrev fleetCalls : Signature := clusterCalls.sum gatewayCalls

inductive Job where
  | drain (id : String)
  | activate (id : String)
  | agentStatus (body : Option Bytes)
  | swimSync (sites : Except Error (List GridSite)) (lastPhases : Phases)
  | route (req : RouteRequest)

inductive Outcome where
  | reply (r : Reply)
  | synced (updated : Except Error Nat) (lastPhases : Phases)
  | routed (resp : Except Error RouteResponse)

structure Fleet where
  controller : FleetController
  gateway : Inference.FleetController
  parseRequestURI : ParseRequestURI

def Fleet.program (fleet : Fleet) : Job → Prog fleetCalls Outcome
  | .drain id => (fleet.controller.handleDrainCluster id).inl.bind fun r => .done (.reply r)
  | .activate id => (fleet.controller.handleActivateCluster id).inl.bind fun r => .done (.reply r)
  | .agentStatus body =>
    (handleAgentStatus fleet.parseRequestURI body).inl.bind fun r => .done (.reply r)
  | .swimSync sites lastPhases =>
    (Clusters.swimSync sites lastPhases).inl.bind fun r => .done (.synced r.1 r.2)
  | .route req => (fleet.gateway.classifyAndRoute req).inr.bind fun r => .done (.routed r)

/-! ## The shared state -/

structure Surroundings where
  metrics : List ClusterMetrics
  probe : String → Option Bool
  answer : Inference.World

abbrev FleetState := World × Surroundings

/-- `ttl` is how long a binding lives, in nanoseconds. -/
def answer (env : Environment) (ttl : Int) : Handler fleetCalls FleetState
  | .inl c, s => ((execute env c s.1).1, ((execute env c s.1).2, s.2))
  | .inr (.lookup sid), s => (s.1.sessions.lookup (env.clock s.1.calls) sid, (s.1.next, s.2))
  | .inr (.bind sid cluster), s =>
    let sessions := s.1.sessions.bind (env.clock s.1.calls) ttl sid cluster
    ((), ({ s.1.next with sessions := sessions }, s.2))
  | .inr (.unbind sid), s => ((), ({ s.1.next with sessions := s.1.sessions.unbind sid }, s.2))
  | .inr .inferenceClusterHealth, s =>
    match env.fault s.1.calls with
    | some _ => (([] : List ClusterHealth), (s.1.next, s.2))
    | none => (buildInferenceClusterHealth s.2.probe s.1.clusters.listClusters s.2.metrics,
        (s.1.next, s.2))
  | .inr c, s => (s.2.answer c, (s.1.next, s.2))

def surround (around : Surroundings) (s : FleetState) : FleetState := (s.1, around)

abbrev Calls (ι : Type) := Pool fleetCalls Outcome ι FleetState

def start {ι : Type} (fleet : Fleet) (jobs : ι → Job) (s : FleetState) : Calls ι :=
  (fun i => Thread.start (fleet.program (jobs i)), s)

def sampleFleet : Fleet where
  controller := ledgerController
  gateway := { hasSessionTable := true }
  parseRequestURI _ := none

def halfHour : Int := 30 * 60 * 1000000000

def sampleState : FleetState :=
  ({ sampleWorld "Running" with sessions := [] }, ⟨[], fun _ => none, Inference.sampleWorld⟩)

/-! ## What the calls have seen -/

def lastRead : List (Event clusterCalls) → Option ClusterRecord
  | [] => none
  | ⟨.get _, .ok r⟩ :: _ => some r
  | _ :: past => lastRead past

def isUpdate (c : ClusterCall) : Bool :=
  match c with
  | .update _ => true
  | _ => false

def updates (past : List (Event clusterCalls)) : Nat := past.countP fun e => isUpdate e.1

theorem updates_update (r : ClusterRecord) (x : Except Error Unit)
    (past : List (Event clusterCalls)) :
    updates (⟨.update r, x⟩ :: past) = updates past + 1 :=
  List.countP_cons_of_pos rfl

def Job.follows (job : Job) (past : List (Event clusterCalls)) (read written : ClusterRecord) :
    Prop :=
  match job with
  | .drain _ => read.isDraining = false ∧ (updates past = 0 → written.isDraining = true)
  | .activate _ => updates past ≠ 0 → written.status = read.status
  | .agentStatus _ => read.isDraining = true → written.status = read.status
  | .swimSync _ _ => True
  | .route _ => False

def Writes (job : Job) (past : List (Event clusterCalls)) : ClusterCall → Prop
  | .update r => ∃ read, lastRead past = some read ∧ r.id = read.id ∧ job.follows past read r
  | .create _ | .delete _ => False
  | _ => True

section Writes
variable {fc : FleetController} {past : List (Event clusterCalls)} {job : Job}

def Idle (past past' : List (Event clusterCalls)) : Prop :=
  lastRead past' = lastRead past ∧ updates past' = updates past

theorem record_writes (decision : Except Error FleetDecision) :
    (record decision).Meets (Writes job) (fun past' _ => Idle past past') past := by
  cases decision with
  | error err => exact ⟨rfl, rfl⟩
  | ok d => exact ⟨trivial, fun x => ⟨rfl, rfl⟩⟩

theorem recordToLedger_writes (entryType clusterID : String) :
    (fc.recordToLedger entryType clusterID).Meets (Writes job) (fun past' _ => Idle past past')
      past := by
  rw [FleetController.recordToLedger]
  by_cases hrecorder : (!fc.fleetRecorder) = true
  · rw [if_pos hrecorder]
    exact ⟨rfl, rfl⟩
  · rw [if_neg hrecorder, Prog.meets_bind]
    refine (record_writes _).imp fun past' result hidle => ?_
    cases result with
    | ok u => exact hidle
    | error err =>
      dsimp only
      split_ifs
      · exact hidle
      · exact hidle

theorem changeRecord_writes {entryType compensationFailed clusterID : String}
    {original changed : ClusterRecord} {succeed : Prog clusterCalls Reply} (read : ClusterRecord)
    {Q : List (Event clusterCalls) → Reply → Prop} (hread : lastRead past = some read)
    (hpast : updates past = 0) (horiginal : original.id = read.id) (hchanged : changed.id = read.id)
    (hfirst : job.follows past read changed)
    (hagain : ∀ past', updates past' = 1 → job.follows past' read original)
    (hfail : ∀ past' status message, Q past' (.error status message))
    (hsucceed : ∀ past', lastRead past' = some read → updates past' = 1 →
      succeed.Meets (Writes job) Q past') :
    (fc.changeRecord entryType compensationFailed clusterID original changed succeed).Meets
      (Writes job) Q past := by
  rw [FleetController.changeRecord]
  refine ⟨⟨read, hread, hchanged, hfirst⟩, fun x => ?_⟩
  cases x with
  | error err => exact hfail _ _ _
  | ok u =>
    have hwritten : updates (⟨.update changed, .ok u⟩ :: past) = 1 := by
      rw [updates_update, hpast]
    rw [Prog.meets_bind]
    refine (recordToLedger_writes entryType clusterID).imp ?_
    rintro past' result ⟨hlast, hcount⟩
    rw [hwritten] at hcount
    cases result with
    | ok u => exact hsucceed past' (hlast.trans hread) hcount
    | error err =>
      refine ⟨⟨read, hlast.trans hread, horiginal, hagain past' hcount⟩, fun y => ?_⟩
      cases y with
      | error rollbackErr => exact hfail _ _ _
      | ok u => exact hfail _ _ _

theorem handleDrainCluster_writes (id : String) :
    (fc.handleDrainCluster id).Meets (Writes (.drain id))
      (fun past reply => reply.isError = false → updates past = 1) [] := by
  rw [FleetController.handleDrainCluster]
  by_cases hid : (id == "") = true
  · rw [if_pos hid]
    rintro ⟨⟩
  · rw [if_neg hid]
    refine ⟨trivial, fun x => ?_⟩
    cases x with
    | error err => rintro ⟨⟩
    | ok current =>
      dsimp only
      split_ifs with hdraining hdrained hother
      · rintro ⟨⟩
      · rintro ⟨⟩
      · rintro ⟨⟩
      · have hread : current.isDraining = false := by
          rw [ClusterRecord.isDraining, Bool.or_eq_false_iff]
          exact ⟨by simpa using hdraining, by simpa using hdrained⟩
        refine ⟨trivial, fun now => ?_⟩
        refine changeRecord_writes current rfl rfl rfl rfl ?_ ?_ ?_ ?_
        · exact ⟨hread, fun _ => rfl⟩
        · exact fun past' h => ⟨hread, fun h' => absurd (h.symm.trans h') (by decide)⟩
        · rintro _ _ _ ⟨⟩
        · intro past' _ hcount
          rw [FleetController.unbindSessions]
          split_ifs
          · exact ⟨trivial, fun _ _ => hcount⟩
          · exact fun _ => hcount

theorem handleActivateCluster_writes (id : String) :
    (fc.handleActivateCluster id).Meets (Writes (.activate id)) (fun _ _ => True) [] := by
  rw [FleetController.handleActivateCluster]
  by_cases hid : (id == "") = true
  · rw [if_pos hid]
    trivial
  · rw [if_neg hid]
    refine ⟨trivial, fun x => ?_⟩
    cases x with
    | error err => trivial
    | ok current =>
      dsimp only
      split_ifs
      · trivial
      · refine ⟨trivial, fun now => ?_⟩
        refine changeRecord_writes current rfl rfl rfl rfl ?_ ?_ ?_ ?_
        · exact fun h => absurd rfl h
        · exact fun _ _ _ => rfl
        · exact fun _ _ _ => trivial
        · exact fun _ _ _ => trivial

theorem applyAgentStatus_writes (report : AgentStatusReport) (status : String)
    {read : ClusterRecord} (hread : lastRead past = some read) :
    (applyAgentStatus read report status).Meets (Writes job)
      (fun past' written => lastRead past' = some read ∧ written.id = read.id ∧
        (read.isDraining = true → written.status = read.status)) past := by
  rw [applyAgentStatus]
  by_cases hdraining : read.isDraining = true
  · rw [if_pos hdraining]
    exact ⟨hread, rfl, fun _ => rfl⟩
  · rw [if_neg hdraining]
    cases lookupKey "activated_at" (read.labels.getD []) with
    | none => exact ⟨hread, rfl, fun h => absurd h hdraining⟩
    | some activatedAt =>
      dsimp only
      cases Time.parse activatedAt.toList with
      | none => exact ⟨hread, rfl, fun h => absurd h hdraining⟩
      | some t =>
        refine ⟨trivial, fun (now : Time) => ⟨hread, ?_, fun h => absurd h hdraining⟩⟩
        split_ifs
        · rfl
        · rfl

theorem handleAgentStatus_writes (parseRequestURI : ParseRequestURI) (body : Option Bytes) :
    (handleAgentStatus parseRequestURI body).Meets (Writes (.agentStatus body)) (fun _ _ => True)
      past := by
  rw [handleAgentStatus]
  cases agentReport parseRequestURI body with
  | error err => trivial
  | ok report =>
    refine ⟨trivial, fun x => ?_⟩
    cases x with
    | error err =>
      dsimp only
      split_ifs
      · trivial
      · trivial
    | ok record =>
      dsimp only
      rw [Prog.meets_bind]
      refine (applyAgentStatus_writes report report.status rfl).imp ?_
      intro past' written ⟨hlast, hid, hkept⟩
      refine ⟨⟨record, hlast, hid, hkept⟩, fun y => ?_⟩
      cases y with
      | error err => trivial
      | ok u => trivial

theorem syncSites_writes (listed : Except Error (List GridSite)) (phases : Phases)
    (sites : List GridSite) (updated : Nat) (lastPhases : Phases) :
    (syncSites sites updated lastPhases).Meets (Writes (.swimSync listed phases))
      (fun _ _ => True) past := by
  induction sites generalizing updated lastPhases past with
  | nil => trivial
  | cons site sites ih =>
    rw [syncSites]
    generalize (if site.phase = GridSitePhase.unset then GridSitePhase.pending else site.phase) =
      phase
    dsimp only
    split_ifs
    · exact ih updated lastPhases
    · refine ⟨trivial, fun x => ?_⟩
      cases x with
      | error err => exact ih updated lastPhases
      | ok record =>
        dsimp only
        split_ifs
        · refine ⟨⟨record, rfl, rfl, trivial⟩, fun y => ?_⟩
          cases y with
          | error err => exact ih updated lastPhases
          | ok u => exact ih (updated + 1) _
        · exact ih updated _

end Writes

/-! ## Bindings -/

def seesHealthy (cluster : String) (past : List (Event gatewayCalls)) : Bool :=
  past.any fun
    | ⟨.inferenceClusterHealth, (view : List ClusterHealth)⟩ =>
      view.any fun h => h.healthy && h.clusterID == cluster
    | _ => false

def Binds (past : List (Event gatewayCalls)) : GatewayCall → Prop
  | .bind _ cluster => seesHealthy cluster past = true
  | _ => True

section Binds
variable {fc : Inference.FleetController} {past : List (Event gatewayCalls)}

theorem routeByPolicy_binds (req : RouteRequest) (result : Option Inference.ClassifyResult)
    (escalated : Bool) :
    (fc.routeByPolicy req result escalated).Meets Binds (fun _ _ => True) past := by
  rw [Inference.FleetController.routeByPolicy]
  refine ⟨trivial, fun (view : List ClusterHealth) => ⟨trivial, fun policy => ?_⟩⟩
  dsimp only
  cases hdecision : evaluate (fc.routingRequest req result) view (policy.getD {}) with
  | error err => trivial
  | ok decision =>
    dsimp only
    by_cases hused : fc.usesSession req.sessionID = true
    · rw [if_pos hused]
      obtain ⟨h, hmem, hhealthy, htarget⟩ := evaluate_targets hdecision
      refine ⟨?_, fun _ => ?_⟩
      · have hview := (mem_filterClustersByTenant.mp hmem).1
        refine List.any_eq_true.mpr ⟨⟨.inferenceClusterHealth, view⟩, by simp, ?_⟩
        exact List.any_eq_true.mpr ⟨h, hview, by simp [hhealthy, htarget]⟩
      · cases result with
        | none => trivial
        | some r => exact ⟨trivial, fun _ => trivial⟩
    · rw [if_neg hused]
      trivial

theorem classifyAndRoute_binds (req : RouteRequest) :
    (fc.classifyAndRoute req).Meets Binds (fun _ _ => True) past := by
  rw [Inference.FleetController.classifyAndRoute]
  refine ⟨trivial, fun (result : Option Inference.ClassifyResult) => ?_⟩
  split_ifs
  · refine ⟨trivial, fun (found : Option String) => ?_⟩
    cases found with
    | none => exact routeByPolicy_binds req result false
    | some boundCluster =>
      cases result with
      | none => trivial
      | some r =>
        refine ⟨trivial, fun (tier : Option String) => ?_⟩
        dsimp only
        split_ifs
        · exact ⟨trivial, fun _ => routeByPolicy_binds req _ true⟩
        · trivial
  · exact routeByPolicy_binds req result false

end Binds

/-! ## The programs -/

def Allowed (job : Job) (past : List (Event fleetCalls)) : fleetCalls.Call → Prop
  | .inl c => Writes job (lefts past) c
  | .inr c => Binds (rights past) c

def Ends (job : Job) (past : List (Event fleetCalls)) (outcome : Outcome) : Prop :=
  match job, outcome with
  | .drain _, .reply r => r.isError = false → updates (lefts past) = 1
  | _, _ => True

theorem program_meets (fleet : Fleet) (job : Job) :
    (fleet.program job).Meets (Allowed job) (Ends job) [] := by
  have hleft {α : Type} {p : Prog clusterCalls α} {f : α → Prog fleetCalls Outcome}
      {Q : List (Event clusterCalls) → α → Prop} (hp : p.Meets (Writes job) Q [])
      (hf : ∀ past a, Q (lefts past) a → (f a).Meets (Allowed job) (Ends job) past) :
      (p.inl.bind f).Meets (Allowed job) (Ends job) [] := by
    rw [Prog.meets_bind]
    exact Prog.Meets.inl (J := fun _ => True) (fun _ _ _ _ => trivial) hp trivial
      (fun _ _ _ h => h) fun past a _ h => hf past a h
  cases job with
  | drain id => exact hleft (handleDrainCluster_writes id) fun _ _ h => h
  | activate id => exact hleft (handleActivateCluster_writes id) fun _ _ _ => trivial
  | agentStatus body =>
    exact hleft (handleAgentStatus_writes fleet.parseRequestURI body) fun _ _ _ => trivial
  | swimSync sites lastPhases =>
    refine hleft (Q := fun _ _ => True) ?_ fun _ _ _ => trivial
    cases sites with
    | error err => trivial
    | ok sites =>
      rw [Clusters.swimSync, Prog.meets_bind]
      exact syncSites_writes _ _ sites 0 lastPhases
  | route req =>
    rw [Fleet.program, Prog.meets_bind]
    exact Prog.Meets.inr (J := fun _ => True) (fun _ _ _ _ _ => trivial)
      (classifyAndRoute_binds req) trivial (fun _ _ _ h => h) fun _ _ _ _ => trivial

end FleetLlmd.Drain
