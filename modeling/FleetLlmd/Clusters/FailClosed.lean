import FleetLlmd.Clusters.Handlers
import FleetLlmd.Clusters.Sessions

/-!
# Failing closed

With a configured ledger, a cluster request that is answered with an error leaves the
cluster records and the session bindings as they were, unless the error says that the
change could not be taken back; and a request that changed a record and succeeded has
its evidence in the ledger. Any call to the repository or the ledger may fail without
effect. Deregistration is taken back by creating the record again, which fills in a
status and an instant of registration, so the records must have these.
-/

namespace FleetLlmd.Clusters
open Go Json Ledger Effect Sql

/-! ## The world of the handlers -/

structure Environment where
  fault : Nat → Option Error
  clock : Nat → Time
  newID : Nat → String
  clock_set : ∀ n, (clock n).isZero = false

structure World where
  clusters : ClusterTable
  sessions : SessionAffinityTable
  ledger : List FleetDecision
  calls : Nat

def World.next (w : World) : World := { w with calls := w.calls + 1 }

def execute (env : Environment) : Handler clusterCalls World := fun c w =>
  match c with
  | .now => (env.clock w.calls, w.next)
  | .unbindCluster id => ((), { w.next with sessions := w.sessions.unbindCluster id })
  | .get id =>
    match env.fault w.calls with
    | some err => (.error err, w.next)
    | none => (w.clusters.getCluster id, w.next)
  | .create r =>
    match env.fault w.calls with
    | some err => (.error err, w.next)
    | none =>
      let result := w.clusters.createCluster r (env.clock w.calls) (env.newID w.calls)
      (result.1, { w.next with clusters := result.2 })
  | .update r =>
    match env.fault w.calls with
    | some err => (.error err, w.next)
    | none =>
      let result := w.clusters.updateCluster r (env.clock w.calls)
      (result.1, { w.next with clusters := result.2 })
  | .delete id =>
    match env.fault w.calls with
    | some err => (.error err, w.next)
    | none =>
      let result := w.clusters.deleteCluster id
      (result.1, { w.next with clusters := result.2 })
  | .recordDecision d =>
    match env.fault w.calls with
    | some err => (.error err, w.next)
    | none => (.ok (), { w.next with ledger := d :: w.ledger })

def serveAll (fc : FleetController) (env : Environment) (requests : List ClusterRequest)
    (w : World) : World :=
  requests.foldl (fun w r => ((fc.handle r).run (execute env) w).2) w

structure FailsClosed (r : ClusterRequest) (w : World) (reply : Reply) (w' : World) : Prop where
  unchanged : reply.isError = true → reply.compensationFailed = false →
    SameRecords w.clusters w'.clusters ∧ w'.sessions = w.sessions
  recorded : reply.isError = false → w'.clusters ≠ w.clusters →
    ∃ d, r.decision = .ok d ∧ w'.ledger = d :: w.ledger

/-! ## Rules for the calls -/

section Rules
variable {env : Environment} {Q : Reply → World → Prop} {w : World}

def Ends (env : Environment) (Q : Reply → World → Prop) (p : Prog clusterCalls Reply) (w : World) :
    Prop :=
  Q (p.run (execute env) w).1 (p.run (execute env) w).2

theorem ends_of_call {c : ClusterCall} {k : c.Answer → Prog clusterCalls Reply} {a : c.Answer}
    {w' : World} (hcall : execute env c w = (a, w')) (h : Ends env Q (k a) w') :
    Ends env Q (.call c k) w := by
  rw [Ends, Prog.run_call]
  dsimp only at hcall ⊢
  rw [hcall]
  exact h

theorem ends_get_unless {id : String} {k : Except Error ClusterRecord → Prog clusterCalls Reply}
    (hfail : ∀ err, (env.fault w.calls = none → w.clusters.find id = none) →
      Ends env Q (k (.error err)) w.next)
    (hok : ∀ r, env.fault w.calls = none → w.clusters.find id = some r →
      Ends env Q (k (.ok r)) w.next) :
    Ends env Q (.call (.get id) k) w := by
  cases hfault : env.fault w.calls with
  | some err =>
    exact ends_of_call (by rw [execute, hfault]) (hfail err fun h => nomatch hfault.symm.trans h)
  | none =>
    cases hfind : w.clusters.find id with
    | none =>
      have hget : w.clusters.getCluster id = .error (.wrapf "%w: %q" [id] errClusterNotFound) := by
        rw [ClusterTable.getCluster, hfind]
      exact ends_of_call (by rw [execute, hfault, hget]) (hfail _ fun _ => hfind)
    | some r =>
      have hget : w.clusters.getCluster id = .ok r := by rw [ClusterTable.getCluster, hfind]
      exact ends_of_call (by rw [execute, hfault, hget]) (hok r hfault hfind)

theorem ends_get {id : String} {k : Except Error ClusterRecord → Prog clusterCalls Reply}
    (hfail : ∀ err, Ends env Q (k (.error err)) w.next)
    (hok : ∀ r, w.clusters.find id = some r → Ends env Q (k (.ok r)) w.next) :
    Ends env Q (.call (.get id) k) w :=
  ends_get_unless (fun err _ => hfail err) fun r _ hfind => hok r hfind

variable {k : Except Error Unit → Prog clusterCalls Reply}

theorem ends_create {r : ClusterRecord} (hfail : ∀ err, Ends env Q (k (.error err)) w.next)
    (hok : ∀ t now newID, now.isZero = false →
      w.clusters.insert (ClusterTable.stored r now newID) = some t →
      Ends env Q (k (.ok ())) { w.next with clusters := t }) :
    Ends env Q (.call (.create r) k) w := by
  cases hfault : env.fault w.calls with
  | some err => exact ends_of_call (by rw [execute, hfault]) (hfail err)
  | none =>
    rcases w.clusters.createCluster_cases r (env.clock w.calls) (env.newID w.calls) with
      ⟨err, hcreate⟩ | ⟨t, hcreate, hinsert⟩
    · exact ends_of_call (by rw [execute, hfault, hcreate]; rfl) (hfail err)
    · exact ends_of_call (by rw [execute, hfault, hcreate])
        (hok t _ _ (env.clock_set w.calls) hinsert)

theorem ends_update_unless {r : ClusterRecord}
    (hfail : ∀ err, (env.fault w.calls = none → ∀ old, w.clusters.find r.id = some old →
      r.name ≠ old.name) → Ends env Q (k (.error err)) w.next)
    (hok : ∀ old t now, env.fault w.calls = none → w.clusters.find r.id = some old →
      w.clusters.replace { r with registeredAt := old.registeredAt, updatedAt := now } = some t →
      Ends env Q (k (.ok ())) { w.next with clusters := t }) :
    Ends env Q (.call (.update r) k) w := by
  cases hfault : env.fault w.calls with
  | some err =>
    exact ends_of_call (by rw [execute, hfault]) (hfail err fun h => nomatch hfault.symm.trans h)
  | none =>
    rcases w.clusters.updateCluster_cases r (env.clock w.calls) with
      ⟨err, hupdate⟩ | ⟨old, t, hupdate, hfind, hreplace⟩
    · refine ends_of_call (by rw [execute, hfault, hupdate]; rfl)
        (hfail err fun _ old hfind hname => ?_)
      obtain ⟨t, hreplace⟩ := Table.replace_of_unique
        (r := { r with registeredAt := old.registeredAt, updatedAt := env.clock w.calls }) hfind hname
      rw [ClusterTable.updateCluster, hfind] at hupdate
      dsimp only at hupdate
      rw [hreplace] at hupdate
      cases hupdate
    · exact ends_of_call (by rw [execute, hfault, hupdate]) (hok old t _ hfault hfind hreplace)

theorem ends_update {r : ClusterRecord} (hfail : ∀ err, Ends env Q (k (.error err)) w.next)
    (hok : ∀ old t now, w.clusters.find r.id = some old →
      w.clusters.replace { r with registeredAt := old.registeredAt, updatedAt := now } = some t →
      Ends env Q (k (.ok ())) { w.next with clusters := t }) :
    Ends env Q (.call (.update r) k) w :=
  ends_update_unless (fun err _ => hfail err) fun old t now _ hfind hreplace =>
    hok old t now hfind hreplace

theorem ends_delete {id : String} (hfail : ∀ err, Ends env Q (k (.error err)) w.next)
    (hok : Ends env Q (k (.ok ())) { w.next with clusters := w.clusters.delete id }) :
    Ends env Q (.call (.delete id) k) w := by
  cases hfault : env.fault w.calls with
  | some err => exact ends_of_call (by rw [execute, hfault]) (hfail err)
  | none =>
    rcases w.clusters.deleteCluster_cases id with ⟨err, hdelete⟩ | hdelete
    · exact ends_of_call (by rw [execute, hfault, hdelete]; rfl) (hfail err)
    · exact ends_of_call (by rw [execute, hfault, hdelete]) hok

theorem ends_recordDecision {d : FleetDecision}
    (hfail : ∀ err, env.fault w.calls = some err → Ends env Q (k (.error err)) w.next)
    (hok : env.fault w.calls = none →
      Ends env Q (k (.ok ())) { w.next with ledger := d :: w.ledger }) :
    Ends env Q (.call (.recordDecision d) k) w := by
  cases hfault : env.fault w.calls with
  | some err => exact ends_of_call (by rw [execute, hfault]) (hfail err hfault)
  | none => exact ends_of_call (by rw [execute, hfault]) (hok hfault)

theorem ends_record {decision : Except Error FleetDecision}
    (hfail : ∀ err w', w'.clusters = w.clusters → w'.sessions = w.sessions →
      Ends env Q (k (.error err)) w')
    (hok : ∀ d, decision = .ok d → Ends env Q (k (.ok ())) { w.next with ledger := d :: w.ledger }) :
    Ends env Q ((record decision).bind k) w := by
  cases decision with
  | error err => exact hfail err w rfl rfl
  | ok d => exact ends_recordDecision (fun err _ => hfail err w.next rfl rfl) fun _ => hok d rfl

end Rules

/-! ## Answers -/

section Answers
variable {r : ClusterRequest} {w w' : World} {status : Nat}

def Leaves (r : ClusterRequest) (w : World) (reply : Reply) (w' : World) : Prop :=
  FailsClosed r w reply w' ∧ Complete w'.clusters

theorem leaves_error {message : Error} (hsame : SameRecords w.clusters w'.clusters)
    (hsessions : w'.sessions = w.sessions) (hcomplete : Complete w'.clusters) :
    Leaves r w (.error status message) w' :=
  ⟨⟨fun _ _ => ⟨hsame, hsessions⟩, nofun⟩, hcomplete⟩

theorem leaves_untouched {message : Error} (hclusters : w'.clusters = w.clusters)
    (hsessions : w'.sessions = w.sessions) (hcomplete : Complete w.clusters) :
    Leaves r w (.error status message) w' :=
  leaves_error (hclusters ▸ .refl _) hsessions (hclusters ▸ hcomplete)

theorem leaves_failed {message : Error}
    (hfailed : (Reply.error status message).compensationFailed = true)
    (hcomplete : Complete w'.clusters) : Leaves r w (.error status message) w' := by
  refine ⟨⟨fun _ h => ?_, nofun⟩, hcomplete⟩
  rw [hfailed] at h
  cases h

theorem leaves_recorded {members : List (String × String)} {d : FleetDecision}
    (hdecision : r.decision = .ok d) (hledger : w'.ledger = d :: w.ledger)
    (hcomplete : Complete w'.clusters) : Leaves r w (.json status members) w' :=
  ⟨⟨nofun, fun _ _ => ⟨d, hdecision, hledger⟩⟩, hcomplete⟩

end Answers

/-! ## The handlers -/

section Handlers
variable {fc : FleetController} {env : Environment} {w : World}

theorem sameRecords_insert_delete {t t' : ClusterTable} {r : ClusterRecord}
    (h : t.insert r = some t') : SameRecords t (t'.delete r.id) := by
  intro id
  rw [Table.find_delete, Table.find_insert h]
  by_cases hid : id = r.id
  · rw [if_pos hid, hid, Table.find_of_insert h]
  · rw [if_neg hid, if_neg (Ne.symm hid)]

theorem sameRecords_delete_insert {t t' : ClusterTable} {id : String} {r r' : ClusterRecord}
    (hfind : t.find id = some r) (hid : r'.id = id) (hcontent : r'.content = r.content)
    (h : (t.delete id).insert r' = some t') : SameRecords t t' := by
  intro k
  rw [Table.find_insert h, Table.find_delete, hid]
  by_cases hk : id = k
  · rw [if_pos hk, ← hk, hfind, Option.map_some, Option.map_some, hcontent]
  · rw [if_neg hk, if_neg (Ne.symm hk)]

theorem sameRecords_replace_replace {t t₁ t₂ : ClusterTable} {r changed r' : ClusterRecord}
    (hfind : t.find r.id = some r) (h₁ : t.replace changed = some t₁) (hchanged : changed.id = r.id)
    (h₂ : t₁.replace r' = some t₂) (hid : r'.id = r.id) (hcontent : r'.content = r.content) :
    SameRecords t t₂ := by
  intro k
  rw [Table.find_replace h₂, Table.find_replace h₁, hid, hchanged]
  by_cases hk : r.id = k
  · rw [if_pos hk, if_pos hk, ← hk, hfind, Option.map_some, Option.map_some, Option.map_some,
      Option.map_some, hcontent]
  · rw [if_neg hk, if_neg hk]

structure FleetController.HasLedger (fc : FleetController) : Prop where
  recorder : fc.fleetRecorder = true
  gateway : fc.ledgerGatewayURL ≠ ""

theorem normalize_normalized {cluster reg : ClusterRegistration}
    (h : normalizeClusterRegistration cluster = .ok reg) :
    reg.id ≠ "" ∧ normalizeClusterRegistration reg = .ok reg := by
  rw [normalizeClusterRegistration] at h
  by_cases hname : blank cluster.name = true
  · rw [if_pos hname] at h
    cases h
  rw [if_neg hname] at h
  generalize hfilled : (if blank cluster.id then
    { cluster with id := stableClusterID cluster.name } else cluster) = filled at h
  by_cases hid : (filled.id == "") = true
  · rw [if_pos hid] at h
    cases h
  rw [if_neg hid] at h
  obtain rfl := Except.ok.inj h
  have hsame : filled.name = cluster.name ∧
      (blank filled.id = true → { filled with id := stableClusterID filled.name } = filled) := by
    rw [← hfilled]
    split_ifs with hblank
    · exact ⟨rfl, fun _ => rfl⟩
    · exact ⟨rfl, fun h => absurd h hblank⟩
  refine ⟨by simpa using hid, ?_⟩
  rw [normalizeClusterRegistration, hsame.1, if_neg hname]
  by_cases hblank : blank filled.id = true
  · rw [if_pos hblank, ← hsame.1, hsame.2 hblank, if_neg hid]
  · rw [if_neg hblank, if_neg hid]

theorem registration_cases (body : Option Bytes) :
    (∃ status message, registration body = .error (.error status message)) ∨
      ∃ cluster reg, registration body = .ok reg ∧
        normalizeClusterRegistration cluster = .ok reg := by
  rw [registration]
  cases decodeJSON (decodeStruct false registrationFields) body {} with
  | error err => exact .inl ⟨_, _, rfl⟩
  | ok req =>
    dsimp only
    split_ifs
    · exact .inl ⟨_, _, rfl⟩
    · exact .inl ⟨_, _, rfl⟩
    · cases hnormal : normalizeClusterRegistration req with
      | error err => exact .inl ⟨_, _, rfl⟩
      | ok reg => exact .inr ⟨req, reg, rfl, hnormal⟩

theorem register_leaves (hledger : fc.HasLedger) (hw : Complete w.clusters) (body : Option Bytes) :
    Ends env (Leaves (.register body) w) (fc.handleRegisterCluster body) w := by
  rw [FleetController.handleRegisterCluster]
  rcases registration_cases body with ⟨status, message, hbody⟩ | ⟨cluster, reg, hbody, hreg⟩
  · rw [hbody]
    exact leaves_untouched rfl rfl hw
  obtain ⟨hid, hnormal⟩ := normalize_normalized hreg
  rw [hbody]
  dsimp only
  rw [FleetController.registerCluster, registerClient, hnormal]
  apply ends_create
  · exact fun err => leaves_untouched rfl rfl hw
  intro t now newID hnow hinsert
  have hstored := ClusterTable.stored_complete reg.record hnow newID
  have hcomplete : Complete t := ClusterTable.complete_insert hw hstored hinsert
  dsimp only [Prog.done_bind]
  rw [if_neg (by rw [hledger.recorder]; decide), Prog.bind_assoc]
  apply ends_record
  · intro err w₁ hclusters hsessions
    dsimp only
    rw [if_neg (by simpa using hledger.gateway), deregisterClient, if_neg (by simpa using hid)]
    apply ends_delete
    · exact fun rollbackErr => leaves_failed rfl (hclusters ▸ hcomplete)
    · refine leaves_error ?_ hsessions ?_
      · have hsame := sameRecords_insert_delete hinsert
        rw [ClusterTable.stored_id (r := reg.record) hid] at hsame
        exact hclusters ▸ hsame
      · exact hclusters ▸ ClusterTable.complete_delete hcomplete reg.id
  · intro d hd
    refine leaves_recorded ?_ rfl hcomplete
    rw [ClusterRequest.decision, hbody]
    exact hd

theorem deregister_leaves (hledger : fc.HasLedger) (hw : Complete w.clusters) (id : String) :
    Ends env (Leaves (.deregister id) w) (fc.handleDeregisterCluster id) w := by
  rw [FleetController.handleDeregisterCluster]
  by_cases hempty : (id == "") = true
  · rw [if_pos hempty]
    exact leaves_untouched rfl rfl hw
  rw [if_neg hempty]
  apply ends_get
  · exact fun err => leaves_untouched rfl rfl hw
  intro current hfind
  dsimp only
  rw [deregisterClient, if_neg hempty]
  apply ends_delete
  · exact fun err => leaves_untouched rfl rfl hw
  dsimp only [Prog.done_bind]
  rw [if_neg (by rw [hledger.recorder]; decide)]
  apply ends_record
  · intro err w₁ hclusters hsessions
    dsimp only
    rw [if_neg (by simpa using hledger.gateway)]
    have hcomplete : Complete w₁.clusters := hclusters ▸ ClusterTable.complete_delete hw id
    apply ends_create
    · exact fun rollbackErr => leaves_failed rfl hcomplete
    · intro t now newID hnow hinsert
      have hid : current.id = id := Table.key_of_find hfind
      have hstored := ClusterTable.stored_complete (cloneClusterRecord current) hnow newID
      refine leaves_error ?_ hsessions (ClusterTable.complete_insert hcomplete hstored hinsert)
      rw [hclusters] at hinsert
      have hne : (cloneClusterRecord current).id ≠ "" := by
        rw [cloneClusterRecord, hid]
        simpa using hempty
      refine sameRecords_delete_insert hfind ?_ ?_ hinsert
      · rw [ClusterTable.stored_id hne]
        exact hid
      · exact ClusterTable.content_stored hne (hw current (Table.mem_of_find hfind))
  · intro d hd
    exact leaves_recorded hd rfl (ClusterTable.complete_delete hw id)

/-- A record is changed, recorded and, without evidence, written back. `hfind` says that the record
was just read. -/
theorem changeRecord_leaves {r : ClusterRequest} {entryType failed clusterID : String} {w₀ : World}
    {current changed : ClusterRecord} {succeed : Prog clusterCalls Reply} (hledger : fc.HasLedger)
    (hw : w.clusters = w₀.clusters ∧ w.sessions = w₀.sessions ∧ w.ledger = w₀.ledger)
    (hcomplete : Complete w.clusters) (hfind : w.clusters.find current.id = some current)
    (hid : changed.id = current.id) (hstatus : changed.status ≠ "") (hfailed : ∀ shown cause,
      (Reply.error 500 (.wrapv failed [] shown cause)).compensationFailed = true)
    (hdecision : r.decision = placementDecision entryType clusterID 0 "" entryType)
    (hsucceed : ∀ w' d, r.decision = .ok d → w'.ledger = d :: w₀.ledger → Complete w'.clusters →
      Ends env (Leaves r w₀) succeed w') :
    Ends env (Leaves r w₀)
      (fc.changeRecord entryType failed clusterID (cloneClusterRecord current) changed succeed)
      w := by
  have hcurrent : current.Complete := hcomplete current (Table.mem_of_find hfind)
  rw [FleetController.changeRecord]
  apply ends_update
  · exact fun err => leaves_untouched hw.1 hw.2.1 (hw.1 ▸ hcomplete)
  intro old t₁ now₁ hold hreplace₁
  rw [hid, hfind] at hold
  rw [← Option.some.inj hold] at hreplace₁
  have hcomplete₁ : Complete t₁ := by
    refine ClusterTable.complete_replace hcomplete ?_ hreplace₁
    exact ⟨hstatus, hcurrent.2⟩
  dsimp only [FleetController.recordToLedger]
  rw [if_neg (by rw [hledger.recorder]; decide), Prog.bind_assoc]
  apply ends_record
  · intro err w₁ hclusters hsessions
    dsimp only
    rw [if_neg (by simpa using hledger.gateway)]
    apply ends_update
    · exact fun rollbackErr => leaves_failed (hfailed _ _) (hclusters ▸ hcomplete₁)
    · intro old t₂ now₂ hold hreplace₂
      dsimp only at hclusters
      -- what is in the table now is the changed record, registered when the original was
      have hregistered : old.registeredAt = current.registeredAt := by
        have hchanged : t₁.find current.id = some old := hclusters ▸ hold
        rw [Table.find_replace hreplace₁, if_pos hid, hfind] at hchanged
        rw [← Option.some.inj hchanged]
      rw [hclusters, hregistered] at hreplace₂
      refine leaves_error ?_ (hsessions.trans hw.2.1) ?_
      · rw [← hw.1]
        exact sameRecords_replace_replace hfind hreplace₁ hid hreplace₂ rfl rfl
      · refine ClusterTable.complete_replace hcomplete₁ ?_ hreplace₂
        exact ⟨hcurrent.1, hcurrent.2⟩
  · intro d hd
    exact hsucceed _ d (hdecision.trans hd) (congrArg _ hw.2.2) hcomplete₁

theorem drain_leaves (hledger : fc.HasLedger) (hw : Complete w.clusters) (id : String) :
    Ends env (Leaves (.drain id) w) (fc.handleDrainCluster id) w := by
  rw [FleetController.handleDrainCluster]
  split_ifs
  · exact leaves_untouched rfl rfl hw
  apply ends_get
  · exact fun err => leaves_untouched rfl rfl hw
  intro current hfind
  obtain rfl := Table.key_of_find hfind
  dsimp only
  split_ifs
  · exact leaves_untouched rfl rfl hw
  · exact leaves_untouched rfl rfl hw
  · exact leaves_untouched rfl rfl hw
  · refine ends_of_call rfl ?_
    have hstatus : clusterStatusDraining ≠ "" := by decide
    refine changeRecord_leaves hledger ⟨rfl, rfl, rfl⟩ hw hfind rfl hstatus (fun _ _ => rfl) rfl ?_
    intro w' d hd hrecorded hcomplete
    rw [FleetController.unbindSessions]
    split_ifs
    · exact ends_of_call rfl (leaves_recorded hd hrecorded hcomplete)
    · exact leaves_recorded hd hrecorded hcomplete

theorem activate_leaves (hledger : fc.HasLedger) (hw : Complete w.clusters) (id : String) :
    Ends env (Leaves (.activate id) w) (fc.handleActivateCluster id) w := by
  rw [FleetController.handleActivateCluster]
  split_ifs
  · exact leaves_untouched rfl rfl hw
  apply ends_get
  · exact fun err => leaves_untouched rfl rfl hw
  intro current hfind
  obtain rfl := Table.key_of_find hfind
  dsimp only
  split_ifs
  · exact ⟨⟨nofun, fun _ h => absurd rfl h⟩, hw⟩
  · refine ends_of_call rfl ?_
    have hstatus : clusterStatusRunning ≠ "" := by decide
    refine changeRecord_leaves hledger ⟨rfl, rfl, rfl⟩ hw hfind rfl hstatus (fun _ _ => rfl) rfl ?_
    intro w' d hd hrecorded hcomplete
    exact leaves_recorded hd hrecorded hcomplete

theorem handle_leaves (hledger : fc.HasLedger) (hw : Complete w.clusters) (r : ClusterRequest) :
    Ends env (Leaves r w) (fc.handle r) w := by
  cases r with
  | register body => exact register_leaves hledger hw body
  | deregister id => exact deregister_leaves hledger hw id
  | drain id => exact drain_leaves hledger hw id
  | activate id => exact activate_leaves hledger hw id

end Handlers

/-! ## Any sequence of requests -/

theorem serveAll_complete {fc : FleetController} {env : Environment} (hledger : fc.HasLedger)
    (requests : List ClusterRequest) {w : World} (hw : Complete w.clusters) :
    Complete (serveAll fc env requests w).clusters := by
  induction requests generalizing w with
  | nil => exact hw
  | cons r requests ih => exact ih (handle_leaves hledger hw r).2

/-- Whatever requests came before and whichever calls fail, every request fails closed. -/
theorem fails_closed {fc : FleetController} (env : Environment) (hledger : fc.HasLedger) {w : World}
    (hw : Complete w.clusters) (earlier : List ClusterRequest) (r : ClusterRequest) :
    FailsClosed r (serveAll fc env earlier w)
      ((fc.handle r).run (execute env) (serveAll fc env earlier w)).1
      ((fc.handle r).run (execute env) (serveAll fc env earlier w)).2 :=
  (handle_leaves hledger (serveAll_complete hledger earlier hw) r).1

/-! ## A record without a status -/

def ledgerController : FleetController where
  fleetRecorder := true
  ledgerGatewayURL := "http://ledger"
  sessionTable := true

def failingEnvironment : Environment where
  fault n := if n = 2 then some (.sentinel "ledger unavailable") else none
  clock _ := ⟨1767225600000000000, 0⟩
  newID _ := "generated"
  clock_set _ := by decide

def quietEnvironment : Environment where
  fault _ := none
  clock _ := ⟨1767225600000000000, 0⟩
  newID _ := "generated"
  clock_set _ := by decide

def sampleRecord (status : String) : ClusterRecord where
  id := "east"
  name := "east"
  region := "eu"
  labels := none
  gpuAvailable := 1
  gpuTotal := 2
  status := status
  registeredAt := ⟨1700000000000000000, 0⟩
  updatedAt := ⟨1700000000000000000, 0⟩

def sampleWorld (status : String) : World where
  clusters := ⟨[sampleRecord status], List.nodup_singleton _, List.nodup_singleton _⟩
  sessions := [("s", ⟨"east", ⟨1767225600000000000, 0⟩⟩)]
  ledger := []
  calls := 0

/-- The deregistration of a running cluster is taken back. -/
theorem fails_closed_deregister :
    let handled := (ledgerController.handle (.deregister "east")).run (execute failingEnvironment)
      (sampleWorld "Running")
    handled.1.isError = true ∧ handled.1.compensationFailed = false ∧
      FailsClosed (.deregister "east") (sampleWorld "Running") handled.1 handled.2 := by
  have hledger : ledgerController.HasLedger := ⟨rfl, by decide⟩
  have hcomplete : Complete (sampleWorld "Running").clusters := by
    intro r hr
    obtain rfl := List.mem_singleton.mp hr
    exact ⟨by decide, by decide⟩
  refine ⟨by decide +kernel, by decide +kernel, ?_⟩
  exact fails_closed failingEnvironment hledger hcomplete [] (.deregister "east")

/-- Taking back the deregistration of a cluster without a status gives it one. -/
theorem deregistration_fills_status :
    let handled := (ledgerController.handle (.deregister "east")).run (execute failingEnvironment)
      (sampleWorld "")
    handled.1.isError = true ∧ handled.1.compensationFailed = false ∧
      ¬ SameRecords (sampleWorld "").clusters handled.2.clusters := by
  refine ⟨by decide +kernel, by decide +kernel, ?_⟩
  intro hsame
  have hstatus := congrArg (Option.map ClusterRecord.status) (hsame "east")
  revert hstatus
  decide +kernel

end FleetLlmd.Clusters
