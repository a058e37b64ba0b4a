import FleetLlmd.Clusters.Agents
import FleetLlmd.Clusters.FailClosed

/-!
# Mesh status

A pass of the SWIM synchroniser skips every site whose phase it has seen in an earlier pass. As
long as only the synchroniser writes the status, a record whose phase it remembers has the status of
that phase, or the cluster has been registered again since.
-/

namespace FleetLlmd.Clusters
open Go Json Effect Prog Sql

def GridSite.current (site : GridSite) : GridSitePhase :=
  if site.phase = .unset then .pending else site.phase

def GridSite.status (site : GridSite) : String := gridPhaseToFleetStatus site.current

def World.status (w : World) (name : String) : Option String :=
  (w.clusters.find name).map (·.status)

section Pass
variable {env : Environment} {sites : List GridSite} {lastPhases : Phases} {w : World}

theorem execute_status (hfault : env.fault w.calls = none) {record : ClusterRecord} {name : String}
    (hfind : w.clusters.find name = some record) (status : String) :
    ∃ w₁, execute env (.update { record with status := status }) w = (.ok (), w₁) ∧
      w₁.calls = w.calls + 1 ∧ ∀ other, w₁.status other =
        if other = name then (w.status name).map fun _ => status else w.status other := by
  have hid : record.id = name := Table.key_of_find hfind
  subst hid
  let updated : ClusterRecord := { record with status := status, updatedAt := env.clock w.calls }
  obtain ⟨t, ht⟩ : ∃ t, w.clusters.replace updated = some t := Table.replace_of_unique hfind rfl
  have hupdate : w.clusters.updateCluster { record with status := status } (env.clock w.calls) =
      (.ok (), t) := by
    rw [ClusterTable.updateCluster, hfind]
    dsimp only
    rw [ht]
  refine ⟨{ w.next with clusters := t }, by rw [execute, hfault, hupdate], rfl, fun other => ?_⟩
  rw [World.status, Table.find_replace ht]
  by_cases hother : other = record.id
  · rw [if_pos hother.symm, if_pos hother, hother, World.status, hfind]
    rfl
  · rw [if_neg (Ne.symm hother), if_neg hother]
    rfl

/-- What one site leaves for the rest of the pass: nothing, if the site is skipped or a call fails,
or the status and the phase of the site. -/
theorem syncSites_cons (site : GridSite) (updated : Nat) :
    ∃ w₁ phases updated₁, (syncSites (site :: sites) updated lastPhases).run (execute env) w =
        (syncSites sites updated₁ phases).run (execute env) w₁ ∧ w.calls ≤ w₁.calls ∧
      (∀ name ≠ site.name, lookupKey name phases = lookupKey name lastPhases ∧
        w₁.status name = w.status name) ∧
      ((phases = lastPhases ∧ w₁.status site.name = w.status site.name ∧
          ((∀ n, w.calls ≤ n → env.fault n = none) →
            lookupKey site.name lastPhases = some site.current ∨ w.status site.name = none)) ∨
        (lookupKey site.name phases = some site.current ∧
          lookupKey site.name lastPhases ≠ some site.current ∧
          w₁.status site.name = (w.status site.name).map fun _ => site.status)) := by
  have hseen (name : String) (hne : name ≠ site.name) :
      lookupKey name (insertKey site.name site.current lastPhases) = lookupKey name lastPhases := by
    rw [lookupKey_insertKey, if_neg (Ne.symm hne)]
  have hown : lookupKey site.name (insertKey site.name site.current lastPhases) =
      some site.current := by
    rw [lookupKey_insertKey, if_pos rfl]
  rw [syncSites, ← GridSite.current]
  by_cases hcached : lookupKey site.name lastPhases = some site.current
  · rw [if_pos hcached]
    exact ⟨w, lastPhases, updated, rfl, le_rfl, fun _ _ => ⟨rfl, rfl⟩, .inl
      ⟨rfl, rfl, fun _ => .inl hcached⟩⟩
  rw [if_neg hcached, run_call]
  cases hfault : env.fault w.calls with
  | some err =>
    simp only [execute, hfault]
    exact ⟨w.next, lastPhases, updated, rfl, Nat.le_succ _, fun _ _ => ⟨rfl, rfl⟩, .inl
      ⟨rfl, rfl, fun hno => by cases (hno _ le_rfl).symm.trans hfault⟩⟩
  | none =>
    have hget : execute env (.get site.name) w = (w.clusters.getCluster site.name, w.next) := by
      rw [execute, hfault]
    rw [hget, ClusterTable.getCluster]
    cases hfind : w.clusters.find site.name with
    | none =>
      exact ⟨w.next, lastPhases, updated, rfl, Nat.le_succ _, fun _ _ => ⟨rfl, rfl⟩, .inl
        ⟨rfl, rfl, fun _ => .inr (by rw [World.status, hfind]; rfl)⟩⟩
    | some record =>
      dsimp only
      by_cases hstatus : record.status = site.status
      · rw [if_neg (by simpa [GridSite.status] using hstatus)]
        refine ⟨w.next, _, updated, rfl, Nat.le_succ _, fun name hne => ⟨hseen name hne, rfl⟩, .inr
          ⟨hown, hcached, ?_⟩⟩
        rw [World.status, World.status, World.next, hfind, Option.map_some, hstatus]
        rfl
      · rw [if_pos (by simpa [GridSite.status] using hstatus), run_call]
        cases hnext : env.fault w.next.calls with
        | some err =>
          simp only [execute, hnext]
          exact ⟨w.next.next, lastPhases, updated, rfl, Nat.le_add_right w.calls 2,
            fun _ _ => ⟨rfl, rfl⟩, .inl
            ⟨rfl, rfl, fun hno => by cases (hno _ (Nat.le_succ _)).symm.trans hnext⟩⟩
        | none =>
          obtain ⟨w₁, hupdate, hcalls, hw₁⟩ := @execute_status env w.next hnext record site.name
            hfind site.status
          rw [GridSite.status] at hupdate
          rw [hupdate]
          refine ⟨w₁, _, _, rfl, ?_, fun name hne => ⟨hseen name hne, ?_⟩, .inr ⟨hown, hcached, ?_⟩⟩
          · rw [hcalls]
            exact Nat.le_add_right w.calls 2
          · rw [hw₁, if_neg hne]
            rfl
          · rw [hw₁, if_pos rfl]
            rfl

/-- A record whose phase is remembered has its status, or was registered again. -/
def Known (lastPhases : Phases) (w : World) : Prop :=
  ∀ name phase, lookupKey name lastPhases = some phase → ∀ status ∈ w.status name,
    status = gridPhaseToFleetStatus phase ∨ status = "registered"

theorem Known.syncSites (h : Known lastPhases w) (updated : Nat) :
    Known ((Clusters.syncSites sites updated lastPhases).run (execute env) w).1.2
      ((Clusters.syncSites sites updated lastPhases).run (execute env) w).2 := by
  induction sites generalizing updated lastPhases w with
  | nil => exact h
  | cons site sites ih =>
    obtain ⟨w₁, phases, updated₁, hrun, -, hothers, hsite⟩ :=
      @syncSites_cons env sites lastPhases w site updated
    rw [hrun]
    refine ih (fun name phase hphase status hstatus => ?_) updated₁
    by_cases hname : name = site.name
    · subst hname
      rcases hsite with ⟨rfl, hsame, -⟩ | ⟨hnew, -, hset⟩
      · exact h _ _ hphase status (hsame ▸ hstatus)
      · cases hphase.symm.trans hnew
        rw [hset] at hstatus
        obtain ⟨_, -, rfl⟩ := Option.map_eq_some_iff.mp hstatus
        exact .inl rfl
    · rw [(hothers name hname).1] at hphase
      exact h name phase hphase status ((hothers name hname).2 ▸ hstatus)

theorem status_syncSites (hfault : ∀ n, w.calls ≤ n → env.fault n = none)
    (hnames : (sites.map (·.name)).Nodup) (updated : Nat) :
    let w' := ((syncSites sites updated lastPhases).run (execute env) w).2
    (∀ site ∈ sites, w'.status site.name = if lookupKey site.name lastPhases = some site.current
        then w.status site.name else (w.status site.name).map fun _ => site.status) ∧
      ∀ name ∉ sites.map (·.name), w'.status name = w.status name := by
  induction sites generalizing updated lastPhases w with
  | nil => exact ⟨by simp, fun _ _ => rfl⟩
  | cons site sites ih =>
    obtain ⟨hnew, hrest⟩ := List.nodup_cons.mp hnames
    obtain ⟨w₁, phases, updated₁, hrun, hcalls, hothers, hsite⟩ :=
      @syncSites_cons env sites lastPhases w site updated
    obtain ⟨hlisted, hunlisted⟩ := ih (fun n hn => hfault n (hcalls.trans hn)) hrest updated₁
    dsimp only
    rw [hrun]
    refine ⟨List.forall_mem_cons.mpr ⟨?_, fun other hother => ?_⟩, fun name hname => ?_⟩
    · rw [hunlisted _ hnew]
      rcases hsite with ⟨-, hsame, hwhy⟩ | ⟨-, hcached, hset⟩
      · rcases hwhy hfault with hcached | hnone
        · rw [if_pos hcached, hsame]
        · rw [hsame, hnone, Option.map_none, ite_self]
      · rw [if_neg hcached, hset]
    · have hne : other.name ≠ site.name := fun heq => hnew (List.mem_map.mpr ⟨other, hother, heq⟩)
      rw [hlisted other hother, (hothers _ hne).1, (hothers _ hne).2]
    · rw [List.map_cons, List.mem_cons, not_or] at hname
      rw [hunlisted _ hname.2, (hothers _ hname.1).2]

end Pass

def Converged (sites : List GridSite) (w : World) : Prop :=
  ∀ site ∈ sites, ∀ status ∈ w.status site.name, status = site.status

/-! ## Runs -/

/-- Passes, in which any call may fail, and the registrations and deregistrations between them. -/
inductive MeshRun : World → Phases → Prop
  | start (w : World) : MeshRun w []
  | sync {w lastPhases} (env : Environment) (listed : Except Error (List GridSite)) :
      MeshRun w lastPhases → MeshRun ((swimSync listed lastPhases).run (execute env) w).2
        ((swimSync listed lastPhases).run (execute env) w).1.2
  | register {w lastPhases} (env : Environment) (record : ClusterRecord) :
      record.status = "registered" → MeshRun w lastPhases →
      MeshRun (execute env (.create record) w).2 lastPhases
  | deregister {w lastPhases} (env : Environment) (id : String) :
      MeshRun w lastPhases → MeshRun (execute env (.delete id) w).2 lastPhases

section Runs
variable {env : Environment} {w w' : World} {lastPhases : Phases}

theorem Known.of_status (h : Known lastPhases w) (hstatus : ∀ name, ∀ status ∈ w'.status name,
    status ∈ w.status name ∨ status = "registered") : Known lastPhases w' := by
  intro name phase hphase status hin
  rcases hstatus name status hin with hbefore | hnew
  · exact h name phase hphase status hbefore
  · exact .inr hnew

theorem status_create {record : ClusterRecord} (hrecord : record.status = "registered")
    {name status : String} (h : status ∈ (execute env (.create record) w).2.status name) :
    status ∈ w.status name ∨ status = "registered" := by
  simp only [execute, ClusterTable.createCluster] at h
  split at h
  · exact .inl h
  · split at h
    · exact .inl h
    · next hinsert =>
      simp only [World.status, Table.find_insert hinsert] at h
      split_ifs at h
      · exact .inr (by simpa [ClusterTable.stored, hrecord] using Option.some.inj h.symm)
      · exact .inl h

theorem status_delete {id name status : String}
    (h : status ∈ (execute env (.delete id) w).2.status name) : status ∈ w.status name := by
  simp only [execute, ClusterTable.deleteCluster] at h
  split at h
  · exact h
  · split at h
    · exact h
    · simp only [World.status, Table.find_delete] at h
      split_ifs at h
      · cases h
      · exact h

theorem MeshRun.known (h : MeshRun w lastPhases) : Known lastPhases w := by
  induction h with
  | start w => intro name phase hphase; cases hphase
  | sync env listed _ ih =>
    cases listed with
    | error err => exact ih
    | ok sites =>
      rw [swimSync, run_bind, run_done]
      exact ih.syncSites 0
  | register env record hrecord _ ih =>
    exact ih.of_status fun name status h => status_create hrecord h
  | deregister env id _ ih => exact ih.of_status fun name status h => .inl (status_delete h)

end Runs

/-- After any run: a pass in which no call fails leaves every listed cluster in the status of its
site exactly if no listed site in the phase remembered for it is one of a cluster that has been
registered again since. -/
theorem mesh_converges_iff (env : Environment) (w : World) (lastPhases : Phases)
    (hrun : MeshRun w lastPhases) (sites : List GridSite) (hnames : (sites.map (·.name)).Nodup)
    (hfault : ∀ n, w.calls ≤ n → env.fault n = none) :
    Converged sites ((swimSync (.ok sites) lastPhases).run (execute env) w).2 ↔
      ∀ site ∈ sites, lookupKey site.name lastPhases = some site.current →
        w.status site.name ≠ some "registered" := by
  have hstatus := (@status_syncSites env sites lastPhases w hfault hnames 0).1
  have hphase : ∀ phase, gridPhaseToFleetStatus phase ≠ "registered" := by
    intro phase
    cases phase <;> simp [gridPhaseToFleetStatus]
  rw [swimSync, run_bind, run_done]
  refine forall₂_congr fun site hsite => ?_
  rw [hstatus site hsite]
  by_cases hcached : lookupKey site.name lastPhases = some site.current
  · rw [if_pos hcached, forall_prop_of_true hcached]
    constructor
    · intro h hagain
      exact hphase _ (h _ hagain).symm
    · intro hnot status hin
      refine (hrun.known _ _ hcached status hin).resolve_right ?_
      rintro rfl
      exact hnot hin
  · simp [hcached]

/-! ## A cluster that is registered again -/

def meshEnvironment : Environment where
  fault _ := none
  clock _ := ⟨1, 0⟩
  newID _ := ""
  clock_set _ := rfl

def registered (id : String) : ClusterRecord :=
  ⟨id, id, "", none, 0, 0, "registered", Time.zero, Time.zero⟩

def emptyWorld : World := ⟨⟨[], List.nodup_nil, List.nodup_nil⟩, [], [], 0⟩

def meshSites : List GridSite := [⟨"east", .active⟩]

/-- `east` is registered, a pass finds its site active, and the cluster is registered anew. -/
def meshPass : (Except Error Nat × Phases) × World :=
  (swimSync (.ok meshSites) []).run (execute meshEnvironment)
    (execute meshEnvironment (.create (registered "east")) emptyWorld).2

def registeredAgain : World :=
  (execute meshEnvironment (.create (registered "east"))
    (execute meshEnvironment (.delete "east") meshPass.2).2).2

def west : World := (execute meshEnvironment (.create (registered "west")) meshPass.2).2

/-- A second pass, with the same site and that of a cluster registered since. -/
theorem mesh_converges_second :
    Converged (⟨"west", .unset⟩ :: meshSites)
      ((swimSync (.ok (⟨"west", .unset⟩ :: meshSites)) meshPass.1.2).run (execute meshEnvironment)
        west).2 := by
  refine (mesh_converges_iff meshEnvironment west meshPass.1.2 ?_ _ (by decide) fun _ _ => rfl).mpr
    (by decide +kernel)
  exact .register _ (registered "west") rfl (.sync _ (.ok meshSites)
    (.register _ (registered "east") rfl (.start emptyWorld)))

theorem mesh_status_stale :
    ¬Converged meshSites ((swimSync (.ok meshSites) meshPass.1.2).run (execute meshEnvironment)
      registeredAgain).2 := by
  intro h
  exact absurd (h _ (.head _) "registered" (by decide +kernel)) (by decide)

end FleetLlmd.Clusters
