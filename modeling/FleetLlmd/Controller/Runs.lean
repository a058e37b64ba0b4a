import FleetLlmd.Controller.Cycle

/-!
# Runs of the controller

Reconciliations, pool deletions, autoscaling cycles and routing syncs over one controller,
with the list of what they changed. A deletion reaches neither the stored pools, which feed
the routing syncs, nor the gateway configuration; and a cycle whose health view is the
one of the last written cycle leaves whatever has been written since.
-/

namespace FleetLlmd.Controller
open Go Routing Clusters

inductive Event where
  /-- The pool was reconciled; whether its record was stored. -/
  | reconciled (name : String) (recorded : Bool)
  | deleted (name : String)
  /-- A cycle wrote the gateway configuration. -/
  | routed
  deriving DecidableEq

def reconcileEvents (spec : FleetInferencePoolSpec) (p : Placement) (answers : RepoAnswers)
    (fc : FleetController) : List Event :=
  match (reconcilePool spec p fc.pools).1 with
  | .error _ => []
  | .ok pool => [.reconciled pool.name (recordPool answers pool fc.poolRepo).isSome]

def deleteEvents (name : String) (fc : FleetController) : List Event :=
  match (fc.delete name).1 with
  | .error _ => []
  | .ok () => [.deleted name]

def cycleEvents (before after : FleetController) : List Event :=
  if after.lastRoutingFingerprint = before.lastRoutingFingerprint then [] else [.routed]

section Run
variable (A : Go.Arithmetic Float64) (parseFloat : String → Except Error Float64)
variable (o : PraxisOverlay)
variable (Meets : CycleInput → List FleetPoolState → FleetController → List Event → Prop)

inductive Run : FleetController → List Event → Prop
  | start : Run {} []
  | reconcile {fc : FleetController} {es : List Event} {listed : List FleetPoolState}
    (spec : FleetInferencePoolSpec) (p : Placement) (answers : RepoAnswers) :
    Run fc es → Lists (reconcilePool spec p fc.pools).2 listed →
    Run (fc.reconcile o spec p answers listed) (es ++ reconcileEvents spec p answers fc)
  | delete {fc : FleetController} {es : List Event} (name : String) :
    Run fc es → Run (fc.delete name).2 (es ++ deleteEvents name fc)
  | cycle {fc : FleetController} {es : List Event} {i : CycleInput}
    {listed : List FleetPoolState} :
    Run fc es → Lists fc.pools listed → Meets i listed fc es →
    Run (runAutoscalingCycle A parseFloat o i listed fc).1
      (es ++ cycleEvents fc (runAutoscalingCycle A parseFloat o i listed fc).1)

end Run

section Fields
variable {A : Go.Arithmetic Float64} {parseFloat : String → Except Error Float64}
variable {o : PraxisOverlay} {i : CycleInput} {listed : List FleetPoolState}
variable {fc : FleetController}

theorem updateRoutingFromHealth_pools (order : ScoreSort) (health : List ClusterHealth) :
    (updateRoutingFromHealth o order health listed fc).pools = fc.pools ∧
      (updateRoutingFromHealth o order health listed fc).poolRepo = fc.poolRepo := by
  rw [updateRoutingFromHealth]
  split
  · exact ⟨rfl, rfl⟩
  · split <;> exact ⟨rfl, rfl⟩

theorem runAutoscalingCycle_pools :
    (runAutoscalingCycle A parseFloat o i listed fc).1.pools = fc.pools ∧
      (runAutoscalingCycle A parseFloat o i listed fc).1.poolRepo = fc.poolRepo := by
  rw [runAutoscalingCycle]
  split
  · exact ⟨rfl, rfl⟩
  · exact updateRoutingFromHealth_pools ..

theorem reconcile_poolRepo (spec : FleetInferencePoolSpec) (p : Placement) (answers : RepoAnswers) :
    (fc.reconcile o spec p answers listed).poolRepo =
      match (reconcilePool spec p fc.pools).1 with
      | .error _ => fc.poolRepo
      | .ok pool => (recordPool answers pool fc.poolRepo).getD fc.poolRepo := by
  rw [FleetController.reconcile]
  split
  · next h => rw [h]
  · next h =>
    rw [h]
    rfl

end Fields

/-! ## Stored pools -/

def Stored (repo : PoolRecords) (name : String) : Prop :=
  ∃ id r, repo.lookup id = some r ∧ r.name = name

def Filed (repo : PoolRecords) : Prop :=
  ∀ id r, repo.lookup id = some r → if r.name = "" then ∃ n, id = .generated n else id = .named r.name

theorem stored_insert {repo : PoolRecords} {id : PoolID} {r : PoolRecord}
    (hold : ∀ r', repo.lookup id = some r' → r'.name = r.name) (name : String) :
    Stored (repo.insert id r) name ↔ r.name = name ∨ Stored repo name := by
  constructor
  · rintro ⟨id', r', hlookup, hname⟩
    by_cases hid : id' = id
    · subst hid
      rw [AList.lookup_insert] at hlookup
      cases hlookup
      exact .inl hname
    · rw [AList.lookup_insert_ne hid] at hlookup
      exact .inr ⟨id', r', hlookup, hname⟩
  · rintro (hname | ⟨id', r', hlookup, hname⟩)
    · exact ⟨id, r, AList.lookup_insert _, hname⟩
    · by_cases hid : id' = id
      · subst hid
        exact ⟨id', r, AList.lookup_insert _, (hold r' hlookup).symm.trans hname⟩
      · exact ⟨id', r', by rwa [AList.lookup_insert_ne hid], hname⟩

theorem Filed.insert {repo : PoolRecords} (h : Filed repo) {id : PoolID} {r : PoolRecord}
    (hr : if r.name = "" then ∃ n, id = .generated n else id = .named r.name) :
    Filed (repo.insert id r) := by
  intro id' r' hlookup
  by_cases hid : id' = id
  · subst hid
    rw [AList.lookup_insert] at hlookup
    cases hlookup
    exact hr
  · rw [AList.lookup_insert_ne hid] at hlookup
    exact h id' r' hlookup

theorem Filed.name_of_named {repo : PoolRecords} (h : Filed repo) {name : String}
    {r : PoolRecord} (hlookup : repo.lookup (.named name) = some r) :
    r.name = name ∧ name ≠ "" := by
  have hid := h _ r hlookup
  split_ifs at hid with hempty
  · obtain ⟨n, hn⟩ := hid
    cases hn
  · obtain rfl := PoolID.named.inj hid
    exact ⟨rfl, hempty⟩

theorem recordPool_some {answers : RepoAnswers} {pool : FleetPoolState}
    {repo repo' : PoolRecords} (hfiled : Filed repo)
    (h : recordPool answers pool repo = some repo') :
    Filed repo' ∧ ∀ name, Stored repo' name ↔ pool.name = name ∨ Stored repo name := by
  rw [recordPool] at h
  split_ifs at h with hget hcreate hupdate
  · cases h
    have hfresh : repo.lookup (answers.id pool) = none := by
      simp only [Bool.or_eq_true, not_or, Option.not_isSome_iff_eq_none] at hcreate
      exact hcreate.2
    constructor
    · apply hfiled.insert
      by_cases hname : pool.name = ""
      · simp [poolRecord, RepoAnswers.id, hname]
      · simp [poolRecord, RepoAnswers.id, hname]
    · apply stored_insert
      intro r' hr'
      rw [hfresh] at hr'
      cases hr'
  · cases h
    have hfound : ∃ r, repo.lookup (.named pool.name) = some r := by
      simp only [Bool.or_eq_true, not_or, Option.isNone_iff_eq_none] at hget
      exact Option.ne_none_iff_exists'.mp hget.2
    obtain ⟨r, hr⟩ := hfound
    obtain ⟨hname, hne⟩ := hfiled.name_of_named hr
    constructor
    · apply hfiled.insert
      simp [poolRecord, hne]
    · apply stored_insert
      intro r' hr'
      exact (hfiled.name_of_named hr').1

section Stored
variable {A : Go.Arithmetic Float64} {parseFloat : String → Except Error Float64}
variable {o : PraxisOverlay} {fc : FleetController} {es : List Event}
variable {Meets : CycleInput → List FleetPoolState → FleetController → List Event → Prop}

theorem Run.stored_iff (h : Run A parseFloat o Meets fc es) :
    Filed fc.poolRepo ∧ ∀ name, Stored fc.poolRepo name ↔ .reconciled name true ∈ es := by
  induction h with
  | start =>
    constructor
    · intro id r hr
      cases hr
    · intro name
      constructor
      · rintro ⟨id, r, hr, -⟩
        cases hr
      · simp
  | @reconcile fc es listed spec p answers _ _ ih =>
    rw [reconcile_poolRepo, reconcileEvents]
    cases (reconcilePool spec p fc.pools).1 with
    | error err => simpa using ih
    | ok pool =>
      cases hrecord : recordPool answers pool fc.poolRepo with
      | none => simpa [hrecord] using ih
      | some repo' =>
        obtain ⟨hfiled, hstored⟩ := recordPool_some ih.1 hrecord
        dsimp only
        rw [hrecord, Option.getD_some]
        refine ⟨hfiled, fun name => ?_⟩
        rw [hstored, ih.2]
        simp [or_comm, eq_comm]
  | @delete fc es name _ ih =>
    have hrepo : (fc.delete name).2.poolRepo = fc.poolRepo := rfl
    have hevents : ∀ other, .reconciled other true ∉ deleteEvents name fc := by
      intro other
      rw [deleteEvents]
      split <;> simp
    rw [hrepo]
    simpa [hevents] using ih
  | @cycle fc es i listed _ _ _ ih =>
    have hevents : ∀ after other, .reconciled other true ∉ cycleEvents fc after := by
      intro after other
      rw [cycleEvents]
      split <;> simp
    rw [runAutoscalingCycle_pools.2]
    simpa [hevents] using ih

def ListsRecords (repo : PoolRecords) (records : List PoolRecord) : Prop :=
  records.Perm (repo.entries.map (·.2))

theorem ListsRecords.stored_iff {repo : PoolRecords} {records : List PoolRecord}
    (h : ListsRecords repo records) (name : String) :
    (∃ r ∈ records, r.name = name) ↔ Stored repo name := by
  constructor
  · rintro ⟨r, hr, hname⟩
    obtain ⟨⟨id, r⟩, hentry, rfl⟩ := List.mem_map.mp (h.subset hr)
    exact ⟨id, r, AList.mem_lookup_iff.mpr hentry, hname⟩
  · rintro ⟨id, r, hlookup, hname⟩
    have hentry := AList.mem_lookup_iff.mp hlookup
    exact ⟨r, h.symm.subset (List.mem_map_of_mem (f := fun e => e.2) hentry), hname⟩

end Stored

def llamaSpec : FleetInferencePoolSpec := { modelName := "llama" }

def onEast : Placement := .solved ["east"] [] none Time.zero

def beforeDeletion (answers : RepoAnswers) : FleetController :=
  ({} : FleetController).reconcile sampleOverlay llamaSpec onEast answers
    ((reconcilePool llamaSpec onEast ∅).2.entries.map (·.2))

def afterDeletion (answers : RepoAnswers) : FleetController :=
  ((beforeDeletion answers).delete "llama").2

theorem run_afterDeletion (answers : RepoAnswers) :
    Run (.float64 sampleConversion) sampleParse sampleOverlay (fun _ _ _ _ => True)
      (afterDeletion answers)
      ([.reconciled "llama" !answers.createFails] ++ .deleted "llama" :: []) := by
  have hevents : [.reconciled "llama" !answers.createFails] ++ .deleted "llama" :: [] =
      [] ++ reconcileEvents llamaSpec onEast answers {} ++
        deleteEvents "llama" (beforeDeletion answers) := by
    rcases answers with ⟨get, create, update, generated⟩
    cases get <;> cases create <;> rfl
  rw [hevents]
  exact .delete _ (.reconcile _ _ _ .start (List.Perm.refl _))

/-- After a deletion, and until the pool is reconciled again, a sync passes no pool of the name
exactly if no reconciliation before had stored one: nothing removes the record. -/
theorem deleted_unrouted_iff {A : Go.Arithmetic Float64}
    {parseFloat : String → Except Error Float64} {o : PraxisOverlay} {fc : FleetController}
    {name : String} {before after : List Event}
    (hrun : Run A parseFloat o (fun _ _ _ _ => True) fc (before ++ .deleted name :: after))
    (hafter : ∀ recorded, .reconciled name recorded ∉ after) {records : List PoolRecord}
    (hrecords : ListsRecords fc.poolRepo records) (snapshot : Snapshot) (clusters : ClusterTable)
    (clock : Nat → Time) :
    (∀ p ∈ (gridSyncCall snapshot clusters records clock).pools, p.name ≠ name) ↔
      .reconciled name true ∉ before := by
  have hstored : (∃ r ∈ records, r.name = name) ↔ .reconciled name true ∈ before := by
    rw [hrecords.stored_iff, hrun.stored_iff.2]
    simp [hafter]
  rw [← hstored]
  simp [gridSyncCall, poolInfo]

theorem unstored_unrouted :
    Run (.float64 sampleConversion) sampleParse sampleOverlay (fun _ _ _ _ => True)
        (afterDeletion { createFails := true })
        ([.reconciled "llama" false] ++ .deleted "llama" :: []) ∧
      ∀ p ∈ (gridSyncCall (fun _ => none) runningTable
        ((afterDeletion { createFails := true }).poolRepo.entries.map (·.2))
        (fun _ => Time.zero)).pools, p.name ≠ "llama" :=
  have hrun := run_afterDeletion { createFails := true }
  ⟨hrun, (deleted_unrouted_iff hrun (by simp) (List.Perm.refl _) _ _ _).mpr (by decide)⟩

/-- The record outlives the pool. -/
theorem deleted_still_routed :
    ∃ fc, Run (.float64 sampleConversion) sampleParse sampleOverlay (fun _ _ _ _ => True) fc
        ([.reconciled "llama" true] ++ .deleted "llama" :: []) ∧
      ∃ records, ListsRecords fc.poolRepo records ∧
        ∃ p ∈ (gridSyncCall (fun _ => none) runningTable records (fun _ => Time.zero)).pools,
          p.name = "llama" :=
  ⟨afterDeletion {}, run_afterDeletion {}, _, List.Perm.refl _, by decide⟩

end FleetLlmd.Controller
