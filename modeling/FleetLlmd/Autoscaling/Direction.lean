import FleetLlmd.Autoscaling.Optimizer

/-!
# The direction of scaling

Without a global limit an action for an overloaded pool adds replicas, and any other action but the
absorption of a migration takes replicas away down to the minimum. A pool below the minimum is
raised to it.
-/

namespace FleetLlmd.Autoscaling
open Go

/-! ## The action of a pool -/

section Asked
variable {F : Type} (A : Arithmetic F) (pol : FleetScalingPolicySpec F)
variable (objectives : List (Objective F)) (states : List (Entry F))

def Entry.key (s : Entry F) : String × String := (s.clusterID, s.pool.poolName)

def ScalingAction.key (a : ScalingAction) : String × String := (a.clusterID, a.poolName)

def askedAction (s : Entry F) : Option ScalingAction :=
  (directAction A pol objectives s).or (migrationAction A pol objectives states s)

variable {A pol objectives states}

theorem migrationAction_of_direct {s : Entry F} {a : ScalingAction}
    (h : directAction A pol objectives s = some a) :
    migrationAction A pol objectives states s = none := by
  rw [directAction] at h
  rw [migrationAction]
  cases hcross : pol.crossCluster.filter (·.enableMigration) with
  | none => rfl
  | some cross =>
    have henabled : enableMigration pol = true := by
      obtain ⟨hsome, hcross⟩ := Option.filter_eq_some_iff.mp hcross
      simp [enableMigration, hsome, hcross]
    by_cases hup : (evaluate A objectives s.pool).needsScaleUp = true
    · simp [Entry.underutilized, Entry.overloaded, hup]
    · simp [hup, henabled] at h

theorem uncappedActions_perm :
    (uncappedActions A pol objectives states).Perm
      (states.filterMap (askedAction A pol objectives states)) := by
  rw [uncappedActions]
  suffices hgen : ∀ rest : List (Entry F),
      (rest.filterMap (directAction A pol objectives) ++
        rest.filterMap (migrationAction A pol objectives states)).Perm
        (rest.filterMap (askedAction A pol objectives states)) from hgen states
  intro rest
  induction rest with
  | nil => exact .refl _
  | cons s rest ih =>
    cases hdirect : directAction A pol objectives s with
    | some a => simpa [hdirect, migrationAction_of_direct hdirect, askedAction] using ih
    | none =>
      cases hmigration : migrationAction A pol objectives states s with
      | none => simpa [hdirect, hmigration, askedAction] using ih
      | some a =>
        simp only [hdirect, hmigration, askedAction, List.filterMap_cons, Option.none_or]
        exact List.perm_middle.trans (ih.cons a)

end Asked

/-! ## Directions -/

section Direction
variable {F : Type} {A : Arithmetic F} {pol : FleetScalingPolicySpec F}
variable {objectives : List (Objective F)} {s : Entry F} {a : ScalingAction}

def OverTarget (A : Arithmetic F) (objectives : List (Objective F)) (p : PoolMetrics F) : Prop :=
  ∃ obj ∈ objectives, loadMetrics.contains obj.metric = true ∧
    A.lt obj.target (metricValue A p obj.metric) = true

theorem needsScaleUp_foldl {p : PoolMetrics F} {e : Evaluation F} :
    (objectives.foldl (evaluateObjective A p) e).needsScaleUp = true ↔
      e.needsScaleUp = true ∨ OverTarget A objectives p := by
  induction objectives generalizing e with
  | nil => simp [OverTarget]
  | cons obj objectives ih =>
    have hstep : (evaluateObjective A p e obj).needsScaleUp = true ↔ e.needsScaleUp = true ∨
        loadMetrics.contains obj.metric = true ∧
          A.lt obj.target (metricValue A p obj.metric) = true := by
      simp only [evaluateObjective]
      split_ifs <;> simp_all
    rw [List.foldl_cons, ih, hstep, or_assoc, OverTarget, OverTarget, List.exists_mem_cons_iff]

theorem overloaded_iff : s.overloaded A objectives = true ↔ OverTarget A objectives s.pool := by
  simp [Entry.overloaded, evaluate, needsScaleUp_foldl]

instance (A : Arithmetic F) (objectives : List (Objective F)) (p : PoolMetrics F) :
    Decidable (OverTarget A objectives p) :=
  inferInstanceAs (Decidable (∃ obj ∈ objectives, _ ∧ _))

def minReplicas (pol : FleetScalingPolicySpec F) : Int := if pol.scaleToZero then 0 else 1

theorem scaleDown_bounds (s : Entry F) (hcount : 0 ≤ s.pool.replicas) :
    minReplicas pol ≤ (scaleDown A pol objectives s).desiredReplicas ∧
      (scaleDown A pol objectives s).desiredReplicas ≤ max s.pool.replicas (minReplicas pol) := by
  have hless : int64 (s.pool.replicas - 1) ≤ s.pool.replicas := by
    by_cases hrange : s.pool.replicas - 1 < 2 ^ 63
    · rw [int64_eq_self ⟨by omega, hrange⟩]
      omega
    · have hbound := (inInt64_int64 (s.pool.replicas - 1)).2
      omega
  simp only [scaleDown, Entry.action, scaleDownReplicas, minReplicas]
  generalize A.floor _ = desired
  split_ifs <;> omega

theorem additionalReplicas_bounds (pool : PoolMetrics F) (maxRatio : F) :
    1 ≤ additionalReplicas A pol pool maxRatio ∧
      additionalReplicas A pol pool maxRatio ≤ max 1 pol.constraints.maxScaleUpRate := by
  simp only [additionalReplicas]
  split_ifs <;> omega

/-- A count is raised by one or more unless the sum is too large for an `int`. -/
structure GoesRight (A : Arithmetic F) (pol : FleetScalingPolicySpec F)
    (objectives : List (Objective F)) (s : Entry F) (a : ScalingAction) : Prop where
  pool : a.key = s.key ∧ a.currentReplicas = s.pool.replicas
  up : OverTarget A objectives s.pool →
    a.currentReplicas + max 1 pol.constraints.maxScaleUpRate < 2 ^ 63 →
    a.currentReplicas + 1 ≤ a.desiredReplicas ∧
      a.desiredReplicas ≤ a.currentReplicas + max 1 pol.constraints.maxScaleUpRate
  down : ¬OverTarget A objectives s.pool →
    a.reason ≠ "cross-cluster migration: absorbing load from overloaded cluster" →
    minReplicas pol ≤ a.desiredReplicas ∧
      a.desiredReplicas ≤ max a.currentReplicas (minReplicas pol)

theorem goesRight_scaleDown (h : ¬s.overloaded A objectives = true) (hcount : 0 ≤ s.pool.replicas) :
    GoesRight A pol objectives s (scaleDown A pol objectives s) where
  pool := ⟨rfl, rfl⟩
  up hover := absurd (overloaded_iff.mpr hover) h
  down _ _ := scaleDown_bounds s hcount

theorem goesRight_direct (h : directAction A pol objectives s = some a)
    (hcount : 0 ≤ s.pool.replicas) : GoesRight A pol objectives s a := by
  simp only [directAction] at h
  split_ifs at h with hup hdown
  · cases h
    obtain ⟨hlow, hhigh⟩ :=
      @additionalReplicas_bounds F A pol s.pool (evaluate A objectives s.pool).maxRatio
    refine ⟨⟨rfl, rfl⟩, fun _ hfits => ?_, fun hover => absurd (overloaded_iff.mp hup) hover⟩
    simp only [Entry.action] at hfits ⊢
    rw [int64_eq_self ⟨by omega, by omega⟩]
    omega
  · cases h
    exact goesRight_scaleDown hup hcount

theorem goesRight_migration {states : List (Entry F)}
    (h : migrationAction A pol objectives states s = some a) (hcount : 0 ≤ s.pool.replicas) :
    GoesRight A pol objectives s a := by
  unfold migrationAction at h
  split at h
  · cases h
  · split_ifs at h with hunder habsorb
    · rw [Bool.not_eq_true', Bool.not_eq_false, Entry.underutilized, Bool.and_eq_true,
        Bool.not_eq_true', ← Bool.not_eq_true] at hunder
      cases h
      exact ⟨⟨rfl, rfl⟩, fun hover => absurd (overloaded_iff.mpr hover) hunder.2,
        fun _ hreason => absurd rfl hreason⟩
    · rw [Bool.not_eq_true', Bool.not_eq_false, Entry.underutilized, Bool.and_eq_true,
        Bool.not_eq_true', ← Bool.not_eq_true] at hunder
      cases h
      exact goesRight_scaleDown hunder.2 hcount

end Direction

def samplePool (poolName : String) (replicas queueDepth : Int) : PoolMetrics ℚ where
  poolName := poolName
  replicas := replicas
  queueDepth := queueDepth
  ttftP99Ms := 0
  throughputTPS := 0
  gpuUtilization := 1
  kvCacheHitRate := 0
  cpuUtilization := 0
  inferenceLatencyP99Ms := 0
  poolSaturation := 0

def samplePolicy (metric : String) : FleetScalingPolicySpec ℚ where
  objectives := [⟨metric, "5"⟩]
  constraints := { maxScaleUpRate := 2 }

def sampleMetrics (replicas : Int) : List (ClusterMetrics ℚ) :=
  [⟨"east", [samplePool "a" replicas 0]⟩, ⟨"west", [samplePool "b" 5 100]⟩]

/-- Whatever the metrics, the targets and the arithmetic: without a global limit every action goes
the right way. -/
theorem scaling_direction {F : Type} (A : Arithmetic F) (parseFloat : String → Except Error F)
    (metrics : List (ClusterMetrics F)) (pol : FleetScalingPolicySpec F)
    (hlimit : pol.constraints.globalMaxGPUs ≤ 0)
    (hcounts : ∀ s ∈ entries metrics, 0 ≤ s.pool.replicas) (actions : List ScalingAction)
    (h : optimize A parseFloat metrics pol = .ok actions) :
    ∃ objectives, parseObjectives parseFloat pol.objectives = .ok objectives ∧
      ∀ a ∈ actions, ∃ s ∈ entries metrics, GoesRight A pol objectives s a := by
  rw [optimize] at h
  cases hparse : parseObjectives parseFloat pol.objectives with
  | error err =>
    rw [hparse] at h
    cases h
  | ok objectives =>
    rw [hparse] at h
    cases h
    refine ⟨objectives, rfl, fun a ha => ?_⟩
    change a ∈ capActions A _ (uncappedActions A pol objectives (entries metrics)) at ha
    rw [capActions, if_neg (by omega), uncappedActions, List.mem_append, List.mem_filterMap,
      List.mem_filterMap] at ha
    rcases ha with ⟨s, hs, hdirect⟩ | ⟨s, hs, hmigration⟩
    · exact ⟨s, hs, goesRight_direct hdirect (hcounts s hs)⟩
    · exact ⟨s, hs, goesRight_migration hmigration (hcounts s hs)⟩

theorem scaling_direction_sample :
    ∃ a objectives,
      optimize .exact (fun _ => .ok 5) (sampleMetrics 5) (samplePolicy "queueDepth") = .ok [a] ∧
        ∃ s ∈ entries (sampleMetrics 5),
          GoesRight .exact (samplePolicy "queueDepth") objectives s a := by
  have hrun : optimize .exact (fun _ => .ok 5) (sampleMetrics 5) (samplePolicy "queueDepth") =
      .ok [⟨"west", "b", 7, 5, "metrics exceed target thresholds"⟩] := by decide +kernel
  obtain ⟨objectives, -, hall⟩ := scaling_direction .exact _ _ (samplePolicy "queueDepth")
    (by decide) (by decide) _ hrun
  exact ⟨_, objectives, hrun, hall _ (by simp)⟩

/-- A pool without replicas that is not over a target is scaled down, to one replica. -/
theorem idle_pool_raised :
    let idle : Entry ℚ := ⟨"east", samplePool "a" 0 0⟩
    ¬OverTarget .exact [⟨"gpuUtilization", 5⟩] idle.pool ∧
      optimize .exact (fun _ => .ok 5) [⟨"east", [idle.pool]⟩] (samplePolicy "gpuUtilization") =
        .ok [⟨"east", "a", 1, 0, "underutilized: GPU utilization below target"⟩] := by
  decide +kernel

end FleetLlmd.Autoscaling
