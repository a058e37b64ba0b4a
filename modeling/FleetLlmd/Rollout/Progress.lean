import FleetLlmd.Rollout.Phases

/-!
# Progress of a canary

How far a rollout is after a number of successful promotions, in memory and in the repository,
whatever calls have failed in between.
-/

namespace FleetLlmd.Rollout
open Go

namespace CanaryConfig
variable (canary : CanaryConfig)

def weightAfter (j : Nat) : Int :=
  min 100 (canary.initialWeight.toInt + j * canary.weightIncrement.toInt)

def phaseAfter (j : Nat) : String :=
  if j ≠ 0 ∧ canary.weightAfter j = 100 then "Complete" else "Canary"

variable {canary}

theorem Bounded.weightAfter_succ (h : canary.Bounded) (j : Nat) :
    canary.weightAfter (j + 1) =
      min 100 (canary.weightAfter j + canary.weightIncrement.toInt) := by
  have hstep : ((j + 1 : Nat) : Int) * canary.weightIncrement.toInt =
      j * canary.weightIncrement.toInt + canary.weightIncrement.toInt := by
    push_cast
    ring
  have hone : (1 : Int64).toInt = 1 := rfl
  have hpos := h.2.2.1
  rw [Int64.le_iff_toInt_le, hone] at hpos
  rw [weightAfter, weightAfter, hstep]
  omega

theorem Bounded.weightAfter_nonneg (h : canary.Bounded) (j : Nat) : 0 ≤ canary.weightAfter j := by
  have hzero : (0 : Int64).toInt = 0 := rfl
  have hone : (1 : Int64).toInt = 1 := rfl
  obtain ⟨hinitial, -, hpos, -⟩ := h
  rw [Int64.le_iff_toInt_le, hzero] at hinitial
  rw [Int64.le_iff_toInt_le, hone] at hpos
  have hsteps : 0 ≤ (j : Int) * canary.weightIncrement.toInt := by positivity
  rw [weightAfter]
  omega

theorem Bounded.phaseAfter_succ (h : canary.Bounded) {j : Nat}
    (hphase : canary.phaseAfter (j + 1) ≠ "Complete") : canary.phaseAfter j ≠ "Complete" := by
  have hsucc := h.weightAfter_succ j
  have hpos := h.2.2.1
  have hone : (1 : Int64).toInt = 1 := rfl
  rw [Int64.le_iff_toInt_le, hone] at hpos
  simp only [phaseAfter, ne_eq, Nat.succ_ne_zero, not_false_eq_true, true_and] at hphase ⊢
  split_ifs at hphase with hfull
  · exact absurd rfl hphase
  · rw [if_neg (by omega)]
    decide

end CanaryConfig

structure Stands (l : ModelLifecycleSpec) (canary : CanaryConfig) (id : String) (j : Nat)
    (c : Controller) : Prop where
  memory : ∃ state, c.rollouts id = some ⟨state, l⟩ ∧ state.id = id ∧
    state.currentWeight.toInt = canary.weightAfter j ∧ state.phase = canary.phaseAfter j ∧
    ∀ s ∈ state.clusterStates, s.weight = state.currentWeight
  repository : ∀ repo, c.repo = some repo → ∃ record, repo.rollouts id = some record ∧
    record.id = id ∧ record.currentWeight.toInt = canary.weightAfter j ∧
    record.status = canary.phaseAfter j ∧
    (record.completedAt.isSome ↔ canary.phaseAfter j = "Complete")

section Step
variable {parseFloat : String → Except Error Float64} {l : ModelLifecycleSpec}
variable {canary : CanaryConfig} {id : String} {j : Nat} {c : Controller}

theorem Controller.hold_memory {record : RolloutRecord} (h : c.rollouts id = some record) :
    c.hold id record = c := by
  rw [Controller.hold, ← h, Function.update_eq_self]

theorem promoted_stands (hbounds : canary.Bounded) {state : RolloutState}
    (hweight : state.currentWeight.toInt = canary.weightAfter j) (now : Time) :
    let next := state.promoted canary.weightIncrement now
    next.currentWeight.toInt = canary.weightAfter (j + 1) ∧
      next.phase = canary.phaseAfter (j + 1) ∧
      ∀ s ∈ next.clusterStates, s.weight = next.currentWeight := by
  have hhundred : (100 : Int64).toInt = 100 := rfl
  have hnonneg := hbounds.weightAfter_nonneg j
  have hnext : (nextWeight state.currentWeight canary.weightIncrement).toInt =
      canary.weightAfter (j + 1) := by
    rw [nextWeight_toInt ?_ ?_ hbounds.2.2.1 hbounds.2.2.2, hweight, hbounds.weightAfter_succ]
    · rw [Int64.le_iff_toInt_le, hweight]
      exact hnonneg
    · rw [Int64.le_iff_toInt_le, hweight, hhundred]
      exact min_le_left _ _
  refine ⟨hnext, ?_, by simp [RolloutState.promoted]⟩
  have hfull : nextWeight state.currentWeight canary.weightIncrement = 100 ↔
      canary.weightAfter (j + 1) = 100 := by
    rw [← Int64.toInt_inj, hnext, hhundred]
  simp [RolloutState.promoted, CanaryConfig.phaseAfter, hfull]

/-- A call fails and changes nothing, or takes the rollout one promotion further. -/
theorem Stands.advance (hcanary : l.canary = some canary) (hbounds : canary.Bounded)
    (hgate : checkSLOGate parseFloat canary.sloGate = true) (h : Stands l canary id j c)
    (m : Moment) :
    (∃ err, c.advanceRollout parseFloat m id = (.error err, c)) ∨
      ∃ state c', c.advanceRollout parseFloat m id = (.ok state, c') ∧
        Stands l canary id (j + 1) c' := by
  obtain ⟨state, hmemory, hid, hweight, -, -⟩ := h.memory
  obtain ⟨hnext, hphase, hclusters⟩ := promoted_stands hbounds hweight m.now
  rw [Controller.advanceRollout_passing (Controller.find_memory hmemory m) hcanary hgate,
    Controller.hold_memory hmemory]
  cases hrepo : c.repo with
  | none =>
    rw [Controller.commit_alone hrepo]
    refine .inr ⟨_, _, rfl, ⟨_, Controller.hold_rollouts .., hid, hnext, hphase, hclusters⟩, ?_⟩
    intro repo hsome
    rw [Controller.hold_repo, hrepo] at hsome
    cases hsome
  | some repo =>
    obtain ⟨old, hold, holdID, -, -, hcompleted⟩ := h.repository repo hrepo
    rw [Controller.commit_stored hrepo hold holdID m _ _
      (show (state.promoted canary.weightIncrement m.now).id = id from hid)]
    cases m.persistError with
    | some err => exact .inl ⟨_, rfl⟩
    | none =>
      refine .inr ⟨_, _, rfl, ⟨_, Controller.hold_rollouts .., hid, hnext, hphase, hclusters⟩, ?_⟩
      intro repo' hsome
      cases hsome
      refine ⟨_, (congrArg _ holdID.symm).trans (Repository.put_self repo _), holdID, hnext, hphase,
        ?_⟩
      rw [Postgres.RolloutRecord.withState]
      dsimp only
      rw [hphase]
      by_cases hfull : canary.phaseAfter (j + 1) = "Complete"
      · rw [hfull, if_pos (by decide)]
        simp
      · have hcanary : canary.phaseAfter (j + 1) = "Canary" := by
          rw [CanaryConfig.phaseAfter] at hfull ⊢
          exact if_neg fun h => hfull (if_pos h)
        rw [hcanary, if_neg (by decide), hcompleted]
        exact iff_of_false (hbounds.phaseAfter_succ hfull) (by decide)

theorem stands_created (hcanary : l.canary = some canary) (hbounds : canary.Bounded) {m : Moment}
    {suffix : Except Error Bytes} {state : RolloutState} {c₀ : Controller}
    (h : c.createRollout m suffix l = (.ok state, c₀)) : Stands l canary state.id 0 c₀ := by
  cases suffix with
  | error err => cases h
  | ok suffix =>
    have hweight : (l.start (rolloutID l suffix) m.now).currentWeight.toInt =
        canary.weightAfter 0 := by
      have hhundred : (100 : Int64).toInt = 100 := rfl
      have hle := hbounds.2.1
      rw [Int64.le_iff_toInt_le, hhundred] at hle
      simp [ModelLifecycleSpec.start, hcanary, CanaryConfig.weightAfter, hle]
    have hphase : (l.start (rolloutID l suffix) m.now).phase = canary.phaseAfter 0 := by
      simp [ModelLifecycleSpec.start, hcanary, CanaryConfig.phaseAfter]
    have hclusters : ∀ s ∈ (l.start (rolloutID l suffix) m.now).clusterStates,
        s.weight = (l.start (rolloutID l suffix) m.now).currentWeight := by
      simp [ModelLifecycleSpec.start]
    obtain ⟨hrepo, hcreate⟩ | ⟨repo, hrepo, -, hcreate⟩ | ⟨repo, err, -, hcreate⟩ :=
      Controller.createRollout_cases c m suffix l
    all_goals
      obtain ⟨hstate, rfl⟩ := Prod.mk.inj (hcreate.symm.trans h)
      cases hstate
    · refine ⟨⟨_, Controller.hold_rollouts .., rfl, hweight, hphase, hclusters⟩, ?_⟩
      intro repo hsome
      rw [Controller.hold_repo, hrepo] at hsome
      cases hsome
    · refine ⟨⟨_, Controller.hold_rollouts .., rfl, hweight, hphase, hclusters⟩, ?_⟩
      intro repo' hsome
      cases hsome
      refine ⟨_, Repository.put_self repo _, rfl, hweight, hphase, ?_⟩
      simp [CanaryConfig.phaseAfter, ModelLifecycleSpec.record]

def advances (parseFloat : String → Except Error Float64) (id : String) :
    List Moment → Controller → Nat × Controller
  | [], c => (0, c)
  | m :: ms, c =>
    let r := c.advanceRollout parseFloat m id
    let rest := advances parseFloat id ms r.2
    (rest.1 + if r.1.isOk then 1 else 0, rest.2)

theorem Stands.advances (hcanary : l.canary = some canary) (hbounds : canary.Bounded)
    (hgate : checkSLOGate parseFloat canary.sloGate = true) (h : Stands l canary id j c)
    (ms : List Moment) :
    Stands l canary id (j + (Rollout.advances parseFloat id ms c).1)
      (Rollout.advances parseFloat id ms c).2 := by
  induction ms generalizing j c with
  | nil => exact h
  | cons m ms ih =>
    rw [Rollout.advances]
    rcases h.advance hcanary hbounds hgate m with ⟨err, hrun⟩ | ⟨state, c', hrun, hnext⟩
    · rw [hrun]
      exact ih h
    · rw [hrun]
      have hlater := ih hnext
      rwa [Nat.add_right_comm] at hlater

end Step

theorem canary_progress (parseFloat : String → Except Error Float64) (l : ModelLifecycleSpec)
    (canary : CanaryConfig) (hcanary : l.canary = some canary) (hbounds : canary.Bounded)
    (hgate : checkSLOGate parseFloat canary.sloGate = true) (c c₀ : Controller) (m : Moment)
    (suffix : Except Error Bytes) (state : RolloutState)
    (hcreate : c.createRollout m suffix l = (.ok state, c₀)) (ms : List Moment) :
    let r := advances parseFloat state.id ms c₀
    Stands l canary state.id r.1 r.2 ∧ ∀ m err,
      (r.2.advanceRollout parseFloat m state.id).1 = .error err →
        (r.2.advanceRollout parseFloat m state.id).2 = r.2 := by
  intro r
  have hstands : Stands l canary state.id r.1 r.2 := by
    have hrun := (stands_created hcanary hbounds hcreate).advances hcanary hbounds hgate ms
    rwa [Nat.zero_add] at hrun
  refine ⟨hstands, fun m err herr => ?_⟩
  rcases hstands.advance hcanary hbounds hgate m with ⟨err', hrun⟩ | ⟨next, c', hrun, -⟩
  · rw [hrun]
  · rw [hrun] at herr
    cases herr

def sampleCanary : CanaryConfig := { initialWeight := 50, weightIncrement := 20 }

def sampleCreated : Controller.Result × Controller :=
  (Controller.new true).createRollout calm (.ok []) (sampleLifecycle ["a"] none)

def sampleAdvances : Nat × Controller :=
  advances noFloat (rolloutID (sampleLifecycle ["a"] none) [])
    [calm, { calm with writeError := some (.sentinel "connection reset") }, calm] sampleCreated.2

/-- Of three promotions the second is not stored: the weight goes from 50 to 90. -/
theorem sample_progress : sampleCanary.Bounded ∧ sampleAdvances.1 = 2 ∧
    Stands (sampleLifecycle ["a"] none) sampleCanary
      (rolloutID (sampleLifecycle ["a"] none) []) sampleAdvances.1 sampleAdvances.2 := by
  have hcreate : (Controller.new true).createRollout calm (.ok []) (sampleLifecycle ["a"] none) =
      (.ok ((sampleLifecycle ["a"] none).start (rolloutID (sampleLifecycle ["a"] none) []) .zero),
        sampleCreated.2) := rfl
  have hrun := canary_progress noFloat _ sampleCanary rfl (by decide) rfl _ _ calm (.ok []) _ hcreate
    [calm, { calm with writeError := some (.sentinel "connection reset") }, calm]
  exact ⟨by decide, by decide +kernel, hrun.1⟩

end FleetLlmd.Rollout
