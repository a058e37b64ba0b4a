import FleetLlmd.Rollout.Runs

/-!
# Phases and weights

A rollout is to stay between no weight and all of it, to be complete exactly at all of it, to
move its clusters along with it, and to stay where it has ended. An advance recomputes the phase
from the weight alone, and leaves the phases of the clusters as they are, so each of these holds
only under a condition on the lifecycle and on the call.
-/

namespace FleetLlmd.Rollout
open Go

def RolloutState.position (state : RolloutState) : String × Int64 :=
  (state.phase, state.currentWeight)

def Controller.position (c : Controller) (m : Moment) (id : String) : Option (String × Int64) :=
  (c.find m id).map (·.state.position)

variable {record : RolloutRecord} {state : RolloutState}

variable {c : Controller}

theorem Controller.position_memory {id : String} (h : c.rollouts id = some record) (m : Moment) :
    c.position m id = some record.state.position := by
  rw [position, find_memory h, Option.map_some]

theorem Controller.position_hold (c : Controller) (m : Moment) (id : String)
    (record : RolloutRecord) :
    (c.hold id record).position m id = some record.state.position :=
  position_memory (c.hold_rollouts id record) m

/-! ## End states -/

def EndWeights (state : RolloutState) : Prop :=
  (state.phase = "RolledBack" → state.currentWeight = 0) ∧
    (state.phase = "Complete" → state.currentWeight = 100)

theorem endWeights_start (l : ModelLifecycleSpec) (id : String) (now : Time) :
    EndWeights (l.start id now) := by
  simp only [EndWeights, ModelLifecycleSpec.start]
  cases l.canary <;> simp

variable {parseFloat : String → Except Error Float64} {l : ModelLifecycleSpec}

theorem EndWeights.next
    {state' : RolloutState} {now : Time} (h : Next parseFloat l state now state') :
    EndWeights state' := by
  cases h with
  | promoted canary =>
    simp only [EndWeights, RolloutState.promoted]
    split_ifs with hweight <;> simp [hweight]
  | failed => simp [EndWeights, RolloutState.failed]
  | rolledBack => simp [EndWeights, RolloutState.rolledBack]

theorem stable_endWeights (parseFloat : String → Except Error Float64) :
    Stable parseFloat (fun _ => True) fun _ state => EndWeights state where
  start l id now _ := endWeights_start l id now
  next _ _ _ _ _ h := EndWeights.next h
  reloaded _ _ _ _ _ h := EndWeights.next h

theorem nextWeight_hundred (increment : Int64) :
    nextWeight 100 increment = 100 ↔ 100 ≤ 100 + increment := by
  rw [nextWeight, Int64.le_iff_toInt_le]
  split_ifs with h
  · rw [Int64.lt_iff_toInt_lt] at h
    exact iff_of_true rfl h.le
  · rw [Int64.lt_iff_toInt_lt] at h
    rw [← Int64.toInt_inj]
    omega

theorem promoted_position_iff (hweights : EndWeights state)
    (hended : state.phase = "RolledBack" ∨ state.phase = "Complete") (increment : Int64)
    (now : Time) : (state.promoted increment now).position = state.position ↔
      state.phase = "Complete" ∧ 100 ≤ 100 + increment := by
  rcases hended with hphase | hphase
  · simp only [RolloutState.position, RolloutState.promoted, hphase]
    split_ifs <;> simp
  · have hweight := hweights.2 hphase
    simp only [RolloutState.position, RolloutState.promoted, hphase, hweight, Prod.mk.injEq,
      nextWeight_hundred]
    split_ifs with h <;> simp [h]

theorem failed_position_iff (hweights : EndWeights state) (now : Time) :
    (state.failed now).position = state.position ↔ state.phase = "RolledBack" := by
  simp only [RolloutState.position, RolloutState.failed, Prod.mk.injEq]
  constructor
  · exact fun h => h.1.symm
  · exact fun h => ⟨h.symm, (hweights.1 h).symm⟩

def Controller.WriteFails (c : Controller) (m : Moment) : Prop :=
  c.repo.isSome = true ∧ m.persistError.isSome = true

instance (c : Controller) (m : Moment) : Decidable (c.WriteFails m) :=
  inferInstanceAs (Decidable (_ ∧ _))

theorem Kept.position_commit {Q : ModelLifecycleSpec → RolloutState → Prop} {id : String}
    (h : Kept Q id c) (hnamed : c.Named)
    (hmem : c.rollouts id = some record) (m m' : Moment) (message : String)
    (hstate : state.id = id) :
    (c.commit m id message record state).2.position m' id =
      some (if c.WriteFails m then record.state.position else state.position) := by
  cases hrepo : c.repo with
  | none =>
    have hwrites : ¬c.WriteFails m := by simp [Controller.WriteFails, hrepo]
    rw [Controller.commit_alone hrepo, Controller.position_hold, if_neg hwrites]
  | some repo =>
    cases h.memory record hmem with
    | alone hnone =>
      rw [Controller.stored, hrepo] at hnone
      cases hnone
    | stored l state₀ completedAt hstored =>
      obtain ⟨repo', hrepo', hold⟩ := Controller.stored_eq_some.mp hstored
      obtain rfl := Option.some.inj (hrepo.symm.trans hrepo')
      rw [Controller.commit_stored hrepo hold (hnamed.repository id _ hstored) m message record
        hstate]
      cases herror : m.persistError with
      | some err =>
        have hfails : c.WriteFails m := by simp [Controller.WriteFails, hrepo, herror]
        rw [if_pos hfails]
        exact Controller.position_memory hmem m'
      | none =>
        have hwrites : ¬c.WriteFails m := by simp [Controller.WriteFails, herror]
        have hnew : ((c.hold id { record with state }).store repo
            ((l.record state₀ completedAt).withState state)).rollouts id =
            some { record with state } := c.hold_rollouts id _
        rw [if_neg hwrites]
        exact Controller.position_memory hnew m'

theorem Kept.endWeights {id : String} {m : Moment}
    (h : Kept (fun _ state => EndWeights state) id c) (hfind : c.find m id = some record) :
    EndWeights record.state := by
  cases h.find hfind with
  | alone _ hQ => exact hQ
  | stored l state completedAt _ hQ _ hstate =>
    obtain ⟨t, hstate⟩ := hstate
    rw [hstate]
    exact hQ

namespace Controller
variable {c : Controller} {m : Moment} {id : String} {record : RolloutRecord}

theorem rollbackRollout_found (hfind : c.find m id = some record) :
    c.rollbackRollout m id = (c.hold id record).commit m id "persist rollout rollback %q: %w"
      record (record.state.rolledBack m.now) := by
  rw [rollbackRollout, withRecord, hfind]

theorem advanceRollout_passing {canary : CanaryConfig} (hfind : c.find m id = some record)
    (hcanary : record.lifecycle.canary = some canary)
    (hgate : checkSLOGate parseFloat canary.sloGate = true) :
    c.advanceRollout parseFloat m id =
      (c.hold id record).commit m id "persist rollout promotion %q: %w" record
        (record.state.promoted canary.weightIncrement m.now) := by
  simp only [advanceRollout, withRecord, hfind, hcanary, hgate, if_true]

theorem getRolloutState_found (hfind : c.find m id = some record) :
    (c.getRolloutState m id).1 = .ok record.state := by
  rw [getRolloutState, withRecord, hfind]

end Controller

def sampleLifecycle (order : List String) (gate : Option SLOGate) : ModelLifecycleSpec where
  model := ⟨"m", "1"⟩
  strategy := ⟨"Canary", some { initialWeight := 50, weightIncrement := 20, sloGate := gate }⟩
  clusters := some ⟨some order⟩

def calm : Moment := { loadedAt := .zero, now := .zero }

def noFloat : String → Except Error Float64 := fun _ => .error (.sentinel "invalid syntax")

def rolledBackMoves (l : ModelLifecycleSpec) : List Move :=
  [.call calm (.create (.ok []) l), .call calm (.rollback (rolloutID l []))]

def rolledBackRecord (l : ModelLifecycleSpec) : RolloutRecord :=
  ⟨(l.start (rolloutID l []) .zero).rolledBack .zero, l⟩

theorem after_rolledBackMoves (parseFloat : String → Except Error Float64)
    (l : ModelLifecycleSpec) :
    ∃ c : Controller, c.repo = none ∧
      (Controller.new false).after parseFloat (rolledBackMoves l) =
        c.hold (rolloutID l []) (rolledBackRecord l) := by
  have hcreated : ((Controller.new false).createRollout calm (.ok []) l).2 =
      (Controller.new false).hold (rolloutID l []) ⟨l.start (rolloutID l []) .zero, l⟩ := rfl
  simp only [Controller.after, rolledBackMoves, List.foldl_cons, List.foldl_nil, Controller.move,
    Controller.serve, hcreated]
  rw [Controller.rollbackRollout_found (Controller.find_hold ..), Controller.commit_alone rfl]
  exact ⟨_, rfl, rfl⟩

theorem find_rolledBackMoves (parseFloat : String → Except Error Float64) (l : ModelLifecycleSpec) :
    ((Controller.new false).after parseFloat (rolledBackMoves l)).find calm (rolloutID l []) =
      some (rolledBackRecord l) := by
  obtain ⟨c, -, hafter⟩ := after_rolledBackMoves parseFloat l
  rw [hafter]
  exact c.find_hold ..

section
variable (parseFloat : String → Except Error Float64)

def StaysEnded (c : Controller) (m : Moment) (record : RolloutRecord) : Prop :=
  match record.lifecycle.canary with
  | none => True
  | some canary =>
    c.WriteFails m ∨
      if checkSLOGate parseFloat canary.sloGate then
        record.state.phase = "Complete" ∧ 100 ≤ 100 + canary.weightIncrement
      else record.state.phase = "RolledBack" ∨ canary.rollbackOnFailure = false

instance (c : Controller) (m : Moment) (record : RolloutRecord) :
    Decidable (StaysEnded parseFloat c m record) :=
  match h : record.lifecycle.canary with
  | none => .isTrue (by simp [StaysEnded, h])
  | some canary => decidable_of_iff (c.WriteFails m ∨
      if checkSLOGate parseFloat canary.sloGate then
        record.state.phase = "Complete" ∧ 100 ≤ 100 + canary.weightIncrement
      else record.state.phase = "RolledBack" ∨ canary.rollbackOnFailure = false)
      (by simp [StaysEnded, h])

theorem advance_position_iff {id : String} {record : RolloutRecord}
    (hnamed : c.Named) (hkept : Kept (fun _ state => EndWeights state) id c) {m : Moment}
    (hfind : c.find m id = some record)
    (hended : record.state.phase = "RolledBack" ∨ record.state.phase = "Complete") (m' : Moment) :
    (c.advanceRollout parseFloat m id).2.position m' id = some record.state.position ↔
      StaysEnded parseFloat c m record := by
  have hweights := hkept.endWeights hfind
  have hid := hnamed.find hfind
  have hcommit (message : String) (state : RolloutState) (hstate : state.id = id) :=
    (hkept.hold (hkept.find hfind)).position_commit (hnamed.hold hid) (c.hold_rollouts id record)
      m m' message hstate
  have hfails : (c.hold id record).WriteFails m ↔ c.WriteFails m := Iff.rfl
  simp only [Controller.advanceRollout, Controller.withRecord, hfind, StaysEnded]
  cases record.lifecycle.canary with
  | none => simp [Controller.position_hold]
  | some canary =>
    by_cases hgate : checkSLOGate parseFloat canary.sloGate = true
    · simp only [hgate, if_true]
      rw [hcommit _ (record.state.promoted canary.weightIncrement m.now) hid]
      by_cases hwrite : c.WriteFails m
      · simp [hfails, hwrite]
      · simp [hfails, hwrite, promoted_position_iff hweights hended]
    · simp only [hgate, Bool.false_eq_true, if_false]
      cases hrollback : canary.rollbackOnFailure with
      | false => simp [Controller.position_hold]
      | true =>
        rw [if_pos rfl, hcommit _ (record.state.failed m.now) hid]
        by_cases hwrite : c.WriteFails m
        · simp [hfails, hwrite]
        · simp [hfails, hwrite, failed_position_iff hweights]

theorem ended_rollout_final_iff (persistent : Bool) (moves : List Move) (m m' : Moment)
    (id : String) (record : RolloutRecord)
    (hfind : ((Controller.new persistent).after parseFloat moves).find m id = some record)
    (hended : record.state.phase = "RolledBack" ∨ record.state.phase = "Complete") :
    (record.state.phase = "RolledBack" → record.state.currentWeight = 0) ∧
      ((((Controller.new persistent).after parseFloat moves).advanceRollout parseFloat m
          id).2.position m' id = some record.state.position ↔
        StaysEnded parseFloat ((Controller.new persistent).after parseFloat moves) m record) := by
  have hnamed := (Controller.named_new persistent).after parseFloat moves
  have hkept : Kept (fun _ state => EndWeights state) id
      ((Controller.new persistent).after parseFloat moves) :=
    Kept.after (stable_endWeights parseFloat) (Controller.named_new persistent) (.new persistent)
      fun move _ => move.admits_true id
  exact ⟨(hkept.endWeights hfind).1, advance_position_iff parseFloat hnamed hkept hfind hended m'⟩

end

theorem rolledBack_final_when_gate_fails :
    ∃ persistent moves m m' id record,
      ((Controller.new persistent).after noFloat moves).find m id = some record ∧
        record.state.position = ("RolledBack", 0) ∧
        (((Controller.new persistent).after noFloat moves).advanceRollout noFloat m
          id).2.position m' id = some record.state.position := by
  have hfind := find_rolledBackMoves noFloat (sampleLifecycle ["a"] (some {}))
  refine ⟨false, _, calm, calm, _, _, hfind, rfl, ?_⟩
  exact (ended_rollout_final_iff noFloat false _ calm calm _ _ hfind (.inl rfl)).2.mpr
    (by decide +kernel)

/-- An advance brings a rollout back that was rolled back. -/
theorem rolledBack_advanced :
    ∃ parseFloat persistent moves m m' id record,
      ((Controller.new persistent).after parseFloat moves).find m id = some record ∧
        record.state.position = ("RolledBack", 0) ∧
        (((Controller.new persistent).after parseFloat moves).advanceRollout parseFloat m
          id).2.position m' id = some ("Canary", 20) := by
  have hfind := find_rolledBackMoves noFloat (sampleLifecycle [] none)
  exact ⟨noFloat, false, _, calm, calm, _, _, hfind, rfl, by decide +kernel⟩

/-! ## Coherence -/

def CanaryConfig.Bounded (canary : CanaryConfig) : Prop :=
  0 ≤ canary.initialWeight ∧ canary.initialWeight ≤ 100 ∧
    1 ≤ canary.weightIncrement ∧ canary.weightIncrement ≤ 100

instance (canary : CanaryConfig) : Decidable canary.Bounded :=
  inferInstanceAs (Decidable (_ ∧ _ ∧ _ ∧ _))

def WithinBounds (l : ModelLifecycleSpec) : Prop :=
  ∀ canary, l.strategy.canary = some canary → canary.Bounded

structure Coherent (state : RolloutState) : Prop where
  nonneg : 0 ≤ state.currentWeight
  le_hundred : state.currentWeight ≤ 100
  complete_iff : state.phase = "Complete" ↔ state.currentWeight = 100
  clusters : ∀ s ∈ state.clusterStates, s.weight = state.currentWeight ∧ s.phase = state.phase

theorem nextWeight_toInt {weight increment : Int64} (hw : 0 ≤ weight) (hw' : weight ≤ 100)
    (hi : 1 ≤ increment) (hi' : increment ≤ 100) :
    (nextWeight weight increment).toInt = min 100 (weight.toInt + increment.toInt) := by
  have hzero : (0 : Int64).toInt = 0 := rfl
  have hone : (1 : Int64).toInt = 1 := rfl
  have hhundred : (100 : Int64).toInt = 100 := rfl
  rw [Int64.le_iff_toInt_le, hzero] at hw
  rw [Int64.le_iff_toInt_le, hhundred] at hw' hi'
  rw [Int64.le_iff_toInt_le, hone] at hi
  have hsum : (weight + increment).toInt = weight.toInt + increment.toInt := by
    rw [Int64.toInt_add]
    exact Int.bmod_eq_of_le (by omega) (by omega)
  rw [nextWeight]
  split_ifs with h
  · rw [Int64.lt_iff_toInt_lt, hhundred, hsum] at h
    rw [hhundred]
    omega
  · rw [Int64.lt_iff_toInt_lt, hhundred, hsum] at h
    rw [hsum]
    omega

theorem nextWeight_bounds {weight increment : Int64} (hw : 0 ≤ weight) (hw' : weight ≤ 100)
    (hi : 1 ≤ increment) (hi' : increment ≤ 100) :
    0 ≤ nextWeight weight increment ∧ nextWeight weight increment ≤ 100 := by
  have hnext := nextWeight_toInt hw hw' hi hi'
  simp only [Int64.le_iff_toInt_le, Int64.toInt_zero, Int64.toInt_one] at *
  have hhundred : (100 : Int64).toInt = 100 := rfl
  omega

theorem coherent_failed (state : RolloutState) (now : Time) : Coherent (state.failed now) where
  nonneg := by simp [RolloutState.failed]
  le_hundred := by simp [RolloutState.failed]
  complete_iff := by simp [RolloutState.failed]
  clusters := by simp [RolloutState.failed]

theorem coherent_rolledBack (state : RolloutState) (now : Time) :
    Coherent (state.rolledBack now) where
  nonneg := by simp [RolloutState.rolledBack]
  le_hundred := by simp [RolloutState.rolledBack]
  complete_iff := by simp [RolloutState.rolledBack]
  clusters := by simp [RolloutState.rolledBack]

variable {state : RolloutState} {increment : Int64}

theorem Coherent.promoted (h : Coherent state)
    (hclusters : state.clusterStates = []) (hi : 1 ≤ increment)
    (hi' : increment ≤ 100) (now : Time) : Coherent (state.promoted increment now) where
  nonneg := (nextWeight_bounds h.nonneg h.le_hundred hi hi').1
  le_hundred := (nextWeight_bounds h.nonneg h.le_hundred hi hi').2
  complete_iff := by
    simp only [RolloutState.promoted]
    split_ifs with hweight <;> simp [hweight]
  clusters := by simp [RolloutState.promoted, hclusters]

section
variable (parseFloat : String → Except Error Float64)

def StaysCoherent (l : ModelLifecycleSpec) : Prop :=
  if l.strategy.type = "" then l.clusterOrder = []
  else ∀ canary, l.canary = some canary → canary.initialWeight ≠ 100 ∧
    (checkSLOGate parseFloat canary.sloGate = false ∨ l.clusterOrder = [])

def AlwaysCoherent (l : ModelLifecycleSpec) : Prop :=
  ∀ persistent id moves m state, (∀ move ∈ moves, move.Admits (· = l) id) →
    (((Controller.new persistent).after parseFloat moves).getRolloutState m id).1 = .ok state →
    Coherent state

end

namespace ModelLifecycleSpec
variable {l : ModelLifecycleSpec} {canary : CanaryConfig}

theorem settings_of_canary (h : l.canary = some canary) : l.strategy.canary = some canary := by
  rw [ModelLifecycleSpec.canary] at h
  split_ifs at h
  exact h

theorem canary_untyped (h : l.strategy.type = "") : l.canary = none := by
  have hfold : equalFold "" "Canary" = false := by decide +kernel
  simp [ModelLifecycleSpec.canary, isCanary, h, hfold]

theorem reload_typed (h : l.strategy.type ≠ "") : l.reload = l := by
  rw [reload, if_neg h]

theorem canary_reload_untyped (h : l.strategy.type = "") :
    l.reload.canary = some { weightIncrement := 20 } := by
  have hfold : equalFold "Canary" "Canary" = true := by decide +kernel
  simp [reload, h, ModelLifecycleSpec.canary, isCanary, hfold]

end ModelLifecycleSpec

section
variable {parseFloat : String → Except Error Float64} {l : ModelLifecycleSpec}

theorem StaysCoherent.passing (h : StaysCoherent parseFloat l) (hbounds : WithinBounds l)
    {l' : ModelLifecycleSpec} (hl' : l' = l ∨ l' = l.reload) {canary : CanaryConfig}
    (hcanary : l'.canary = some canary) (hgate : checkSLOGate parseFloat canary.sloGate = true) :
    l.clusterOrder = [] ∧ 1 ≤ canary.weightIncrement ∧ canary.weightIncrement ≤ 100 := by
  rw [StaysCoherent] at h
  split_ifs at h with htype
  · rcases hl' with rfl | rfl
    · rw [ModelLifecycleSpec.canary_untyped htype] at hcanary
      cases hcanary
    · rw [ModelLifecycleSpec.canary_reload_untyped htype] at hcanary
      cases hcanary
      exact ⟨h, by decide, by decide⟩
  · rw [ModelLifecycleSpec.reload_typed htype, or_self] at hl'
    subst hl'
    have hclusters := (h canary hcanary).2.resolve_left (by simp [hgate])
    exact ⟨hclusters, (hbounds canary (ModelLifecycleSpec.settings_of_canary hcanary)).2.2⟩

theorem StaysCoherent.initial (h : StaysCoherent parseFloat l) {canary : CanaryConfig}
    (hcanary : l.canary = some canary) : canary.initialWeight ≠ 100 := by
  rw [StaysCoherent] at h
  split_ifs at h with htype
  · rw [ModelLifecycleSpec.canary_untyped htype] at hcanary
    cases hcanary
  · exact (h canary hcanary).1

end

theorem coherent_start (hbounds : WithinBounds l)
    (hinitial : ∀ canary, l.canary = some canary → canary.initialWeight ≠ 100) (id : String)
    (now : Time) : Coherent (l.start id now) := by
  cases hcanary : l.canary with
  | none => constructor <;> simp [ModelLifecycleSpec.start, hcanary]
  | some canary =>
    obtain ⟨hlow, hhigh, -⟩ := hbounds canary (ModelLifecycleSpec.settings_of_canary hcanary)
    have hne := hinitial canary hcanary
    constructor <;> simp [ModelLifecycleSpec.start, hcanary, hlow, hhigh, hne]

def Stepwise (l₀ l : ModelLifecycleSpec) (state : RolloutState) : Prop :=
  l = l₀ ∧ Coherent state ∧ (l.clusterOrder = [] → state.clusterStates = [])

theorem Stepwise.next {l₀ l l' : ModelLifecycleSpec} {state state' : RolloutState} {now : Time}
    (hcond : StaysCoherent parseFloat l₀) (hbounds : WithinBounds l₀)
    (hl' : l' = l ∨ l' = l.reload) (h : Stepwise l₀ l state)
    (hnext : Next parseFloat l' state now state') : Stepwise l₀ l state' := by
  obtain ⟨rfl, hcoherent, hclusters⟩ := h
  cases hnext with
  | promoted canary hcanary hgate =>
    obtain ⟨horder, hlow, hhigh⟩ := hcond.passing hbounds hl' hcanary hgate
    have hnil := hclusters horder
    exact ⟨rfl, hcoherent.promoted hnil hlow hhigh now,
      fun _ => by simp [RolloutState.promoted, hnil]⟩
  | failed =>
    exact ⟨rfl, coherent_failed state now,
      fun horder => by simp [RolloutState.failed, hclusters horder]⟩
  | rolledBack =>
    exact ⟨rfl, coherent_rolledBack state now,
      fun horder => by simp [RolloutState.rolledBack, hclusters horder]⟩

theorem stable_stepwise {l₀ : ModelLifecycleSpec}
    (hcond : StaysCoherent parseFloat l₀) (hbounds : WithinBounds l₀) :
    Stable parseFloat (· = l₀) (Stepwise l₀) where
  start l id now hl := by
    subst hl
    exact ⟨rfl, coherent_start hbounds (fun _ => hcond.initial) id now,
      fun horder => by simp [ModelLifecycleSpec.start, horder]⟩
  next _ _ _ _ h hnext := h.next hcond hbounds (.inl rfl) hnext
  reloaded _ _ _ _ h hnext := h.next hcond hbounds (.inr rfl) hnext

theorem alwaysCoherent_of_stays (hbounds : WithinBounds l) (hcond : StaysCoherent parseFloat l) :
    AlwaysCoherent parseFloat l := by
  intro persistent id moves m state hadmits hget
  have hkept := Kept.after (stable_stepwise hcond hbounds) (Controller.named_new persistent)
    (.new persistent) hadmits
  cases hfind : ((Controller.new persistent).after parseFloat moves).find m id with
  | none =>
    rw [Controller.getRolloutState, Controller.withRecord, hfind] at hget
    cases hget
  | some record =>
    rw [Controller.getRolloutState_found hfind] at hget
    cases hget
    cases hkept.find hfind with
    | alone _ hQ => exact hQ.2.1
    | stored l' state' _ _ hQ _ hstate =>
      obtain ⟨t, hstate⟩ := hstate
      rw [hstate]
      obtain ⟨-, ⟨hnonneg, hle, hcomplete, hclusters⟩, -⟩ := hQ
      exact ⟨hnonneg, hle, hcomplete, hclusters⟩

/-! The runs that get out of step: a start at full weight, an advance after a rollback, and an
advance of a rollout without a strategy type that has been reloaded. -/

section
variable {parseFloat : String → Except Error Float64} {l : ModelLifecycleSpec}

theorem admits_create (id : String) (suffix : Except Error Bytes) (m : Moment) :
    (Move.call m (.create suffix l)).Admits (· = l) id := by
  cases suffix with
  | error err => trivial
  | ok suffix => exact fun _ => rfl

theorem AlwaysCoherent.memory (h : AlwaysCoherent parseFloat l) {persistent : Bool} {id : String}
    {moves : List Move} (hadmits : ∀ move ∈ moves, move.Admits (· = l) id) {record : RolloutRecord}
    (hmem : ((Controller.new persistent).after parseFloat moves).rollouts id = some record) :
    Coherent record.state :=
  h persistent id moves calm _ hadmits
    (Controller.getRolloutState_found (Controller.find_memory hmem calm))

theorem AlwaysCoherent.start (h : AlwaysCoherent parseFloat l) :
    Coherent (l.start (rolloutID l []) .zero) := by
  have hmem : ((Controller.new false).after parseFloat
      [.call calm (.create (.ok []) l)]).rollouts (rolloutID l []) =
      some ⟨l.start (rolloutID l []) .zero, l⟩ := Controller.hold_rollouts ..
  exact h.memory (List.forall_mem_singleton.mpr (admits_create ..)) hmem

theorem Coherent.promoted_clusters {now : Time}
    (h : Coherent (state.promoted increment now)) (s : ClusterRolloutState)
    (hs : s ∈ state.clusterStates) : s.phase = "Complete" ∨ s.phase = "Canary" := by
  have hphase := (h.clusters _ (List.mem_map_of_mem hs)).2
  simp only [RolloutState.promoted] at hphase
  rw [hphase]
  split_ifs
  · exact .inl rfl
  · exact .inr rfl

theorem clusterOrder_eq_nil {now : Time}
    (h : Coherent (state.promoted increment now)) {phase : String}
    (hphase : phase ≠ "Complete" ∧ phase ≠ "Canary")
    (entry : String → ClusterRolloutState) (hentry : ∀ clusterID, (entry clusterID).phase = phase)
    (hstates : state.clusterStates = l.clusterOrder.map entry) : l.clusterOrder = [] := by
  rw [List.eq_nil_iff_forall_not_mem]
  intro clusterID hmem
  have hcluster := h.promoted_clusters (entry clusterID)
    (hstates ▸ List.mem_map_of_mem hmem)
  rw [hentry] at hcluster
  exact hcluster.elim hphase.1 hphase.2

theorem AlwaysCoherent.clusters_of_passing (h : AlwaysCoherent parseFloat l)
    {canary : CanaryConfig} (hcanary : l.canary = some canary)
    (hgate : checkSLOGate parseFloat canary.sloGate = true) : l.clusterOrder = [] := by
  have hadmits : ∀ move ∈ rolledBackMoves l ++ [.call calm (.advance (rolloutID l []))],
      move.Admits (· = l) (rolloutID l []) := by
    simp [rolledBackMoves, Move.Admits, Call.Admits]
  have hmem : ((Controller.new false).after parseFloat
      (rolledBackMoves l ++ [.call calm (.advance (rolloutID l []))])).rollouts (rolloutID l []) =
      some ⟨(rolledBackRecord l).state.promoted canary.weightIncrement .zero, l⟩ := by
    obtain ⟨c, hrepo, hafter⟩ := after_rolledBackMoves parseFloat l
    rw [Controller.after] at hafter
    rw [Controller.after, List.foldl_append, hafter]
    simp only [List.foldl_cons, List.foldl_nil, Controller.move, Controller.serve]
    rw [Controller.advanceRollout_passing (c.find_hold ..) hcanary hgate,
      Controller.commit_alone (c := (c.hold _ _).hold _ _) hrepo]
    exact Controller.hold_rollouts ..
  have hphase : "RolledBack" ≠ "Complete" ∧ "RolledBack" ≠ "Canary" := by decide
  refine clusterOrder_eq_nil (h.memory hadmits hmem) hphase
    (fun clusterID => ⟨clusterID, "RolledBack", 0, false⟩) (fun _ => rfl) ?_
  simp [rolledBackRecord, RolloutState.rolledBack, ModelLifecycleSpec.start]

theorem AlwaysCoherent.clusters_of_untyped (h : AlwaysCoherent parseFloat l)
    (htype : l.strategy.type = "") : l.clusterOrder = [] := by
  let id := rolloutID l []
  let moves : List Move :=
    [.call calm (.create (.ok []) l), .restart, .call calm (.advance id)]
  have hadmits : ∀ move ∈ moves, move.Admits (· = l) id := by
    simp [moves, Move.Admits, Call.Admits]
  -- the restarted controller rebuilds the rollout as a canary
  let restarted := ((Controller.new true).createRollout calm (.ok []) l).2.restart
  let record := l.record (l.start id .zero) none
  have hstored : restarted.stored id = some (some record) :=
    congrArg some (Repository.put_self {} record)
  have hfind : restarted.find calm id = some ⟨l.start id .zero, l.reload⟩ := by
    have hload := restarted.loadFromRepo_eq calm id
    rw [hstored, show (some (some record)).join = some record from rfl, Option.map_some,
      rebuild_record] at hload
    exact hload
  have hmem : ((Controller.new true).after parseFloat moves).rollouts id =
      some ⟨(l.start id .zero).promoted 20 .zero, l.reload⟩ := by
    have hrepo : (restarted.hold id ⟨l.start id .zero, l.reload⟩).repo =
      some (({} : Repository).put record) := rfl
    have hid : ((l.start id .zero).promoted 20 .zero).id = id := rfl
    have hcommit := Controller.commit_stored hrepo (Repository.put_self {} record) rfl calm
      "persist rollout promotion %q: %w" ⟨l.start id .zero, l.reload⟩ hid
    change (restarted.advanceRollout parseFloat calm id).2.rollouts id = _
    rw [Controller.advanceRollout_passing hfind (ModelLifecycleSpec.canary_reload_untyped htype)
      rfl]
    refine (congrArg (fun r => r.2.rollouts id) hcommit).trans ?_
    exact Controller.hold_rollouts ..
  have hphase : "Pending" ≠ "Complete" ∧ "Pending" ≠ "Canary" := by decide
  refine clusterOrder_eq_nil (h.memory hadmits hmem) hphase
    (fun clusterID => ⟨clusterID, "Pending", 0, false⟩) (fun _ => rfl) ?_
  simp [ModelLifecycleSpec.start, ModelLifecycleSpec.canary_untyped htype]

end

theorem sampleLifecycle_withinBounds (order : List String) (gate : Option SLOGate) :
    WithinBounds (sampleLifecycle order gate) := by
  intro canary hcanary
  cases hcanary
  change (0 : Int64) ≤ 50 ∧ (50 : Int64) ≤ 100 ∧ (1 : Int64) ≤ 20 ∧ (20 : Int64) ≤ 100
  decide

theorem always_coherent_iff (parseFloat : String → Except Error Float64) (l : ModelLifecycleSpec)
    (hbounds : WithinBounds l) : AlwaysCoherent parseFloat l ↔ StaysCoherent parseFloat l := by
  constructor
  · intro h
    rw [StaysCoherent]
    split_ifs with htype
    · exact h.clusters_of_untyped htype
    · intro canary hcanary
      constructor
      · intro hinitial
        have hcomplete := h.start.complete_iff.mpr
        simp [ModelLifecycleSpec.start, hcanary, hinitial] at hcomplete
      · rw [or_iff_not_imp_left, Bool.not_eq_false]
        exact h.clusters_of_passing hcanary
  · exact alwaysCoherent_of_stays hbounds

theorem sample_without_clusters_coherent :
    WithinBounds (sampleLifecycle [] none) ∧ AlwaysCoherent noFloat (sampleLifecycle [] none) := by
  have hbounds := sampleLifecycle_withinBounds [] none
  refine ⟨hbounds, (always_coherent_iff noFloat _ hbounds).mpr ?_⟩
  rw [StaysCoherent, if_neg (by decide)]
  intro canary hcanary
  obtain rfl := Option.some.inj (ModelLifecycleSpec.settings_of_canary hcanary)
  exact ⟨by decide, .inr rfl⟩

/-- After a rollback and an advance the clusters are in another phase than the rollout. -/
theorem sample_clusters_left_behind :
    ∃ parseFloat l persistent id moves m state, WithinBounds l ∧
      (∀ move ∈ moves, move.Admits (· = l) id) ∧
      (((Controller.new persistent).after parseFloat moves).getRolloutState m id).1 = .ok state ∧
      ¬Coherent state := by
  let l := sampleLifecycle ["a"] none
  let id := rolloutID l []
  let moves := rolledBackMoves l ++ [.call calm (.advance id)]
  let state := (rolledBackRecord l).state.promoted 20 .zero
  refine ⟨noFloat, l, false, id, moves, calm, state, sampleLifecycle_withinBounds _ _, ?_, ?_, ?_⟩
  · simp [moves, rolledBackMoves, Move.Admits, Call.Admits]
  · decide +kernel
  · intro h
    have hphase := h.promoted_clusters ⟨"a", "RolledBack", 0, false⟩ (by decide +kernel)
    exact absurd hphase (by decide)

end FleetLlmd.Rollout
