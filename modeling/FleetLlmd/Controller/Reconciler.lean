import FleetLlmd.Go.Time
import Mathlib.Data.List.AList

/-!
# The pool reconciler

`Reconciler` of `pkg/controller`: a state for each pool, under the name of its model. The
placement solver and the serving resources are part of what the reconciler is given; it
turns what they say into the state of the pool.
-/

namespace FleetLlmd.Controller
open Go

structure FleetInferencePoolSpec where
  modelName : String
  modelSource : String := ""
  placementPolicyRef : String := ""
  minClusters : Int := 0
  targetPorts : List Int := []
  scalingPolicyRef : String := ""
  text : String := ""
  deriving DecidableEq

inductive FleetPhase where
  | pending
  | placing
  | running
  | degraded
  | failed
  deriving DecidableEq

structure FleetPoolState where
  name : String
  model : String
  source : String
  targetPorts : List Int := []
  desiredClusters : List String := []
  actualClusters : List String := []
  phase : FleetPhase := .pending
  lastReconciled : Time := Time.zero
  scalingPolicyRef : String := ""
  deriving DecidableEq

def phaseForObservation (desired actual : List String) (minClusters : Int)
    (observeErr : Option Error) : FleetPhase :=
  let minClusters := if minClusters ≤ 0 then 1 else minClusters
  if observeErr.isSome then .degraded
  else if desired = [] then .failed
  else if desired.all (actual.contains ·) && minClusters ≤ actual.length then .running
  else if actual ≠ [] then .degraded
  else .placing

abbrev Pools := AList fun _ : String => FleetPoolState

/-- `ListPools`: the map is gone through in any order. -/
def Lists (pools : Pools) (listed : List FleetPoolState) : Prop :=
  listed.Perm (pools.entries.map (·.2))

variable {pools : Pools}

theorem Lists.mem_iff {listed : List FleetPoolState} (h : Lists pools listed)
    {p : FleetPoolState} : p ∈ listed ↔ ∃ name, pools.lookup name = some p := by
  rw [List.Perm.mem_iff h, List.mem_map]
  constructor
  · rintro ⟨⟨name, p⟩, hmem, rfl⟩
    exact ⟨name, AList.mem_lookup_iff.mpr hmem⟩
  · rintro ⟨name, hlookup⟩
    exact ⟨⟨name, p⟩, AList.mem_lookup_iff.mp hlookup, rfl⟩

inductive Placement where
  | unlisted (err : Error)
  | unresolved (err : Error)
  | unsolved (err : Error)
  | solved (desired actual : List String) (observeErr : Option Error) (now : Time)

def markFailed (name : String) (pools : Pools) : Pools :=
  match pools.lookup name with
  | none => pools
  | some state => pools.insert name { state with phase := .failed }

def nextState (spec : FleetInferencePoolSpec) (desired actual : List String)
    (observeErr : Option Error) (now : Time) (old : Option FleetPoolState) : FleetPoolState :=
  { old.getD { name := spec.modelName, model := spec.modelName, source := spec.modelSource } with
    phase := phaseForObservation desired actual spec.minClusters observeErr
    targetPorts := spec.targetPorts
    desiredClusters := desired
    actualClusters := actual
    lastReconciled := now
    scalingPolicyRef := spec.scalingPolicyRef }

def reconcilePool (spec : FleetInferencePoolSpec) (p : Placement) (pools : Pools) :
    Except Error FleetPoolState × Pools :=
  let name := spec.modelName
  match p with
  | .unlisted err => (.error (.wrapf "listing clusters: %w" [] err), markFailed name pools)
  | .unresolved err =>
    (.error (.wrapf "resolving placement policy %q: %w" [spec.placementPolicyRef] err), pools)
  | .unsolved err => (.error (.wrapf "solving placement: %w" [] err), markFailed name pools)
  | .solved desired actual observeErr now =>
    let state := nextState spec desired actual observeErr now (pools.lookup name)
    (.ok state, pools.insert name state)

def deletePool (name : String) (pools : Pools) : Except Error Unit × Pools :=
  match pools.lookup name with
  | none => (.error (.errorf "pool %q not found" [name]), pools)
  | some _ => (.ok (), pools.erase name)

inductive Reconciled : Pools → Prop
  | start : Reconciled ∅
  | reconcile {pools : Pools} (spec : FleetInferencePoolSpec) (p : Placement) :
    Reconciled pools → Reconciled (reconcilePool spec p pools).2
  | delete {pools : Pools} (name : String) : Reconciled pools → Reconciled (deletePool name pools).2

def Keyed (pools : Pools) : Prop :=
  ∀ name p, pools.lookup name = some p → p.name = name ∧ p.model = name

theorem Keyed.insert (h : Keyed pools) {p : FleetPoolState}
    (hmodel : p.model = p.name) : Keyed (pools.insert p.name p) := by
  intro name q hq
  by_cases hname : name = p.name
  · subst hname
    rw [AList.lookup_insert] at hq
    cases hq
    exact ⟨rfl, hmodel⟩
  · rw [AList.lookup_insert_ne hname] at hq
    exact h name q hq

theorem Keyed.markFailed (h : Keyed pools) (name : String) :
    Keyed (markFailed name pools) := by
  rw [Controller.markFailed]
  split
  · exact h
  · next state hstate =>
    obtain ⟨rfl, hmodel⟩ := h name state hstate
    exact h.insert (p := { state with phase := .failed }) hmodel

theorem Keyed.reconcile (h : Keyed pools) (spec : FleetInferencePoolSpec)
    (p : Placement) : Keyed (reconcilePool spec p pools).2 := by
  cases p with
  | unlisted err => exact h.markFailed _
  | unresolved err => exact h
  | unsolved err => exact h.markFailed _
  | solved desired actual observeErr now =>
    have hnext : ∀ old, pools.lookup spec.modelName = old →
        (nextState spec desired actual observeErr now old).name = spec.modelName ∧
        (nextState spec desired actual observeErr now old).model = spec.modelName := by
      intro old hold
      cases old with
      | none => exact ⟨rfl, rfl⟩
      | some state => exact h _ state hold
    obtain ⟨hname, hmodel⟩ := hnext _ rfl
    have hkeyed := h.insert (hmodel.trans hname.symm)
    rw [hname] at hkeyed
    exact hkeyed

theorem Keyed.delete (h : Keyed pools) (name : String) :
    Keyed (deletePool name pools).2 := by
  rw [deletePool]
  split
  · exact h
  · intro other p hp
    by_cases hname : other = name
    · subst hname
      rw [AList.lookup_erase] at hp
      cases hp
    · rw [AList.lookup_erase_ne hname] at hp
      exact h other p hp

theorem Reconciled.keyed (h : Reconciled pools) : Keyed pools := by
  induction h with
  | start =>
    intro name p hp
    cases hp
  | reconcile spec p _ ih => exact ih.reconcile spec p
  | delete name _ ih => exact ih.delete name

end FleetLlmd.Controller
