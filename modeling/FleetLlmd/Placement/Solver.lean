import FleetLlmd.Go.Text
import Mathlib.Data.List.Sort
import Mathlib.Data.Rat.Floor

/-!
# Placement

The constraint solver with exact rational scores: it filters the clusters by the rules of a policy,
scores what is left and keeps the best.
-/

namespace FleetLlmd.Placement
open Go

structure GPUCapacity where
  available : Int := 0
  types : List String := []

/-- `labels key` is empty for a key that is missing. -/
structure ClusterInfo where
  id : String
  labels : String → String := fun _ => ""
  gpuCapacity : GPUCapacity := {}
  utilization : ℚ := 0

structure PlacementDecision where
  clusterID : String
  replicas : Int
  gpuType : String
  score : ℚ
  reasons : List String
  deriving DecidableEq

structure PlacementConstraint where
  type : String
  rule : String

structure AffinityRule where
  type : String
  weight : ℚ

structure PlacementPolicySpec where
  constraints : List PlacementConstraint := []
  affinity : List AffinityRule := []

structure FleetInferencePoolSpec where
  ociRef : String := ""
  minClusters : Int := 0
  maxClusters : Int := 0

/-! ## Rules -/

/-- `strings.SplitN(s, "=", 2)`, if it has two parts. -/
def splitAtEquals (s : String) : Option (String × String) :=
  match (chars s).dropWhile (· != '=') with
  | [] => none
  | _ :: value => some (String.ofList ((chars s).takeWhile (· != '=')), String.ofList value)

def fields (s : String) : List String :=
  (((chars s).splitOnP isSpace).filter (!·.isEmpty)).map String.ofList

def atoi (s : String) : Option Int :=
  let value (neg : Bool) (digits : List Char) : Option Int :=
    let n : Int := digits.foldl (fun n c => 10 * n + (c.toNat - 48)) 0
    let n := if neg then -n else n
    if digits.isEmpty || !digits.all Char.isDigit || n < -2 ^ 63 || 2 ^ 63 ≤ n then none else some n
  match chars s with
  | '-' :: digits => value true digits
  | '+' :: digits => value false digits
  | digits => value false digits

def parseCPUFeatureConstraint (rule : String) : Option String :=
  let rule := trimSpace rule
  if !(chars "cpu in [").isPrefixOf (chars rule) || !(chars "]").isSuffixOf (chars rule) then none
  else
    let value := trimSpace (trimSuffix (trimPrefix rule "cpu in [") "]")
    -- the quotation marks that `strings.Trim` takes off
    let value := trimChars (fun c => c.toNat == 39 || c.toNat == 34) (chars value)
    if value.isEmpty || value.contains ',' then none else some (String.ofList value)

inductive HardwareRule where
  | cpuFeature (feature : String)
  | available (minimum : Int)
  | gpuType (type : String)
  | unknown
  deriving DecidableEq

def parseHardware (rule : String) : HardwareRule :=
  match parseCPUFeatureConstraint rule, fields rule, splitAtEquals rule with
  | some feature, _, _ => .cpuFeature feature
  | none, ["nvidia.com/gpu", ">=", n], _ =>
    match atoi n with
    | some minimum => if minimum < 0 then .unknown else .available minimum
    | none => .unknown
  | none, _, some (key, value) =>
    if trimSpace key = "gpu-type" then .gpuType (trimSpace value) else .unknown
  | none, _, none => .unknown

def HardwareRule.met (c : ClusterInfo) : HardwareRule → Bool
  | .cpuFeature feature =>
    let configured := c.labels "fleet.llm-d.ai/cpu-features"
    let configured := if configured = "" then c.labels "cpu-features" else configured
    ((chars configured).splitOn ',').any fun candidate =>
      trimSpace (String.ofList candidate) == feature
  | .available minimum => minimum ≤ c.gpuCapacity.available
  | .gpuType type => c.gpuCapacity.types.contains type
  | .unknown => false

def filterHardware (clusters : List ClusterInfo) (rule : String) : List ClusterInfo :=
  clusters.filter (parseHardware rule).met

def filterRegulatory (clusters : List ClusterInfo) (rule : String) : List ClusterInfo :=
  match splitAtEquals rule with
  | none => clusters
  | some (key, value) => clusters.filter fun c => c.labels key == value

def PlacementConstraint.gpuType (constraint : PlacementConstraint) : Option String :=
  if constraint.type = "hardware" && (chars "gpu-type=").isPrefixOf (chars constraint.rule) then
    (splitAtEquals constraint.rule).map (·.2)
  else none

def constrain (acc : List ClusterInfo × String) (constraint : PlacementConstraint) :
    List ClusterInfo × String :=
  if constraint.type = "regulatory" then (filterRegulatory acc.1 constraint.rule, acc.2)
  else if constraint.type = "hardware" then
    (filterHardware acc.1 constraint.rule, constraint.gpuType.getD acc.2)
  else acc

/-! ## Scores -/

def scoreCluster (cluster : ClusterInfo) (affinity : List AffinityRule) : ℚ :=
  let weights := (affinity.filter (·.type = "cost-optimization")).map (·.weight)
  let score := weights.foldl (fun score weight => score + weight * (1 - cluster.utilization)) 0
  let totalWeight := weights.foldl (· + ·) 0
  if 0 < totalWeight then score / totalWeight else 1 - cluster.utilization

structure SliceSort where
  sort : List PlacementDecision → List PlacementDecision
  perm : ∀ decisions, (sort decisions).Perm decisions
  sorted : ∀ decisions, (sort decisions).Pairwise (·.score ≥ ·.score)

/-- `format2` is the verb `%.2f`. -/
structure Solver where
  scorer : Option (ClusterInfo → FleetInferencePoolSpec → PlacementPolicySpec → Except Error ℚ)
  slice : SliceSort
  format2 : ℚ → String

namespace Solver
variable (s : Solver) (pool : FleetInferencePoolSpec) (policy : PlacementPolicySpec)

def score (c : ClusterInfo) : Except Error ℚ :=
  match s.scorer with
  | none => .ok (scoreCluster c policy.affinity)
  | some scorer =>
    match scorer c pool policy with
    | .error err => .error (.wrapf "scorer error for cluster %s: %w" [c.id] err)
    | .ok score => .ok score

def decision (requested : String) (c : ClusterInfo) (score : ℚ) : PlacementDecision where
  clusterID := c.id
  replicas :=
    if requested ≠ "" ∧ 0 < pool.minClusters then
      max 1 (c.gpuCapacity.available.tdiv (max pool.minClusters 1))
    else 1
  gpuType := if requested = "" then c.gpuCapacity.types.headD "" else requested
  score := score
  reasons :=
    (if requested = "" then "passed constraints"
      else "gpu-type=" ++ requested ++ " available=" ++ toString c.gpuCapacity.available) ::
    if 0 < score then ["affinity-score=" ++ s.format2 score] else []

def limit (decisions : List PlacementDecision) : List PlacementDecision :=
  if 0 < pool.maxClusters ∧ pool.maxClusters < decisions.length then
    decisions.take pool.maxClusters.toNat
  else decisions

def solve (clusters : List ClusterInfo) : Except Error (List PlacementDecision) :=
  let (eligible, requested) := policy.constraints.foldl constrain (clusters, "")
  if eligible.isEmpty then
    .error (.errorf "no feasible placement: no clusters satisfy all constraints" [])
  else
    let eligible :=
      if requested = "" then eligible else eligible.filter (0 < ·.gpuCapacity.available)
    if eligible.isEmpty then
      .error (.errorf "no feasible placement: no clusters have available capacity" [])
    else do
      let decisions ← eligible.mapM fun c =>
        (s.score pool policy c).map (s.decision pool requested c)
      return limit pool (s.slice.sort decisions)

end Solver

/-! ## Feasible clusters -/

def PlacementConstraint.met (c : ClusterInfo) (constraint : PlacementConstraint) : Bool :=
  if constraint.type = "regulatory" then
    (splitAtEquals constraint.rule).all fun (key, value) => c.labels key == value
  else constraint.type ≠ "hardware" || (parseHardware constraint.rule).met c

def requestedGPUType (constraints : List PlacementConstraint) : String :=
  (constraints.reverse.findSome? (·.gpuType)).getD ""

def PlacementPolicySpec.feasible (policy : PlacementPolicySpec) (c : ClusterInfo) : Bool :=
  policy.constraints.all (·.met c) &&
    (requestedGPUType policy.constraints = "" || 0 < c.gpuCapacity.available)

theorem constrain_eq (eligible : List ClusterInfo) (requested : String)
    (constraint : PlacementConstraint) :
    constrain (eligible, requested) constraint =
      (eligible.filter (constraint.met ·), constraint.gpuType.getD requested) := by
  rw [constrain]
  split_ifs with hregulatory hhardware
  · simp only [filterRegulatory, PlacementConstraint.met, PlacementConstraint.gpuType, hregulatory]
    cases splitAtEquals constraint.rule <;> simp
  · simp [filterHardware, PlacementConstraint.met, hhardware]
  · simp [PlacementConstraint.met, PlacementConstraint.gpuType, hregulatory, hhardware]

theorem foldl_constrain (constraints : List PlacementConstraint) (eligible : List ClusterInfo)
    (requested : String) :
    constraints.foldl constrain (eligible, requested) =
      (eligible.filter fun c => constraints.all (·.met c),
        (constraints.reverse.findSome? (·.gpuType)).getD requested) := by
  induction constraints generalizing eligible requested with
  | nil => simp
  | cons constraint constraints ih =>
    rw [List.foldl_cons, constrain_eq, ih, List.filter_filter, List.reverse_cons,
      List.findSome?_append]
    refine Prod.ext ?_ ?_
    · simp [Bool.and_comm]
    · cases constraints.reverse.findSome? (·.gpuType) <;> simp

theorem mapM_ok {α β : Type} {f : α → Except Error β} {g : α → β} {xs : List α}
    (h : ∀ x ∈ xs, f x = .ok (g x)) : xs.mapM f = .ok (xs.map g) := by
  induction xs with
  | nil => rfl
  | cons x xs ih =>
    rw [List.mapM_cons, h x List.mem_cons_self, ih fun y hy => h y (List.mem_cons_of_mem x hy)]
    rfl

/-- A rearrangement of the images comes from one of the list. -/
theorem exists_perm_of_map {α β : Type} {f : α → β} {ys : List β} {xs : List α}
    (h : ys.Perm (xs.map f)) : ∃ zs : List α, zs.Perm xs ∧ zs.map f = ys := by
  have himages : List.Forall₂ (fun y x => f x = y) (xs.map f) xs :=
    List.forall₂_map_left_iff.mpr (List.forall₂_same.mpr fun _ _ => rfl)
  obtain ⟨zs, hzs, hperm⟩ := List.perm_comp_forall₂ h himages
  refine ⟨zs, hperm, ?_⟩
  rw [← List.forall₂_eq_eq_eq, List.forall₂_map_left_iff]
  exact hzs.flip

/-- The last filter of `solve`. -/
theorem PlacementPolicySpec.filter_feasible (policy : PlacementPolicySpec)
    (clusters : List ClusterInfo) :
    (if requestedGPUType policy.constraints = "" then
        clusters.filter fun c => policy.constraints.all (·.met c)
      else (clusters.filter fun c => policy.constraints.all (·.met c)).filter
        (0 < ·.gpuCapacity.available)) = clusters.filter policy.feasible := by
  have hfeasible : policy.feasible = fun c => policy.feasible c := rfl
  rw [hfeasible]
  split_ifs with h
  · simp [PlacementPolicySpec.feasible, h]
  · simp [PlacementPolicySpec.feasible, h, Bool.and_comm]

def BestChoice (score : ClusterInfo → ℚ) (maxClusters : Int)
    (feasible chosen : List ClusterInfo) : Prop :=
  ∃ omitted, (chosen ++ omitted).Perm feasible ∧ chosen.Pairwise (score · ≥ score ·) ∧
    chosen.length =
      (if 0 < maxClusters then min maxClusters.toNat feasible.length else feasible.length) ∧
    ∀ c ∈ chosen, ∀ other ∈ omitted, score other ≤ score c

namespace Solver
variable {s : Solver} {pool : FleetInferencePoolSpec} {policy : PlacementPolicySpec}
variable {clusters : List ClusterInfo} {score : ClusterInfo → ℚ}

theorem solve_eq (s : Solver) (pool : FleetInferencePoolSpec) (policy : PlacementPolicySpec)
    (clusters : List ClusterInfo) :
    s.solve pool policy clusters =
      if (clusters.filter fun c => policy.constraints.all (·.met c)).isEmpty then
        .error (.errorf "no feasible placement: no clusters satisfy all constraints" [])
      else if (clusters.filter policy.feasible).isEmpty then
        .error (.errorf "no feasible placement: no clusters have available capacity" [])
      else do
        let decisions ← (clusters.filter policy.feasible).mapM fun c =>
          (s.score pool policy c).map (s.decision pool (requestedGPUType policy.constraints) c)
        return limit pool (s.slice.sort decisions) := by
  rw [solve, foldl_constrain, ← policy.filter_feasible]
  rfl

theorem solve_infeasible (h : clusters.filter policy.feasible = []) :
    ∃ err, s.solve pool policy clusters = .error err := by
  rw [solve_eq, h]
  split_ifs with hrules hnone
  · exact ⟨_, rfl⟩
  · exact ⟨_, rfl⟩
  · exact absurd rfl hnone

theorem solve_feasible (hscore : ∀ c ∈ clusters, s.score pool policy c = .ok (score c))
    (h : clusters.filter policy.feasible ≠ []) :
    s.solve pool policy clusters = .ok (limit pool (s.slice.sort
      ((clusters.filter policy.feasible).map fun c =>
        s.decision pool (requestedGPUType policy.constraints) c (score c)))) := by
  have hmap := mapM_ok (f := fun c => (s.score pool policy c).map
      (s.decision pool (requestedGPUType policy.constraints) c)) fun c hc =>
    congrArg (Except.map _) (hscore c (List.mem_of_mem_filter (p := policy.feasible) hc))
  have hrules : (clusters.filter fun c => policy.constraints.all (·.met c)) ≠ [] := by
    intro hnone
    rw [← policy.filter_feasible, hnone] at h
    simp at h
  rw [solve_eq, hmap]
  simp only [List.isEmpty_iff, hrules, h, if_false]
  rfl

theorem limit_sorted (s : Solver) (pool : FleetInferencePoolSpec) (score : ClusterInfo → ℚ)
    (feasible : List ClusterInfo) (requested : String) :
    ∃ chosen, BestChoice score pool.maxClusters feasible chosen ∧
      limit pool (s.slice.sort (feasible.map fun c => s.decision pool requested c (score c))) =
        chosen.map fun c => s.decision pool requested c (score c) := by
  obtain ⟨sorted, hperm, hsorted⟩ := exists_perm_of_map (s.slice.perm
    (feasible.map fun c => s.decision pool requested c (score c)))
  have horder := s.slice.sorted (feasible.map fun c => s.decision pool requested c (score c))
  rw [← hsorted, List.pairwise_map] at horder
  have hlength := hperm.length_eq
  let n := if 0 < pool.maxClusters then pool.maxClusters.toNat else sorted.length
  have hsplit := List.take_append_drop n sorted
  rw [← hsplit, List.pairwise_append] at horder
  refine ⟨sorted.take n, ⟨sorted.drop n, hsplit.symm ▸ hperm, horder.1, ?_, horder.2.2⟩, ?_⟩
  · rw [List.length_take, ← hlength]
    simp only [n]
    split_ifs with hpos
    · rfl
    · exact Nat.min_self _
  · rw [limit, ← hsorted, List.length_map, List.map_take]
    split_ifs with hmax
    · rw [show n = pool.maxClusters.toNat from if_pos hmax.1]
    · rw [List.take_of_length_le]
      rw [List.length_map]
      simp only [n]
      split_ifs with hpos
      · omega
      · exact le_rfl

end Solver

theorem solve_best (s : Solver) (pool : FleetInferencePoolSpec) (policy : PlacementPolicySpec)
    (clusters : List ClusterInfo) (score : ClusterInfo → ℚ)
    (hscore : ∀ c ∈ clusters, s.score pool policy c = .ok (score c)) :
    let feasible := clusters.filter policy.feasible
    ((∃ err, s.solve pool policy clusters = .error err) ↔ feasible = []) ∧
      ∀ decisions, s.solve pool policy clusters = .ok decisions →
        ∃ chosen, BestChoice score pool.maxClusters feasible chosen ∧
          decisions = chosen.map fun c =>
            s.decision pool (requestedGPUType policy.constraints) c (score c) := by
  intro feasible
  by_cases hfeasible : feasible = []
  · obtain ⟨err, herr⟩ := @Solver.solve_infeasible s pool policy clusters hfeasible
    refine ⟨iff_of_true ⟨err, herr⟩ hfeasible, fun decisions hok => ?_⟩
    rw [herr] at hok
    cases hok
  · have hsolve := s.solve_feasible hscore hfeasible
    refine ⟨iff_of_false (fun ⟨err, herr⟩ => ?_) hfeasible, fun decisions hok => ?_⟩
    · rw [hsolve] at herr
      cases herr
    · obtain rfl := Except.ok.inj (hsolve.symm.trans hok)
      exact s.limit_sorted pool score feasible _

def sampleSolver : Solver where
  scorer := none
  slice :=
    { sort := List.insertionSort (·.score ≥ ·.score)
      perm := List.perm_insertionSort _
      sorted :=
        haveI : Std.Total fun a b : PlacementDecision => a.score ≥ b.score :=
          ⟨fun a b => le_total b.score a.score⟩
        haveI : IsTrans PlacementDecision fun a b => a.score ≥ b.score := ⟨fun _ _ _ => ge_trans⟩
        List.pairwise_insertionSort _ }
  format2 _ := ""

/-- Three clusters offer the type of the rule, one has all its GPUs taken, and two are wanted. -/
theorem sample_best :
    let cluster (id : String) (available : Int) (utilization : ℚ) : ClusterInfo :=
      { id, gpuCapacity := ⟨available, ["H100"]⟩, utilization }
    let clusters := [cluster "a" 8 (9 / 10), cluster "b" 0 0, cluster "c" 8 (1 / 10),
      cluster "d" 8 (1 / 2)]
    let policy : PlacementPolicySpec := { constraints := [⟨"hardware", "gpu-type=H100"⟩] }
    ∃ decisions chosen, sampleSolver.solve { maxClusters := 2 } policy clusters = .ok decisions ∧
      decisions.map (·.clusterID) = ["c", "d"] ∧
      BestChoice (scoreCluster · []) 2 (clusters.filter policy.feasible) chosen ∧
      chosen.map (·.id) = ["c", "d"] := by
  intro cluster clusters policy
  have hbest := (solve_best sampleSolver { maxClusters := 2 } policy clusters (scoreCluster · [])
    fun _ _ => rfl).2
  have hids : (sampleSolver.solve { maxClusters := 2 } policy clusters).toOption.map
      (·.map (·.clusterID)) = some ["c", "d"] := by decide +kernel
  cases hsolve : sampleSolver.solve { maxClusters := 2 } policy clusters with
  | error err =>
    rw [hsolve] at hids
    cases hids
  | ok decisions =>
    rw [hsolve] at hids
    have hnames : decisions.map (·.clusterID) = ["c", "d"] := Option.some.inj hids
    obtain ⟨chosen, hchosen, rfl⟩ := hbest decisions hsolve
    refine ⟨_, chosen, rfl, hnames, hchosen, ?_⟩
    rw [List.map_map] at hnames
    exact hnames

end FleetLlmd.Placement
