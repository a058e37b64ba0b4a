import FleetLlmd.Modelpack.Resolver
import FleetLlmd.Placement.Solver

/-!
# Placement by model metadata

The solver that derives a hardware rule from the size of the model before it asks the inner solver.
Sizes are exact rationals; `parseFloat` is `strconv.ParseFloat`.
-/

namespace FleetLlmd.Placement
open Go Modelpack

structure GPURequirements where
  supportedGPUTypes : List String
  deriving DecidableEq

structure GPUSpec where
  name : String
  memoryGB : ℚ

def knownGPUs : List GPUSpec :=
  [⟨"B200", 192⟩, ⟨"MI300X", 192⟩, ⟨"H200", 141⟩, ⟨"Gaudi3", 128⟩, ⟨"Gaudi2", 96⟩, ⟨"H100", 80⟩,
    ⟨"A100", 80⟩]

def parseParamSize (parseFloat : String → Except Error ℚ) (s : String) : Except Error ℚ :=
  let s := trimSpace (toLower s)
  let scaled (suffix : String) (multiplier : ℚ) : Except Error ℚ :=
    match parseFloat (trimSuffix s suffix) with
    | .error err =>
      .error (.wrapf "parsing numeric part of paramSize %q: %w" [trimSuffix s suffix] err)
    | .ok val =>
      if val ≤ 0 then .error (.errorf "paramSize must be positive, got %v" [toString val])
      else .ok (val * multiplier)
  if s = "" then .error (.errorf "empty paramSize" [])
  else if (chars "b").isSuffixOf (chars s) then scaled "b" (10 ^ 9)
  else if (chars "m").isSuffixOf (chars s) then scaled "m" (10 ^ 6)
  else .error (.errorf "unrecognized paramSize suffix in %q (expected 'b' or 'm')" [s])

def bytesPerParamForPrecision (precision : String) : Except Error ℚ :=
  match toLower (trimSpace precision) with
  | "fp32" | "float32" => .ok 4
  | "fp16" | "float16" | "bf16" | "bfloat16" | "" => .ok 2
  | "int8" | "fp8" => .ok 1
  | "int4" => .ok (1 / 2)
  | _ => .error (.errorf "unknown precision %q" [precision])

def selectGPUs (totalMemoryGB : ℚ) : List String :=
  match knownGPUs.filter fun gpu => (totalMemoryGB / gpu.memoryGB).ceil ≤ 8 with
  | [] => ["B200"]
  | fitting => fitting.map (·.name)

def computeGPURequirements (parseFloat : String → Except Error ℚ) (config : ModelPackConfig) :
    Except Error GPURequirements :=
  match parseParamSize parseFloat config.config.paramSize,
      bytesPerParamForPrecision config.config.precision with
  | .error err, _ => .error (.wrapf "parsing paramSize: %w" [] err)
  | .ok _, .error err => .error (.wrapf "determining bytes per param: %w" [] err)
  | .ok params, .ok bytesPerParam =>
    .ok ⟨selectGPUs (params * bytesPerParam / 10 ^ 9 * (6 / 5))⟩

def hasHardwareConstraint (policy : PlacementPolicySpec) : Bool :=
  policy.constraints.any (·.type = "hardware")

structure ModelPackAwareConstraintSolver where
  inner : Solver
  resolver : Option (String → Except Error (Option ModelPackConfig))
  parseFloat : String → Except Error ℚ

namespace ModelPackAwareConstraintSolver
variable (s : ModelPackAwareConstraintSolver)

def requirements (pool : FleetInferencePoolSpec) : Option GPURequirements :=
  if pool.ociRef = "" then none
  else do
    let resolve ← s.resolver
    let config ← (← (resolve pool.ociRef).toOption)
    (computeGPURequirements s.parseFloat config).toOption

def enriched (pool : FleetInferencePoolSpec) (policy : PlacementPolicySpec) : PlacementPolicySpec :=
  match s.requirements pool with
  | some ⟨type :: _⟩ =>
    if hasHardwareConstraint policy then policy
    else { policy with
      constraints := policy.constraints ++ [⟨"hardware", "gpu-type=" ++ type⟩] }
  | _ => policy

def solve (pool : FleetInferencePoolSpec) (policy : PlacementPolicySpec)
    (clusters : List ClusterInfo) : Except Error (List PlacementDecision) :=
  s.inner.solve pool (s.enriched pool policy) clusters

end ModelPackAwareConstraintSolver

/-! ## Placeable models -/

theorem gpuType_known : ∀ gpu ∈ knownGPUs,
    (PlacementConstraint.mk "hardware" ("gpu-type=" ++ gpu.name)).gpuType = some gpu.name ∧
      parseHardware ("gpu-type=" ++ gpu.name) = .gpuType gpu.name ∧ gpu.name ≠ "" := by
  decide +kernel

theorem selectGPUs_known (total : ℚ) :
    ∃ gpu ∈ knownGPUs, ∃ rest, selectGPUs total = gpu.name :: rest := by
  rw [selectGPUs]
  cases hfit : knownGPUs.filter fun gpu => (total / gpu.memoryGB).ceil ≤ 8 with
  | nil => exact ⟨⟨"B200", 192⟩, List.mem_cons_self, [], rfl⟩
  | cons gpu rest =>
    have hmem : gpu ∈ knownGPUs := List.mem_of_mem_filter (hfit ▸ List.mem_cons_self)
    exact ⟨gpu, hmem, _, rfl⟩

theorem requirements_known {s : ModelPackAwareConstraintSolver} {pool : FleetInferencePoolSpec}
    {reqs : GPURequirements} (h : s.requirements pool = some reqs) :
    ∃ gpu ∈ knownGPUs, ∃ rest, reqs.supportedGPUTypes = gpu.name :: rest := by
  have hconfig : ∃ config, computeGPURequirements s.parseFloat config = .ok reqs := by
    rw [ModelPackAwareConstraintSolver.requirements] at h
    split_ifs at h
    obtain ⟨resolve, -, h⟩ := Option.bind_eq_some_iff.mp h
    obtain ⟨found, -, h⟩ := Option.bind_eq_some_iff.mp h
    obtain ⟨config, -, h⟩ := Option.bind_eq_some_iff.mp h
    cases hcompute : computeGPURequirements s.parseFloat config with
    | error err => simp [hcompute, Except.toOption] at h
    | ok found =>
      simp only [hcompute, Except.toOption, Option.some.injEq] at h
      exact ⟨config, h ▸ hcompute⟩
  obtain ⟨config, hconfig⟩ := hconfig
  rw [computeGPURequirements] at hconfig
  split at hconfig
  · cases hconfig
  · cases hconfig
  · cases hconfig
    exact selectGPUs_known _

def Placeable (policy : PlacementPolicySpec) (clusters : List ClusterInfo)
    (types : List String) : Prop :=
  ∃ c ∈ clusters, policy.constraints.all (·.met c) = true ∧
    (∃ type ∈ types, type ∈ c.gpuCapacity.types) ∧ 0 < c.gpuCapacity.available

def PlacedOn (types : List String) (clusters : List ClusterInfo)
    (result : Except Error (List PlacementDecision)) : Prop :=
  ∃ decisions, result = .ok decisions ∧ ∀ decision ∈ decisions, ∃ c ∈ clusters,
    c.id = decision.clusterID ∧ ∃ type ∈ types, type ∈ c.gpuCapacity.types

theorem feasible_enriched {gpu : GPUSpec} (hgpu : gpu ∈ knownGPUs) (policy : PlacementPolicySpec)
    (c : ClusterInfo) :
    PlacementPolicySpec.feasible { policy with
        constraints := policy.constraints ++ [⟨"hardware", "gpu-type=" ++ gpu.name⟩] } c = true ↔
      policy.constraints.all (·.met c) = true ∧ gpu.name ∈ c.gpuCapacity.types ∧
        0 < c.gpuCapacity.available := by
  obtain ⟨htype, hrule, hname⟩ := gpuType_known gpu hgpu
  have hrequested : requestedGPUType (policy.constraints ++
      [⟨"hardware", "gpu-type=" ++ gpu.name⟩]) = gpu.name := by
    rw [requestedGPUType, List.reverse_append, List.reverse_singleton, List.singleton_append,
      List.findSome?_cons, htype]
    rfl
  simp [PlacementPolicySpec.feasible, hrequested, hname, PlacementConstraint.met, hrule,
    HardwareRule.met, and_assoc]

def sampleModelSolver : ModelPackAwareConstraintSolver where
  inner := sampleSolver
  resolver := some fun _ => .ok (some { config := { paramSize := "8b", precision := "fp16" } })
  parseFloat _ := .ok 8

def sampleRequirements : GPURequirements := ⟨knownGPUs.map (·.name)⟩

theorem sampleRequirements_eq :
    sampleModelSolver.requirements { ociRef := "oci://m" } = some sampleRequirements := by
  decide +kernel

end FleetLlmd.Placement
