import FleetLlmd.Json.Conversion

/-!
# Pool specs between API versions

`FleetInferencePoolSpec` of `v1alpha1` and `v1beta1`, and the conversions of
`pkg/apis/fleet/v1beta1/conversion.go` between them, which write one version as JSON and read the
text as the other. Both versions declare the parts of a spec with the same members; `v1beta1`
also leaves out an empty `source` and an empty picker name.
-/

namespace FleetLlmd.Apis
open Go Json Conversion SharedField

inductive Version where
  | v1alpha1
  | v1beta1
  deriving DecidableEq

def convertJSON {α β : Type} (c : Conversion α β) (x : α) : Except Error β :=
  (c.convert x).mapError (.wrapf "unmarshal conversion target: %w" [])

theorem convertJSON_eq {α β : Type} (c : Conversion α β) (h : c.depth ≤ maxNestingDepth) (x : α) :
    convertJSON c x = .ok (c.result x) := by
  rw [convertJSON, c.convert_eq h]
  rfl

section Fields
variable {σ α : Type}

def own (name : String) (c : FieldConversion α α) (get : σ → α) (set : σ → α → σ)
    (hset : ∀ s, set s (get s) = s := by exact fun _ => rfl) : SharedField σ σ :=
  kept name c get get set hset

def omitText (omitempty : Bool) : FieldConversion String String :=
  text.omitZero (fun _ => rfl) omitempty

def omitNumber (omitempty : Bool) : FieldConversion Int64 Int64 :=
  number.omitZero (fun _ => rfl) omitempty

end Fields

/-! ## The parts of a spec -/

structure ModelSpec where
  name : String := ""
  source : String := ""
  version : String := ""
  ociRef : String := ""
  deriving DecidableEq

def modelSpec (v : Version) : Conversion ModelSpec ModelSpec :=
  struct {} id
    [own "name" (omitText false) (·.name) (fun m s => { m with name := s }),
      own "source" (omitText (v = .v1beta1)) (·.source) (fun m s => { m with source := s }),
      own "version" (omitText true) (·.version) (fun m s => { m with version := s }),
      own "ociRef" (omitText true) (·.ociRef) (fun m s => { m with ociRef := s })]

structure PolicyReference where
  name : String := ""
  ns : String := ""
  deriving DecidableEq

def policyReference : Conversion PolicyReference PolicyReference :=
  struct {} id
    [own "name" (omitText false) (·.name) (fun r s => { r with name := s }),
      own "namespace" (omitText true) (·.ns) (fun r s => { r with ns := s })]

structure PlacementRef where
  policyRef : PolicyReference := {}
  minClusters : Int64 := 0
  maxClusters : Int64 := 0
  deriving DecidableEq

def placementRef : Conversion PlacementRef PlacementRef :=
  struct {} id
    [own "policyRef" policyReference.always (·.policyRef) (fun r p => { r with policyRef := p }),
      own "minClusters" (omitNumber true) (·.minClusters) (fun r n => { r with minClusters := n }),
      own "maxClusters" (omitNumber true) (·.maxClusters) (fun r n => { r with maxClusters := n })]

/-- `RoutingRef` and `ScalingRef`. A struct is never empty to `omitempty`. -/
structure PolicyRef where
  policyRef : PolicyReference := {}
  deriving DecidableEq

def policyRef : Conversion PolicyRef PolicyRef :=
  struct {} id
    [own "policyRef" policyReference.always (·.policyRef) (fun r p => { r with policyRef := p })]

structure EndpointPickerRef where
  name : String := ""
  deriving DecidableEq

def endpointPickerRef (v : Version) : Conversion EndpointPickerRef EndpointPickerRef :=
  struct {} id
    [own "name" (omitText (v = .v1beta1)) (·.name) (fun r s => { r with name := s })]

structure InferencePoolTemplateSpec where
  targetPorts : Option (List Int64) := none
  endpointPickerRef : EndpointPickerRef := {}
  deriving DecidableEq

def inferencePoolTemplateSpec (v : Version) :
    Conversion InferencePoolTemplateSpec InferencePoolTemplateSpec :=
  struct {} id
    [own "targetPorts" number.slice.always (·.targetPorts) (fun s ps => { s with targetPorts := ps }),
      own "endpointPickerRef" (endpointPickerRef v).always (·.endpointPickerRef)
        (fun s r => { s with endpointPickerRef := r })]
    (by
      rintro ⟨ports | ports, picker⟩
      · rfl
      · exact congrArg (fun ps => InferencePoolTemplateSpec.mk (some ps) picker) ports.map_id)

structure InferencePoolTemplate where
  spec : InferencePoolTemplateSpec := {}
  deriving DecidableEq

def inferencePoolTemplate (v : Version) :
    Conversion InferencePoolTemplate InferencePoolTemplate :=
  struct {} id
    [own "spec" (inferencePoolTemplateSpec v).always (·.spec) (fun t s => { t with spec := s })]

structure KServeServingSpec where
  modelURI : String := ""
  replicas : Int64 := 0
  criticality : String := ""
  deriving DecidableEq

def kserveServingSpec : Conversion KServeServingSpec KServeServingSpec :=
  struct {} id
    [own "modelURI" (omitText true) (·.modelURI) (fun k s => { k with modelURI := s }),
      own "replicas" (omitNumber true) (·.replicas) (fun k n => { k with replicas := n }),
      own "criticality" (omitText true) (·.criticality) (fun k s => { k with criticality := s })]

structure ServingSpec where
  target : String := ""
  inferencePoolTemplate : InferencePoolTemplate := {}
  kserve : Option KServeServingSpec := none
  deriving DecidableEq

def servingSpec (v : Version) : Conversion ServingSpec ServingSpec :=
  struct {} id
    [own "target" (omitText true) (·.target) (fun s t => { s with target := t }),
      own "inferencePoolTemplate" (Apis.inferencePoolTemplate v).always (·.inferencePoolTemplate)
        (fun s t => { s with inferencePoolTemplate := t }),
      own "kserve" (kserveServingSpec.pointer fun _ => nofun) (·.kserve)
        (fun s k => { s with kserve := k })]
    (by
      rintro ⟨target, template, kserve | kserve⟩ <;> rfl)

structure CanarySpec where
  weight : Int64 := 0
  pauseDuration : String := ""
  deriving DecidableEq

def canarySpec : Conversion CanarySpec CanarySpec :=
  struct {} id
    [own "weight" (omitNumber false) (·.weight) (fun c n => { c with weight := n }),
      own "pauseDuration" (omitText true) (·.pauseDuration)
        (fun c s => { c with pauseDuration := s })]

structure LifecycleRef where
  rolloutStrategy : String := ""
  canary : Option CanarySpec := none
  deriving DecidableEq

def lifecycleRef : Conversion LifecycleRef LifecycleRef :=
  struct {} id
    [own "rolloutStrategy" (omitText true) (·.rolloutStrategy)
        (fun r s => { r with rolloutStrategy := s }),
      own "canary" (canarySpec.pointer fun _ => nofun) (·.canary)
        (fun r c => { r with canary := c })]
    (by
      rintro ⟨strategy, canary | canary⟩ <;> rfl)

/-! ## Specs -/

namespace V1alpha1

structure FleetInferencePoolSpec where
  model : ModelSpec := {}
  placement : PlacementRef := {}
  routing : PolicyRef := {}
  scaling : PolicyRef := {}
  serving : ServingSpec := {}
  lifecycle : LifecycleRef := {}
  deriving DecidableEq

end V1alpha1

namespace V1beta1

structure FleetInferencePoolSpec (Ref : Type) extends V1alpha1.FleetInferencePoolSpec where
  infrastructureProvider : String := ""
  homeFleet : Bytes := []
  authorizationRef : Option Ref := none

end V1beta1

def infrastructureProviderDirectAgent : String := "DirectAgent"

def decodeBytes : Decoder Bytes
  | .null, bs => .ok bs
  | r, _ => (decodeString r "").map utf8

abbrev poolMembers {σ τ : Type} (v : Version) (source : σ → V1alpha1.FleetInferencePoolSpec)
    (get : τ → V1alpha1.FleetInferencePoolSpec)
    (set : τ → V1alpha1.FleetInferencePoolSpec → τ) (hset : ∀ s, set s (get s) = s)
    (rest : List (SharedField σ τ)) : List (SharedField σ τ) :=
  kept "model" (modelSpec v).always (fun x => (source x).model) (fun s => (get s).model)
      (fun s m => set s { get s with model := m }) hset ::
    kept "placement" placementRef.always (fun x => (source x).placement)
      (fun s => (get s).placement) (fun s r => set s { get s with placement := r }) hset ::
    kept "routing" policyRef.always (fun x => (source x).routing) (fun s => (get s).routing)
      (fun s r => set s { get s with routing := r }) hset ::
    kept "scaling" policyRef.always (fun x => (source x).scaling) (fun s => (get s).scaling)
      (fun s r => set s { get s with scaling := r }) hset ::
    kept "serving" (servingSpec v).always (fun x => (source x).serving) (fun s => (get s).serving)
      (fun s r => set s { get s with serving := r }) hset ::
    kept "lifecycle" lifecycleRef.always (fun x => (source x).lifecycle)
      (fun s => (get s).lifecycle) (fun s r => set s { get s with lifecycle := r }) hset :: rest

section Pools
variable {Ref : Type} (decodeRef : Decoder (Option Ref))

def poolUp : Conversion V1alpha1.FleetInferencePoolSpec (V1beta1.FleetInferencePoolSpec Ref) :=
  struct {} (fun p => { toFleetInferencePoolSpec := p })
    (poolMembers .v1alpha1 id (fun s => s.toFleetInferencePoolSpec)
      (fun s p => { s with toFleetInferencePoolSpec := p }) (fun _ => rfl)
      [added "infrastructureProvider" (·.infrastructureProvider)
          (fun s t => { s with infrastructureProvider := t }) decodeString,
        added "homeFleet" (·.homeFleet) (fun s t => { s with homeFleet := t }) decodeBytes,
        added "authorizationRef" (·.authorizationRef) (fun s r => { s with authorizationRef := r })
          decodeRef])

def poolDown : Conversion (V1beta1.FleetInferencePoolSpec Ref) V1alpha1.FleetInferencePoolSpec :=
  struct {} (fun s => s.toFleetInferencePoolSpec)
    (poolMembers .v1beta1 (fun s => s.toFleetInferencePoolSpec) id (fun _ p => p) (fun _ => rfl)
      [dropped "infrastructureProvider" (fun s => (omitText true).write s.infrastructureProvider) 0
          (fun s => (omitText true).shallow s.infrastructureProvider),
        dropped "homeFleet" (fun s => bytes.always.write s.homeFleet) 0
          (fun s => bytes.always.shallow s.homeFleet)])

def convertFleetInferencePoolFromV1Alpha1 (pool : V1alpha1.FleetInferencePoolSpec)
    (homeFleet : Bytes) : Except Error (V1beta1.FleetInferencePoolSpec Ref) :=
  if blank (String.ofList (runes homeFleet)) then
    .error (.errorf "homeFleet is required when converting a v1alpha1 FleetInferencePool" [])
  else
    (convertJSON (poolUp decodeRef) pool).map fun out =>
      { out with
        infrastructureProvider := infrastructureProviderDirectAgent
        homeFleet := homeFleet }

def rejectAuthorization : Option Ref → Except Error Unit
  | some _ => .error (.errorf
      "cannot down-convert authorizationRef to v1alpha1 without losing governance state" [])
  | none => .ok ()

def convertFleetInferencePoolToV1Alpha1 (pool : V1beta1.FleetInferencePoolSpec Ref) :
    Except Error V1alpha1.FleetInferencePoolSpec :=
  if pool.infrastructureProvider ≠ infrastructureProviderDirectAgent then
    .error (.errorf "cannot down-convert infrastructureProvider %q to v1alpha1"
      [pool.infrastructureProvider])
  else
    match rejectAuthorization pool.authorizationRef with
    | .error err => .error err
    | .ok () => convertJSON poolDown pool

theorem depth_poolUp : (poolUp decodeRef).depth ≤ maxNestingDepth := by
  rw [show (poolUp decodeRef).depth = 5 from rfl]
  decide

theorem depth_poolDown : (@poolDown Ref).depth ≤ maxNestingDepth := by
  rw [show (@poolDown Ref).depth = 5 from rfl]
  decide

variable (pool : V1alpha1.FleetInferencePoolSpec)

theorem convertFleetInferencePoolFromV1Alpha1_eq
    {homeFleet : Bytes} (h : blank (String.ofList (runes homeFleet)) = false) :
    convertFleetInferencePoolFromV1Alpha1 decodeRef pool homeFleet =
      .ok ⟨pool, infrastructureProviderDirectAgent, homeFleet, none⟩ := by
  rw [convertFleetInferencePoolFromV1Alpha1, h, convertJSON_eq _ (depth_poolUp decodeRef)]
  rfl

theorem convertFleetInferencePoolToV1Alpha1_eq (homeFleet : Bytes) :
    convertFleetInferencePoolToV1Alpha1
      (⟨pool, infrastructureProviderDirectAgent, homeFleet, none⟩ :
        V1beta1.FleetInferencePoolSpec Ref) = .ok pool := by
  simp only [convertFleetInferencePoolToV1Alpha1, ne_eq, not_true_eq_false, if_false,
    rejectAuthorization]
  rw [convertJSON_eq _ depth_poolDown]
  rfl

theorem down_up_iff (homeFleet : Bytes) :
    (convertFleetInferencePoolFromV1Alpha1 decodeRef pool homeFleet).bind
        convertFleetInferencePoolToV1Alpha1 = .ok pool ↔
      blank (String.ofList (runes homeFleet)) = false := by
  cases hblank : blank (String.ofList (runes homeFleet)) with
  | true => simp [convertFleetInferencePoolFromV1Alpha1, hblank, Except.bind]
  | false =>
    rw [convertFleetInferencePoolFromV1Alpha1_eq decodeRef pool hblank, Except.bind,
      convertFleetInferencePoolToV1Alpha1_eq]
    simp

end Pools
end FleetLlmd.Apis
