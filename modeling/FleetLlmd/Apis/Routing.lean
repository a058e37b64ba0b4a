import FleetLlmd.Apis.Pool
import Mathlib.Data.List.Forall2

/-!
# Routing policies between API versions

`FleetRoutingPolicySpec` of `v1alpha1` and `v1beta1`, and `ConvertFleetRoutingPolicyFromV1Alpha1`.
A match of `v1beta1` has no semantic tier and no minimal confidence, an action has no session
affinity and no model tier, so these are lost on the way up, as is the difference between a nil
and an empty slice or map.
-/

namespace FleetLlmd.Apis
open Go Json Conversion SharedField

/-- `map[string]string`, with the entries in the order of their keys. -/
structure StringMap where
  entries : List (Bytes × Bytes)
  sorted : entries.Pairwise fun a b => a.1 < b.1
  deriving DecidableEq

namespace V1alpha1

structure RoutingMatch where
  headers : Option StringMap := none
  source : Bytes := []
  semanticTier : Bytes := []
  minConfidence : Float64 := .zero
  deriving DecidableEq

structure Failover where
  clusters : Option (List Bytes) := none
  deriving DecidableEq

structure RoutingAction where
  preferLocal : Bool := false
  preferCheapest : Bool := false
  kvCacheAffinity : Bool := false
  sessionAffinity : Bool := false
  maxLatencyMs : Int64 := 0
  failover : Option Failover := none
  targetModelTier : Bytes := []
  deriving DecidableEq

structure RoutingRule where
  matching : RoutingMatch := {}
  action : RoutingAction := {}
  deriving DecidableEq

structure HealthCheckSpec where
  interval : Bytes := []
  unhealthyThreshold : Int64 := 0
  deriving DecidableEq

structure FleetRoutingPolicySpec where
  strategy : Bytes := []
  rules : Option (List RoutingRule) := none
  healthCheck : Option HealthCheckSpec := none
  deriving DecidableEq

end V1alpha1

namespace V1beta1

structure RoutingMatch where
  headers : Option (List (String × String)) := none
  source : String := ""

structure Failover where
  clusters : Option (List String) := none

structure RoutingAction where
  preferLocal : Bool := false
  preferCheapest : Bool := false
  kvCacheAffinity : Bool := false
  maxLatencyMs : Int64 := 0
  failover : Option Failover := none

structure RoutingRule where
  matching : RoutingMatch := {}
  action : RoutingAction := {}

structure HealthCheckSpec where
  interval : String := ""
  unhealthyThreshold : Int64 := 0

structure FleetRoutingPolicySpec (Ref : Type) where
  provider : String := ""
  strategy : String := ""
  rules : Option (List RoutingRule) := none
  healthCheck : Option HealthCheckSpec := none
  authorizationRef : Option Ref := none

end V1beta1

/-! ## The conversion -/

structure FloatFormat where
  text : Float64 → List Char
  valid : ∀ x, validNumber (text x) = true
  chars : ∀ x, ∀ c ∈ text x, isNumberChar c = true

def supported (x : Float64) : Bool := !x.isNaN && !x.isInf

def readable (bs : Bytes) : String := String.ofList (runes bs)

def omitBytes : FieldConversion Bytes String :=
  bytes.omitEmpty List.isEmpty readable
    (fun bs h => by rw [List.isEmpty_iff.mp h]; rfl) (fun _ _ => rfl)

def readableHeaders (headers : Option StringMap) : Option (List (String × String)) :=
  match headers.elim [] StringMap.entries with
  | [] => none
  | e :: entries => some ((e :: entries).foldl insertEntry [])

def omitHeaders : FieldConversion (Option StringMap) (Option (List (String × String))) :=
  (stringMap.comap (Option.map StringMap.entries)).omitEmpty
    (fun headers => (headers.elim [] StringMap.entries).isEmpty) readableHeaders
    (by
      intro headers h
      rw [readableHeaders, List.isEmpty_iff.mp h]
      rfl)
    (by
      rintro (- | ⟨entries, sorted⟩) h
      · cases h
      · cases entries with
        | nil => cases h
        | cons e entries => rfl)

section Conversions
variable (F : FloatFormat)

def confidence (x : Float64) : Option Rendered :=
  if x.magnitude = 0 then none else some (.number (F.text x) (F.valid x) (F.chars x))

theorem confidence_shallow (x : Float64) : ∀ r ∈ confidence F x, r.depth ≤ 0 := by
  intro r h
  rw [Option.mem_def, confidence] at h
  split_ifs at h
  rw [← Option.some.inj h]
  exact le_refl 0

def routingMatch : Conversion V1alpha1.RoutingMatch V1beta1.RoutingMatch :=
  struct {} (fun m => ⟨readableHeaders m.headers, readable m.source⟩)
    [kept "headers" omitHeaders (·.headers) (·.headers) (fun m h => { m with headers := h }),
      kept "source" omitBytes (·.source) (·.source) (fun m s => { m with source := s }),
      dropped "semanticTier" (fun m => omitBytes.write m.semanticTier) 0
        (fun m => omitBytes.shallow m.semanticTier),
      dropped "minConfidence" (fun m => confidence F m.minConfidence) 0
        (fun m => confidence_shallow F m.minConfidence)]

def readableClusters (f : V1alpha1.Failover) : V1beta1.Failover :=
  ⟨f.clusters.map (List.map readable)⟩

def failover : Conversion V1alpha1.Failover V1beta1.Failover :=
  struct {} readableClusters
    [kept "clusters" bytes.slice.always (·.clusters) (·.clusters)
      (fun f cs => { f with clusters := cs })]

def omitFalse : FieldConversion Bool Bool := boolean.omitZero (fun _ => rfl) true

def routingAction : Conversion V1alpha1.RoutingAction V1beta1.RoutingAction :=
  struct {}
    (fun a => ⟨a.preferLocal, a.preferCheapest, a.kvCacheAffinity, a.maxLatencyMs,
      a.failover.map readableClusters⟩)
    [kept "preferLocal" omitFalse (·.preferLocal) (·.preferLocal)
        (fun a b => { a with preferLocal := b }),
      kept "preferCheapest" omitFalse (·.preferCheapest) (·.preferCheapest)
        (fun a b => { a with preferCheapest := b }),
      kept "kvCacheAffinity" omitFalse (·.kvCacheAffinity) (·.kvCacheAffinity)
        (fun a b => { a with kvCacheAffinity := b }),
      dropped "sessionAffinity" (fun a => omitFalse.write a.sessionAffinity) 0
        (fun a => omitFalse.shallow a.sessionAffinity),
      kept "maxLatencyMs" (omitNumber true) (·.maxLatencyMs) (·.maxLatencyMs)
        (fun a n => { a with maxLatencyMs := n }),
      kept "failover" (failover.pointer fun _ => nofun) (·.failover) (·.failover)
        (fun a f => { a with failover := f }),
      dropped "targetModelTier" (fun a => omitBytes.write a.targetModelTier) 0
        (fun a => omitBytes.shallow a.targetModelTier)]

def routingRule : Conversion V1alpha1.RoutingRule V1beta1.RoutingRule :=
  struct {} (fun r => ⟨(routingMatch F).result r.matching, routingAction.result r.action⟩)
    [kept "match" (routingMatch F).always (·.matching) (·.matching)
        (fun r m => { r with matching := m }),
      kept "action" routingAction.always (·.action) (·.action) (fun r a => { r with action := a })]

def healthCheckSpec : Conversion V1alpha1.HealthCheckSpec V1beta1.HealthCheckSpec :=
  struct {} (fun h => ⟨readable h.interval, h.unhealthyThreshold⟩)
    [kept "interval" bytes.always (·.interval) (·.interval) (fun h s => { h with interval := s }),
      kept "unhealthyThreshold" (omitNumber false) (·.unhealthyThreshold) (·.unhealthyThreshold)
        (fun h n => { h with unhealthyThreshold := n })]

def rulesUp (rules : Option (List V1alpha1.RoutingRule)) : Option (List V1beta1.RoutingRule) :=
  match rules.getD [] with
  | [] => none
  | r :: rs => some ((r :: rs).map (routingRule F).result)

def omitRules :
    FieldConversion (Option (List V1alpha1.RoutingRule)) (Option (List V1beta1.RoutingRule)) :=
  (routingRule F).slice.omitEmpty (fun rules => (rules.getD []).isEmpty) (rulesUp F)
    (by
      intro rules h
      rw [rulesUp, List.isEmpty_iff.mp h]
      rfl)
    (by
      rintro (- | rules) h
      · cases h
      · cases rules with
        | nil => cases h
        | cons r rules => rfl)

variable {Ref : Type} (decodeRef : Decoder (Option Ref))

def policyUp :
    Conversion V1alpha1.FleetRoutingPolicySpec (V1beta1.FleetRoutingPolicySpec Ref) :=
  struct {}
    (fun p => ⟨"", readable p.strategy, rulesUp F p.rules,
      p.healthCheck.map healthCheckSpec.result, none⟩)
    [added "provider" (·.provider) (fun p s => { p with provider := s }) decodeString,
      kept "strategy" bytes.always (·.strategy) (·.strategy) (fun p s => { p with strategy := s }),
      kept "rules" (omitRules F) (·.rules) (·.rules) (fun p rs => { p with rules := rs }),
      kept "healthCheck" (healthCheckSpec.pointer fun _ => nofun) (·.healthCheck) (·.healthCheck)
        (fun p h => { p with healthCheck := h }),
      added "authorizationRef" (·.authorizationRef) (fun p r => { p with authorizationRef := r })
        decodeRef]

def unsupported (p : V1alpha1.FleetRoutingPolicySpec) : Option Float64 :=
  ((p.rules.getD []).map (·.matching.minConfidence)).find? (! supported ·)

def routingProviderPraxisGateway : String := "PraxisGateway"

def convertFleetRoutingPolicyFromV1Alpha1 (p : V1alpha1.FleetRoutingPolicySpec) :
    Except Error (V1beta1.FleetRoutingPolicySpec Ref) :=
  match unsupported p with
  | some x => .error (.wrapf "marshal conversion source: %w" []
      (.errorf "json: unsupported value: %s" [x.format2]))
  | none => (convertJSON (policyUp F decodeRef) p).map fun out =>
      { out with provider := routingProviderPraxisGateway }

end Conversions

/-! ## What distinguishes two policies -/

section Distinct
open V1alpha1 (RoutingRule FleetRoutingPolicySpec)

structure SameRule (r r' : RoutingRule) : Prop where
  headers : readableHeaders r.matching.headers = readableHeaders r'.matching.headers
  source : readable r.matching.source = readable r'.matching.source
  preferLocal : r.action.preferLocal = r'.action.preferLocal
  preferCheapest : r.action.preferCheapest = r'.action.preferCheapest
  kvCacheAffinity : r.action.kvCacheAffinity = r'.action.kvCacheAffinity
  maxLatencyMs : r.action.maxLatencyMs = r'.action.maxLatencyMs
  failover : r.action.failover.map (fun f => f.clusters.map (List.map readable)) =
    r'.action.failover.map fun f => f.clusters.map (List.map readable)

structure SamePolicy (p p' : FleetRoutingPolicySpec) : Prop where
  strategy : readable p.strategy = readable p'.strategy
  rules : List.Forall₂ SameRule (p.rules.getD []) (p'.rules.getD [])
  healthCheck : p.healthCheck.map (fun h => (readable h.interval, h.unhealthyThreshold)) =
    p'.healthCheck.map fun h => (readable h.interval, h.unhealthyThreshold)

def Agree (p p' : FleetRoutingPolicySpec) : Prop :=
  (unsupported p).map Float64.format2 = (unsupported p').map Float64.format2 ∧
    (unsupported p = none → SamePolicy p p')

variable (F : FloatFormat)

theorem map_congr_iff {α β γ : Type} {f : α → β} {g : α → γ} (h : ∀ x y, f x = f y ↔ g x = g y)
    (x y : Option α) : x.map f = y.map f ↔ x.map g = y.map g := by
  cases x <;> cases y <;> simp [h]

theorem readableClusters_inj (f f' : V1alpha1.Failover) :
    readableClusters f = readableClusters f' ↔
      f.clusters.map (List.map readable) = f'.clusters.map (List.map readable) :=
  V1beta1.Failover.mk.injEq _ _ ▸ Iff.rfl

theorem routingRule_result_eq_iff (r r' : RoutingRule) :
    (routingRule F).result r = (routingRule F).result r' ↔ SameRule r r' := by
  have hfailover := map_congr_iff readableClusters_inj r.action.failover r'.action.failover
  constructor
  · intro h
    obtain ⟨hmatch, haction⟩ := V1beta1.RoutingRule.mk.inj h
    obtain ⟨hheaders, hsource⟩ := V1beta1.RoutingMatch.mk.inj hmatch
    obtain ⟨hlocal, hcheapest, hcache, hlatency, hclusters⟩ := V1beta1.RoutingAction.mk.inj haction
    exact ⟨hheaders, hsource, hlocal, hcheapest, hcache, hlatency, hfailover.mp hclusters⟩
  · intro h
    have hmatch : (routingMatch F).result r.matching = (routingMatch F).result r'.matching :=
      (V1beta1.RoutingMatch.mk.injEq _ _ _ _).mpr ⟨h.headers, h.source⟩
    have haction : routingAction.result r.action = routingAction.result r'.action :=
      (V1beta1.RoutingAction.mk.injEq _ _ _ _ _ _ _ _ _ _).mpr ⟨h.preferLocal, h.preferCheapest,
        h.kvCacheAffinity, h.maxLatencyMs, hfailover.mpr h.failover⟩
    exact (V1beta1.RoutingRule.mk.injEq _ _ _ _).mpr ⟨hmatch, haction⟩

theorem rulesUp_eq_iff (rules rules' : Option (List RoutingRule)) :
    rulesUp F rules = rulesUp F rules' ↔
      List.Forall₂ SameRule (rules.getD []) (rules'.getD []) := by
  have hrules (rs rs' : List RoutingRule) :
      rs.map (routingRule F).result = rs'.map (routingRule F).result ↔
        List.Forall₂ SameRule rs rs' := by
    rw [← List.forall₂_eq_eq_eq, List.forall₂_map_left_iff, List.forall₂_map_right_iff]
    simp only [routingRule_result_eq_iff]
  rw [rulesUp, rulesUp, ← hrules]
  cases rules.getD [] <;> cases rules'.getD [] <;> simp

variable {Ref : Type} (decodeRef : Decoder (Option Ref))

theorem policyUp_result_eq_iff (p p' : FleetRoutingPolicySpec) :
    (policyUp F decodeRef).result p = (policyUp F decodeRef).result p' ↔ SamePolicy p p' := by
  have hhealth (h h' : V1alpha1.HealthCheckSpec) :
      healthCheckSpec.result h = healthCheckSpec.result h' ↔
        (readable h.interval, h.unhealthyThreshold) =
          (readable h'.interval, h'.unhealthyThreshold) := by
    rw [Prod.mk.injEq]
    exact V1beta1.HealthCheckSpec.mk.injEq _ _ _ _ ▸ Iff.rfl
  have hchecks := map_congr_iff hhealth p.healthCheck p'.healthCheck
  constructor
  · intro h
    obtain ⟨-, hstrategy, hrules, hcheck, -⟩ := V1beta1.FleetRoutingPolicySpec.mk.inj h
    exact ⟨hstrategy, (rulesUp_eq_iff F _ _).mp hrules, hchecks.mp hcheck⟩
  · intro h
    exact (V1beta1.FleetRoutingPolicySpec.mk.injEq _ _ _ _ _ _ _ _ _ _).mpr
      ⟨rfl, h.strategy, (rulesUp_eq_iff F _ _).mpr h.rules, hchecks.mpr h.healthCheck, rfl⟩

theorem depth_policyUp : (policyUp F decodeRef).depth ≤ maxNestingDepth := by
  rw [show (policyUp F decodeRef).depth = 6 from rfl]
  decide

theorem convertFleetRoutingPolicyFromV1Alpha1_eq_iff (p p' : FleetRoutingPolicySpec) :
    convertFleetRoutingPolicyFromV1Alpha1 F decodeRef p =
      convertFleetRoutingPolicyFromV1Alpha1 F decodeRef p' ↔ Agree p p' := by
  rw [convertFleetRoutingPolicyFromV1Alpha1, convertFleetRoutingPolicyFromV1Alpha1, Agree,
    convertJSON_eq _ (depth_policyUp F decodeRef), convertJSON_eq _ (depth_policyUp F decodeRef),
    ← policyUp_result_eq_iff F decodeRef]
  cases unsupported p with
  | some x => cases unsupported p' <;> simp [Except.map]
  | none =>
    cases unsupported p' with
    | some x => simp [Except.map]
    | none =>
      simp only [Except.map, Except.ok.injEq, Option.map_none, true_and, forall_const]
      constructor
      · intro h
        obtain ⟨-, hrest⟩ := V1beta1.FleetRoutingPolicySpec.mk.inj h
        exact (V1beta1.FleetRoutingPolicySpec.mk.injEq _ _ _ _ _ _ _ _ _ _).mpr ⟨rfl, hrest⟩
      · intro h
        rw [h]

theorem conversion_lossless_iff (pool : V1alpha1.FleetInferencePoolSpec) (homeFleet : Bytes)
    (p p' : FleetRoutingPolicySpec) :
    ((convertFleetInferencePoolFromV1Alpha1 decodeRef pool homeFleet).bind
          convertFleetInferencePoolToV1Alpha1 = .ok pool ∧
        (p ≠ p' → convertFleetRoutingPolicyFromV1Alpha1 F decodeRef p ≠
          convertFleetRoutingPolicyFromV1Alpha1 F decodeRef p')) ↔
      blank (String.ofList (runes homeFleet)) = false ∧ (p ≠ p' → ¬ Agree p p') := by
  rw [down_up_iff, ← convertFleetRoutingPolicyFromV1Alpha1_eq_iff F decodeRef]

def zeroFormat : FloatFormat where
  text _ := ['0']
  valid _ := rfl
  chars _ c h := by rw [List.mem_singleton.mp h]; rfl

def tierPolicy (tier : String) : FleetRoutingPolicySpec where
  rules := some [{ matching := { semanticTier := utf8 tier } }]

/-- Two policies that differ in the tier of their rule become the same policy. -/
theorem semanticTier_lost :
    ¬ ∀ p p' : FleetRoutingPolicySpec, p ≠ p' →
      convertFleetRoutingPolicyFromV1Alpha1 zeroFormat (fun _ (_ : Option Unit) => .ok none) p ≠
        convertFleetRoutingPolicyFromV1Alpha1 zeroFormat (fun _ _ => .ok none) p' := by
  intro h
  apply h (tierPolicy "simple") (tierPolicy "complex") (by decide)
  apply (convertFleetRoutingPolicyFromV1Alpha1_eq_iff _ _ _ _).mpr
  refine ⟨rfl, fun _ => ⟨rfl, ?_, rfl⟩⟩
  exact .cons ⟨rfl, rfl, rfl, rfl, rfl, rfl, rfl⟩ .nil

end Distinct
end FleetLlmd.Apis
