import FleetLlmd.Json.Render

/-!
# The persisted rollout snapshot

A rollout record keeps the lifecycle it was created from and the state of each cluster as one
value, which the controller writes to JSON text and reads back whenever it loads the record.
The fields are those of the Go structs, in their order, with the members that are left out when
empty. Reading what was written gives the snapshot back.
-/

namespace FleetLlmd.Rollout
open Go Json

structure ModelRef where
  name : String := ""
  version : String := ""
  deriving DecidableEq

structure SLOGate where
  maxTTFTRegression : String := ""
  maxErrorRateIncrease : String := ""
  deriving DecidableEq

structure CanaryConfig where
  initialWeight : Int64 := 0
  weightIncrement : Int64 := 0
  interval : String := ""
  sloGate : Option SLOGate := none
  rollbackOnFailure : Bool := false
  deriving DecidableEq

structure RolloutStrategy where
  type : String := ""
  canary : Option CanaryConfig := none
  deriving DecidableEq

/-- `none` is the nil slice. -/
structure ClusterOrder where
  order : Option (List String) := none
  deriving DecidableEq

structure ModelLifecycleSpec where
  model : ModelRef := {}
  fleetPoolRef : String := ""
  strategy : RolloutStrategy := {}
  clusters : Option ClusterOrder := none
  deriving DecidableEq

structure ClusterRolloutState where
  clusterID : String := ""
  phase : String := ""
  weight : Int64 := 0
  sloMet : Bool := false
  deriving DecidableEq

structure PersistedRolloutSnapshot where
  lifecycle : ModelLifecycleSpec := {}
  clusterStates : List ClusterRolloutState := []
  deriving DecidableEq

/-! ## Writing -/

def text (s : String) : Rendered := .string goEscaping s

def number (n : Int64) : Rendered := .int n.toInt

def omitEmpty {α : Type} (name : String) (v : α → Rendered) : Option α → List (String × Rendered)
  | none => []
  | some x => [(name, v x)]

def ModelRef.rendered (r : ModelRef) : Rendered :=
  .object goEscaping [("name", text r.name), ("version", text r.version)]

def SLOGate.rendered (g : SLOGate) : Rendered :=
  .object goEscaping [("maxTTFTRegression", text g.maxTTFTRegression),
    ("maxErrorRateIncrease", text g.maxErrorRateIncrease)]

def CanaryConfig.rendered (c : CanaryConfig) : Rendered :=
  .object goEscaping ([("initialWeight", number c.initialWeight),
    ("weightIncrement", number c.weightIncrement), ("interval", text c.interval)] ++
    omitEmpty "sloGate" SLOGate.rendered c.sloGate ++
    [("rollbackOnFailure", .bool c.rollbackOnFailure)])

def RolloutStrategy.rendered (s : RolloutStrategy) : Rendered :=
  .object goEscaping (("type", text s.type) :: omitEmpty "canary" CanaryConfig.rendered s.canary)

def ClusterOrder.rendered (o : ClusterOrder) : Rendered :=
  .object goEscaping [("order", match o.order with
    | none => .null
    | some ids => .array (ids.map text))]

def ModelLifecycleSpec.rendered (l : ModelLifecycleSpec) : Rendered :=
  .object goEscaping ([("model", l.model.rendered), ("fleetPoolRef", text l.fleetPoolRef),
    ("strategy", l.strategy.rendered)] ++ omitEmpty "clusters" ClusterOrder.rendered l.clusters)

def ClusterRolloutState.rendered (s : ClusterRolloutState) : Rendered :=
  .object goEscaping [("ClusterID", text s.clusterID), ("Phase", text s.phase),
    ("Weight", number s.weight), ("SLOMet", .bool s.sloMet)]

def PersistedRolloutSnapshot.rendered (s : PersistedRolloutSnapshot) : Rendered :=
  .object goEscaping (("lifecycle", s.lifecycle.rendered) ::
    if s.clusterStates = [] then []
    else [("clusterStates", .array (s.clusterStates.map ClusterRolloutState.rendered))])

/-- `json.Marshal` of a snapshot. -/
def PersistedRolloutSnapshot.marshal (s : PersistedRolloutSnapshot) : Bytes :=
  encodeRunes s.rendered.text

/-! ## Reading -/

theorem decodeInt64_number (n old : Int64) : decodeInt64 (number n).raw old = .ok n :=
  Rendered.decodeInt64_int n old

def ModelRef.fields : List (StructField ModelRef) :=
  [structField "name" (·.name) (fun r s => { r with name := s }) decodeString,
    structField "version" (·.version) (fun r s => { r with version := s }) decodeString]

def SLOGate.fields : List (StructField SLOGate) :=
  [structField "maxTTFTRegression" (·.maxTTFTRegression)
      (fun g s => { g with maxTTFTRegression := s }) decodeString,
    structField "maxErrorRateIncrease" (·.maxErrorRateIncrease)
      (fun g s => { g with maxErrorRateIncrease := s }) decodeString]

def CanaryConfig.fields : List (StructField CanaryConfig) :=
  [structField "initialWeight" (·.initialWeight) (fun c n => { c with initialWeight := n })
      decodeInt64,
    structField "weightIncrement" (·.weightIncrement) (fun c n => { c with weightIncrement := n })
      decodeInt64,
    structField "interval" (·.interval) (fun c s => { c with interval := s }) decodeString,
    structField "sloGate" (·.sloGate) (fun c g => { c with sloGate := g })
      (decodePointer {} (decodeStruct false SLOGate.fields)),
    structField "rollbackOnFailure" (·.rollbackOnFailure)
      (fun c b => { c with rollbackOnFailure := b }) decodeBool]

def RolloutStrategy.fields : List (StructField RolloutStrategy) :=
  [structField "type" (·.type) (fun s t => { s with type := t }) decodeString,
    structField "canary" (·.canary) (fun s c => { s with canary := c })
      (decodePointer {} (decodeStruct false CanaryConfig.fields))]

def ClusterOrder.fields : List (StructField ClusterOrder) :=
  [structField "order" (·.order) (fun o ids => { o with order := ids })
    (decodeList "" decodeString)]

def ModelLifecycleSpec.fields : List (StructField ModelLifecycleSpec) :=
  [structField "model" (·.model) (fun l r => { l with model := r })
      (decodeStruct false ModelRef.fields),
    structField "fleetPoolRef" (·.fleetPoolRef) (fun l s => { l with fleetPoolRef := s })
      decodeString,
    structField "strategy" (·.strategy) (fun l s => { l with strategy := s })
      (decodeStruct false RolloutStrategy.fields),
    structField "clusters" (·.clusters) (fun l o => { l with clusters := o })
      (decodePointer {} (decodeStruct false ClusterOrder.fields))]

def ClusterRolloutState.fields : List (StructField ClusterRolloutState) :=
  [structField "ClusterID" (·.clusterID) (fun s t => { s with clusterID := t }) decodeString,
    structField "Phase" (·.phase) (fun s t => { s with phase := t }) decodeString,
    structField "Weight" (·.weight) (fun s n => { s with weight := n }) decodeInt64,
    structField "SLOMet" (·.sloMet) (fun s b => { s with sloMet := b }) decodeBool]

def PersistedRolloutSnapshot.fields : List (StructField PersistedRolloutSnapshot) :=
  [structField "lifecycle" (·.lifecycle) (fun s l => { s with lifecycle := l })
      (decodeStruct false ModelLifecycleSpec.fields),
    structField "clusterStates" (fun s => some s.clusterStates)
      (fun s states => { s with clusterStates := states.getD [] })
      (decodeList {} (decodeStruct false ClusterRolloutState.fields))]

def unmarshalSnapshot (content : Bytes) : Except Error PersistedRolloutSnapshot :=
  unmarshal (decodeStruct false PersistedRolloutSnapshot.fields) content {}

/-! ## The round trip -/

@[simp] theorem decodeString_text (s old : String) : decodeString (text s).raw old = .ok s :=
  Rendered.decodeString_string _ _ _

section
attribute [local simp] decodeMembers findField structField Except.map omitEmpty decodeInt64_number

theorem ModelRef.decode_rendered (r : ModelRef) :
    decodeStruct false fields r.rendered.raw {} = .ok r := by
  simp [rendered, fields]

theorem SLOGate.decode_rendered (g : SLOGate) :
    decodeStruct false fields g.rendered.raw {} = .ok g := by
  simp [rendered, fields]

theorem CanaryConfig.decode_rendered (c : CanaryConfig) :
    decodeStruct false fields c.rendered.raw {} = .ok c := by
  obtain ⟨initial, increment, interval, gate, rollback⟩ := c
  cases gate with
  | none => simp [rendered, fields]
  | some gate =>
    have hgate := Rendered.decodePointer_raw (r := gate.rendered.raw) (by rintro ⟨⟩)
      gate.decode_rendered
    simp [rendered, fields, hgate]

theorem RolloutStrategy.decode_rendered (s : RolloutStrategy) :
    decodeStruct false fields s.rendered.raw {} = .ok s := by
  obtain ⟨type, canary⟩ := s
  cases canary with
  | none => simp [rendered, fields]
  | some canary =>
    have hcanary := Rendered.decodePointer_raw (r := canary.rendered.raw) (by rintro ⟨⟩)
      canary.decode_rendered
    simp [rendered, fields, hcanary]

theorem ClusterOrder.decode_rendered (o : ClusterOrder) :
    decodeStruct false fields o.rendered.raw {} = .ok o := by
  obtain ⟨ids | ids⟩ := o
  · rfl
  · have hids := @Rendered.decodeList_array _ _ _ _ _ _ (fun s => decodeString_text s "") none rfl ids
    simp [rendered, fields, hids]

theorem ModelLifecycleSpec.decode_rendered (l : ModelLifecycleSpec) :
    decodeStruct false fields l.rendered.raw {} = .ok l := by
  obtain ⟨model, poolRef, strategy, clusters⟩ := l
  cases clusters with
  | none => simp [rendered, fields, model.decode_rendered, strategy.decode_rendered]
  | some clusters =>
    have hclusters := Rendered.decodePointer_raw (r := clusters.rendered.raw) (by rintro ⟨⟩)
      clusters.decode_rendered
    simp [rendered, fields, model.decode_rendered, strategy.decode_rendered, hclusters]

theorem ClusterRolloutState.decode_rendered (s : ClusterRolloutState) :
    decodeStruct false fields s.rendered.raw {} = .ok s := by
  simp [rendered, fields]

theorem PersistedRolloutSnapshot.decode_rendered (s : PersistedRolloutSnapshot) :
    decodeStruct false fields s.rendered.raw {} = .ok s := by
  obtain ⟨lifecycle, states⟩ := s
  have hlifecycle := lifecycle.decode_rendered
  cases states with
  | nil => simp [rendered, fields, hlifecycle]
  | cons state states =>
    have hstates := @Rendered.decodeList_array _ _ _ _ _ _ ClusterRolloutState.decode_rendered
      (some []) rfl (state :: states)
    simp only [List.map_cons] at hstates
    simp [rendered, fields, hlifecycle, hstates]

end

open Rendered (maxDepth maxDepth_map_le)

theorem CanaryConfig.depth_rendered_le (c : CanaryConfig) : c.rendered.depth ≤ 2 := by
  obtain ⟨initial, increment, interval, gate | gate, rollback⟩ := c
  · exact Nat.le_add_left 1 1
  · exact le_refl 2

theorem RolloutStrategy.depth_rendered_le (s : RolloutStrategy) : s.rendered.depth ≤ 3 := by
  obtain ⟨type, canary | canary⟩ := s
  · exact Nat.le_add_left 1 2
  · have hcanary := canary.depth_rendered_le
    change max 0 (max canary.rendered.depth 0) + 1 ≤ 3
    omega

theorem ClusterOrder.depth_rendered_le (o : ClusterOrder) : o.rendered.depth ≤ 2 := by
  obtain ⟨ids | ids⟩ := o
  · exact Nat.le_add_left 1 1
  · have hids := maxDepth_map_le (v := text) (n := 0) (fun _ => le_refl 0) ids
    change max (maxDepth (ids.map text) + 1) 0 + 1 ≤ 2
    omega

theorem ModelLifecycleSpec.depth_rendered_le (l : ModelLifecycleSpec) : l.rendered.depth ≤ 4 := by
  obtain ⟨model, poolRef, strategy, clusters | order⟩ := l
  · have hstrategy := strategy.depth_rendered_le
    change max 1 (max 0 (max strategy.rendered.depth 0)) + 1 ≤ 4
    omega
  · have hstrategy := strategy.depth_rendered_le
    have horder := order.depth_rendered_le
    change max 1 (max 0 (max strategy.rendered.depth (max order.rendered.depth 0))) + 1 ≤ 4
    omega

theorem PersistedRolloutSnapshot.depth_rendered_le (s : PersistedRolloutSnapshot) :
    s.rendered.depth ≤ 5 := by
  have hlifecycle := s.lifecycle.depth_rendered_le
  have hstates := maxDepth_map_le (v := ClusterRolloutState.rendered) (n := 1)
    (fun _ => le_refl 1) s.clusterStates
  rw [rendered]
  split
  · change max s.lifecycle.rendered.depth 0 + 1 ≤ 5
    omega
  · change max s.lifecycle.rendered.depth (max (maxDepth (s.clusterStates.map _) + 1) 0) + 1 ≤ 5
    omega

theorem unmarshalSnapshot_marshal (s : PersistedRolloutSnapshot) :
    unmarshalSnapshot s.marshal = .ok s := by
  have hdepth : s.rendered.depth ≤ maxNestingDepth := s.depth_rendered_le.trans (by decide)
  rw [unmarshalSnapshot, PersistedRolloutSnapshot.marshal, Rendered.unmarshal_text _ hdepth,
    s.decode_rendered]

end FleetLlmd.Rollout
