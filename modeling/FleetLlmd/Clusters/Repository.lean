import FleetLlmd.Go.Time
import FleetLlmd.Sql.Table

/-!
# Cluster records

`PGClusterRepository` of `pkg/store/postgres`: records under their ID, with unique
names. The database copies a record in and out; creating one fills in its status and
its instants where they are not set, and updating one keeps when it was registered.
-/

namespace FleetLlmd.Clusters
open Go Sql

abbrev Labels := List (String × String)

/-- `labels` is `none` for a nil map. -/
structure ClusterRecord where
  id : String
  name : String
  region : String
  labels : Option Labels
  gpuAvailable : Int
  gpuTotal : Int
  status : String
  registeredAt : Time
  updatedAt : Time
  deriving DecidableEq

def clusterStatusRunning : String := "Running"
def clusterStatusHealthy : String := "Healthy"
def clusterStatusDraining : String := "Draining"
def clusterStatusDrained : String := "Drained"
def clusterStatusDegraded : String := "Degraded"

def errClusterNotFound : Error := .sentinel "cluster not found"
def errClusterAlreadyExists : Error := .sentinel "cluster already exists"

abbrev ClusterTable := Table ClusterRecord.id ClusterRecord.name

namespace ClusterTable
variable (t : ClusterTable)

def stored (r : ClusterRecord) (now : Time) (newID : String) : ClusterRecord :=
  { r with
    id := if r.id == "" then newID else r.id
    status := if r.status == "" then "pending" else r.status
    registeredAt := if r.registeredAt.isZero then now else r.registeredAt
    updatedAt := if r.updatedAt.isZero then now else r.updatedAt }

def createCluster (r : ClusterRecord) (now : Time) (newID : String) :
    Except Error Unit × ClusterTable :=
  match t.insert (stored r now newID) with
  | none => (.error (.wrapf "%w: %q" [r.id] errClusterAlreadyExists), t)
  | some t' => (.ok (), t')

def getCluster (id : String) : Except Error ClusterRecord :=
  match t.find id with
  | none => .error (.wrapf "%w: %q" [id] errClusterNotFound)
  | some r => .ok r

def notFound (id : String) : Error := .errorf "%s %q not found" ["cluster", id]

def updateCluster (r : ClusterRecord) (now : Time) : Except Error Unit × ClusterTable :=
  match t.find r.id with
  | none => (.error (notFound r.id), t)
  | some old =>
    match t.replace { r with registeredAt := old.registeredAt, updatedAt := now } with
    | none => (.error (.sentinel "duplicate key value violates unique constraint"), t)
    | some t' => (.ok (), t')

def deleteCluster (id : String) : Except Error Unit × ClusterTable :=
  match t.find id with
  | none => (.error (notFound id), t)
  | some _ => (.ok (), t.delete id)

end ClusterTable

/-! ## What requests may leave behind -/

def ClusterRecord.content (r : ClusterRecord) : ClusterRecord :=
  { r with labels := some (r.labels.getD []), updatedAt := Time.zero }

def SameRecords (t t' : ClusterTable) : Prop :=
  ∀ id, (t'.find id).map ClusterRecord.content = (t.find id).map ClusterRecord.content

variable (t : ClusterTable)

theorem SameRecords.refl : SameRecords t t := fun _ => rfl

def ClusterRecord.Complete (r : ClusterRecord) : Prop :=
  r.status ≠ "" ∧ r.registeredAt.isZero = false

def Complete (t : ClusterTable) : Prop := ∀ r ∈ t.rows, r.Complete

namespace ClusterTable
variable {t t' : ClusterTable} {r old : ClusterRecord} {now : Time} {newID : String}

theorem stored_complete (r : ClusterRecord) (hnow : now.isZero = false) (newID : String) :
    (stored r now newID).Complete := by
  constructor
  · rw [stored]
    dsimp only
    split_ifs with h
    · decide
    · simpa using h
  · rw [stored]
    dsimp only
    split_ifs with h
    · exact hnow
    · simpa using h

theorem stored_id (hid : r.id ≠ "") : (stored r now newID).id = r.id := by
  rw [stored, if_neg (by simpa using hid)]

theorem content_stored (hid : r.id ≠ "") (hr : r.Complete) :
    (stored r now newID).content = r.content := by
  rw [stored, ClusterRecord.content, ClusterRecord.content, if_neg (by simpa using hid),
    if_neg (by simpa using hr.1), if_neg (by simp [hr.2])]

theorem createCluster_cases (r : ClusterRecord) (now : Time) (newID : String) :
    (∃ err, t.createCluster r now newID = (.error err, t)) ∨
      ∃ t', t.createCluster r now newID = (.ok (), t') ∧
        t.insert (stored r now newID) = some t' := by
  rw [createCluster]
  cases t.insert (stored r now newID) with
  | none => exact .inl ⟨_, rfl⟩
  | some t' => exact .inr ⟨t', rfl, rfl⟩

theorem updateCluster_cases (r : ClusterRecord) (now : Time) :
    (∃ err, t.updateCluster r now = (.error err, t)) ∨
      ∃ old t', t.updateCluster r now = (.ok (), t') ∧ t.find r.id = some old ∧
        t.replace { r with registeredAt := old.registeredAt, updatedAt := now } = some t' := by
  rw [updateCluster]
  cases t.find r.id with
  | none => exact .inl ⟨_, rfl⟩
  | some old =>
    dsimp only
    cases hreplace : t.replace { r with registeredAt := old.registeredAt, updatedAt := now } with
    | none => exact .inl ⟨_, rfl⟩
    | some t' => exact .inr ⟨old, t', rfl, rfl, hreplace⟩

theorem deleteCluster_cases (id : String) :
    (∃ err, t.deleteCluster id = (.error err, t)) ∨
      t.deleteCluster id = (.ok (), t.delete id) := by
  rw [deleteCluster]
  cases t.find id with
  | none => exact .inl ⟨_, rfl⟩
  | some r => exact .inr rfl

theorem getCluster_cases (id : String) :
    (∃ err, t.getCluster id = .error err) ∨
      ∃ r, t.getCluster id = .ok r ∧ t.find id = some r := by
  rw [getCluster]
  cases t.find id with
  | none => exact .inl ⟨_, rfl⟩
  | some r => exact .inr ⟨r, rfl, rfl⟩

theorem complete_insert (ht : Complete t) (hr : r.Complete) (h : t.insert r = some t') :
    Complete t' := by
  intro x hx
  rw [Table.rows_insert h] at hx
  rcases List.mem_cons.mp hx with rfl | hmem
  · exact hr
  · exact ht x hmem

theorem complete_replace (ht : Complete t) (hr : r.Complete) (h : t.replace r = some t') :
    Complete t' := by
  intro x hx
  rw [Table.rows_replace h] at hx
  obtain ⟨y, hy, rfl⟩ := List.mem_map.mp hx
  rw [Table.put]
  split_ifs
  · exact hr
  · exact ht y hy

theorem complete_delete (ht : Complete t) (id : String) : Complete (t.delete id) :=
  fun x hx => ht x (List.mem_of_mem_filter hx)

end ClusterTable
end FleetLlmd.Clusters
