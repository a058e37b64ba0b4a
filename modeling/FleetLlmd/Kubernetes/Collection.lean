import FleetLlmd.Go.Time

/-!
# Collections of an API server

Named resources with a status subresource: a write to a resource leaves its status
alone, and a write to its status leaves the rest alone. Every write advances the
resource version, and a write that carries another version than the stored one is
refused.
-/

namespace FleetLlmd.Kubernetes
open Go

structure ObjectMeta where
  name : String
  uid : String
  resourceVersion : Nat
  creationTimestamp : Option Time
  labels : List (String × String)
  annotations : List (String × String)

structure Resource (σ τ : Type) where
  metadata : ObjectMeta
  spec : σ
  status : τ

structure Collection (σ τ : Type) where
  find : String → Option (Resource σ τ)
  names : List String

inductive Failure where
  | status (code : Nat) (body : String)
  | transport (err : Error)

def notFound : Failure := .status 404 "not found"
def conflict (body : String) : Failure := .status 409 body

namespace Collection
variable {σ τ : Type}

def empty : Collection σ τ := ⟨fun _ => none, []⟩

def set (c : Collection σ τ) (name : String) (r : Option (Resource σ τ)) : Collection σ τ :=
  { c with find := Function.update c.find name r }

@[simp] theorem set_find_self (c : Collection σ τ) (name : String) (r : Option (Resource σ τ)) :
    (c.set name r).find name = r := Function.update_self _ _ _

theorem set_find_of_ne (c : Collection σ τ) {name other : String} (h : other ≠ name)
    (r : Option (Resource σ τ)) : (c.set name r).find other = c.find other :=
  Function.update_of_ne h _ _

def get (c : Collection σ τ) (name : String) : Except Failure (Resource σ τ) :=
  match c.find name with
  | some r => .ok r
  | none => .error notFound

def list (c : Collection σ τ) (label value : String) : List (Resource σ τ) :=
  (c.names.filterMap c.find).filter fun r => (label, value) ∈ r.metadata.labels

def insertName (name : String) : List String → List String
  | [] => [name]
  | n :: names =>
    if name = n then n :: names
    else if name < n then name :: n :: names else n :: insertName name names

def stamped (r : Resource σ τ) (uid : String) (created : Time) (initial : τ) : Resource σ τ where
  metadata := { r.metadata with uid := uid, resourceVersion := 1, creationTimestamp := some created }
  spec := r.spec
  status := initial

def post (c : Collection σ τ) (r : Resource σ τ) (uid : String) (created : Time) (initial : τ) :
    Except Failure (Resource σ τ) × Collection σ τ :=
  match c.find r.metadata.name with
  | some _ => (.error (conflict "already exists"), c)
  | none =>
    let stored := stamped r uid created initial
    (.ok stored, { c.set r.metadata.name (some stored) with
      names := insertName r.metadata.name c.names })

def replace (c : Collection σ τ) (name : String) (version : Nat)
    (next : Resource σ τ → Resource σ τ) : Except Failure (Resource σ τ) × Collection σ τ :=
  match c.find name with
  | none => (.error notFound, c)
  | some stored =>
    if stored.metadata.resourceVersion = version then
      (.ok (next stored), c.set name (some (next stored)))
    else (.error (conflict "the object has been modified"), c)

def withSpec (r stored : Resource σ τ) : Resource σ τ where
  metadata :=
    { stored.metadata with
      resourceVersion := stored.metadata.resourceVersion + 1
      labels := r.metadata.labels
      annotations := r.metadata.annotations }
  spec := r.spec
  status := stored.status

def withStatus (r stored : Resource σ τ) : Resource σ τ where
  metadata := { stored.metadata with resourceVersion := stored.metadata.resourceVersion + 1 }
  spec := stored.spec
  status := r.status

def put (c : Collection σ τ) (name : String) (r : Resource σ τ) :
    Except Failure (Resource σ τ) × Collection σ τ :=
  c.replace name r.metadata.resourceVersion (withSpec r)

def putStatus (c : Collection σ τ) (name : String) (r : Resource σ τ) :
    Except Failure (Resource σ τ) × Collection σ τ :=
  c.replace name r.metadata.resourceVersion (withStatus r)

def delete (c : Collection σ τ) (name : String) : Except Failure Unit × Collection σ τ :=
  match c.find name with
  | none => (.error notFound, c)
  | some _ => (.ok (), c.set name none)

theorem replace_ok {c : Collection σ τ} {name : String} {stored : Resource σ τ} {version : Nat}
    (h : c.find name = some stored) (hversion : stored.metadata.resourceVersion = version)
    (next : Resource σ τ → Resource σ τ) :
    c.replace name version next = (.ok (next stored), c.set name (some (next stored))) := by
  simp [replace, h, hversion]

end Collection
end FleetLlmd.Kubernetes
