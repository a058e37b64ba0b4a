import FleetLlmd.Json.Members

/-!
# Session bindings

`SessionAffinityTable` of `pkg/routing`: sessions bound to clusters until their bindings
expire. An expired binding is there but not found. The background reaper only removes
bindings that are not found any more and is left out.
-/

namespace FleetLlmd.Clusters
open Go Json

structure SessionBinding where
  clusterID : String
  expiresAt : Time
  deriving DecidableEq

abbrev SessionAffinityTable := List (String × SessionBinding)

def SessionAffinityTable.unbindCluster (t : SessionAffinityTable) (clusterID : String) :
    SessionAffinityTable :=
  t.filter fun b => b.2.clusterID != clusterID

namespace SessionAffinityTable
variable (t : SessionAffinityTable)

def lookup (now : Time) (sessionID : String) : Option String :=
  match lookupKey sessionID t with
  | none => none
  | some binding => if now.after binding.expiresAt then none else some binding.clusterID

/-- `ttl` is in nanoseconds. -/
def bind (now : Time) (ttl : Int) (sessionID clusterID : String) : SessionAffinityTable :=
  insertKey sessionID ⟨clusterID, ⟨now.nanos + ttl, now.offset⟩⟩ t

def unbind (sessionID : String) : SessionAffinityTable := t.filter fun b => b.1 != sessionID

def boundTo (sessionID : String) : Option String := (lookupKey sessionID t).map (·.clusterID)

variable {t}

theorem boundTo_of_lookup {now : Time} {sessionID cluster : String}
    (h : t.lookup now sessionID = some cluster) : t.boundTo sessionID = some cluster := by
  rw [lookup] at h
  rw [boundTo]
  cases hbinding : lookupKey sessionID t with
  | none =>
    rw [hbinding] at h
    cases h
  | some binding =>
    rw [hbinding] at h
    dsimp only at h
    split_ifs at h
    exact h

@[simp] theorem boundTo_bind (t : SessionAffinityTable) (now : Time) (ttl : Int)
    (id cluster sessionID : String) :
    (t.bind now ttl id cluster).boundTo sessionID =
      if id = sessionID then some cluster else t.boundTo sessionID := by
  rw [boundTo, bind, lookupKey_insertKey]
  split_ifs <;> rfl

@[simp] theorem boundTo_unbind (t : SessionAffinityTable) (id sessionID : String) :
    (t.unbind id).boundTo sessionID = if id = sessionID then none else t.boundTo sessionID := by
  rw [boundTo, unbind]
  split_ifs with hid
  · cases hbinding : lookupKey sessionID (t.filter fun b => b.1 != id) with
    | none => rfl
    | some binding =>
      have hkept := List.of_mem_filter (mem_of_lookupKey hbinding)
      rw [hid, bne_self_eq_false] at hkept
      cases hkept
  · rw [lookupKey_filter, boundTo]
    intro e he
    simpa [he] using Ne.symm hid

end SessionAffinityTable
end FleetLlmd.Clusters
