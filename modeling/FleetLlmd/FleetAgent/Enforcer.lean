import FleetLlmd.Data.Map
import FleetLlmd.Quota.Enforcer

/-!
# Policies on the agent

`crates/fleet-agent/src/enforcer.rs` polls the control plane for quotas and placement,
which `handleAgentPolicies` of `pkg/server/handlers_agent.go` answers from the tenants of
its repository. The agent inserts the quotas it is sent into its table and takes none
out, and keeps the placement it has if it is sent none.
-/

namespace FleetLlmd.FleetAgent
open Go

structure TenantQuota where
  maxRps : Float64
  maxConcurrent : Nat
  maxTokensPerMinute : Nat
  deriving DecidableEq

structure TenantUsage where
  currentRps : Float64
  currentConcurrent : Nat
  tokensThisMinute : Nat

structure PlacementConstraint where
  allowedModels : List String
  deniedModels : List String
  deriving DecidableEq

def PlacementConstraint.unrestricted : PlacementConstraint := ⟨[], []⟩

structure QuotaEntry where
  maxRps : Float64 := .ofInt 100
  maxConcurrent : Nat := 100
  maxTokensPerMinute : Nat := 1000000

def QuotaEntry.quota (q : QuotaEntry) : TenantQuota :=
  ⟨q.maxRps, q.maxConcurrent, q.maxTokensPerMinute⟩

structure PlacementEntry where
  allowedModels : List String := []
  deniedModels : List String := []

def PlacementEntry.constraint (p : PlacementEntry) : PlacementConstraint :=
  ⟨p.allowedModels, p.deniedModels⟩

structure PolicySyncResponse where
  quotas : Map String QuotaEntry := ∅
  placement : Option PlacementEntry

section ControlPlane

def quotaEntry (uint64Of : Float64 → Nat) (t : Quota.TenantRecord) : QuotaEntry :=
  let q : QuotaEntry := ⟨.ofInt 100, 100, 1000000⟩
  let q := match Quota.floatAt "maxTokensPerMinute" t.quotas with
    | some f => { q with maxTokensPerMinute := uint64Of f }
    | none => q
  match Quota.floatAt "maxConcurrentRequests" t.quotas with
  | some f => { q with maxConcurrent := uint64Of f, maxRps := f.mul (.ofInt 10) }
  | none => q

def handleAgentPolicies (uint64Of : Float64 → Nat) (clusterID : String)
    (tenants : Except String (List Quota.TenantRecord)) :
    Except (Nat × String) PolicySyncResponse :=
  if clusterID = "" then .error (400, "cluster_id is required")
  else
    match tenants with
    | .error err => .error (500, err)
    | .ok tenants => .ok
        ⟨tenants.foldl (fun quotas t => quotas.insert t.id (quotaEntry uint64Of t)) ∅, none⟩

end ControlPlane

section Agent

structure PolicyEnforcer where
  quotas : Map String TenantQuota
  usage : Map String TenantUsage
  placement : PlacementConstraint

namespace PolicyEnforcer

def new : PolicyEnforcer := ⟨∅, ∅, .unrestricted⟩

def setQuota (e : PolicyEnforcer) (tenantId : String) (quota : TenantQuota) : PolicyEnforcer :=
  { e with quotas := e.quotas.insert tenantId quota }

def setPlacement (e : PolicyEnforcer) (constraint : PlacementConstraint) : PolicyEnforcer :=
  { e with placement := constraint }

def apply (e : PolicyEnforcer) (policy : PolicySyncResponse) : PolicyEnforcer :=
  let e := policy.quotas.entries.foldl (fun e entry => e.setQuota entry.1 entry.2.quota) e
  match policy.placement with
  | some p => e.setPlacement p.constraint
  | none => e

end PolicyEnforcer

inductive Poll where
  | failed
  | refused (status : Nat)
  | unparsed
  | fetched (policy : PolicySyncResponse)

def Poll.ofAnswer : Except (Nat × String) PolicySyncResponse → Poll
  | .ok policy => .fetched policy
  | .error (status, _) => .refused status

def Poll.policy? : Poll → Option PolicySyncResponse
  | .fetched policy => some policy
  | _ => none

namespace PolicyEnforcer

def poll (e : PolicyEnforcer) : Poll → PolicyEnforcer
  | .fetched policy => e.apply policy
  | .failed | .refused _ | .unparsed => e

def run (e : PolicyEnforcer) (polls : List Poll) : PolicyEnforcer := polls.foldl poll e

end PolicyEnforcer
end Agent

section Tables

theorem placement_foldl_setQuota (entries : List (Sigma fun _ : String => QuotaEntry))
    (e : PolicyEnforcer) :
    (entries.foldl (fun e entry => e.setQuota entry.1 entry.2.quota) e).placement =
      e.placement := by
  induction entries generalizing e with
  | nil => rfl
  | cons entry entries ih => exact ih (e.setQuota entry.1 entry.2.quota)

theorem lookup_foldl_setQuota {entries : List (Sigma fun _ : String => QuotaEntry)}
    (hkeys : entries.NodupKeys) (e : PolicyEnforcer) (tenant : String) :
    (entries.foldl (fun e entry => e.setQuota entry.1 entry.2.quota) e).quotas.lookup tenant =
      ((entries.dlookup tenant).map QuotaEntry.quota).or (e.quotas.lookup tenant) := by
  induction entries generalizing e with
  | nil => rfl
  | cons entry entries ih =>
    obtain ⟨key, quota⟩ := entry
    obtain ⟨hnew, hkeys⟩ := List.nodupKeys_cons.mp hkeys
    rw [List.foldl_cons, ih hkeys]
    by_cases htenant : tenant = key
    · subst htenant
      have hnone : entries.dlookup tenant = none := List.dlookup_eq_none.mpr hnew
      rw [hnone, List.dlookup_cons_eq, Option.map_none, Option.none_or, Option.map_some,
        Option.some_or]
      exact AList.lookup_insert e.quotas
    · rw [List.dlookup_cons_ne _ _ htenant]
      congr 1
      exact AList.lookup_insert_ne htenant

theorem lookup_apply (e : PolicyEnforcer) (policy : PolicySyncResponse) (tenant : String) :
    (e.apply policy).quotas.lookup tenant =
      ((policy.quotas.lookup tenant).map QuotaEntry.quota).or (e.quotas.lookup tenant) := by
  rw [PolicyEnforcer.apply]
  cases policy.placement with
  | none => exact lookup_foldl_setQuota policy.quotas.nodupKeys e tenant
  | some p => exact lookup_foldl_setQuota policy.quotas.nodupKeys e tenant

theorem placement_apply (e : PolicyEnforcer) (policy : PolicySyncResponse) :
    (e.apply policy).placement =
      (policy.placement.map PlacementEntry.constraint).getD e.placement := by
  rw [PolicyEnforcer.apply]
  cases policy.placement with
  | none => exact placement_foldl_setQuota policy.quotas.entries e
  | some p => rfl

end Tables

section Mirror

def PolicySyncResponse.constraint (policy : PolicySyncResponse) : PlacementConstraint :=
  (policy.placement.map PlacementEntry.constraint).getD .unrestricted

structure Mirrors (e : PolicyEnforcer) (policy : PolicySyncResponse) : Prop where
  quotas : ∀ tenant, e.quotas.lookup tenant = (policy.quotas.lookup tenant).map QuotaEntry.quota
  placement : e.placement = policy.constraint

structure Grows (earlier later : PolicySyncResponse) : Prop where
  tenants : ∀ tenant, later.quotas.lookup tenant = none → earlier.quotas.lookup tenant = none
  placement : later.placement = none → earlier.constraint = .unrestricted

variable {e : PolicyEnforcer} {earlier later : PolicySyncResponse}

theorem mirrors_apply_iff (h : Mirrors e earlier) :
    Mirrors (e.apply later) later ↔ Grows earlier later := by
  constructor
  · intro hmirrors
    constructor
    · intro tenant hnone
      have hquota := hmirrors.quotas tenant
      rw [lookup_apply, hnone, h.quotas] at hquota
      simpa using hquota
    · intro hnone
      have hplacement := hmirrors.placement
      rw [placement_apply, PolicySyncResponse.constraint, hnone, h.placement] at hplacement
      exact hplacement
  · intro hgrows
    constructor
    · intro tenant
      rw [lookup_apply]
      cases hlookup : later.quotas.lookup tenant with
      | some quota => rfl
      | none => simp [h.quotas, hgrows.tenants tenant hlookup]
    · rw [placement_apply, PolicySyncResponse.constraint]
      cases hplacement : later.placement with
      | some p => rfl
      | none => simp [h.placement, hgrows.placement hplacement]

def AlwaysMirrors (e : PolicyEnforcer) (polls : List Poll) : Prop :=
  ∀ first policy rest, polls = first ++ .fetched policy :: rest →
    Mirrors (e.run (first ++ [.fetched policy])) policy

theorem alwaysMirrors_cons (e : PolicyEnforcer) (poll : Poll) (polls : List Poll) :
    AlwaysMirrors e (poll :: polls) ↔
      (∀ policy, poll = .fetched policy → Mirrors (e.poll poll) policy) ∧
        AlwaysMirrors (e.poll poll) polls := by
  constructor
  · intro h
    refine ⟨fun policy hpoll => ?_, fun first policy rest hpolls => ?_⟩
    · subst hpoll
      exact h [] policy polls rfl
    · exact h (poll :: first) policy rest (by rw [hpolls]; rfl)
  · rintro ⟨hnow, hlater⟩ first policy rest hpolls
    cases first with
    | nil =>
      obtain ⟨hpoll, -⟩ := List.cons.inj hpolls
      have hmirrors := hnow policy hpoll
      rwa [hpoll] at hmirrors
    | cons poll' first =>
      obtain ⟨rfl, hrest⟩ := List.cons.inj hpolls
      exact hlater first policy rest hrest

theorem alwaysMirrors_from_iff (h : Mirrors e earlier) (polls : List Poll) :
    AlwaysMirrors e polls ↔ (earlier :: polls.filterMap Poll.policy?).IsChain Grows := by
  induction polls generalizing e earlier with
  | nil => exact ⟨fun _ => List.IsChain.singleton _, fun _ first policy rest h => by simp at h⟩
  | cons poll polls ih =>
    rw [alwaysMirrors_cons]
    cases poll with
    | fetched policy =>
      rw [List.filterMap_cons_some (show (Poll.fetched policy).policy? = some policy from rfl),
        List.isChain_cons_cons, ← mirrors_apply_iff h]
      constructor
      · rintro ⟨hnow, hlater⟩
        have hmirrors : Mirrors (e.apply policy) policy := hnow policy rfl
        exact ⟨hmirrors, (ih hmirrors).mp hlater⟩
      · rintro ⟨hmirrors, hchain⟩
        refine ⟨fun policy' hpolicy => ?_, (ih hmirrors).mpr hchain⟩
        cases hpolicy
        exact hmirrors
    | failed | refused status | unparsed =>
      simpa [PolicyEnforcer.poll, List.filterMap_cons, Poll.policy?] using ih h

/-- The agent mirrors every response it fetches exactly if no response leaves out a tenant of the
one before it, or leaves out a placement after one that restricts something. -/
theorem always_mirrors_iff (polls : List Poll) :
    AlwaysMirrors .new polls ↔ (polls.filterMap Poll.policy?).IsChain Grows := by
  have hnew : Mirrors .new ⟨∅, none⟩ := ⟨fun _ => rfl, rfl⟩
  have hfirst : ∀ policy, Grows ⟨∅, none⟩ policy := fun _ => ⟨fun _ _ => rfl, fun _ => rfl⟩
  rw [alwaysMirrors_from_iff hnew]
  cases polls.filterMap Poll.policy? with
  | nil => exact ⟨fun _ => List.IsChain.nil, fun _ => List.IsChain.singleton _⟩
  | cons policy policies =>
    rw [List.isChain_cons_cons]
    exact ⟨fun h => h.2, fun h => ⟨hfirst policy, h⟩⟩

def askedTwice (before after : List Quota.TenantRecord) : List Poll :=
  [.ofAnswer (handleAgentPolicies (fun _ => 0) "edge" (.ok before)),
    .ofAnswer (handleAgentPolicies (fun _ => 0) "edge" (.ok after))]

def removedTenant : Quota.TenantRecord := { id := "t" }

theorem removed_tenant_kept :
    let e := PolicyEnforcer.new.run (askedTwice [removedTenant] [])
    (e.quotas.lookup "t").isSome = true ∧
      ¬AlwaysMirrors .new (askedTwice [removedTenant] []) := by
  intro e
  have hkept : (e.quotas.lookup "t").isSome = true := by decide +kernel
  refine ⟨hkept, fun hmirrors => ?_⟩
  let first := Poll.ofAnswer (handleAgentPolicies (fun _ => 0) "edge" (.ok [removedTenant]))
  have hempty : e.quotas.lookup "t" = none := (hmirrors [first] ⟨∅, none⟩ [] rfl).quotas "t"
  rw [hempty] at hkept
  cases hkept

end Mirror
end FleetLlmd.FleetAgent
