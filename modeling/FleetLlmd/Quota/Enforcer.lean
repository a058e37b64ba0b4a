import FleetLlmd.Go.Calendar
import FleetLlmd.Go.Int64
import FleetLlmd.Json.Value

/-!
# The quota enforcer

`DefaultQuotaEnforcer` keeps one profile per tenant. A profile is made once, from the
tenant's record if the repository has one and from the fallback limits otherwise,
and its limits stay as they were read. Without a shared quota repository the enforcer
counts tokens by minute and cents by month in the profile itself.
-/

namespace FleetLlmd.Quota
open Go Json

structure TenantRecord where
  id : String
  quotas : Option (List (String × Value)) := none
  costControl : Option (List (String × Value)) := none
  clusterScope : Option (List (String × Value)) := none

/-- `m[key].(float64)` on a `map[string]interface{}` that may be nil. -/
def floatAt (key : String) (m : Option (List (String × Value))) : Option Float64 :=
  match lookupKey key (m.getD []) with
  | some (.float x) => some x
  | _ => none

structure QuotaCheckRequest where
  tokensRequested : Int
  model : String := ""
  clusterID : String := ""
  deriving DecidableEq

structure QuotaCheckResult where
  allowed : Bool
  remainingTokens : Int
  remainingBudget : String
  reason : String
  deriving DecidableEq

structure TenantProfile where
  tokenLimit : Int
  tokensUsed : Int := 0
  concurrentLimit : Int
  budgetCents : Int
  budgetSpent : Int := 0
  tokenWindow : Time
  budgetMonth : Time
  deriving DecidableEq

def costPerToken : Int := 1

structure FallbackConfig where
  tokenLimitPerMinute : Int
  concurrentLimit : Int
  monthlyBudgetCents : Int

def defaultFallbackConfig : FallbackConfig := ⟨1000, 100, 1000⟩

structure DefaultQuotaEnforcer where
  profiles : String → Option TenantProfile
  fallback : FallbackConfig

def newQuotaEnforcerWithFallback (fallback : FallbackConfig) : DefaultQuotaEnforcer where
  profiles _ := none
  fallback :=
    { tokenLimitPerMinute := if fallback.tokenLimitPerMinute ≤ 0
        then defaultFallbackConfig.tokenLimitPerMinute else fallback.tokenLimitPerMinute
      concurrentLimit := if fallback.concurrentLimit ≤ 0
        then defaultFallbackConfig.concurrentLimit else fallback.concurrentLimit
      monthlyBudgetCents := if fallback.monthlyBudgetCents ≤ 0
        then defaultFallbackConfig.monthlyBudgetCents else fallback.monthlyBudgetCents }

def minuteStart (now : Time) : Time := now.utc.truncate Time.minute

def monthStart (now : Time) : Time := now.utc.monthStart

def formatBudget (cents : Int) : String :=
  "$" ++ ((Float64.ofInt (if cents < 0 then 0 else cents)).divNat 100).format2

def budgetExceeded : String := "budget exceeded: tenant has no remaining budget"

def tokenLimitExceeded (requested remaining : Int) : String :=
  "token limit exceeded: requested " ++ String.ofList (intText requested) ++ " but only " ++
    String.ofList (intText remaining) ++ " remaining"

namespace TenantProfile
variable (p : TenantProfile)

def resetWindow (now : Time) : TenantProfile :=
  if !p.tokenWindow.isZero && !p.tokenWindow.equal (minuteStart now)
    then { p with tokensUsed := 0, tokenWindow := minuteStart now } else p

def resetMonth (now : Time) : TenantProfile :=
  if !p.budgetMonth.isZero && !p.budgetMonth.equal (monthStart now)
    then { p with budgetSpent := 0, budgetMonth := monthStart now } else p

def resetLocalWindows (now : Time) : TenantProfile := (p.resetWindow now).resetMonth now

def remainingTokens : Int := int64 (p.tokenLimit - p.tokensUsed)

def remainingBudgetCents : Int := int64 (p.budgetCents - p.budgetSpent)

def check (request : QuotaCheckRequest) : QuotaCheckResult :=
  if p.remainingBudgetCents ≤ 0 then
    ⟨false, p.remainingTokens, formatBudget p.remainingBudgetCents, budgetExceeded⟩
  else if p.remainingTokens < request.tokensRequested then
    ⟨false, p.remainingTokens, formatBudget p.remainingBudgetCents,
      tokenLimitExceeded request.tokensRequested p.remainingTokens⟩
  else ⟨true, p.remainingTokens, formatBudget p.remainingBudgetCents, ""⟩

def deduct (tokens : Int) : TenantProfile :=
  { p with
    tokensUsed := int64 (p.tokensUsed + tokens)
    budgetSpent := int64 (p.budgetSpent + int64 (tokens * costPerToken)) }

end TenantProfile

namespace DefaultQuotaEnforcer
variable (outOfRange : Float64 → Int) (e : DefaultQuotaEnforcer)

def newFallbackProfile (now : Time) : TenantProfile where
  tokenLimit := e.fallback.tokenLimitPerMinute
  concurrentLimit := e.fallback.concurrentLimit
  budgetCents := e.fallback.monthlyBudgetCents
  tokenWindow := minuteStart now
  budgetMonth := monthStart now

def setProfile (tenantID : String) (p : TenantProfile) : DefaultQuotaEnforcer :=
  { e with profiles := fun id => if id = tenantID then some p else e.profiles id }

@[simp] theorem setProfile_self (tenantID : String) (p : TenantProfile) :
    (e.setProfile tenantID p).profiles tenantID = some p := if_pos rfl

theorem setProfile_of_ne {tenantID id : String} (p : TenantProfile) (h : id ≠ tenantID) :
    (e.setProfile tenantID p).profiles id = e.profiles id := if_neg h

def recordProfile (tenant : TenantRecord) (now : Time) : TenantProfile :=
  let profile := e.newFallbackProfile now
  { profile with
    tokenLimit := ((floatAt "maxTokensPerMinute" tenant.quotas).map
      (Float64.toInt64 outOfRange)).getD profile.tokenLimit
    concurrentLimit := ((floatAt "maxConcurrentRequests" tenant.quotas).map
      (Float64.toInt64 outOfRange)).getD profile.concurrentLimit
    budgetCents := ((floatAt "monthlyBudget" tenant.costControl).map
      fun v => (v.mul (Float64.ofInt 100)).toInt64 outOfRange).getD profile.budgetCents }

/-- `loadFromRepo`, given the repository's answer: nothing for a missing repository, a missing
record or an error. -/
def loadFromRepo (tenant : Option TenantRecord) (now : Time) : Option TenantProfile :=
  tenant.map fun t => e.recordProfile outOfRange t now

def profileFor (tenantID : String) (tenant : Option TenantRecord) (now : Time) : TenantProfile :=
  (e.profiles tenantID).getD ((e.loadFromRepo outOfRange tenant now).getD (e.newFallbackProfile now))

/-- `ReserveQuota` when the repository does not coordinate quotas. -/
def reserveQuota (tenantID : String) (request : QuotaCheckRequest) (tenant : Option TenantRecord)
    (created now : Time) : QuotaCheckResult × DefaultQuotaEnforcer :=
  let profile := (e.profileFor outOfRange tenantID tenant created).resetLocalWindows now
  if (profile.check request).allowed then
    let profile := profile.deduct request.tokensRequested
    (⟨true, profile.remainingTokens, formatBudget profile.remainingBudgetCents, ""⟩,
      e.setProfile tenantID profile)
  else (profile.check request, e.setProfile tenantID profile)

/-- `ReleaseQuota` when the repository does not coordinate quotas: nothing. -/
def releaseQuota (_tenantID : String) : DefaultQuotaEnforcer := e

end DefaultQuotaEnforcer
end FleetLlmd.Quota
