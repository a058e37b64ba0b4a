import FleetLlmd.Quota.Enforcer
import Mathlib.Tactic.Positivity
import Mathlib.Tactic.Zify

/-!
# One record, three readers

The limits of a tenant are read from its record by the enforcer, which keeps what it
has read, by the policy handler of the cluster agents and by the cost alert handler.
They use their own keys, units and defaults. Over histories of record changes and
reservations, the readings agree while records state every limit for every reader
and do not change once the enforcer has read them.
-/

namespace FleetLlmd.Quota
open Go

structure QuotaEntry where
  maxRPS : Float64
  maxConcurrent : Nat
  maxTokensPerMinute : Nat
  deriving DecidableEq

def policyEntry (outOfRange : Float64 → Nat) (t : TenantRecord) : QuotaEntry where
  maxRPS := ((floatAt "maxConcurrentRequests" t.quotas).map
    fun f => f.mul (Float64.ofInt 10)).getD (Float64.ofInt 100)
  maxConcurrent := ((floatAt "maxConcurrentRequests" t.quotas).map
    (Float64.toUint64 outOfRange)).getD 100
  maxTokensPerMinute := ((floatAt "maxTokensPerMinute" t.quotas).map
    (Float64.toUint64 outOfRange)).getD 1000000

def alertBudget (defaultBudget : Float64) (t : TenantRecord) : Float64 :=
  (floatAt "monthly_budget" t.costControl).getD defaultBudget

structure Platform where
  toInt64 : Float64 → Int
  toUint64 : Float64 → Nat
  defaultBudget : Float64

structure Gateway where
  enforcer : DefaultQuotaEnforcer
  tenants : String → Option TenantRecord

structure Reservation where
  tenantID : String
  request : QuotaCheckRequest
  readable : Bool
  shared : Bool
  created : Time
  now : Time

inductive Change where
  | put (record : TenantRecord)
  | reserve (r : Reservation)

namespace Gateway
variable (env : Platform) (g : Gateway)

def new (fallback : FallbackConfig) : Gateway :=
  ⟨newQuotaEnforcerWithFallback fallback, fun _ => none⟩

def readRecord (r : Reservation) : Option TenantRecord :=
  if r.readable then g.tenants r.tenantID else none

def profile (r : Reservation) : TenantProfile :=
  g.enforcer.profileFor env.toInt64 r.tenantID (g.readRecord r) r.created

def put (record : TenantRecord) : Gateway :=
  { g with tenants := fun id => if id = record.id then some record else g.tenants id }

def reserve (r : Reservation) : Gateway :=
  { g with
    enforcer :=
      if r.shared then g.enforcer.setProfile r.tenantID (g.profile env r)
      else (g.enforcer.reserveQuota env.toInt64 r.tenantID r.request (g.readRecord r)
        r.created r.now).2 }

def step : Change → Gateway
  | .put record => g.put record
  | .reserve r => g.reserve env r

def run (changes : List Change) : Gateway := changes.foldl (step env) g

def concurrentLimit (r : Reservation) : Option Int :=
  if r.shared then some (g.profile env r).concurrentLimit else none

def AgreesAt (r : Reservation) : Prop :=
  ∀ t ∈ g.tenants r.tenantID,
    (g.profile env r).tokenLimit = (policyEntry env.toUint64 t).maxTokensPerMinute ∧
    g.concurrentLimit env r = some ((policyEntry env.toUint64 t).maxConcurrent : Int) ∧
    (g.profile env r).budgetCents * Float64.unitScale =
      (alertBudget env.defaultBudget t).scaled * 100

instance (r : Reservation) : Decidable (g.AgreesAt env r) :=
  inferInstanceAs (Decidable (∀ t ∈ g.tenants r.tenantID, _))

end Gateway

def SameLimit (x : Option Float64) (fallback : Int) (served : Nat) : Prop :=
  match x with
  | some v => 0 ≤ v.truncated ∧ v.truncated < 2 ^ 63
  | none => fallback = served

def IsCents (x : Float64) (cents : Nat) : Prop :=
  x.scaled * 100 = cents * Float64.unitScale ∧ cents < 2 ^ 53

def GivesCents (x : Option Float64) (fallback : Int) (cents : Nat) : Prop :=
  match x with
  | some v => IsCents v cents
  | none => fallback = cents

instance (x : Float64) (cents : Nat) : Decidable (IsCents x cents) :=
  inferInstanceAs (Decidable (_ ∧ _))

instance : (x : Option Float64) → (fallback : Int) → (served : Nat) →
    Decidable (SameLimit x fallback served)
  | some _, _, _ => inferInstanceAs (Decidable (_ ∧ _))
  | none, _, _ => inferInstanceAs (Decidable (_ = _))

instance : (x : Option Float64) → (fallback : Int) → (cents : Nat) →
    Decidable (GivesCents x fallback cents)
  | some v, _, cents => inferInstanceAs (Decidable (IsCents v cents))
  | none, _, _ => inferInstanceAs (Decidable (_ = _))

structure StatesLimits (fallback : FallbackConfig) (defaultBudget : Float64) (t : TenantRecord) :
    Prop where
  tokens : SameLimit (floatAt "maxTokensPerMinute" t.quotas) fallback.tokenLimitPerMinute 1000000
  concurrent : SameLimit (floatAt "maxConcurrentRequests" t.quotas) fallback.concurrentLimit 100
  budget : ∃ cents, IsCents ((floatAt "monthly_budget" t.costControl).getD defaultBudget) cents ∧
    GivesCents (floatAt "monthlyBudget" t.costControl) fallback.monthlyBudgetCents cents

namespace Gateway
variable (env : Platform) (g : Gateway)

def Settled : Change → Prop
  | .put t =>
    StatesLimits g.enforcer.fallback env.defaultBudget t ∧
      (g.enforcer.profiles t.id = none ∨
        ∃ old, g.tenants t.id = some old ∧ old.quotas = t.quotas ∧ old.costControl = t.costControl)
  | .reserve r => r.readable = true ∧ r.shared = true

def SettledRun : Gateway → List Change → Prop
  | _, [] => True
  | g, c :: cs => g.Settled env c ∧ SettledRun (g.step env c) cs

end Gateway

/-! ## Readings of one record -/

theorem toInt64_eq_toUint64 {v : Float64} (below : Float64 → Int) (above : Float64 → Nat)
    (h : 0 ≤ v.truncated ∧ v.truncated < 2 ^ 63) :
    v.toInt64 below = (v.toUint64 above : Int) := by
  have hsigned : InInt64 v.truncated := ⟨by omega, h.2⟩
  have hunsigned : 0 ≤ v.truncated ∧ v.truncated < 2 ^ 64 := ⟨h.1, by omega⟩
  unfold Float64.toInt64 Float64.toUint64
  rw [if_pos hsigned, if_pos hunsigned, Int.toNat_of_nonneg h.1]

theorem SameLimit.read {x : Option Float64} {fallback : Int} {served : Nat}
    (h : SameLimit x fallback served) (below : Float64 → Int) (above : Float64 → Nat) :
    (x.map (Float64.toInt64 below)).getD fallback =
      (((x.map (Float64.toUint64 above)).getD served : Nat) : Int) := by
  cases x with
  | none => exact h
  | some v => exact toInt64_eq_toUint64 below above h

namespace IsCents
variable {v : Float64} {cents : Nat}

theorem magnitude (h : IsCents v cents) : v.magnitude * 100 = cents * Float64.unitScale := by
  have habs := congrArg Int.natAbs h.1
  rw [Int.natAbs_mul, Float64.scaled_natAbs, Int.natAbs_mul, Int.natAbs_natCast,
    Int.natAbs_natCast] at habs
  exact habs

theorem finite (h : IsCents v cents) : v.exponent ≠ 2047 := by
  intro hexp
  have hlow := Float64.magnitude_of_exponent hexp
  have hhigh : v.magnitude * 100 < 2 ^ 53 * Float64.unitScale := by
    rw [h.magnitude]
    exact Nat.mul_lt_mul_of_pos_right h.2 Float64.unitScale_pos
  have hle : v.magnitude ≤ v.magnitude * 100 := Nat.le_mul_of_pos_right _ (by decide)
  exact absurd (hlow.trans hle) (Nat.not_le_of_gt hhigh)

theorem negative (h : IsCents v cents) (hneg : v.isNeg = true) : cents = 0 := by
  have hscaled : v.scaled = -(v.magnitude : Int) := if_pos hneg
  have heq := h.1
  rw [hscaled] at heq
  have hpos := Float64.unitScale_pos
  have hzero : cents * Float64.unitScale = 0 := by
    generalize Float64.unitScale = u at *
    zify
    have hnonneg : (0 : Int) ≤ cents * u := by positivity
    omega
  exact (Nat.mul_eq_zero.mp hzero).resolve_right (by omega)

end IsCents

theorem ofInt_hundred : (Float64.ofInt 100).magnitude = 100 * Float64.unitScale ∧
    (Float64.ofInt 100).isNeg = false ∧ (Float64.ofInt 100).isNaN = false ∧
    (Float64.ofInt 100).isInf = false := by
  decide +kernel

theorem IsCents.scaled_mul {v : Float64} {cents : Nat} (h : IsCents v cents) :
    (v.mul (Float64.ofInt 100)).scaled = cents * Float64.unitScale := by
  obtain ⟨hmag, hsign, hnan, hinf⟩ := ofInt_hundred
  have hvnan : v.isNaN = false := by simp [Float64.isNaN, h.finite]
  have hvinf : v.isInf = false := by simp [Float64.isInf, h.finite]
  have hprod : v.magnitude * (100 * Float64.unitScale) =
      Float64.unitScale * Float64.unitScale * cents := by
    rw [← Nat.mul_assoc, h.magnitude, Nat.mul_assoc, Nat.mul_comm]
  have hmul : v.mul (Float64.ofInt 100) =
      Float64.ofRatio v.isNeg (Float64.unitScale * Float64.unitScale * cents)
        (Float64.unitScale * Float64.unitScale) := by
    unfold Float64.mul
    simp only [hsign, hnan, hinf, hvnan, hvinf, hmag, hprod, Bool.bne_false, Bool.or_false,
      Bool.false_eq_true, if_false]
  have hpos := Float64.unitScale_pos
  have hresult := Float64.magnitude_ofRatio_mul v.isNeg (Nat.mul_pos hpos hpos) h.2
  unfold Float64.scaled
  rw [hmul, Float64.isNeg_ofRatio, hresult]
  split_ifs with hneg
  · rw [h.negative hneg, Nat.zero_mul, Nat.cast_zero, Int.neg_zero, Int.zero_mul]
  · exact Nat.cast_mul _ _

theorem IsCents.toInt64 {v : Float64} {cents : Nat} (h : IsCents v cents)
    (outOfRange : Float64 → Int) :
    (v.mul (Float64.ofInt 100)).toInt64 outOfRange = cents := by
  have htrunc : (v.mul (Float64.ofInt 100)).truncated = cents := by
    unfold Float64.truncated
    rw [h.scaled_mul]
    apply Int.mul_tdiv_cancel
    exact_mod_cast Float64.unitScale_pos.ne'
  unfold Float64.toInt64
  have hlt := h.2
  rw [htrunc, if_pos ⟨by omega, by omega⟩]

/-! ## Histories -/

structure Reads (env : Platform) (p : TenantProfile) (t : TenantRecord) : Prop where
  tokens : p.tokenLimit = (policyEntry env.toUint64 t).maxTokensPerMinute
  concurrent : p.concurrentLimit = (policyEntry env.toUint64 t).maxConcurrent
  budget : p.budgetCents * Float64.unitScale = (alertBudget env.defaultBudget t).scaled * 100

theorem Reads.rewritten {env : Platform} {p : TenantProfile} {old t : TenantRecord}
    (h : Reads env p old) (hquotas : old.quotas = t.quotas)
    (hcost : old.costControl = t.costControl) : Reads env p t where
  tokens := by
    rw [h.tokens]
    simp only [policyEntry, hquotas]
  concurrent := by
    rw [h.concurrent]
    simp only [policyEntry, hquotas]
  budget := by
    rw [h.budget]
    simp only [alertBudget, hcost]

theorem StatesLimits.reads {env : Platform} {e : DefaultQuotaEnforcer} {t : TenantRecord}
    (h : StatesLimits e.fallback env.defaultBudget t) (now : Time) :
    Reads env (e.recordProfile env.toInt64 t now) t where
  tokens := h.tokens.read env.toInt64 env.toUint64
  concurrent := h.concurrent.read env.toInt64 env.toUint64
  budget := by
    obtain ⟨cents, halert, hcents⟩ := h.budget
    have hbudget : (e.recordProfile env.toInt64 t now).budgetCents = cents := by
      unfold DefaultQuotaEnforcer.recordProfile
      cases hread : floatAt "monthlyBudget" t.costControl with
      | none =>
        rw [hread] at hcents
        exact hcents
      | some v =>
        rw [hread] at hcents
        exact hcents.toInt64 env.toInt64
    rw [hbudget]
    exact halert.1.symm

namespace Gateway
variable {env : Platform} {g : Gateway}

structure Coherent (env : Platform) (g : Gateway) : Prop where
  stated : ∀ id, ∀ t ∈ g.tenants id, StatesLimits g.enforcer.fallback env.defaultBudget t
  read : ∀ id, ∀ p ∈ g.enforcer.profiles id, ∀ t ∈ g.tenants id, Reads env p t

theorem new_coherent (env : Platform) (fallback : FallbackConfig) :
    (new fallback).Coherent env where
  stated _ _ h := nomatch h
  read _ _ h := nomatch h

theorem put_tenants {record : TenantRecord} {id : String} {t : TenantRecord}
    (h : t ∈ (g.put record).tenants id) :
    id = record.id ∧ t = record ∨ id ≠ record.id ∧ t ∈ g.tenants id := by
  have heq : (if id = record.id then some record else g.tenants id) = some t := h
  by_cases hid : id = record.id
  · rw [if_pos hid] at heq
    exact .inl ⟨hid, (Option.some.inj heq).symm⟩
  · rw [if_neg hid] at heq
    exact .inr ⟨hid, heq⟩

theorem Coherent.put (h : g.Coherent env) {record : TenantRecord}
    (hsettled : g.Settled env (.put record)) : (g.put record).Coherent env where
  stated id t ht := by
    rcases put_tenants ht with ⟨-, rfl⟩ | ⟨-, hold⟩
    · exact hsettled.1
    · exact h.stated id t hold
  read id p hp t ht := by
    rcases put_tenants ht with ⟨rfl, rfl⟩ | ⟨-, hold⟩
    · rcases hsettled.2 with hnone | ⟨old, hold, hquotas, hcost⟩
      · exact nomatch hnone.symm.trans hp
      · exact (h.read _ p hp old hold).rewritten hquotas hcost
    · exact h.read id p hp t hold

theorem Coherent.profile (h : g.Coherent env) {r : Reservation} (hreadable : r.readable = true)
    {t : TenantRecord} (ht : t ∈ g.tenants r.tenantID) : Reads env (g.profile env r) t := by
  have hrecord : g.readRecord r = some t := (if_pos hreadable).trans ht
  unfold Gateway.profile DefaultQuotaEnforcer.profileFor
  rw [hrecord]
  cases hcached : g.enforcer.profiles r.tenantID with
  | some p => exact h.read _ p hcached t ht
  | none => exact (h.stated _ t ht).reads r.created

theorem Coherent.reserve (h : g.Coherent env) {r : Reservation}
    (hsettled : g.Settled env (.reserve r)) : (g.reserve env r).Coherent env := by
  have hstep : g.reserve env r =
      { g with enforcer := g.enforcer.setProfile r.tenantID (g.profile env r) } := by
    unfold Gateway.reserve
    rw [if_pos hsettled.2]
  rw [hstep]
  constructor
  · exact h.stated
  · intro id p hp t ht
    by_cases hid : id = r.tenantID
    · subst hid
      cases (g.enforcer.setProfile_self _ _).symm.trans hp
      exact h.profile hsettled.1 ht
    · exact h.read id p ((g.enforcer.setProfile_of_ne _ hid).symm.trans hp) t ht

theorem Coherent.step (h : g.Coherent env) {c : Change} (hsettled : g.Settled env c) :
    (g.step env c).Coherent env := by
  cases c with
  | put record => exact h.put hsettled
  | reserve r => exact h.reserve hsettled

theorem Coherent.run (changes : List Change) (h : g.Coherent env)
    (hsettled : g.SettledRun env changes) : (g.run env changes).Coherent env := by
  induction changes generalizing g with
  | nil => exact h
  | cons c changes ih => exact ih (h.step hsettled.1) hsettled.2

theorem SettledRun.split {before after : List Change} (h : g.SettledRun env (before ++ after)) :
    g.SettledRun env before ∧ (g.run env before).SettledRun env after := by
  induction before generalizing g with
  | nil => exact ⟨trivial, h⟩
  | cons c before ih => exact ⟨⟨h.1, (ih h.2).1⟩, (ih h.2).2⟩

/-- In every history whose records state each limit for every reader and are not changed once
read, each reservation is held to the limits served and alerted on at that time. -/
theorem limits_agree (env : Platform) (fallback : FallbackConfig) (before after : List Change)
    (r : Reservation) (hsettled : (new fallback).SettledRun env (before ++ .reserve r :: after)) :
    ((new fallback).run env before).AgreesAt env r := by
  obtain ⟨hbefore, hrest⟩ := hsettled.split
  have hcoherent := (new_coherent env fallback).run before hbefore
  intro t ht
  have hreads := hcoherent.profile hrest.1.1 ht
  refine ⟨hreads.tokens, ?_, hreads.budget⟩
  unfold concurrentLimit
  rw [if_pos hrest.1.2, hreads.concurrent]

def sampleEnv : Platform := ⟨fun _ => 0, fun _ => 0, Float64.ofInt 10000⟩

def sampleReservation : Reservation :=
  ⟨"acme", { tokensRequested := 10 }, true, true, ⟨1767225600000000000, 0⟩,
    ⟨1767225600000000000, 0⟩⟩

def sampleRecord (tokens : Int) (budgetKeys : List String) : TenantRecord where
  id := "acme"
  quotas := some [("maxTokensPerMinute", .float (Float64.ofInt tokens))]
  costControl := some (budgetKeys.map fun key => (key, .float (Float64.ofInt 500)))

def sampleStated : TenantRecord := sampleRecord 2000 ["monthlyBudget", "monthly_budget"]

theorem sampleStated_limits :
    StatesLimits (new defaultFallbackConfig).enforcer.fallback sampleEnv.defaultBudget
      sampleStated where
  tokens := by decide +kernel
  concurrent := by decide +kernel
  budget := ⟨50000, by decide +kernel, by decide +kernel⟩

theorem limits_agree_sample :
    ((new defaultFallbackConfig).run sampleEnv [.put sampleStated]).AgreesAt sampleEnv
      sampleReservation :=
  limits_agree sampleEnv defaultFallbackConfig [.put sampleStated] [] sampleReservation
    ⟨⟨sampleStated_limits, .inl rfl⟩, ⟨rfl, rfl⟩, trivial⟩

/-- A record without quotas is enforced and served with different defaults, a budget under the
enforcer's key is not the one alerted on, and a changed record is not read again. -/
theorem limits_disagree :
    ¬ ((new defaultFallbackConfig).run sampleEnv [.put { id := "acme" }]).AgreesAt sampleEnv
        sampleReservation ∧
    ¬ ((new defaultFallbackConfig).run sampleEnv
        [.put (sampleRecord 2000 ["monthlyBudget"])]).AgreesAt sampleEnv sampleReservation ∧
    ¬ ((new defaultFallbackConfig).run sampleEnv
        [.put sampleStated, .reserve sampleReservation,
          .put (sampleRecord 3000 ["monthlyBudget", "monthly_budget"])]).AgreesAt
        sampleEnv sampleReservation := by
  decide +kernel

end Gateway

end FleetLlmd.Quota
