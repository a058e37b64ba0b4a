import FleetLlmd.Quota.Enforcer
import Mathlib.Algebra.BigOperators.Group.List.Basic
import Mathlib.Tactic.Linarith

/-!
# Limits of the enforcer without a shared repository

A meter counts what was granted in its current period and starts over when the
period changes. While periods never come back, what a meter admits within its limit
stays within it in every period. The profile of a tenant holds a meter for tokens
by minute and one for cents by month; only the first is checked against the amount
asked for, and nothing counts the requests in flight.
-/

namespace FleetLlmd.Quota
open Go

/-! ## Meters -/

structure Meter where
  limit : Int
  used : Int
  start : Int

abbrev Amounts := List (Int × Int)

def Amounts.within (amounts : Amounts) (period : Int) : Int :=
  ((amounts.filter fun a => a.1 = period).map Prod.snd).sum

namespace Amounts
variable {amounts : Amounts} {period w n : Int}

@[simp] theorem within_cons_self : within ((period, n) :: amounts) period =
    n + within amounts period := by
  simp [within]

theorem within_cons_of_ne (h : period ≠ w) : within ((period, n) :: amounts) w =
    within amounts w := by
  simp [within, h]

theorem within_of_forall_lt (h : ∀ a ∈ amounts, a.1 < w) : within amounts w = 0 := by
  have hnone : amounts.filter (fun a => a.1 = w) = [] := by
    apply List.filter_eq_nil_iff.mpr
    intro a ha
    have hlt := h a ha
    simp only [decide_eq_true_eq]
    omega
  simp [within, hnone]

end Amounts

def Meter.Stuck (m : Meter) : Prop := m.start = Time.zero.nanos

instance (m : Meter) : Decidable m.Stuck := inferInstanceAs (Decidable (_ = _))

namespace Meter

def roll (m : Meter) (period : Int) : Meter :=
  if ¬ m.Stuck ∧ m.start ≠ period then { m with used := 0, start := period } else m

def charge (m : Meter) (n : Int) : Meter := { m with used := m.used + n }

structure Accounts (m : Meter) (amounts : Amounts) (period : Int) : Prop where
  used_nonneg : 0 ≤ m.used
  used_le : m.used ≤ max 0 m.limit
  within_le : ∀ w, amounts.within w ≤ max 0 m.limit
  current_le : ∀ w, m.start ≤ w → amounts.within w ≤ m.used
  past : ¬ m.Stuck → ∀ a ∈ amounts, a.1 ≤ m.start
  begun : m.start ≤ period

variable {m : Meter} {amounts : Amounts} {period period' n : Int}

@[simp] theorem roll_limit : (m.roll period).limit = m.limit := by
  unfold roll; split_ifs <;> rfl

theorem roll_start (m : Meter) (period : Int) :
    (m.roll period).start = period ∨ (m.roll period).Stuck := by
  by_cases h : ¬ m.Stuck ∧ m.start ≠ period
  · exact Or.inl (by rw [roll, if_pos h])
  · rw [roll, if_neg h]
    by_cases hstuck : m.Stuck
    · exact Or.inr hstuck
    · exact Or.inl (by_contra fun hne => h ⟨hstuck, hne⟩)

theorem Accounts.later (h : m.Accounts amounts period) (hle : period ≤ period') :
    m.Accounts amounts period' :=
  ⟨h.used_nonneg, h.used_le, h.within_le, h.current_le, h.past, h.begun.trans hle⟩

theorem Accounts.roll (h : m.Accounts amounts period) (hle : period ≤ period') :
    (m.roll period').Accounts amounts period' := by
  by_cases hroll : ¬ m.Stuck ∧ m.start ≠ period'
  · rw [Meter.roll, if_pos hroll]
    have hbegun := h.begun
    have hlater : m.start < period' := by
      have := hroll.2
      omega
    refine ⟨le_refl 0, le_max_left _ _, h.within_le, ?_, ?_, le_refl _⟩
    · intro w hw
      have hnone : amounts.within w = 0 := by
        apply Amounts.within_of_forall_lt
        intro a ha
        have hpast := h.past hroll.1 a ha
        dsimp only at hw
        omega
      exact hnone.le
    · intro _ a ha
      have hpast := h.past hroll.1 a ha
      dsimp only
      omega
  · rw [Meter.roll, if_neg hroll]
    exact h.later hle

theorem Accounts.charge (h : m.Accounts amounts period) (hcurrent : m.start = period ∨ m.Stuck)
    (hn : 0 < n) (hlimit : m.used + n ≤ m.limit) :
    (m.charge n).Accounts ((period, n) :: amounts) period := by
  have hused := h.used_nonneg
  have hbegun := h.begun
  have hperiod := h.current_le period hbegun
  refine ⟨by dsimp only [Meter.charge]; omega, by dsimp only [Meter.charge]; omega, ?_, ?_, ?_,
    hbegun⟩
  · intro w
    by_cases hw : period = w
    · rw [← hw, Amounts.within_cons_self]
      dsimp only [Meter.charge]
      omega
    · rw [Amounts.within_cons_of_ne hw]
      exact h.within_le w
  · intro w hstart
    by_cases hw : period = w
    · rw [← hw, Amounts.within_cons_self]
      dsimp only [Meter.charge]
      omega
    · rw [Amounts.within_cons_of_ne hw]
      have hle := h.current_le w hstart
      dsimp only [Meter.charge]
      omega
  · intro hstuck a ha
    rcases List.mem_cons.mp ha with rfl | ha
    · rcases hcurrent with hcurrent | hstuck'
      · exact hcurrent.ge
      · exact absurd hstuck' hstuck
    · exact h.past hstuck a ha

theorem accounts_new (limit start : Int) {period : Int} (h : start ≤ period) :
    (Meter.mk limit 0 start).Accounts [] period :=
  ⟨le_refl 0, le_max_left _ _, fun _ => le_max_left _ _, fun _ _ => le_refl 0,
    fun _ _ h => (List.not_mem_nil h).elim, h⟩

end Meter

/-! ## Histories -/

structure Grant where
  tenantID : String
  window : Time
  month : Time
  tokens : Int

inductive Step where
  | reserve (tenantID : String) (request : QuotaCheckRequest) (tenant : Option TenantRecord)
      (created now : Time)
  | release (tenantID : String)

def Step.Positive : Step → Prop
  | .reserve _ request _ _ _ => 0 < request.tokensRequested ∧ InInt64 request.tokensRequested
  | .release _ => True

instance (s : Step) : Decidable s.Positive := by
  cases s <;> unfold Step.Positive <;> infer_instance

structure Account where
  enforcer : DefaultQuotaEnforcer
  grants : List Grant := []
  releases : List String := []
  clock : Int

namespace Account
variable (outOfRange : Float64 → Int) (a : Account)

def step : Step → Account
  | .reserve tenantID request tenant created now =>
    let (result, enforcer) := a.enforcer.reserveQuota outOfRange tenantID request tenant created now
    { a with
      enforcer := enforcer
      clock := now.nanos
      grants := if result.allowed
        then ⟨tenantID, minuteStart now, monthStart now, request.tokensRequested⟩ :: a.grants
        else a.grants }
  | .release tenantID =>
    { a with enforcer := a.enforcer.releaseQuota tenantID, releases := tenantID :: a.releases }

def run (steps : List Step) : Account := steps.foldl (step outOfRange) a

def granted (tenantID : String) : List Grant := a.grants.filter fun g => g.tenantID = tenantID

def tokens (tenantID : String) : Amounts :=
  (a.granted tenantID).map fun g => (g.window.nanos, g.tokens)

def cents (tenantID : String) : Amounts :=
  (a.granted tenantID).map fun g => (g.month.nanos, g.tokens * costPerToken)

def outstanding (tenantID : String) : Int :=
  (a.granted tenantID).length - a.releases.count tenantID

def TokensWithin : Prop :=
  ∀ tenantID p, a.enforcer.profiles tenantID = some p →
    ∀ window, (a.tokens tenantID).within window ≤ max 0 p.tokenLimit

def CentsWithin : Prop :=
  ∀ tenantID p, a.enforcer.profiles tenantID = some p →
    ∀ month, (a.cents tenantID).within month ≤ max 0 p.budgetCents

def RequestsWithin : Prop :=
  ∀ tenantID p, a.enforcer.profiles tenantID = some p →
    a.outstanding tenantID ≤ max 0 p.concurrentLimit

def WithinLimits : Prop := a.TokensWithin ∧ a.CentsWithin ∧ a.RequestsWithin

def Guarded : Step → Prop
  | .reserve tenantID request tenant created now =>
    let p := (a.enforcer.profileFor outOfRange tenantID tenant created).resetLocalWindows now
    a.clock ≤ created.nanos ∧ created.nanos ≤ now.nanos ∧
      request.tokensRequested * costPerToken ≤ p.budgetCents - p.budgetSpent ∧
      a.outstanding tenantID < p.concurrentLimit
  | .release _ => True

instance (s : Step) : Decidable (a.Guarded outOfRange s) :=
  match s with
  | .reserve _ _ _ _ _ => inferInstanceAs (Decidable (_ ∧ _ ∧ _ ∧ _))
  | .release _ => inferInstanceAs (Decidable True)

def GuardedRun : Account → List Step → Prop
  | _, [] => True
  | a, s :: steps => a.Guarded outOfRange s ∧ (a.step outOfRange s).GuardedRun steps

end Account

/-! ## One step -/

namespace TenantProfile
variable {p : TenantProfile} {now : Time} {tokens cents : Amounts} {clock clock' : Int}

def tokenMeter (p : TenantProfile) : Meter := ⟨p.tokenLimit, p.tokensUsed, p.tokenWindow.nanos⟩

def budgetMeter (p : TenantProfile) : Meter := ⟨p.budgetCents, p.budgetSpent, p.budgetMonth.nanos⟩

theorem rolls_iff (m : Meter) {t : Time} (period : Time) (h : t.nanos = m.start) :
    (!t.isZero && !t.equal period) = true ↔ ¬ m.Stuck ∧ m.start ≠ period.nanos := by
  simp [Time.isZero, Time.equal, Meter.Stuck, h]

theorem reset_tokenMeter (p : TenantProfile) (now : Time) :
    (p.resetLocalWindows now).tokenMeter = p.tokenMeter.roll (minuteStart now).nanos := by
  have hmonth (q : TenantProfile) : (q.resetMonth now).tokenMeter = q.tokenMeter := by
    unfold resetMonth
    split_ifs <;> rfl
  rw [resetLocalWindows, hmonth, resetWindow, Meter.roll]
  simp only [rolls_iff p.tokenMeter _ rfl]
  split_ifs <;> rfl

theorem reset_budgetMeter (p : TenantProfile) (now : Time) :
    (p.resetLocalWindows now).budgetMeter = p.budgetMeter.roll (monthStart now).nanos := by
  have hwindow : (p.resetWindow now).budgetMeter = p.budgetMeter := by
    unfold resetWindow
    split_ifs <;> rfl
  rw [← hwindow, resetLocalWindows]
  generalize p.resetWindow now = q
  rw [resetMonth, Meter.roll]
  simp only [rolls_iff q.budgetMeter _ rfl]
  split_ifs <;> rfl

structure Metered (p : TenantProfile) (tokens cents : Amounts) (clock : Int) : Prop where
  tokenLimit : InInt64 p.tokenLimit
  budgetCents : InInt64 p.budgetCents
  tokens : p.tokenMeter.Accounts tokens (minuteStart ⟨clock, 0⟩).nanos
  cents : p.budgetMeter.Accounts cents (monthStart ⟨clock, 0⟩).nanos

theorem Metered.later (h : p.Metered tokens cents clock) (hle : clock ≤ clock') :
    p.Metered tokens cents clock' :=
  ⟨h.tokenLimit, h.budgetCents, h.tokens.later (Time.truncate_mono (by decide) hle),
    h.cents.later (Time.monthStart_mono hle)⟩

theorem Metered.reset (h : p.Metered tokens cents clock) (hle : clock ≤ now.nanos) :
    (p.resetLocalWindows now).Metered tokens cents now.nanos := by
  have htokens := h.tokens.roll (Time.truncate_mono (u := now) (d := Time.minute) (by decide) hle)
  have hcents := h.cents.roll (Time.monthStart_mono (u := now) hle)
  have hlimit : (p.resetLocalWindows now).tokenMeter.limit = p.tokenMeter.limit := by
    rw [reset_tokenMeter, Meter.roll_limit]
  have hbudget : (p.resetLocalWindows now).budgetMeter.limit = p.budgetMeter.limit := by
    rw [reset_budgetMeter, Meter.roll_limit]
  refine ⟨?_, ?_, ?_, ?_⟩
  · change InInt64 (p.resetLocalWindows now).tokenMeter.limit
    rw [hlimit]
    exact h.tokenLimit
  · change InInt64 (p.resetLocalWindows now).budgetMeter.limit
    rw [hbudget]
    exact h.budgetCents
  · rw [reset_tokenMeter]
    exact htokens
  · rw [reset_budgetMeter]
    exact hcents

theorem current_tokenMeter (p : TenantProfile) (now : Time) :
    (p.resetLocalWindows now).tokenMeter.start = (minuteStart now).nanos ∨
      (p.resetLocalWindows now).tokenMeter.Stuck := by
  rw [reset_tokenMeter]
  exact Meter.roll_start _ _

theorem current_budgetMeter (p : TenantProfile) (now : Time) :
    (p.resetLocalWindows now).budgetMeter.start = (monthStart now).nanos ∨
      (p.resetLocalWindows now).budgetMeter.Stuck := by
  rw [reset_budgetMeter]
  exact Meter.roll_start _ _

theorem Metered.check (h : p.Metered tokens cents clock) {request : QuotaCheckRequest}
    (hallowed : (p.check request).allowed) :
    p.tokensUsed + request.tokensRequested ≤ p.tokenLimit := by
  have hused : 0 ≤ p.tokensUsed := h.tokens.used_nonneg
  have hmax : p.tokensUsed ≤ max 0 p.tokenLimit := h.tokens.used_le
  have hrange := h.tokenLimit
  unfold InInt64 at hrange
  have hremaining : p.remainingTokens = p.tokenLimit - p.tokensUsed :=
    int64_eq_self ⟨by omega, by omega⟩
  unfold TenantProfile.check at hallowed
  split_ifs at hallowed with hbudget htokens
  omega

theorem Metered.deduct (h : p.Metered tokens cents now.nanos) {n : Int} (hn : 0 < n)
    (hwindow : p.tokenMeter.start = (minuteStart now).nanos ∨ p.tokenMeter.Stuck)
    (hmonth : p.budgetMeter.start = (monthStart now).nanos ∨ p.budgetMeter.Stuck)
    (htokens : p.tokensUsed + n ≤ p.tokenLimit)
    (hcents : n * costPerToken ≤ p.budgetCents - p.budgetSpent) :
    (p.deduct n).Metered (((minuteStart now).nanos, n) :: tokens)
      (((monthStart now).nanos, n * costPerToken) :: cents) now.nanos := by
  have hused : 0 ≤ p.tokensUsed := h.tokens.used_nonneg
  have hspent : 0 ≤ p.budgetSpent := h.cents.used_nonneg
  have hlimit := h.tokenLimit
  have hbudget := h.budgetCents
  unfold InInt64 at hlimit hbudget
  have hcost : n * costPerToken = n := Int.mul_one n
  have hcost' : int64 (n * costPerToken) = n * costPerToken :=
    int64_eq_self ⟨by omega, by omega⟩
  have hused' : int64 (p.tokensUsed + n) = p.tokensUsed + n := int64_eq_self ⟨by omega, by omega⟩
  have hspent' : int64 (p.budgetSpent + n * costPerToken) = p.budgetSpent + n * costPerToken :=
    int64_eq_self ⟨by omega, by omega⟩
  have htokenMeter : (p.deduct n).tokenMeter = p.tokenMeter.charge n := by
    simp only [tokenMeter, TenantProfile.deduct, Meter.charge, hused']
  have hbudgetMeter : (p.deduct n).budgetMeter = p.budgetMeter.charge (n * costPerToken) := by
    simp only [budgetMeter, TenantProfile.deduct, Meter.charge, hcost', hspent']
  refine ⟨h.tokenLimit, h.budgetCents, ?_, ?_⟩
  · rw [htokenMeter]
    exact h.tokens.charge hwindow hn htokens
  · rw [hbudgetMeter]
    refine h.cents.charge hmonth (by omega) ?_
    change p.budgetSpent + n * costPerToken ≤ p.budgetCents
    omega

end TenantProfile

/-! ## Whole histories -/

namespace Account
variable {outOfRange : Float64 → Int} {a : Account} {tenantID : String}

structure Balanced (a : Account) (tenantID : String) : Prop where
  profiled : ∀ p, a.enforcer.profiles tenantID = some p →
    p.Metered (a.tokens tenantID) (a.cents tenantID) a.clock ∧
      a.outstanding tenantID ≤ max 0 p.concurrentLimit
  unprofiled : a.enforcer.profiles tenantID = none → a.granted tenantID = []

theorem Balanced.frame {b : Account} (h : a.Balanced tenantID)
    (hprofile : b.enforcer.profiles tenantID = a.enforcer.profiles tenantID)
    (hgranted : b.granted tenantID = a.granted tenantID)
    (hreleases : a.releases.count tenantID ≤ b.releases.count tenantID)
    (hclock : a.clock ≤ b.clock) : b.Balanced tenantID := by
  constructor
  · intro p hp
    rw [hprofile] at hp
    obtain ⟨hmetered, houtstanding⟩ := h.profiled p hp
    unfold tokens cents outstanding at *
    rw [hgranted]
    exact ⟨hmetered.later hclock, by omega⟩
  · intro hp
    rw [hgranted]
    exact h.unprofiled (hprofile ▸ hp)

theorem recordProfile_metered {e : DefaultQuotaEnforcer} {now : Time} (t : TenantRecord)
    (h : InInt64 e.fallback.tokenLimitPerMinute ∧ InInt64 e.fallback.monthlyBudgetCents) :
    (e.recordProfile outOfRange t now).Metered [] [] now.nanos := by
  refine ⟨?_, ?_, Meter.accounts_new _ _ (le_refl _), Meter.accounts_new _ _ (le_refl _)⟩
  · unfold DefaultQuotaEnforcer.recordProfile
    cases floatAt "maxTokensPerMinute" t.quotas with
    | none => exact h.1
    | some v => exact Float64.inInt64_toInt64 _ v
  · unfold DefaultQuotaEnforcer.recordProfile
    cases floatAt "monthlyBudget" t.costControl with
    | none => exact h.2
    | some v => exact Float64.inInt64_toInt64 _ _

def Typed (a : Account) : Prop :=
  InInt64 a.enforcer.fallback.tokenLimitPerMinute ∧ InInt64 a.enforcer.fallback.monthlyBudgetCents

theorem Balanced.profileFor (outOfRange : Float64 → Int) (h : a.Balanced tenantID)
    (htyped : a.Typed)
    (tenant : Option TenantRecord) {created : Time} (hle : a.clock ≤ created.nanos) :
    (a.enforcer.profileFor outOfRange tenantID tenant created).Metered (a.tokens tenantID)
      (a.cents tenantID) created.nanos := by
  unfold DefaultQuotaEnforcer.profileFor
  cases hp : a.enforcer.profiles tenantID with
  | some p => exact (h.profiled p hp).1.later hle
  | none =>
    unfold tokens cents
    rw [h.unprofiled hp]
    cases tenant with
    | some t => exact recordProfile_metered t htyped
    | none =>
      exact ⟨htyped.1, htyped.2, Meter.accounts_new _ _ (le_refl _),
        Meter.accounts_new _ _ (le_refl _)⟩

/-- A reservation charges the tenant's profile and records the grant, or only brings the profile
up to date. -/
theorem step_reserve (outOfRange : Float64 → Int) (a : Account) (tenantID : String)
    (request : QuotaCheckRequest)
    (tenant : Option TenantRecord) (created now : Time) {p : TenantProfile}
    (hp : (a.enforcer.profileFor outOfRange tenantID tenant created).resetLocalWindows now = p) :
    (p.check request).allowed ∧ a.step outOfRange (.reserve tenantID request tenant created now) =
        { a with
          enforcer := a.enforcer.setProfile tenantID (p.deduct request.tokensRequested)
          grants := ⟨tenantID, minuteStart now, monthStart now, request.tokensRequested⟩ :: a.grants
          clock := now.nanos } ∨
      a.step outOfRange (.reserve tenantID request tenant created now) =
        { a with enforcer := a.enforcer.setProfile tenantID p, clock := now.nanos } := by
  simp only [step, DefaultQuotaEnforcer.reserveQuota, hp]
  cases hallowed : (p.check request).allowed with
  | true => exact Or.inl ⟨rfl, rfl⟩
  | false => exact Or.inr (by simp [hallowed])

theorem granted_cons (a : Account) (g : Grant) (e : DefaultQuotaEnforcer) (clock : Int)
    (tenantID : String) : { a with grants := g :: a.grants, enforcer := e, clock := clock }.granted
      tenantID = if g.tenantID = tenantID then g :: a.granted tenantID else a.granted tenantID := by
  simp [granted, List.filter_cons]

theorem step_typed (htyped : a.Typed) (s : Step) : (a.step outOfRange s).Typed := by
  cases s with
  | release id => exact htyped
  | reserve id request tenant created now =>
    rcases step_reserve outOfRange a id request tenant created now rfl with
      ⟨-, hstep⟩ | hstep
    · rw [hstep]
      exact htyped
    · rw [hstep]
      exact htyped

theorem Balanced.reserve (h : ∀ id, a.Balanced id) (htyped : a.Typed)
    {request : QuotaCheckRequest} {tenant : Option TenantRecord} {created now : Time}
    (hpositive : 0 < request.tokensRequested)
    (hguarded : a.Guarded outOfRange (.reserve tenantID request tenant created now)) (id : String) :
    (a.step outOfRange (.reserve tenantID request tenant created now)).Balanced id := by
  obtain ⟨p, hp⟩ : ∃ p, (a.enforcer.profileFor outOfRange tenantID tenant created).resetLocalWindows
    now = p := ⟨_, rfl⟩
  have hmetered := ((h tenantID).profileFor outOfRange htyped tenant
    hguarded.1).reset hguarded.2.1
  have hwindow := TenantProfile.current_tokenMeter
    (a.enforcer.profileFor outOfRange tenantID tenant created) now
  have hmonth := TenantProfile.current_budgetMeter
    (a.enforcer.profileFor outOfRange tenantID tenant created) now
  obtain ⟨hcreated, hnow, hbudget, houtstanding⟩ := hguarded
  rw [hp] at hmetered hwindow hmonth hbudget houtstanding
  have hclock : a.clock ≤ now.nanos := hcreated.trans hnow
  rcases step_reserve outOfRange a tenantID request tenant created now hp with
    ⟨hallowed, hstep⟩ | hstep
  · rw [hstep]
    by_cases hid : id = tenantID
    · subst hid
      constructor
      · intro q hq
        cases (a.enforcer.setProfile_self id _).symm.trans hq
        unfold tokens cents outstanding
        rw [granted_cons, if_pos rfl]
        refine ⟨hmetered.deduct hpositive hwindow hmonth (hmetered.check hallowed) hbudget, ?_⟩
        have hlimit : (p.deduct request.tokensRequested).concurrentLimit = p.concurrentLimit := rfl
        unfold outstanding at houtstanding
        rw [hlimit, List.length_cons]
        dsimp only
        omega
      · intro hnone
        cases (a.enforcer.setProfile_self id _).symm.trans hnone
    · refine (h id).frame (a.enforcer.setProfile_of_ne _ hid) ?_ (le_refl _) hclock
      rw [granted_cons, if_neg (Ne.symm hid)]
  · rw [hstep]
    by_cases hid : id = tenantID
    · subst hid
      constructor
      · intro q hq
        cases (a.enforcer.setProfile_self id _).symm.trans hq
        exact ⟨hmetered, houtstanding.le.trans (le_max_right _ _)⟩
      · intro hnone
        cases (a.enforcer.setProfile_self id _).symm.trans hnone
    · exact (h id).frame (a.enforcer.setProfile_of_ne _ hid) rfl (le_refl _) hclock

theorem Balanced.step (h : ∀ id, a.Balanced id) (htyped : a.Typed) {s : Step}
    (hpositive : s.Positive) (hguarded : a.Guarded outOfRange s) (id : String) :
    (a.step outOfRange s).Balanced id := by
  cases s with
  | reserve tenantID request tenant created now =>
    exact Balanced.reserve h htyped hpositive.1 hguarded id
  | release tenantID => exact (h id).frame rfl rfl List.count_le_count_cons (le_refl _)

theorem Balanced.run (steps : List Step) (h : ∀ id, a.Balanced id) (htyped : a.Typed)
    (hpositive : ∀ s ∈ steps, s.Positive) (hguarded : a.GuardedRun outOfRange steps) (id : String) :
    (a.run outOfRange steps).Balanced id := by
  induction steps generalizing a with
  | nil => exact h id
  | cons s steps ih =>
    apply ih
    · exact Balanced.step h htyped (hpositive s (List.mem_cons_self)) hguarded.1
    · exact step_typed htyped s
    · intro s' hs'
      exact hpositive s' (List.mem_cons_of_mem _ hs')
    · exact hguarded.2

def new (fallback : FallbackConfig) (clock : Time) : Account where
  enforcer := newQuotaEnforcerWithFallback fallback
  clock := clock.nanos

theorem new_typed {fallback : FallbackConfig} (htokens : InInt64 fallback.tokenLimitPerMinute)
    (hbudget : InInt64 fallback.monthlyBudgetCents) (clock : Time) :
    (new fallback clock).Typed := by
  constructor
  · change InInt64 (if _ then _ else _)
    split_ifs
    · decide
    · exact htokens
  · change InInt64 (if _ then _ else _)
    split_ifs
    · decide
    · exact hbudget

theorem GuardedRun.initial {steps rest : List Step} (h : a.GuardedRun outOfRange (steps ++ rest)) :
    a.GuardedRun outOfRange steps := by
  induction steps generalizing a with
  | nil => trivial
  | cons s steps ih => exact ⟨h.1, ih h.2⟩

/-- Without a shared repository the three limits hold in every state of a history whose clock is
never set back and whose callers stay within the month's budget and the number of requests in
flight. -/
theorem local_limits (outOfRange : Float64 → Int) {fallback : FallbackConfig}
    (htokens : InInt64 fallback.tokenLimitPerMinute)
    (hbudget : InInt64 fallback.monthlyBudgetCents) (clock : Time) (steps rest : List Step)
    (hpositive : ∀ s ∈ steps ++ rest, s.Positive)
    (hguarded : (new fallback clock).GuardedRun outOfRange (steps ++ rest)) :
    ((new fallback clock).run outOfRange steps).WithinLimits := by
  have hbalanced (id : String) : ((new fallback clock).run outOfRange steps).Balanced id := by
    apply Balanced.run steps
    · intro id
      exact ⟨nofun, fun _ => rfl⟩
    · exact new_typed htokens hbudget clock
    · intro s hs
      exact hpositive s (List.mem_append_left _ hs)
    · exact hguarded.initial
  refine ⟨?_, ?_, ?_⟩
  · intro id p hp
    exact ((hbalanced id).profiled p hp).1.tokens.within_le
  · intro id p hp
    exact ((hbalanced id).profiled p hp).1.cents.within_le
  · intro id p hp
    exact ((hbalanced id).profiled p hp).2

def sampleStart : Time := ⟨1767225600000000000, 0⟩

def sampleReserve (tokens minute : Int) : Step :=
  .reserve "t" { tokensRequested := tokens } none
    ⟨sampleStart.nanos + minute * Time.minute, 0⟩ ⟨sampleStart.nanos + minute * Time.minute, 0⟩

def sampleFallback : FallbackConfig := ⟨1000, 1, 2500⟩

theorem local_limits_sample :
    ((new sampleFallback sampleStart).run (fun _ => 0)
      [sampleReserve 600 0, .release "t"]).WithinLimits :=
  local_limits _ (by decide) (by decide) sampleStart
    [sampleReserve 600 0, .release "t"] [sampleReserve 400 1]
    (by decide) ⟨by decide +kernel, trivial, by decide +kernel, trivial⟩

def sampleRun (steps : List Step) : Account :=
  (new sampleFallback sampleStart).run (fun _ => 0) steps

def sampleBackwards : List Step :=
  [sampleReserve 1000 0, sampleReserve 100 1, sampleReserve 1000 0]

def sampleOverdrawn : List Step :=
  [sampleReserve 1000 0, sampleReserve 1000 1, sampleReserve 1000 2]

def sampleCrowded : List Step := [sampleReserve 1 0, sampleReserve 1 0]

/-- A clock that is set back opens a minute again, the month's budget is overdrawn by a request
larger than what is left of it, and the requests in flight are not counted. -/
theorem local_limits_exceeded :
    ¬ (∀ steps, (∀ s ∈ steps, s.Positive) → (sampleRun steps).TokensWithin) ∧
    ¬ (∀ steps, (∀ s ∈ steps, s.Positive) → (sampleRun steps).CentsWithin) ∧
    ¬ (∀ steps, (∀ s ∈ steps, s.Positive) → (sampleRun steps).RequestsWithin) := by
  refine ⟨?_, ?_, ?_⟩
  · intro h
    have htokens : ∀ p ∈ (sampleRun sampleBackwards).enforcer.profiles "t",
        ((sampleRun sampleBackwards).tokens "t").within sampleStart.nanos ≤ max 0 p.tokenLimit := by
      intro p hp
      exact h sampleBackwards (by decide) "t" p (Option.mem_def.mp hp) sampleStart.nanos
    exact absurd htokens (by decide +kernel)
  · intro h
    have hcents : ∀ p ∈ (sampleRun sampleOverdrawn).enforcer.profiles "t",
        ((sampleRun sampleOverdrawn).cents "t").within sampleStart.nanos ≤ max 0 p.budgetCents := by
      intro p hp
      exact h sampleOverdrawn (by decide) "t" p (Option.mem_def.mp hp) sampleStart.nanos
    exact absurd hcents (by decide +kernel)
  · intro h
    have hrequests : ∀ p ∈ (sampleRun sampleCrowded).enforcer.profiles "t",
        (sampleRun sampleCrowded).outstanding "t" ≤ max 0 p.concurrentLimit := by
      intro p hp
      exact h sampleCrowded (by decide) "t" p (Option.mem_def.mp hp)
    exact absurd hrequests (by decide +kernel)

end Account
end FleetLlmd.Quota
