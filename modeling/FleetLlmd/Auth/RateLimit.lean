import FleetLlmd.Data.Map
import FleetLlmd.Rate.TokenBucket

/-!
# The rate limiter

`pkg/auth/ratelimit.go`: a token bucket for each key, made full at the first call of the
key and swept away when it has not been used for the TTL. Tokens and times, in seconds,
are exact. A bucket that is not there stands for a full one, so a sweep changes no level
as long as a bucket fills within the TTL.
-/

namespace FleetLlmd.Auth
open TokenBucket

structure Bucket where
  tokens : ℚ
  lastCheck : ℚ
  lastAccess : ℚ

structure RateLimiter where
  buckets : Map String Bucket
  rate : ℚ
  burst : Int
  ttl : ℚ
  maxBuckets : Int

def defaultMaxBuckets : Int := 50000

def newRateLimiterWithTTL (ratePerSecond : ℚ) (burstSize : Int) (ttl : ℚ) : RateLimiter where
  buckets := ∅
  rate := ratePerSecond
  burst := burstSize
  ttl := ttl
  maxBuckets := defaultMaxBuckets

namespace RateLimiter

/-- `evictExpiredLocked`. -/
def evictExpired (rl : RateLimiter) (now : ℚ) : RateLimiter :=
  { rl with buckets := rl.buckets.retain fun _ b => !decide (now - b.lastAccess > rl.ttl) }

def saturated (rl : RateLimiter) : Bool :=
  decide (rl.maxBuckets > 0) && decide ((rl.buckets.size : Int) ≥ rl.maxBuckets)

def refilled (rl : RateLimiter) (b : Bucket) (now : ℚ) : ℚ :=
  let tokens := b.tokens + (now - b.lastCheck) * rl.rate
  if tokens > rl.burst then rl.burst else tokens

def allow (rl : RateLimiter) (key : String) (now : ℚ) : Bool × RateLimiter :=
  match rl.buckets.lookup key with
  | none =>
    let rl := if rl.saturated then rl.evictExpired now else rl
    if rl.saturated then (false, rl)
    else (true, { rl with buckets := rl.buckets.insert key ⟨rl.burst - 1, now, now⟩ })
  | some b =>
    let tokens := rl.refilled b now
    if tokens < 1 then (false, { rl with buckets := rl.buckets.insert key ⟨tokens, now, now⟩ })
    else (true, { rl with buckets := rl.buckets.insert key ⟨tokens - 1, now, now⟩ })

end RateLimiter

section Runs

inductive Event where
  | allow (key : String)
  | sweep

def Event.grants (key : String) (answer : Bool) : Event → Bool
  | .allow other => decide (other = key) && answer
  | .sweep => false

namespace RateLimiter

def step (rl : RateLimiter) (now : ℚ) : Event → Bool × RateLimiter
  | .allow key => rl.allow key now
  | .sweep => (false, rl.evictExpired now)

def run (rl : RateLimiter) : List (ℚ × Event) → RateLimiter
  | [] => rl
  | (now, event) :: events => (rl.step now event).2.run events

def decisions (key : String) (rl : RateLimiter) : List (ℚ × Event) → List (ℚ × Bool)
  | [] => []
  | (now, event) :: events =>
    (now, event.grants key (rl.step now event).1) :: decisions key (rl.step now event).2 events

def allowedWithin (rl : RateLimiter) (key : String) (start length : ℚ)
    (events : List (ℚ × Event)) : Nat :=
  grantsWithin start length (rl.decisions key events)

end RateLimiter
end Runs

section Settings
variable {rl : RateLimiter} {now : ℚ}

def SameSettings (rl rl' : RateLimiter) : Prop :=
  rl'.rate = rl.rate ∧ rl'.burst = rl.burst ∧ rl'.ttl = rl.ttl ∧ rl'.maxBuckets = rl.maxBuckets

theorem step_settings (rl : RateLimiter) (now : ℚ) (event : Event) :
    SameSettings rl (rl.step now event).2 := by
  cases event with
  | sweep => exact ⟨rfl, rfl, rfl, rfl⟩
  | allow key =>
    simp only [RateLimiter.step, RateLimiter.allow]
    cases rl.buckets.lookup key with
    | none => dsimp only; split_ifs <;> exact ⟨rfl, rfl, rfl, rfl⟩
    | some b => dsimp only; split_ifs <;> exact ⟨rfl, rfl, rfl, rfl⟩

theorem run_maxBuckets (rl : RateLimiter) (events : List (ℚ × Event)) :
    (rl.run events).maxBuckets = rl.maxBuckets := by
  induction events generalizing rl with
  | nil => rfl
  | cons event events ih =>
    rw [RateLimiter.run, ih, (step_settings rl event.1 event.2).2.2.2]

end Settings

section Cap
variable {rl : RateLimiter}

def Capped (rl : RateLimiter) : Prop :=
  0 < rl.maxBuckets → (rl.buckets.size : Int) ≤ rl.maxBuckets

theorem Capped.evictExpired (h : Capped rl) (now : ℚ) : Capped (rl.evictExpired now) := by
  intro hmax
  have hle : (rl.evictExpired now).buckets.size ≤ rl.buckets.size := Map.size_retain_le _ _
  have := h hmax
  change (_ : Int) ≤ rl.maxBuckets
  omega

theorem Capped.insert_new {key : String} {b : Bucket} (hnew : rl.buckets.lookup key = none)
    (hroom : rl.saturated = false) :
    Capped { rl with buckets := rl.buckets.insert key b } := by
  intro hmax
  change 0 < rl.maxBuckets at hmax
  have hsize := Map.size_insert_of_notMem (AList.lookup_eq_none.mp hnew) b
  simp only [RateLimiter.saturated, Bool.and_eq_false_iff, decide_eq_false_iff_not] at hroom
  change (Map.size (rl.buckets.insert key b) : Int) ≤ rl.maxBuckets
  omega

theorem Capped.insert_old {key : String} {b b' : Bucket} (h : Capped rl)
    (hold : rl.buckets.lookup key = some b) :
    Capped { rl with buckets := rl.buckets.insert key b' } := by
  intro hmax
  have hmem : key ∈ rl.buckets := AList.lookup_isSome.mp (by rw [hold]; rfl)
  change (Map.size (rl.buckets.insert key b') : Int) ≤ rl.maxBuckets
  rw [Map.size_insert_of_mem hmem]
  exact h hmax

theorem lookup_evictExpired_none {key : String} (now : ℚ) (h : rl.buckets.lookup key = none) :
    (rl.evictExpired now).buckets.lookup key = none := by
  simp [RateLimiter.evictExpired, h]

theorem Capped.step (h : Capped rl) (now : ℚ) (event : Event) : Capped (rl.step now event).2 := by
  cases event with
  | sweep => exact h.evictExpired now
  | allow key =>
    simp only [RateLimiter.step, RateLimiter.allow]
    cases hlookup : rl.buckets.lookup key with
    | some b =>
      dsimp only
      split_ifs
      · exact h.insert_old hlookup
      · exact h.insert_old hlookup
    | none =>
      dsimp only
      split_ifs with hfull hstill
      · exact h.evictExpired now
      · exact Capped.insert_new (lookup_evictExpired_none now hlookup) (by simpa using hstill)
      · exact Capped.insert_new hlookup (by simpa using hfull)

theorem Capped.run (h : Capped rl) (events : List (ℚ × Event)) : Capped (rl.run events) := by
  induction events generalizing rl with
  | nil => exact h
  | cons event events ih => exact ih (h.step event.1 event.2)

end Cap

section Level

structure Fills (rl : RateLimiter) : Prop where
  rate : 0 < rl.rate
  burst : 1 ≤ rl.burst
  ttl : (rl.burst : ℚ) ≤ rl.rate * rl.ttl

theorem Fills.of_same {rl rl' : RateLimiter} (h : Fills rl) (hsame : SameSettings rl rl') :
    Fills rl' := by
  obtain ⟨hrate, hburst, httl, -⟩ := hsame
  exact ⟨hrate ▸ h.rate, hburst ▸ h.burst, by rw [hrate, hburst, httl]; exact h.ttl⟩

structure Sound (rl : RateLimiter) (b : Bucket) (now : ℚ) : Prop where
  nonneg : 0 ≤ b.tokens
  le_burst : b.tokens ≤ rl.burst
  access : b.lastAccess = b.lastCheck
  past : b.lastCheck ≤ now

def AllSound (rl : RateLimiter) (now : ℚ) : Prop :=
  ∀ key b, rl.buckets.lookup key = some b → Sound rl b now

def level (rl : RateLimiter) (key : String) (now : ℚ) : ℚ :=
  match rl.buckets.lookup key with
  | none => rl.burst
  | some b => refill (rl.burst : ℚ) rl.rate b.tokens (now - b.lastCheck)

variable {rl : RateLimiter} {now : ℚ}

theorem level_none {key : String} (h : rl.buckets.lookup key = none) :
    level rl key now = rl.burst := by
  rw [level, h]

theorem level_some {key : String} {b : Bucket} (h : rl.buckets.lookup key = some b) :
    level rl key now = refill (rl.burst : ℚ) rl.rate b.tokens (now - b.lastCheck) := by
  rw [level, h]

theorem refilled_eq (b : Bucket) :
    rl.refilled b now = refill (rl.burst : ℚ) rl.rate b.tokens (now - b.lastCheck) := by
  rw [RateLimiter.refilled, refill, mul_comm]
  split_ifs with hfull
  · exact (min_eq_left hfull.le).symm
  · exact (min_eq_right (not_lt.mp hfull)).symm

theorem AllSound.level_nonneg (h : AllSound rl now) (hfills : Fills rl) (key : String) :
    0 ≤ level rl key now := by
  have hburst : (0 : ℚ) ≤ rl.burst := by exact_mod_cast le_trans zero_le_one hfills.burst
  cases hlookup : rl.buckets.lookup key with
  | none => rwa [level_none hlookup]
  | some b =>
    have hb := h key b hlookup
    rw [level_some hlookup]
    have hgain := mul_nonneg hfills.rate.le (sub_nonneg.mpr hb.past)
    exact le_min hburst (by linarith [hb.nonneg])

theorem level_later (hfills : Fills rl) {later : ℚ} (hlater : now ≤ later) (key : String) :
    level rl key later = refill (rl.burst : ℚ) rl.rate (level rl key now) (later - now) := by
  have hgain := mul_nonneg hfills.rate.le (sub_nonneg.mpr hlater)
  cases hlookup : rl.buckets.lookup key with
  | none =>
    rw [level_none hlookup, level_none hlookup, refill, min_eq_left]
    linarith
  | some b =>
    rw [level_some hlookup, level_some hlookup, refill_refill hgain]
    congr 1
    ring

theorem AllSound.later (h : AllSound rl now) {later : ℚ} (hlater : now ≤ later) :
    AllSound rl later := by
  intro key b hlookup
  have hb := h key b hlookup
  exact ⟨hb.nonneg, hb.le_burst, hb.access, hb.past.trans hlater⟩

theorem level_evictExpired (h : AllSound rl now) (hfills : Fills rl) (key : String) :
    level (rl.evictExpired now) key now = level rl key now := by
  have hsame : (rl.evictExpired now).buckets.lookup key =
      (rl.buckets.lookup key).filter fun b => !decide (now - b.lastAccess > rl.ttl) :=
    Map.lookup_retain _ _ _
  cases hlookup : rl.buckets.lookup key with
  | none => rw [level_none (lookup_evictExpired_none now hlookup), level_none hlookup]; rfl
  | some b =>
    have hb := h key b hlookup
    rw [hlookup, Option.filter_some] at hsame
    by_cases hexpired : now - b.lastAccess > rl.ttl
    · have hgone : (rl.evictExpired now).buckets.lookup key = none := by
        rw [hsame, decide_eq_true hexpired]
        rfl
      rw [level_none hgone, level_some hlookup]
      change (rl.burst : ℚ) = _
      have hfull : (rl.burst : ℚ) ≤ rl.rate * (now - b.lastCheck) := by
        rw [← hb.access]
        exact hfills.ttl.trans (mul_le_mul_of_nonneg_left hexpired.le hfills.rate.le)
      exact (min_eq_left (by linarith [hb.nonneg])).symm
    · have hkept : (rl.evictExpired now).buckets.lookup key = some b := by
        rw [hsame, decide_eq_false hexpired]
        rfl
      rw [level_some hkept, level_some hlookup]
      rfl

theorem AllSound.evictExpired (h : AllSound rl now) : AllSound (rl.evictExpired now) now := by
  intro key b hlookup
  have hfilter : (rl.buckets.lookup key).filter (fun b => !decide (now - b.lastAccess > rl.ttl)) =
      some b := (Map.lookup_retain _ _ _).symm.trans hlookup
  have hb := h key b (Option.filter_eq_some_iff.mp hfilter).1
  exact ⟨hb.nonneg, hb.le_burst, hb.access, hb.past⟩

theorem AllSound.insert {key : String} {tokens : ℚ} (h : AllSound rl now) (hnonneg : 0 ≤ tokens)
    (hle : tokens ≤ rl.burst) :
    AllSound { rl with buckets := rl.buckets.insert key ⟨tokens, now, now⟩ } now := by
  intro other b hlookup
  by_cases hkey : other = key
  · subst hkey
    rw [AList.lookup_insert, Option.some.injEq] at hlookup
    subst hlookup
    exact ⟨hnonneg, hle, rfl, le_rfl⟩
  · rw [AList.lookup_insert_ne hkey] at hlookup
    have hb := h other b hlookup
    exact ⟨hb.nonneg, hb.le_burst, hb.access, hb.past⟩

theorem level_insert_self {key : String} {tokens : ℚ} (hle : tokens ≤ rl.burst) :
    level { rl with buckets := rl.buckets.insert key ⟨tokens, now, now⟩ } key now = tokens := by
  rw [level_some (AList.lookup_insert _), sub_self, refill_zero hle]

theorem level_insert_other {key other : String} (hne : other ≠ key) (b : Bucket) :
    level { rl with buckets := rl.buckets.insert key b } other now = level rl other now := by
  simp only [level, AList.lookup_insert_ne hne]

theorem allow_spec (h : AllSound rl now) (hfills : Fills rl) (key : String) :
    AllSound (rl.allow key now).2 now ∧
      level (rl.allow key now).2 key now + price (rl.allow key now).1 = level rl key now ∧
      ∀ other, other ≠ key → level (rl.allow key now).2 other now = level rl other now := by
  have hburst : (1 : ℚ) ≤ rl.burst := by exact_mod_cast hfills.burst
  rw [RateLimiter.allow]
  cases hlookup : rl.buckets.lookup key with
  | some b =>
    have hlevel : level rl key now = _ := level_some hlookup
    have hnonneg := h.level_nonneg hfills key
    have hle : level rl key now ≤ rl.burst := hlevel ▸ refill_le_cap _ _
    simp only [refilled_eq, ← hlevel]
    split_ifs with hshort
    · refine ⟨h.insert hnonneg hle, ?_, fun other hne => level_insert_other hne _⟩
      rw [level_insert_self hle, price_false, add_zero]
    · have hpaid : level rl key now - 1 ≤ rl.burst := by linarith
      refine ⟨h.insert (by linarith) hpaid, ?_, fun other hne => level_insert_other hne _⟩
      rw [level_insert_self hpaid, price_true, sub_add_cancel]
  | none =>
    -- the eviction changes no level, and this key has no bucket before or after it
    have hnew (rl' : RateLimiter) (h' : AllSound rl' now) (hburst' : rl'.burst = rl.burst)
        (hnone : rl'.buckets.lookup key = none)
        (hlevels : ∀ other, level rl' other now = level rl other now) :
        let made := { rl' with buckets := rl'.buckets.insert key ⟨rl'.burst - 1, now, now⟩ }
        AllSound made now ∧ level made key now + price true = level rl key now ∧
          ∀ other, other ≠ key → level made other now = level rl other now := by
      have hpaid : (rl'.burst : ℚ) - 1 ≤ rl'.burst := by linarith
      refine ⟨h'.insert (by rw [hburst']; linarith) hpaid, ?_, fun other hne => ?_⟩
      · rw [level_insert_self hpaid, price_true, sub_add_cancel, level_none hlookup, hburst']
      · rw [level_insert_other hne, hlevels]
    have hevicted := level_evictExpired h hfills
    dsimp only
    split_ifs with hfull hstill
    · refine ⟨h.evictExpired, ?_, fun other _ => hevicted other⟩
      rw [price_false, add_zero, hevicted]
    · exact hnew _ h.evictExpired rfl (lookup_evictExpired_none now hlookup) hevicted
    · exact hnew rl h rfl hlookup fun _ => rfl

theorem decisions_metered (hfills : Fills rl) (h : AllSound rl now) (key : String)
    {events : List (ℚ × Event)} (hlater : ∀ event ∈ events, now ≤ event.1)
    (hsorted : events.Pairwise fun first second => first.1 ≤ second.1) :
    Metered (rl.burst : ℚ) rl.rate now (level rl key now) (rl.decisions key events) := by
  induction events generalizing rl now with
  | nil => exact h.level_nonneg hfills key
  | cons event events ih =>
    obtain ⟨time, event⟩ := event
    obtain ⟨hfirst, hsorted⟩ := List.pairwise_cons.mp hsorted
    have htime : now ≤ time := hlater _ List.mem_cons_self
    have hnow := h.later htime
    obtain ⟨hsound, hpaid⟩ : AllSound (rl.step time event).2 time ∧
        level (rl.step time event).2 key time + price (event.grants key (rl.step time event).1) =
          level rl key time := by
      cases event with
      | sweep =>
        refine ⟨hnow.evictExpired, ?_⟩
        rw [Event.grants, price_false, add_zero]
        exact level_evictExpired hnow hfills key
      | allow other =>
        obtain ⟨hsound, hself, hothers⟩ := allow_spec hnow hfills other
        refine ⟨hsound, ?_⟩
        by_cases hkey : other = key
        · subst hkey
          rw [Event.grants, decide_eq_true rfl, Bool.true_and]
          exact hself
        · rw [Event.grants, decide_eq_false hkey, Bool.false_and, price_false, add_zero]
          exact hothers key (Ne.symm hkey)
    have hsettings := step_settings rl time event
    refine ⟨h.level_nonneg hfills key, htime, level (rl.step time event).2 key time, ?_, ?_⟩
    · rw [hpaid, level_later hfills htime]
    · have hrest := ih (hfills.of_same hsettings) hsound hfirst hsorted
      rwa [hsettings.1, hsettings.2.1] at hrest

end Level

section Bound
variable {rate ttl : ℚ} {burst maxBuckets : Int}

theorem new_sound (rate ttl : ℚ) (burst maxBuckets : Int) (now : ℚ) :
    AllSound { newRateLimiterWithTTL rate burst ttl with maxBuckets := maxBuckets } now := by
  intro key b hlookup
  simp [newRateLimiterWithTTL] at hlookup

def sampleEvents : List (ℚ × Event) :=
  [(0, .allow "a"), (0, .allow "a"), (1 / 2, .allow "a"), (3, .sweep), (3, .allow "b")]

/-- However calls for any keys and sweeps follow each other, the allowed calls for one key in a
window of time are at most the burst and what the rate gives for the window, and the buckets do
not outnumber the maximum. -/
theorem rate_limit_bound (rate ttl : ℚ) (burst maxBuckets : Int) (hrate : 0 < rate)
    (hburst : 1 ≤ burst) (httl : (burst : ℚ) ≤ rate * ttl) (events : List (ℚ × Event))
    (hsorted : events.Pairwise fun first second => first.1 ≤ second.1) :
    let rl := { newRateLimiterWithTTL rate burst ttl with maxBuckets := maxBuckets }
    (∀ key start length, 0 ≤ length →
      (rl.allowedWithin key start length events : ℚ) ≤ burst + rate * length) ∧
    (0 < maxBuckets → ((rl.run events).buckets.size : Int) ≤ maxBuckets) := by
  intro rl
  constructor
  · intro key start length hlength
    have hcap : (0 : ℚ) ≤ burst := by exact_mod_cast le_trans zero_le_one hburst
    cases events with
    | nil =>
      have := mul_nonneg hrate.le hlength
      simp only [RateLimiter.allowedWithin, RateLimiter.decisions, grantsWithin, List.countP_nil,
        Nat.cast_zero]
      linarith
    | cons event events =>
      have hlater : ∀ other ∈ event :: events, event.1 ≤ other.1 := by
        intro other hmem
        rcases List.mem_cons.mp hmem with rfl | htail
        · exact le_rfl
        · exact (List.pairwise_cons.mp hsorted).1 other htail
      have hfills : Fills rl := ⟨hrate, hburst, httl⟩
      have hmetered := decisions_metered hfills (new_sound rate ttl burst maxBuckets event.1) key
        hlater hsorted
      exact hmetered.grantsWithin_le hrate.le hcap hlength
  · intro hmax
    have hcapped : Capped rl := fun _ => by
      change ((0 : Nat) : Int) ≤ maxBuckets
      omega
    have hbound := hcapped.run events
    rw [Capped, run_maxBuckets] at hbound
    exact hbound hmax

theorem sample_rate_limit_bound :
    let rl := { newRateLimiterWithTTL 2 1 1 with maxBuckets := 1 }
    (rl.allowedWithin "a" 0 (1 / 2) sampleEvents = 2 ∧ (2 : ℚ) ≤ (1 : Int) + 2 * (1 / 2)) ∧
    ((rl.run sampleEvents).buckets.size : Int) ≤ 1 := by
  intro rl
  have hbound := rate_limit_bound 2 1 1 1 (by norm_num) (by norm_num) (by norm_num) sampleEvents
    (by norm_num [sampleEvents])
  have hcount : rl.allowedWithin "a" 0 (1 / 2) sampleEvents = 2 := by decide +kernel
  have hwindow := hbound.1 "a" 0 (1 / 2) (by norm_num)
  rw [hcount] at hwindow
  exact ⟨⟨hcount, hwindow⟩, hbound.2 (by norm_num)⟩

end Bound
end FleetLlmd.Auth
