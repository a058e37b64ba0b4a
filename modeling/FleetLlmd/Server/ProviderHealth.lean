import FleetLlmd.Data.Map
import FleetLlmd.Go.Time
import Mathlib.Data.List.Infix

/-!
# Health of inference providers

`pkg/server/provider_health.go`: two consecutive successful probes make a provider healthy, three
consecutive failed ones unhealthy. Probes of all providers take one lock to record their outcome.
-/

namespace FleetLlmd.Server
open Go

structure ProviderHealthEntry where
  healthy : Bool := false
  checkedAt : Time := ⟨0, 0⟩
  consecutiveSuccesses : Nat := 0
  consecutiveFailures : Nat := 0
  deriving DecidableEq

def providerHealthyThreshold : Nat := 2
def providerUnhealthyThreshold : Nat := 3

structure ProviderHealthCache where
  urls : Map String String
  entries : Map String ProviderHealthEntry := ∅

inductive ProbeResult where
  | failed
  | answered (statusCode : Nat)
  deriving DecidableEq

def ProbeResult.succeeded : ProbeResult → Bool
  | .failed => false
  | .answered statusCode => 200 ≤ statusCode && statusCode < 300

def ProviderHealthEntry.record (entry : ProviderHealthEntry) (now : Time) (succeeded : Bool) :
    ProviderHealthEntry :=
  if succeeded then
    { healthy := entry.healthy || providerHealthyThreshold ≤ entry.consecutiveSuccesses + 1
      checkedAt := now
      consecutiveSuccesses := entry.consecutiveSuccesses + 1
      consecutiveFailures := 0 }
  else
    { healthy := entry.healthy && !(providerUnhealthyThreshold ≤ entry.consecutiveFailures + 1)
      checkedAt := now
      consecutiveSuccesses := 0
      consecutiveFailures := entry.consecutiveFailures + 1 }

namespace ProviderHealthCache

def entry (p : ProviderHealthCache) (clusterID : String) : ProviderHealthEntry :=
  (p.entries.lookup clusterID).getD {}

def probe (p : ProviderHealthCache) (clusterID : String) (result : ProbeResult) (now : Time) :
    ProviderHealthCache :=
  { p with entries := p.entries.insert clusterID ((p.entry clusterID).record now result.succeeded) }

theorem entry_probe (p : ProviderHealthCache) (clusterID id : String) (result : ProbeResult)
    (now : Time) : (p.probe clusterID result now).entry id =
      if id = clusterID then (p.entry clusterID).record now result.succeeded else p.entry id := by
  split_ifs with h
  · subst h
    simp [probe, entry]
  · simp [probe, entry, AList.lookup_insert_ne h]

end ProviderHealthCache

/-! ## Runs -/

structure Probe where
  clusterID : String
  result : ProbeResult
  now : Time

def ProviderHealthCache.run (p : ProviderHealthCache) (probes : List Probe) : ProviderHealthCache :=
  probes.foldl (fun p probe => p.probe probe.clusterID probe.result probe.now) p

def outcomes (id : String) (probes : List Probe) : List Bool :=
  (probes.filter (·.clusterID == id)).map (·.result.succeeded)

/-! ## Hysteresis -/

def Recovered (os : List Bool) : Prop :=
  ∃ before after, os = before ++ true :: true :: after ∧ ¬[true, true] <:+: true :: after ∧
    ¬[false, false, false] <:+: after

/-- `Recovered` of outcomes listed from the latest on. -/
def Recent (rs : List Bool) : Prop :=
  ∃ after before, rs = after ++ true :: true :: before ∧ ¬[true, true] <:+: after ++ [true] ∧
    ¬[false, false, false] <:+: after

theorem recovered_iff (os : List Bool) : Recovered os ↔ Recent os.reverse := by
  constructor
  · rintro ⟨before, after, rfl, hpair, hfail⟩
    refine ⟨after.reverse, before.reverse, by simp, fun h => hpair ?_, fun h => hfail ?_⟩
    · rw [← List.reverse_infix]
      simpa using h
    · rw [← List.reverse_infix]
      simpa using h
  · rintro ⟨after, before, hsplit, hpair, hfail⟩
    refine ⟨before.reverse, after.reverse, ?_, fun h => hpair ?_, fun h => hfail ?_⟩
    · rw [← List.reverse_reverse os, hsplit]
      simp
    · rw [← List.reverse_infix]
      simpa using h
    · rw [← List.reverse_infix]
      simpa using h

section Step
variable {rs : List Bool}

theorem recent_false : Recent (false :: rs) ↔ Recent rs ∧ ¬[false, false] <+: rs := by
  constructor
  · rintro ⟨after, before, hsplit, hpair, hfail⟩
    cases after with
    | nil => simp at hsplit
    | cons a after =>
      cases hsplit
      refine ⟨⟨after, before, rfl, fun h => hpair (List.infix_cons h),
        fun h => hfail (List.infix_cons h)⟩, fun h => ?_⟩
      match after with
      | [] => simp at h
      | [_] => simp at h
      | x :: y :: after =>
        obtain ⟨rfl, rfl⟩ : x = false ∧ y = false := by simpa using h
        exact hfail (List.IsPrefix.isInfix (by simp))
  · rintro ⟨⟨after, before, rfl, hpair, hfail⟩, hrecent⟩
    refine ⟨false :: after, before, rfl, fun h => ?_, fun h => ?_⟩
    · rcases List.infix_cons_iff.mp h with h | h
      · simp at h
      · exact hpair h
    · rcases List.infix_cons_iff.mp h with h | h
      · exact hrecent ((List.cons_prefix_cons.mp h).2.trans (List.prefix_append _ _))
      · exact hfail h

theorem recent_true : Recent (true :: rs) ↔ Recent rs ∨ rs.head? = some true := by
  constructor
  · rintro ⟨after, before, hsplit, hpair, hfail⟩
    cases after with
    | nil => exact .inr (by simp [(List.cons.inj hsplit).2])
    | cons a after =>
      obtain ⟨-, rfl⟩ := List.cons.inj hsplit
      exact .inl ⟨after, before, rfl, fun h => hpair (List.infix_cons h),
        fun h => hfail (List.infix_cons h)⟩
  · intro h
    by_cases hhead : rs.head? = some true
    · obtain ⟨before, rfl⟩ := List.head?_eq_some_iff.mp hhead
      exact ⟨[], before, rfl, by decide, by decide⟩
    · obtain ⟨after, before, rfl, hpair, hfail⟩ := h.resolve_right hhead
      refine ⟨true :: after, before, rfl, fun h => ?_, fun h => ?_⟩
      · rcases List.infix_cons_iff.mp h with h | h
        · cases after with
          | nil => simp at hhead
          | cons a after => simp_all
        · exact hpair h
      · rcases List.infix_cons_iff.mp h with h | h
        · simp at h
        · exact hfail h

structure Tracks (rs : List Bool) (e : ProviderHealthEntry) : Prop where
  succeeded : 1 ≤ e.consecutiveSuccesses ↔ rs.head? = some true
  failed : 1 ≤ e.consecutiveFailures ↔ rs.head? = some false
  failedTwice : 2 ≤ e.consecutiveFailures ↔ [false, false] <+: rs
  healthy : e.healthy = true ↔ Recent rs

theorem Tracks.empty : Tracks [] {} where
  succeeded := by simp
  failed := by simp
  failedTwice := by simp
  healthy := by simp [Recent]

theorem Tracks.record {e : ProviderHealthEntry} (h : Tracks rs e) (now : Time) (o : Bool) :
    Tracks (o :: rs) (e.record now o) := by
  cases o with
  | true =>
    constructor
    · simp [ProviderHealthEntry.record]
    · simp [ProviderHealthEntry.record]
    · simp [ProviderHealthEntry.record]
    · rw [recent_true, ← h.succeeded, ← h.healthy]
      simp [ProviderHealthEntry.record, providerHealthyThreshold]
  | false =>
    constructor
    · simp [ProviderHealthEntry.record]
    · simp [ProviderHealthEntry.record]
    · have hhead : [false] <+: rs ↔ rs.head? = some false := by
        cases rs <;> simp [eq_comm]
      rw [List.cons_prefix_cons, hhead, ← h.failed]
      simp [ProviderHealthEntry.record]
    · rw [recent_false, ← h.failedTwice, ← h.healthy]
      simp [ProviderHealthEntry.record, providerUnhealthyThreshold]

theorem Tracks.run {p : ProviderHealthCache} {id : String} (h : Tracks rs (p.entry id))
    (probes : List Probe) :
    Tracks ((outcomes id probes).reverse ++ rs) ((p.run probes).entry id) := by
  induction probes generalizing p rs with
  | nil => exact h
  | cons probe probes ih =>
    have hentry := p.entry_probe probe.clusterID id probe.result probe.now
    by_cases hid : id = probe.clusterID
    · subst hid
      rw [if_pos rfl] at hentry
      have hnext := ih (hentry ▸ h.record probe.now probe.result.succeeded)
      simpa [outcomes, ProviderHealthCache.run] using hnext
    · rw [if_neg hid] at hentry
      have hsame : outcomes id (probe :: probes) = outcomes id probes := by
        simp [outcomes, Ne.symm hid]
      rw [hsame]
      exact ih (hentry ▸ h)

end Step

/-- Whatever the probes of the other providers come to, a provider is healthy exactly when it has
recovered by its own outcomes. -/
theorem health_hysteresis (urls : Map String String) (probes : List Probe) (id : String) :
    ((({ urls := urls } : ProviderHealthCache).run probes).entry id).healthy = true ↔
      Recovered (outcomes id probes) := by
  have hfresh : Tracks [] (({ urls := urls } : ProviderHealthCache).entry id) := Tracks.empty
  have hrun := hfresh.run probes
  rw [recovered_iff, hrun.healthy, List.append_nil]

/-! ## Readiness -/

def ProviderHealthEntry.decided (e : ProviderHealthEntry) : Bool :=
  !(e.consecutiveSuccesses < providerHealthyThreshold &&
    e.consecutiveFailures < providerUnhealthyThreshold)

def ProviderHealthCache.ready (p : ProviderHealthCache) : Bool :=
  p.urls.keys.all fun id => (p.entries.lookup id).any (·.decided)

theorem decided_iff {e : ProviderHealthEntry} :
    e.decided = true ↔ 2 ≤ e.consecutiveSuccesses ∨ 3 ≤ e.consecutiveFailures := by
  rw [ProviderHealthEntry.decided, Bool.not_eq_true', Bool.and_eq_false_iff,
    decide_eq_false_iff_not, decide_eq_false_iff_not, Nat.not_lt, Nat.not_lt]
  rfl

theorem ready_iff {p : ProviderHealthCache} :
    p.ready = true ↔ ∀ id ∈ p.urls.keys, (p.entry id).decided = true := by
  rw [ProviderHealthCache.ready, List.all_eq_true]
  refine forall₂_congr fun id _ => ?_
  rw [ProviderHealthCache.entry]
  cases p.entries.lookup id with
  | none => decide
  | some e => simp

/-- After a decision the next outcome leaves it standing only if it repeats the one before. -/
theorem Tracks.decided_record {rs : List Bool} {e : ProviderHealthEntry} (h : Tracks rs e)
    (hdecided : e.decided = true) (now : Time) (o : Bool) :
    (e.record now o).decided = true ↔ rs.head? = some o := by
  rw [decided_iff] at hdecided ⊢
  have hboth : ¬(rs.head? = some true ∧ rs.head? = some false) := fun hs =>
    Bool.noConfusion (Option.some.inj (hs.1.symm.trans hs.2))
  rw [← h.succeeded, ← h.failed] at hboth
  cases o with
  | true =>
    rw [← h.succeeded]
    simp only [ProviderHealthEntry.record, if_true]
    omega
  | false =>
    rw [← h.failed]
    simp only [ProviderHealthEntry.record, Bool.false_eq_true, if_false]
    omega

theorem Tracks.stays_decided {rs : List Bool} {p : ProviderHealthCache} {id : String}
    (h : Tracks rs (p.entry id)) (hdecided : (p.entry id).decided = true) (later : List Probe) :
    (∀ n, ((p.run (later.take n)).entry id).decided = true) ↔
      ∀ o ∈ outcomes id later, rs.head? = some o := by
  induction later generalizing p rs with
  | nil => simpa [outcomes, ProviderHealthCache.run] using hdecided
  | cons probe later ih =>
    have hsplit : (∀ n, ((p.run ((probe :: later).take n)).entry id).decided = true) ↔
        ∀ n, (((p.probe probe.clusterID probe.result probe.now).run (later.take n)).entry
          id).decided = true :=
      ⟨fun h n => h (n + 1), fun h n => Nat.casesOn n hdecided h⟩
    have hentry := p.entry_probe probe.clusterID id probe.result probe.now
    rw [hsplit]
    by_cases hid : id = probe.clusterID
    · subst hid
      rw [if_pos rfl] at hentry
      have hnext := h.decided_record hdecided probe.now probe.result.succeeded
      have houtcomes : outcomes probe.clusterID (probe :: later) =
          probe.result.succeeded :: outcomes probe.clusterID later := by simp [outcomes]
      rw [houtcomes, List.forall_mem_cons, ← hnext, ← hentry]
      by_cases hd : ((p.probe probe.clusterID probe.result probe.now).entry
          probe.clusterID).decided = true
      · rw [ih (hentry ▸ h.record probe.now probe.result.succeeded) hd, and_iff_right hd,
          hnext.mp (hentry ▸ hd), List.head?_cons]
      · exact iff_of_false (fun hall => hd (hall 0)) fun hall => hd hall.1
    · rw [if_neg hid] at hentry
      have houtcomes : outcomes id (probe :: later) = outcomes id later := by
        simp [outcomes, Ne.symm hid]
      rw [houtcomes]
      exact ih (hentry ▸ h) (hentry ▸ hdecided)

/-- Ready after every later probe, exactly if every later outcome of a configured provider repeats
its last one. -/
theorem ready_kept_iff (urls : Map String String) (probes later : List Probe)
    (hready : (({ urls := urls } : ProviderHealthCache).run probes).ready = true) :
    (∀ n, (({ urls := urls } : ProviderHealthCache).run (probes ++ later.take n)).ready = true) ↔
      ∀ id ∈ urls.keys, ∀ o ∈ outcomes id later, (outcomes id probes).getLast? = some o := by
  have hurls (p : ProviderHealthCache) (ps : List Probe) : (p.run ps).urls = p.urls := by
    induction ps generalizing p with
    | nil => rfl
    | cons probe ps ih => exact ih _
  have hrun (n : Nat) : ({ urls := urls } : ProviderHealthCache).run (probes ++ later.take n) =
      (({ urls := urls } : ProviderHealthCache).run probes).run (later.take n) :=
    List.foldl_append
  simp only [ready_iff, hrun, hurls] at hready ⊢
  rw [forall_comm]
  refine forall_congr' fun id => ?_
  rw [forall_comm]
  refine forall_congr' fun hid => ?_
  have hfresh : Tracks [] (({ urls := urls } : ProviderHealthCache).entry id) := Tracks.empty
  rw [(hfresh.run probes).stays_decided (hready id hid), List.append_nil, List.head?_reverse]

def healthyProbe (id : String) : Probe := ⟨id, .answered 200, ⟨0, 0⟩⟩

def oneProvider : Map String String := AList.singleton "east" "https://east/health"

/-- A provider that is not configured may fail. -/
theorem ready_kept_healthy :
    (({ urls := oneProvider } : ProviderHealthCache).run
        [healthyProbe "east", healthyProbe "east"]).ready = true ∧
      ∀ n, (({ urls := oneProvider } : ProviderHealthCache).run ([healthyProbe "east",
        healthyProbe "east"] ++ [healthyProbe "east", ⟨"west", .failed, ⟨0, 0⟩⟩].take n)).ready =
          true :=
  ⟨by decide, (ready_kept_iff _ _ _ (by decide)).mpr (by decide)⟩

theorem ready_lost :
    (({ urls := oneProvider } : ProviderHealthCache).run
        [healthyProbe "east", healthyProbe "east"]).ready = true ∧
      (({ urls := oneProvider } : ProviderHealthCache).run
        [healthyProbe "east", healthyProbe "east", ⟨"east", .failed, ⟨0, 0⟩⟩]).ready = false := by
  decide

end FleetLlmd.Server
