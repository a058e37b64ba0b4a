import FleetLlmd.Quota.Shared
import Mathlib.Algebra.BigOperators.Ring.Finset
import Mathlib.Data.Fintype.BigOperators

/-!
# Any number of replicas

Reservations and releases of any number of callers, interleaved statement by
statement, with any of the statements failing. The counters stay within the limits of
each tenant and count exactly what has been granted.
-/

namespace FleetLlmd.Quota
open Go Effect Sql Database

inductive Job where
  | reserve (tenantID : String) (windowStart : Time) (tokens budgetCost : Int)
  | release (tenantID : String)

inductive Outcome where
  | reserved (r : Except Error QuotaReservation)
  | released (r : Except Error Unit)

namespace Outcome

def isGranted : Outcome → Bool
  | .reserved r => isAllowed r
  | .released _ => false

def isReleased : Outcome → Bool
  | .reserved _ => false
  | .released r => r.isOk

end Outcome

namespace Job
variable {ι : Type} (limits : String → Limits)

def prog (tx : ι) : Job → Prog (statements Row ι) Outcome
  | .reserve tenantID windowStart tokens budgetCost =>
    (PGTenantRepository.reserveQuota tx tenantID windowStart tokens (limits tenantID).tokens
      (limits tenantID).concurrent budgetCost (limits tenantID).budget).bind fun r =>
        .done (.reserved r)
  | .release tenantID => (PGTenantRepository.releaseQuota tenantID).bind fun r => .done (.released r)

def tenantID : Job → String
  | .reserve tenantID _ _ _ => tenantID
  | .release tenantID => tenantID

def amount : Job → Row → Int
  | .reserve tenantID windowStart tokens budgetCost => reserved tenantID windowStart tokens budgetCost
  | .release _ => fun _ => 0

def Told (past : List (Event (statements Row ι))) (o : Outcome) (_ : Database Row ι) : Prop :=
  granted past = o.isGranted ∧ releases past = if o.isReleased then 1 else 0

theorem prog_transacts [DecidableEq ι] (job : Job) {tx : ι} {db : Database Row ι}
    (hfree : ∀ k, db.own tx k = none) :
    Transacts tx (CounterStep limits job.amount job.tenantID) Told (job.prog limits tx) [] db := by
  cases job with
  | reserve tenantID windowStart tokens budgetCost =>
    refine (reserveQuota_told (n := 0) rfl rfl rfl rfl hfree).bind (Undisturbed.refl tx) ?_
    intro past r db' h
    exact fun _ _ => h
  | release tenantID =>
    refine (releaseQuota_ensures tenantID).bind (Undisturbed.refl tx) ?_
    intro past r db' h
    exact fun _ _ => ⟨h.1, h.2.trans (Nat.zero_add _)⟩

end Job

def inject {ι : Type} (err : Error) (db : Database Row ι) : Database Row ι :=
  { db with fault := some err }

def emptyTables {ι : Type} : Database Row ι := ⟨fun _ => none, fun _ => none, none⟩

section Runs
variable {ι : Type} [Fintype ι] [DecidableEq ι] {limits : String → Limits} {jobs : ι → Job}

abbrev Replicas (ι : Type) := Pool (statements Row ι) Outcome ι (Database Row ι)

def replicas (limits : String → Limits) (jobs : ι → Job) : Replicas ι :=
  (fun i => .start ((jobs i).prog limits i), emptyTables)

def callGuarantee (limits : String → Limits) (jobs : ι → Job) (i : ι) :
    Guarantee (statements Row ι) (Database Row ι) :=
  alone i (CounterStep limits (jobs i).amount (jobs i).tenantID)

omit [Fintype ι] in
theorem calls_compatible (limits : String → Limits) (jobs : ι → Job) :
    Pool.Compatible inject (fun i => Undisturbed i) (callGuarantee limits jobs) where
  refl := Undisturbed.refl
  trans _ _ _ _ := Undisturbed.trans
  others _ j _ _ _ _ hne h := h.1 j (Ne.symm hne)
  outside _ _ _ := ⟨fun _ => rfl, fun _ _ => rfl, fun _ h => h⟩

def grantedSum (jobs : ι → Job) (pasts : ι → List (Event (statements Row ι))) (row : Row) : Int :=
  ∑ i, if granted (pasts i) then (jobs i).amount row else 0

variable {pasts : ι → List (Event (statements Row ι))}
variable {past past' : List (Event (statements Row ι))}

theorem grantedSum_update_same {i : ι} (h : granted past = granted (pasts i)) (row : Row) :
    grantedSum jobs (Function.update pasts i past) row = grantedSum jobs pasts row := by
  refine Finset.sum_congr rfl fun j _ => ?_
  by_cases hj : j = i
  · rw [hj, Function.update_self, h]
  · rw [Function.update_of_ne hj]

theorem grantedSum_update_grant {i : ι} (hbefore : granted (pasts i) = false)
    (hafter : granted past = true) (row : Row) :
    grantedSum jobs (Function.update pasts i past) row =
      grantedSum jobs pasts row + (jobs i).amount row := by
  unfold grantedSum
  rw [← Finset.add_sum_erase _ _ (Finset.mem_univ i), ← Finset.add_sum_erase _ _ (Finset.mem_univ i),
    Function.update_self, hbefore, hafter]
  have hrest : ∀ j ∈ Finset.univ.erase i,
      (if granted (Function.update pasts i past j) then (jobs j).amount row else 0) =
        if granted (pasts j) then (jobs j).amount row else 0 := by
    intro j hj
    rw [Function.update_of_ne (Finset.ne_of_mem_erase hj)]
  rw [Finset.sum_congr rfl hrest]
  simp only [if_true, Bool.false_eq_true, if_false]
  omega

structure Coordinated (limits : String → Limits) (jobs : ι → Job)
    (pasts : ι → List (Event (statements Row ι))) (db : Database Row ι) : Prop where
  within : ∀ row, db.value row ≤ limitOf limits row
  tokens : ∀ tenantID start, db.value (.window tenantID start) =
    grantedSum jobs pasts (.window tenantID start)
  cents : ∀ tenantID month, db.value (.budget tenantID month) =
    grantedSum jobs pasts (.budget tenantID month)

theorem Coordinated.step (hlimits : ∀ row, 0 ≤ limitOf limits row) {db db' : Database Row ι} {i : ι}
    {e : Event (statements Row ι)} (h : Coordinated limits jobs pasts db)
    (heffect : CounterStep limits (jobs i).amount (jobs i).tenantID (pasts i) db e db') :
    Coordinated limits jobs (Function.update pasts i (e :: pasts i)) db' := by
  cases heffect with
  | quiet hgranted _ hvalue =>
    constructor
    · intro row
      rw [hvalue]
      exact h.within row
    · intro id start
      rw [hvalue, grantedSum_update_same hgranted]
      exact h.tokens id start
    · intro id month
      rw [hvalue, grantedSum_update_same hgranted]
      exact h.cents id month
  | grant hbefore hafter _ hvalue hlimit =>
    constructor
    · intro row
      rcases hlimit row with hle | hsame
      · exact hle
      · rw [hsame]
        exact h.within row
    · intro id start
      rw [hvalue, grantedSum_update_grant hbefore hafter, h.tokens id start]
    · intro id month
      rw [hvalue, grantedSum_update_grant hbefore hafter, h.cents id month]
  | release hgranted _ hvalue =>
    constructor
    · intro row
      have hrow := h.within row
      have hnonneg := hlimits row
      rw [hvalue]
      split_ifs <;> omega
    · intro id start
      rw [hvalue, if_neg Row.noConfusion, grantedSum_update_same hgranted]
      exact h.tokens id start
    · intro id month
      rw [hvalue, if_neg Row.noConfusion, grantedSum_update_same hgranted]
      exact h.cents id month

omit [Fintype ι] in
theorem replicas_ensure (limits : String → Limits) (jobs : ι → Job) :
    Pool.AllEnsure execute Ready (fun i => Undisturbed i) (callGuarantee limits jobs)
      (fun _ => Job.Told) (replicas limits jobs) :=
  fun i => (jobs i).prog_transacts limits fun _ => rfl

omit [DecidableEq ι] in
theorem replicas_coordinated (hlimits : ∀ row, 0 ≤ limitOf limits row) (jobs : ι → Job) :
    Coordinated limits jobs (Pool.pasts (replicas limits jobs)) (replicas limits jobs).2 := by
  have hnone (row : Row) : grantedSum jobs (Pool.pasts (replicas limits jobs)) row = 0 :=
    Finset.sum_eq_zero fun _ _ => rfl
  exact ⟨hlimits, fun _ _ => (hnone _).symm, fun _ _ => (hnone _).symm⟩

omit [Fintype ι] [DecidableEq ι] in
theorem granted_suffix (h : past <:+ past')
    (hgranted : granted past = true) : granted past' = true := by
  obtain ⟨later, rfl⟩ := h
  simp only [granted, Bool.and_eq_true, List.any_append, Bool.or_eq_true] at hgranted ⊢
  exact ⟨Or.inr hgranted.1, Or.inr hgranted.2⟩

omit [Fintype ι] [DecidableEq ι] in
theorem releases_suffix (h : past <:+ past') :
    releases past ≤ releases past' :=
  h.sublist.countP_le

omit [Fintype ι] [DecidableEq ι] in
theorem CounterStep.changed {amount : Row → Int} {tenantID : String} {db db' : Database Row ι}
    {e : Event (statements Row ι)} (h : CounterStep limits amount tenantID past db e db')
    {row : Row}
    (hchanged : db'.value row ≠ db.value row) :
    granted (e :: past) = true ∨ 0 < releases (e :: past) := by
  cases h with
  | quiet _ _ hvalue => exact absurd (hvalue row) hchanged
  | grant _ hafter _ _ _ => exact Or.inl hafter
  | release _ hupdated _ =>
    refine Or.inr ?_
    rw [releases, List.countP_cons_of_pos hupdated]
    exact Nat.succ_pos _

/-- Interleaved in any way and with any failures, reservations keep the three counters of every
tenant within its limits, the counters of tokens and cents are the sums of what was granted, a
caller is told of a grant exactly when there was one, and a call that was denied or failed has
changed nothing. -/
theorem shared_limits {ι : Type} [Fintype ι] [DecidableEq ι] {limits : String → Limits}
    (hlimits : ∀ row, 0 ≤ limitOf limits row) (jobs : ι → Job) (moves : List (Move ι Error))
    (hready : Pool.Observes execute inject (fun _ => Ready) moves (replicas limits jobs)) :
    Coordinated limits jobs (Pool.pasts (Pool.exec execute inject moves (replicas limits jobs)))
        (Pool.exec execute inject moves (replicas limits jobs)).2 ∧
      ∀ i o, ((Pool.exec execute inject moves (replicas limits jobs)).1 i).rest = .done o →
        granted (Pool.pasts (Pool.exec execute inject moves (replicas limits jobs)) i) =
            o.isGranted ∧
          (o.isGranted = false → o.isReleased = false →
            ∀ before after, moves = before ++ .thread i :: after → ∀ row,
              (Pool.exec execute inject (before ++ [.thread i]) (replicas limits jobs)).2.value row =
                (Pool.exec execute inject before (replicas limits jobs)).2.value row) := by
  have hrun (moves : List (Move ι Error))
      (hready : Pool.Observes execute inject (fun _ => Ready) moves (replicas limits jobs)) :=
    Pool.exec_ensures (calls_compatible limits jobs)
      (I := Coordinated limits jobs) (fun _ _ _ _ _ h hguar => h.step hlimits hguar.2)
      (fun _ _ _ h => ⟨h.within, h.tokens, h.cents⟩) moves (replicas_ensure limits jobs)
      (replicas_coordinated hlimits jobs) hready
  obtain ⟨hensure, hcoordinated⟩ := hrun moves hready
  refine ⟨hcoordinated, fun i o hdone => ?_⟩
  have htold := hensure i
  rw [hdone] at htold
  obtain ⟨hgranted, hreleases⟩ := htold _ (Undisturbed.refl i _)
  refine ⟨hgranted, fun hdenied hfailed before after hmoves row => ?_⟩
  rw [hdenied] at hgranted
  rw [hfailed] at hreleases
  by_contra hchanged
  have hsuffix : Pool.pasts (Pool.exec execute inject (before ++ [.thread i]) (replicas limits jobs)) i
      <:+ Pool.pasts (Pool.exec execute inject moves (replicas limits jobs)) i := by
    have hsplit : moves = (before ++ [.thread i]) ++ after := by simp [hmoves]
    rw [hsplit, Pool.exec_append execute inject (before ++ [Move.thread i]) after]
    exact Pool.pasts_suffix _ _ _ _ _
  rw [hmoves] at hready
  have hready' := (Pool.observes_append execute inject before _ _).mp hready
  obtain ⟨hensure', -⟩ := hrun before hready'.1
  rw [Pool.exec_append, Pool.exec_cons, Pool.exec_nil] at hchanged hsuffix
  generalize Pool.exec execute inject before (replicas limits jobs) = z at *
  cases hrest : (z.1 i).rest with
  | done a =>
    have hstay : Pool.move execute inject (.thread i) z = z := by simp only [Pool.move, hrest]
    rw [hstay] at hchanged
    exact hchanged rfl
  | call c k =>
    have hmove : Pool.move execute inject (.thread i) z = Pool.advance execute i c k z := by
      simp only [Pool.move, hrest]
    have hpermit := hready'.2.1
    simp only [Pool.Permits, Pool.PermitsNext, hrest] at hpermit
    obtain ⟨hguar, -⟩ := hensure'.advance (calls_compatible limits jobs) hrest hpermit
    rw [hmove] at hchanged hsuffix
    rw [Pool.pasts_advance, Function.update_self] at hsuffix
    rcases hguar.2.changed hchanged with hmark | hmark
    · rw [granted_suffix hsuffix hmark] at hgranted
      cases hgranted
    · have hle := releases_suffix hsuffix
      simp only [Bool.false_eq_true, if_false] at hreleases
      omega

def sampleLimits : String → Limits := fun _ => ⟨1000, 2, 5000⟩

def sampleJobs (_ : Bool) : Job := .reserve "t" ⟨1767225600000000000, 0⟩ 600 600

def sampleMoves : List (Move Bool Error) :=
  .thread true :: List.replicate 11 (.thread false) ++ List.replicate 8 (.thread true)

theorem sampleLimits_nonneg (row : Row) : 0 ≤ limitOf sampleLimits row := by
  cases row <;> simp [limitOf, sampleLimits]

theorem shared_limits_sample :
    Coordinated sampleLimits sampleJobs
      (Pool.pasts (Pool.exec execute inject sampleMoves (replicas sampleLimits sampleJobs)))
      (Pool.exec execute inject sampleMoves (replicas sampleLimits sampleJobs)).2 :=
  (shared_limits sampleLimits_nonneg sampleJobs sampleMoves (by decide +kernel)).1

end Runs
end FleetLlmd.Quota
