import Mathlib.Algebra.Order.Field.Basic
import Mathlib.Tactic.Linarith
import Mathlib.Tactic.Ring

/-!
# Token buckets

A level that is capped, rises at a bounded rate and pays for every grant. However the
grants are spread, those in a window of time are at most what the level held when the
window opened and what it gained since.
-/

namespace FleetLlmd.TokenBucket
variable {𝕜 : Type} [Field 𝕜] [LinearOrder 𝕜] {cap rate : 𝕜}

def refill (cap rate level elapsed : 𝕜) : 𝕜 := min cap (level + rate * elapsed)

theorem refill_le_cap (level elapsed : 𝕜) : refill cap rate level elapsed ≤ cap := min_le_left _ _

theorem refill_le (level elapsed : 𝕜) : refill cap rate level elapsed ≤ level + rate * elapsed :=
  min_le_right _ _

theorem refill_zero {level : 𝕜} (h : level ≤ cap) : refill cap rate level 0 = level := by
  rw [refill, mul_zero, add_zero, min_eq_right h]

def price (granted : Bool) : 𝕜 := if granted then 1 else 0

omit [LinearOrder 𝕜] in
@[simp] theorem price_true : (price true : 𝕜) = 1 := rfl

omit [LinearOrder 𝕜] in
@[simp] theorem price_false : (price false : 𝕜) = 0 := rfl

def Metered (cap rate : 𝕜) : 𝕜 → 𝕜 → List (𝕜 × Bool) → Prop
  | _, level, [] => 0 ≤ level
  | now, level, (time, granted) :: rest =>
    0 ≤ level ∧ now ≤ time ∧
      ∃ paid, paid + price granted ≤ refill cap rate level (time - now) ∧
        Metered cap rate time paid rest

def grantsUntil (stop : 𝕜) (decisions : List (𝕜 × Bool)) : Nat :=
  decisions.countP fun decision => decision.2 && decide (decision.1 ≤ stop)

def grantsWithin (start length : 𝕜) (decisions : List (𝕜 × Bool)) : Nat :=
  decisions.countP fun decision =>
    decision.2 && (decide (start ≤ decision.1) && decide (decision.1 ≤ start + length))

theorem Metered.later {now level : 𝕜} {decisions : List (𝕜 × Bool)}
    (h : Metered cap rate now level decisions) : ∀ decision ∈ decisions, now ≤ decision.1 := by
  induction decisions generalizing now level with
  | nil => simp
  | cons decision rest ih =>
    obtain ⟨time, granted⟩ := decision
    obtain ⟨-, htime, paid, -, hrest⟩ := h
    intro decision hmem
    rcases List.mem_cons.mp hmem with rfl | htail
    · exact htime
    · exact htime.trans (ih hrest decision htail)

variable [IsStrictOrderedRing 𝕜]

theorem refill_refill {level first second : 𝕜} (h : 0 ≤ rate * second) :
    refill cap rate (refill cap rate level first) second =
      refill cap rate level (first + second) := by
  have hcap : cap ≤ cap + rate * second := by linarith
  rw [refill, refill, refill, ← min_add_add_right, ← min_assoc, min_eq_left hcap, mul_add,
    add_assoc]

theorem Metered.grantsUntil_le (hrate : 0 ≤ rate) {now level stop : 𝕜}
    {decisions : List (𝕜 × Bool)} (h : Metered cap rate now level decisions) (hnow : now ≤ stop) :
    (grantsUntil stop decisions : 𝕜) ≤ level + rate * (stop - now) := by
  have hgain (time : 𝕜) (htime : time ≤ stop) : 0 ≤ rate * (stop - time) :=
    mul_nonneg hrate (sub_nonneg.mpr htime)
  induction decisions generalizing now level with
  | nil =>
    have := hgain now hnow
    have hlevel : 0 ≤ level := h
    simp only [grantsUntil, List.countP_nil, Nat.cast_zero]
    linarith
  | cons decision rest ih =>
    obtain ⟨time, granted⟩ := decision
    obtain ⟨hlevel, htime, paid, hpaid, hrest⟩ := h
    by_cases huntil : time ≤ stop
    · have hstep : (grantsUntil stop ((time, granted) :: rest) : 𝕜) =
          grantsUntil stop rest + price granted := by
        cases granted <;> simp [grantsUntil, huntil]
      have hle : refill cap rate level (time - now) ≤ _ := refill_le level (time - now)
      have := ih hrest huntil
      calc (grantsUntil stop ((time, granted) :: rest) : 𝕜)
          = grantsUntil stop rest + price granted := hstep
        _ ≤ level + rate * (time - now) + rate * (stop - time) := by linarith
        _ = level + rate * (stop - now) := by ring
    · have hnone : grantsUntil stop ((time, granted) :: rest) = 0 := by
        rw [grantsUntil, List.countP_eq_zero]
        intro decision hmem
        have hlate : time ≤ decision.1 := by
          rcases List.mem_cons.mp hmem with rfl | htail
          · exact le_rfl
          · exact hrest.later decision htail
        have : ¬decision.1 ≤ stop := fun hle => huntil (hlate.trans hle)
        simp [this]
      have := hgain now hnow
      rw [hnone, Nat.cast_zero]
      linarith

theorem Metered.grantsWithin_le (hrate : 0 ≤ rate) (hcap : 0 ≤ cap) {now level start length : 𝕜}
    {decisions : List (𝕜 × Bool)} (h : Metered cap rate now level decisions)
    (hlength : 0 ≤ length) :
    (grantsWithin start length decisions : 𝕜) ≤ cap + rate * length := by
  have hgain : 0 ≤ rate * length := mul_nonneg hrate hlength
  induction decisions generalizing now level with
  | nil =>
    simp only [grantsWithin, List.countP_nil, Nat.cast_zero]
    linarith
  | cons decision rest ih =>
    obtain ⟨time, granted⟩ := decision
    obtain ⟨-, -, paid, hpaid, hrest⟩ := h
    by_cases hstart : start ≤ time
    · by_cases hend : time ≤ start + length
      · -- the window opens before this decision, where the level is at most the cap
        have hle : grantsWithin start length ((time, granted) :: rest) ≤
            grantsUntil (start + length) rest + (if granted then 1 else 0) := by
          have hrest : grantsWithin start length rest ≤ grantsUntil (start + length) rest := by
            apply List.countP_mono_left
            intro decision _
            simp only [Bool.and_eq_true]
            exact fun hin => ⟨hin.1, hin.2.2⟩
          cases granted
          · simpa [grantsWithin] using hrest
          · simpa [grantsWithin, hstart, hend] using hrest
        have hcast : (grantsWithin start length ((time, granted) :: rest) : 𝕜) ≤
            grantsUntil (start + length) rest + price granted := by
          calc (grantsWithin start length ((time, granted) :: rest) : 𝕜)
              ≤ ((grantsUntil (start + length) rest + (if granted then 1 else 0) : Nat) : 𝕜) :=
                Nat.cast_le.mpr hle
            _ = grantsUntil (start + length) rest + price granted := by
                cases granted <;> simp
        have huntil := hrest.grantsUntil_le hrate hend
        have hfull : refill cap rate level (time - now) ≤ cap := refill_le_cap level (time - now)
        have hshort : rate * (start + length - time) ≤ rate * length :=
          mul_le_mul_of_nonneg_left (by linarith) hrate
        linarith
      · have hskip : grantsWithin start length ((time, granted) :: rest) =
            grantsWithin start length rest := by simp [grantsWithin, hend]
        rw [hskip]
        exact ih hrest
    · have hskip : grantsWithin start length ((time, granted) :: rest) =
          grantsWithin start length rest := by simp [grantsWithin, hstart]
      rw [hskip]
      exact ih hrest

end FleetLlmd.TokenBucket
