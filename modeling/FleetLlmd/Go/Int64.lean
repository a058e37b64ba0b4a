import FleetLlmd.Go.Float64
import Mathlib.Tactic.Ring

/-!
# Sixty-four-bit integers

`int64` values are integers in range; an operation computes the exact result and
wraps it. A conversion from `float64` truncates when the result is in range; what
it gives otherwise is left to the implementation, so it is a parameter here.
-/

namespace FleetLlmd.Go

def int64 (n : Int) : Int := n.bmod (2 ^ 64)

def InInt64 (n : Int) : Prop := -2 ^ 63 ≤ n ∧ n < 2 ^ 63

instance (n : Int) : Decidable (InInt64 n) := inferInstanceAs (Decidable (_ ∧ _))

theorem int64_eq_self {n : Int} (h : InInt64 n) : int64 n = n :=
  Int.bmod_eq_of_le h.1 h.2

theorem inInt64_int64 (n : Int) : InInt64 (int64 n) :=
  ⟨Int.le_bmod (by decide), Int.bmod_lt (by decide)⟩

namespace Float64

def nan : Float64 := ⟨0x7ff8000000000001⟩

/-- `float64(n)`. -/
def ofInt (n : Int) : Float64 := ofRatio (n < 0) n.natAbs 1

def mul (x y : Float64) : Float64 :=
  let neg := x.isNeg != y.isNeg
  if x.isNaN || y.isNaN then nan
  else if x.isInf || y.isInf then
    if x.magnitude = 0 || y.magnitude = 0 then nan else infinity neg
  else ofRatio neg (x.magnitude * y.magnitude) (unitScale * unitScale)

def divNat (x : Float64) (d : Nat) : Float64 :=
  if x.isNaN || x.isInf then x else ofRatio x.isNeg x.magnitude (unitScale * d)

def truncated (x : Float64) : Int := x.scaled.tdiv unitScale

/-- `int64(x)`. -/
def toInt64 (outOfRange : Float64 → Int) (x : Float64) : Int :=
  if InInt64 x.truncated then x.truncated else int64 (outOfRange x)

/-- `uint64(x)`. -/
def toUint64 (outOfRange : Float64 → Nat) (x : Float64) : Nat :=
  if 0 ≤ x.truncated ∧ x.truncated < 2 ^ 64 then x.truncated.toNat else outOfRange x % 2 ^ 64

theorem inInt64_toInt64 (outOfRange : Float64 → Int) (x : Float64) :
    InInt64 (x.toInt64 outOfRange) := by
  unfold toInt64
  split_ifs with h
  · exact h
  · exact inInt64_int64 _

/-! ## Results that are not rounded -/

theorem unitScale_pos : 0 < unitScale := by
  unfold unitScale
  exact Nat.two_pow_pos _

theorem scaled_natAbs (x : Float64) : x.scaled.natAbs = x.magnitude := by
  unfold scaled
  split_ifs
  · rw [Int.natAbs_neg, Int.natAbs_natCast]
  · exact Int.natAbs_natCast _

theorem magnitude_of_exponent {x : Float64} (h : x.exponent = 2047) :
    2 ^ 53 * unitScale ≤ x.magnitude := by
  have hpow : 2 ^ 53 * unitScale ≤ 2 ^ 52 * 2 ^ (2047 - 1) := by decide +kernel
  unfold magnitude
  rw [if_neg (by omega), h]
  exact hpow.trans (Nat.mul_le_mul_right _ (Nat.le_add_right _ _))

theorem toNat_ofBits (neg : Bool) {magnitude : Nat} (h : magnitude < 2 ^ 63) :
    (UInt64.ofNat (magnitude + if neg then 2 ^ 63 else 0)).toNat =
      magnitude + if neg then 2 ^ 63 else 0 := by
  rw [UInt64.toNat_ofNat']
  apply Nat.mod_eq_of_lt
  split_ifs <;> omega

theorem isNeg_ofBits (neg : Bool) {magnitude : Nat} (h : magnitude < 2 ^ 63) :
    (mk (UInt64.ofNat (magnitude + if neg then 2 ^ 63 else 0))).isNeg = neg := by
  unfold isNeg
  rw [toNat_ofBits neg h]
  cases neg with
  | false =>
    simp
    omega
  | true =>
    simp
    omega

theorem isNeg_ofRatio (neg : Bool) (n d : Nat) : (ofRatio neg n d).isNeg = neg := by
  have hmax : ∀ r : Nat, min r (2047 * 2 ^ 52) < 2 ^ 63 := by omega
  exact isNeg_ofBits neg (hmax _)

theorem roundHalfEven_mul {d : Nat} (hd : 0 < d) (q : Nat) : roundHalfEven (d * q) d = q := by
  unfold roundHalfEven
  rw [Nat.mul_div_cancel_left q hd, Nat.mul_mod_right]
  have hne : ¬ d = 0 := by omega
  simp [hne]

theorem magnitude_ofBits (neg : Bool) {m s : Nat} (hm : 2 ^ 52 ≤ m) (hm' : m < 2 ^ 53)
    (hs : s ≤ 2044) :
    (mk (UInt64.ofNat (min (s * 2 ^ 52 + m) (2047 * 2 ^ 52) +
      if neg then 2 ^ 63 else 0))).magnitude = m * 2 ^ s := by
  have hmin : min (s * 2 ^ 52 + m) (2047 * 2 ^ 52) = s * 2 ^ 52 + m := by omega
  have hbits := toNat_ofBits neg (show s * 2 ^ 52 + m < 2 ^ 63 by omega)
  obtain ⟨f, rfl⟩ : ∃ f, m = 2 ^ 52 + f := ⟨m - 2 ^ 52, by omega⟩
  rw [hmin]
  generalize UInt64.ofNat (s * 2 ^ 52 + (2 ^ 52 + f) + if neg then 2 ^ 63 else 0) = bits at *
  have hexponent : (mk bits).exponent = s + 1 := by
    unfold exponent
    rw [hbits]
    split_ifs <;> omega
  have hfraction : (mk bits).fraction = f := by
    unfold fraction
    rw [hbits]
    split_ifs <;> omega
  unfold magnitude
  rw [hexponent, hfraction, if_neg (Nat.succ_ne_zero s), Nat.add_sub_cancel]

theorem log2_mul_two_pow {m k : Nat} (hm : 2 ^ k ≤ m) (hm' : m < 2 ^ (k + 1)) (s : Nat) :
    (m * 2 ^ s).log2 = k + s := by
  have hpow : 0 < 2 ^ s := Nat.two_pow_pos s
  have hpos : 0 < m := (Nat.two_pow_pos k).trans_le hm
  have hlow : 2 ^ (k + s) ≤ m * 2 ^ s := by
    rw [Nat.pow_add]
    exact Nat.mul_le_mul_right _ hm
  have hhigh : m * 2 ^ s < 2 ^ (k + s + 1) := by
    rw [Nat.add_right_comm, Nat.pow_add]
    exact Nat.mul_lt_mul_of_pos_right hm' hpow
  exact (Nat.log2_eq_iff (Nat.mul_pos hpos hpow).ne').mpr ⟨hlow, hhigh⟩

theorem magnitude_ofRatio (neg : Bool) {n d m s : Nat} (hd : 0 < d)
    (h : n * unitScale = d * (m * 2 ^ s)) (hm : 2 ^ 52 ≤ m) (hm' : m < 2 ^ 53) (hs : s ≤ 2044) :
    (ofRatio neg n d).magnitude = m * 2 ^ s := by
  have hunits : n * unitScale / d = m * 2 ^ s := by rw [h, Nat.mul_div_cancel_left _ hd]
  have hround : roundHalfEven (n * unitScale) (d * 2 ^ s) = m := by
    have hsplit : n * unitScale = d * 2 ^ s * m := by rw [h]; ring
    rw [hsplit]
    exact roundHalfEven_mul (Nat.mul_pos hd (Nat.two_pow_pos s)) m
  rw [← magnitude_ofBits neg hm hm' hs]
  unfold ofRatio
  simp only [hunits, log2_mul_two_pow hm hm', Nat.add_sub_cancel_left, hround]

theorem magnitude_ofRatio_zero (neg : Bool) (d : Nat) : (ofRatio neg 0 d).magnitude = 0 := by
  have hround : roundHalfEven 0 d = 0 := by
    unfold roundHalfEven
    rw [Nat.zero_div, Nat.zero_mod]
    simp
  have hzero : ofRatio neg 0 d = ⟨UInt64.ofNat (0 + if neg then 2 ^ 63 else 0)⟩ := by
    unfold ofRatio
    simp only [Nat.zero_mul, Nat.zero_div, Nat.log2_zero, Nat.zero_sub, Nat.pow_zero, Nat.mul_one,
      hround, Nat.zero_add, Nat.zero_min]
  rw [hzero]
  cases neg <;> rfl

theorem magnitude_ofRatio_mul (neg : Bool) {d c : Nat} (hd : 0 < d) (hc : c < 2 ^ 53) :
    (ofRatio neg (d * c) d).magnitude = c * unitScale := by
  by_cases hzero : c = 0
  · rw [hzero, Nat.mul_zero, Nat.zero_mul, magnitude_ofRatio_zero]
  · obtain ⟨k, hk⟩ : ∃ k, c.log2 = k := ⟨_, rfl⟩
    have hbounds := (Nat.log2_eq_iff hzero).mp hk
    have hk53 : k < 53 := (Nat.pow_lt_pow_iff_right (by decide)).mp (hbounds.1.trans_lt hc)
    have hsplit : c * unitScale = c * 2 ^ (52 - k) * 2 ^ (1022 + k) := by
      have hexp : 52 - k + (1022 + k) = 1074 := by omega
      unfold unitScale
      rw [Nat.mul_assoc, ← Nat.pow_add, hexp]
    have hlow : 2 ^ 52 ≤ c * 2 ^ (52 - k) := by
      have hexp : k + (52 - k) = 52 := by omega
      calc 2 ^ 52 = 2 ^ k * 2 ^ (52 - k) := by rw [← Nat.pow_add, hexp]
        _ ≤ c * 2 ^ (52 - k) := Nat.mul_le_mul_right _ hbounds.1
    have hhigh : c * 2 ^ (52 - k) < 2 ^ 53 := by
      have hexp : k + 1 + (52 - k) = 53 := by omega
      calc c * 2 ^ (52 - k) < 2 ^ (k + 1) * 2 ^ (52 - k) :=
            Nat.mul_lt_mul_of_pos_right hbounds.2 (Nat.two_pow_pos _)
        _ = 2 ^ 53 := by rw [← Nat.pow_add, hexp]
    rw [hsplit]
    apply magnitude_ofRatio neg hd
    · rw [Nat.mul_assoc, hsplit]
    · exact hlow
    · exact hhigh
    · omega

end Float64
end FleetLlmd.Go
