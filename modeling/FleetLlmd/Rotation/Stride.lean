import Mathlib.Data.Int.CardIntervalMod
import Mathlib.Data.List.GetD
import Mathlib.Data.Nat.Prime.Basic

/-!
# Going round a list

The elements of a list met in steps of a fixed width, beginning anywhere and going
round. Steps of a width without a common factor with the length meet all elements
equally often, up to one; steps of two over an even length miss every other element.
-/

namespace FleetLlmd.Rotation

def stride {α : Type} (xs : List α) (zero : α) (start width n : Nat) : List α :=
  (List.range n).map fun i => xs.getD ((start + width * i) % xs.length) zero

@[simp] theorem length_stride {α : Type} (xs : List α) (zero : α) (start width n : Nat) :
    (stride xs zero start width n).length = n := by
  rw [stride, List.length_map, List.length_range]

theorem stride_succ {α : Type} (xs : List α) (zero : α) (start width n : Nat) :
    stride xs zero start width (n + 1) =
      xs.getD (start % xs.length) zero :: stride xs zero (start + width) width n := by
  rw [stride, List.range_succ_eq_map, List.map_cons, List.map_map, mul_zero, add_zero, stride]
  congr 1
  apply List.map_congr_left
  intro i _
  simp only [Function.comp_apply, Nat.succ_eq_add_one]
  congr 2
  ring

variable {α : Type} [DecidableEq α]

def Evenly (xs ys : List α) : Prop :=
  ∀ x ∈ xs, ys.count x = ys.length / xs.length ∨
    ys.count x = (ys.length + xs.length - 1) / xs.length

instance (xs ys : List α) : Decidable (Evenly xs ys) :=
  inferInstanceAs (Decidable (∀ x ∈ xs, _))

theorem count_stride {xs : List α} (hxs : xs.Nodup) (zero : α) (start width n : Nat) {j : Nat}
    (hj : j < xs.length) :
    (stride xs zero start width n).count xs[j] =
      n.count fun i => (start + width * i) % xs.length = j := by
  rw [stride, List.count, List.countP_map, Nat.count]
  apply List.countP_congr
  intro i _
  have hlt : (start + width * i) % xs.length < xs.length := Nat.mod_lt _ (by omega)
  simp only [Function.comp_apply, List.getD_eq_getElem _ _ hlt, beq_iff_eq, decide_eq_true_eq]
  exact hxs.getElem_inj_iff

theorem exists_residue {k width : Nat} (hwidth : width.Coprime k) (start : Nat) {j : Nat}
    (hj : j < k) : ∃ v, ∀ i, (start + width * i) % k = j ↔ i ≡ v [MOD k] := by
  obtain ⟨v, hv⟩ : ∃ v, start + width * v ≡ j [MOD k] := by
    rcases (by omega : k = 1 ∨ 1 < k) with rfl | hk
    · exact ⟨0, Nat.modEq_one⟩
    · obtain ⟨m, -, hm⟩ := Nat.exists_mul_mod_eq_one_of_coprime hwidth hk
      have hinverse : width * m ≡ 1 [MOD k] := by rw [Nat.ModEq, hm, Nat.mod_eq_of_lt hk]
      refine ⟨m * (j + (k - start % k)), ?_⟩
      have hlt : start % k < k := Nat.mod_lt _ (by omega)
      calc start + width * (m * (j + (k - start % k)))
          = start + width * m * (j + (k - start % k)) := by rw [mul_assoc]
        _ ≡ start % k + 1 * (j + (k - start % k)) [MOD k] :=
            (Nat.mod_modEq start k).symm.add (hinverse.mul_right _)
        _ = j + k := by omega
        _ ≡ j [MOD k] := Nat.add_modEq_right
  refine ⟨v, fun i => ?_⟩
  have hj' : (start + width * i) % k = j ↔ start + width * i ≡ j [MOD k] := by
    rw [Nat.ModEq, Nat.mod_eq_of_lt hj]
  rw [hj']
  constructor
  · intro h
    exact Nat.ModEq.cancel_left_of_coprime (Nat.coprime_comm.mp hwidth)
      ((h.trans hv.symm).add_left_cancel' start)
  · intro h
    exact ((h.mul_left width).add_left start).trans hv

theorem ceil_div {n k : Nat} (hk : 0 < k) :
    (n + k - 1) / k = n / k + if 0 < n % k then 1 else 0 := by
  have hdiv := Nat.div_add_mod n k
  have hlt := Nat.mod_lt n hk
  split_ifs with hrest
  · rw [show n + k - 1 = (n % k - 1) + k * (n / k + 1) by rw [mul_add]; omega,
      Nat.add_mul_div_left _ _ hk, Nat.div_eq_of_lt (by omega), zero_add]
  · rw [show n + k - 1 = (k - 1) + k * (n / k) by omega, Nat.add_mul_div_left _ _ hk,
      Nat.div_eq_of_lt (by omega), zero_add, add_zero]

theorem share_cases (n v : Nat) {k : Nat} (hk : 0 < k) :
    n.count (· ≡ v [MOD k]) = n / k ∨ n.count (· ≡ v [MOD k]) = (n + k - 1) / k := by
  rw [Nat.count_modEq_card n hk v, ceil_div hk]
  split_ifs <;> omega

theorem evenly_stride {xs : List α} (hxs : xs.Nodup) (zero : α) (start : Nat) {width : Nat}
    (hwidth : width.Coprime xs.length) (n : Nat) : Evenly xs (stride xs zero start width n) := by
  intro x hx
  obtain ⟨j, hj, rfl⟩ := List.getElem_of_mem hx
  obtain ⟨v, hv⟩ := exists_residue hwidth start hj
  rw [count_stride hxs zero start width n hj, length_stride]
  simp only [hv]
  exact share_cases n v (by omega)

theorem count_two_le_one {n k : Nat} (h : 2 * n ≤ k) (start j : Nat) :
    (n.count fun i => (start + 2 * i) % k = j) ≤ 1 := by
  rw [Nat.count_eq_card_filter_range, Finset.card_le_one]
  intro a ha b hb
  obtain ⟨hlta, ha⟩ := Finset.mem_filter.mp ha
  obtain ⟨hltb, hb⟩ := Finset.mem_filter.mp hb
  rw [Finset.mem_range] at hlta hltb
  have hmod : 2 * a ≡ 2 * b [MOD k] := Nat.ModEq.add_left_cancel' start (ha.trans hb.symm)
  rw [Nat.ModEq, Nat.mod_eq_of_lt (by omega), Nat.mod_eq_of_lt (by omega)] at hmod
  omega

theorem count_two_even {h : Nat} (hpos : 0 < h) (start n : Nat) :
    (n.count fun i => (start + 2 * i) % (2 * h) = start % (2 * h)) =
      n / h + if 0 < n % h then 1 else 0 := by
  have hiff (i : Nat) : (start + 2 * i) % (2 * h) = start % (2 * h) ↔ i ≡ 0 [MOD h] := by
    have hcancel : (start + 2 * i) % (2 * h) = start % (2 * h) ↔ 2 * i ≡ 2 * 0 [MOD 2 * h] := by
      constructor
      · exact fun heq => Nat.ModEq.add_left_cancel' start heq
      · exact fun heq => heq.add_left start
    rw [hcancel]
    exact ⟨fun heq => heq.mul_left_cancel' two_ne_zero, fun heq => heq.mul_left' 2⟩
  simp only [hiff]
  rw [Nat.count_modEq_card n hpos 0, Nat.zero_mod]

theorem stride_two_iff {xs : List α} (hxs : xs.Nodup) (hne : xs ≠ []) (zero : α) (start n : Nat) :
    Evenly xs (stride xs zero start 2 n) ↔ Odd xs.length ∨ 2 * n ≤ xs.length := by
  have hpos : 0 < xs.length := List.length_pos_iff.mpr hne
  constructor
  · intro h
    by_contra hother
    rw [not_or, Nat.not_odd_iff_even] at hother
    obtain ⟨half, hhalf⟩ := hother.1
    have hlength : xs.length = 2 * half := by omega
    have hstart : start % xs.length < xs.length := Nat.mod_lt _ hpos
    have hshare := h _ (List.getElem_mem hstart)
    rw [count_stride hxs zero start 2 n hstart, length_stride, hlength,
      count_two_even (by omega), ceil_div (by omega), mul_comm 2 half, ← Nat.div_div_eq_div_mul,
      Nat.mod_mul] at hshare
    have hdiv := Nat.div_add_mod n half
    have hlt := Nat.mod_lt n (by omega : 0 < half)
    generalize n / half = rounds at hshare hdiv
    generalize n % half = rest at hshare hdiv hlt
    -- the first element has met its share by the middle of the first round
    have hpositive : 1 ≤ rounds := by
      rcases Nat.eq_zero_or_pos rounds with rfl | hrounds
      · omega
      · exact hrounds
    have hrest : rounds = 1 → 0 < rest := by
      rintro rfl
      omega
    rcases Nat.mod_two_eq_zero_or_one rounds with hparity | hparity <;>
      rw [hparity] at hshare <;> split_ifs at hshare <;> omega
  · rintro (hodd | hshort)
    · exact evenly_stride hxs zero start (Nat.coprime_two_left.mpr hodd) n
    · intro x hx
      obtain ⟨j, hj, rfl⟩ := List.getElem_of_mem hx
      rw [count_stride hxs zero start 2 n hj, length_stride, ceil_div hpos,
        Nat.div_eq_of_lt (by omega), Nat.mod_eq_of_lt (by omega)]
      have hle := count_two_le_one hshort start j
      rcases Nat.eq_zero_or_pos n with rfl | hn
      · exact .inl (Nat.count_zero _)
      · rw [if_pos hn]
        omega

end FleetLlmd.Rotation
