import FleetLlmd.Go.Text
import Mathlib.Tactic.IntervalCases

/-!
# Hexadecimal digests

`hex.EncodeToString` writes each byte with two digits, so a digest can be read back.
-/

namespace FleetLlmd.Go

def fromHex (c : Char) : Option Nat :=
  if '0' ≤ c ∧ c ≤ '9' then some (c.toNat - 48)
  else if 'a' ≤ c ∧ c ≤ 'f' then some (c.toNat - 87)
  else if 'A' ≤ c ∧ c ≤ 'F' then some (c.toNat - 55)
  else none

theorem fromHex_hexDigit {n : Nat} (h : n < 16) : fromHex (hexDigit n) = some n := by
  interval_cases n <;> rfl

theorem hexDigit_inj {m n : Nat} (hm : m < 16) (hn : n < 16) (h : hexDigit m = hexDigit n) :
    m = n := by
  have hdigits := congrArg fromHex h
  rw [fromHex_hexDigit hm, fromHex_hexDigit hn] at hdigits
  exact Option.some.inj hdigits

theorem hexByte_injective : Function.Injective hexByte := by
  intro a b h
  simp only [hexByte, List.cons.injEq, and_true] at h
  have ha := a.toNat_lt
  have hb := b.toNat_lt
  have hhigh := hexDigit_inj (by omega) (by omega) h.1
  have hlow := hexDigit_inj (by omega) (by omega) h.2
  apply UInt8.toNat_inj.mp
  omega

theorem hexEncode_injective : Function.Injective hexEncode := by
  intro as bs h
  have hdigits := String.ofList_injective h
  clear h
  induction as generalizing bs with
  | nil =>
    cases bs with
    | nil => rfl
    | cons b bs => simp [hexByte] at hdigits
  | cons a as ih =>
    cases bs with
    | nil => simp [hexByte] at hdigits
    | cons b bs =>
      rw [List.flatMap_cons, List.flatMap_cons] at hdigits
      obtain ⟨hhead, htail⟩ := List.append_inj hdigits rfl
      rw [hexByte_injective hhead, ih htail]

theorem mem_hexEncode {c : Char} {bs : Bytes} (h : c ∈ (hexEncode bs).toList) :
    ∃ n < 16, c = hexDigit n := by
  simp only [hexEncode, String.toList_ofList, List.mem_flatMap, hexByte, List.mem_cons,
    List.not_mem_nil, or_false] at h
  obtain ⟨b, -, rfl | rfl⟩ := h
  · have hb := b.toNat_lt
    exact ⟨_, by omega, rfl⟩
  · exact ⟨_, by omega, rfl⟩

theorem length_hexEncode (bs : Bytes) : (hexEncode bs).toList.length = 2 * bs.length := by
  induction bs with
  | nil => rfl
  | cons b bs ih =>
    simp only [hexEncode, String.toList_ofList, List.flatMap_cons, List.length_append] at ih ⊢
    simp only [ih, hexByte, List.length_cons, List.length_nil]
    omega

end FleetLlmd.Go
