import FleetLlmd.Go.Int64
import Mathlib.Data.Rat.Floor

/-!
# Arithmetics

Code that computes with ratios is written over the operations it uses. `float64` is the
arithmetic of the machine; `exact` is the one of the rationals, in which nothing is rounded.
-/

namespace FleetLlmd.Go

namespace Float64

def le (x y : Float64) : Bool := !x.isNaN && !y.isNaN && x.scaled ≤ y.scaled

def sub (x y : Float64) : Float64 :=
  let d := x.scaled - y.scaled
  if x.isNaN || y.isNaN then nan
  else if x.isInf then if y.isInf && x.isNeg == y.isNeg then nan else x
  else if y.isInf then infinity !y.isNeg
  else ofRatio (d < 0 || (d == 0 && x.magnitude == 0 && x.isNeg && !y.isNeg)) d.natAbs unitScale

def neg (x : Float64) : Float64 := ⟨x.bits ^^^ 0x8000000000000000⟩

def add (x y : Float64) : Float64 := x.sub y.neg

def div (x y : Float64) : Float64 :=
  let neg := x.isNeg != y.isNeg
  if x.isNaN || y.isNaN then nan
  else if x.isInf then if y.isInf then nan else infinity neg
  else if y.isInf then ofRatio neg 0 1
  else if y.magnitude = 0 then if x.magnitude = 0 then nan else infinity neg
  else ofRatio neg x.magnitude y.magnitude

/-- `int(x)` of a value that is whole, as `math.Ceil` and `math.Floor` give it. -/
def wholeInt (outOfRange : Float64 → Int) (x : Float64) (whole : Int) : Int :=
  if !x.isNaN && InInt64 whole then whole else int64 (outOfRange x)

/-- `int(math.Ceil(x))`. -/
def ceilInt (outOfRange : Float64 → Int) (x : Float64) : Int :=
  x.wholeInt outOfRange (-(-x.scaled / unitScale))

/-- `int(math.Floor(x))`. -/
def floorInt (outOfRange : Float64 → Int) (x : Float64) : Int :=
  x.wholeInt outOfRange (x.scaled / unitScale)

theorem scaled_of_magnitude {x : Float64} (h : x.magnitude = 0) :
    x.scaled = 0 ∧ x.isNaN = false := by
  constructor
  · rw [scaled, h]
    split_ifs <;> rfl
  · rw [magnitude] at h
    rw [isNaN]
    split_ifs at h with hexponent
    · simp [hexponent]
    · have hpos : 0 < 2 ^ (x.exponent - 1) := Nat.two_pow_pos _
      simp only [Nat.mul_eq_zero] at h
      omega

theorem zero_mul_cases (x : Float64) :
    zero.mul x = nan ∨ ∃ neg d, zero.mul x = ofRatio neg 0 d := by
  have hnan : zero.isNaN = false := rfl
  have hinf : zero.isInf = false := rfl
  have hzero : zero.magnitude = 0 := rfl
  rw [mul, hnan, hinf, hzero, Nat.zero_mul, Bool.false_or, Bool.false_or]
  cases x.isNaN with
  | true => exact .inl rfl
  | false =>
    cases x.isInf with
    | true => exact .inl rfl
    | false => exact .inr ⟨_, _, rfl⟩

end Float64

structure Arithmetic (F : Type) where
  ofInt : Int → F
  lt : F → F → Bool
  le : F → F → Bool
  sub : F → F → F
  mul : F → F → F
  div : F → F → F
  ceil : F → Int
  floor : F → Int

namespace Arithmetic

def isZero {F : Type} (A : Arithmetic F) (x : F) : Bool :=
  A.le x (A.ofInt 0) && A.le (A.ofInt 0) x

def exact : Arithmetic ℚ where
  ofInt n := n
  lt x y := x < y
  le x y := x ≤ y
  sub x y := x - y
  mul x y := x * y
  div x y := x / y
  ceil x := ⌈x⌉
  floor x := ⌊x⌋

structure Conversion where
  outOfRange : Float64 → Int
  nan_nonpos : int64 (outOfRange Float64.nan) ≤ 0

def float64 (c : Conversion) : Arithmetic Float64 where
  ofInt := Float64.ofInt
  lt := Float64.lt
  le := Float64.le
  sub := Float64.sub
  mul := Float64.mul
  div := Float64.div
  ceil := Float64.ceilInt c.outOfRange
  floor := Float64.floorInt c.outOfRange

theorem float64_ceil_mul (c : Conversion) (n : Int) (x : Float64) :
    (float64 c).ceil ((float64 c).mul ((float64 c).ofInt n) x) =
      Float64.ceilInt c.outOfRange ((Float64.ofInt n).mul x) :=
  rfl

end Arithmetic
end FleetLlmd.Go
