import FleetLlmd.Go.Text
import Mathlib.Algebra.Group.Int.Even

/-!
# Double-precision numbers

`float64` values by their bit patterns. A finite magnitude is a whole multiple of
`2 ^ -1074`, so comparison, correct rounding of a decimal text and the shortest
decimal text that reads back as the same value are exact integer arithmetic.
-/

namespace FleetLlmd.Go

def decimalDigits : Nat → Nat → List Char → List Char
  | 0, _, acc => acc
  | fuel + 1, n, acc =>
    let acc := hexDigit (n % 10) :: acc
    if n < 10 then acc else decimalDigits fuel (n / 10) acc

/-- `strconv.Itoa` on a natural number. -/
def natText (n : Nat) : List Char := decimalDigits (n.log2 + 1) n []

/-- `strconv.FormatInt(i, 10)`. -/
def intText : Int → List Char
  | .ofNat n => natText n
  | .negSucc n => '-' :: natText (n + 1)

def digitValue (c : Char) : Nat := c.toNat - 48

def digitsValue (cs : List Char) : Nat := cs.foldl (fun n c => n * 10 + digitValue c) 0

structure Float64 where
  bits : UInt64
  deriving DecidableEq, Repr

namespace Float64

def unitScale : Nat := 2 ^ 1074

def isNeg (x : Float64) : Bool := x.bits.toNat / 2 ^ 63 == 1
def exponent (x : Float64) : Nat := x.bits.toNat / 2 ^ 52 % 2048
def fraction (x : Float64) : Nat := x.bits.toNat % 2 ^ 52

def isNaN (x : Float64) : Bool := x.exponent == 2047 && x.fraction != 0
def isInf (x : Float64) : Bool := x.exponent == 2047 && x.fraction == 0

def magnitude (x : Float64) : Nat :=
  if x.exponent = 0 then x.fraction else (2 ^ 52 + x.fraction) * 2 ^ (x.exponent - 1)

def scaled (x : Float64) : Int := if x.isNeg then -(x.magnitude : Int) else x.magnitude

/-- `x < y`; false when either is NaN. -/
def lt (x y : Float64) : Bool := !x.isNaN && !y.isNaN && x.scaled < y.scaled

section Order
variable {x y z : Float64}

theorem isNaN_of_lt (h : x.lt y = true) : x.isNaN = false ∧ y.isNaN = false := by
  simp only [lt, Bool.and_eq_true, Bool.not_eq_true'] at h
  exact h.1

theorem lt_trans (hxy : x.lt y = true) (hyz : y.lt z = true) : x.lt z = true := by
  simp only [lt, Bool.and_eq_true, Bool.not_eq_true', decide_eq_true_eq] at *
  exact ⟨⟨hxy.1.1, hyz.1.2⟩, Int.lt_trans hxy.2 hyz.2⟩

theorem lt_or_isNaN (hxz : x.lt z = true) (hxy : x.lt y = false) :
    y.lt z = true ∨ y.isNaN = true := by
  obtain ⟨hx, hz⟩ := isNaN_of_lt hxz
  cases hy : y.isNaN with
  | true => exact .inr rfl
  | false =>
    simp only [lt, hx, hy, hz, Bool.not_false, Bool.true_and, decide_eq_true_eq,
      decide_eq_false_iff_not] at *
    omega

end Order

def roundHalfEven (n d : Nat) : Nat :=
  let q := n / d
  if d < 2 * (n % d) || (d == 2 * (n % d) && q % 2 == 1) then q + 1 else q

def ofRatio (neg : Bool) (n d : Nat) : Float64 :=
  let units := n * unitScale
  let shift := (units / d).log2 - 52
  let rounded := shift * 2 ^ 52 + roundHalfEven units (d * 2 ^ shift)
  ⟨UInt64.ofNat (min rounded (2047 * 2 ^ 52) + if neg then 2 ^ 63 else 0)⟩

def infinity (neg : Bool) : Float64 :=
  ⟨UInt64.ofNat (2047 * 2 ^ 52 + if neg then 2 ^ 63 else 0)⟩

def zero : Float64 := ⟨0⟩
def one : Float64 := ⟨0x3ff0000000000000⟩

def exponentValue (cs : List Char) : Nat :=
  cs.foldl (fun e c => if e < 10000 then e * 10 + digitValue c else e) 0

def signedExponent : List Char → Int
  | '-' :: cs => -(exponentValue cs : Int)
  | '+' :: cs => exponentValue cs
  | cs => exponentValue cs

def decimalParts (cs : List Char) : Nat × Int :=
  let isPart (c : Char) : Bool := '0' ≤ c && c ≤ '9'
  let whole := cs.takeWhile isPart
  let rest := cs.dropWhile isPart
  let fraction := match rest with
    | '.' :: cs => cs.takeWhile isPart
    | _ => []
  let exp := match (match rest with | '.' :: cs => cs.dropWhile isPart | cs => cs) with
    | _ :: cs => signedExponent cs
    | [] => 0
  (digitsValue (whole ++ fraction), exp - fraction.length)

/-- `digits * 10 ^ exp`, rounded. Powers of ten beyond the range of the format are cut off as
`strconv` does. -/
def ofDecimal (neg : Bool) (digits : Nat) (exp : Int) : Float64 :=
  let point := (natText digits).length + exp
  if digits = 0 || point < -330 then ofRatio neg 0 1
  else if 310 < point then infinity neg
  else if 0 ≤ exp then ofRatio neg (digits * 10 ^ exp.toNat) 1
  else ofRatio neg digits (10 ^ (-exp).toNat)

/-- `strconv.ParseFloat(text, 64)` on the text of a JSON number; a value out of range is an
error. -/
def parse (cs : List Char) : Option Float64 :=
  let x := match cs with
    | '-' :: cs => ofDecimal true (decimalParts cs).1 (decimalParts cs).2
    | cs => ofDecimal false (decimalParts cs).1 (decimalParts cs).2
  if x.isInf then none else some x

/-- `%f` of `digits * 10 ^ exp` with every digit and no more. -/
def fixedText (digits : Nat) (exp : Int) : List Char :=
  let ds := natText digits
  let point := ds.length + exp
  if 0 ≤ exp then ds ++ List.replicate exp.toNat '0'
  else if 0 < point then ds.take point.toNat ++ '.' :: ds.drop point.toNat
  else '0' :: '.' :: List.replicate (-point).toNat '0' ++ ds

def exponentText (width : Nat) (exp : Int) : List Char :=
  let ds := natText exp.natAbs
  'e' :: (if exp < 0 then '-' else '+') :: (List.replicate (width - ds.length) '0' ++ ds)

/-- `%e` of `digits * 10 ^ exp`. -/
def scientificText (width digits : Nat) (exp : Int) : List Char :=
  match natText digits with
  | [] => []
  | [d] => d :: exponentText width exp
  | d :: ds => d :: '.' :: (ds ++ exponentText width (exp + ds.length))

def stripZeros : Nat → Nat → Int → Nat × Int
  | 0, digits, exp => (digits, exp)
  | fuel + 1, digits, exp =>
    if digits % 10 = 0 then stripZeros fuel (digits / 10) (exp + 1) else (digits, exp)

def candidates (x : Float64) (n : Nat) : List (Nat × Int) :=
  if x.magnitude = 0 then [(0, 0)]
  else
    let point : Int := (natText (x.magnitude * 10 ^ 400 / unitScale)).length - 400
    let exp : Int := point - n
    let num := x.magnitude * 10 ^ (-exp).toNat
    let den := unitScale * 10 ^ exp.toNat
    let near := roundHalfEven num den
    let far := if near = num / den then near + 1 else num / den
    [stripZeros n near exp, stripZeros n far exp]

/-- `strconv.FormatFloat(x, fmt, -1, 64)`: the shortest text of the notation that reads back as
`x`. Seventeen digits always suffice, so a finite value has one. -/
def formatShortest (fmt : Nat → Int → List Char) (x : Float64) : Option (List Char) :=
  (List.range 17).findSome? fun n => (x.candidates (n + 1)).findSome? fun (digits, exp) =>
    let text := if x.isNeg then '-' :: fmt digits exp else fmt digits exp
    if parse text = some x then some text else none

theorem parse_formatShortest {fmt : Nat → Int → List Char} {x : Float64} {text : List Char}
    (h : x.formatShortest fmt = some text) : parse text = some x := by
  obtain ⟨n, -, hn⟩ := List.exists_of_findSome?_eq_some h
  obtain ⟨c, -, hc⟩ := List.exists_of_findSome?_eq_some hn
  dsimp only at hc
  split_ifs at hc with hp hp <;> cases hc <;> simpa using ‹parse _ = some x›

/-- `%.2f`. -/
def format2 (x : Float64) : String :=
  if x.isNaN then "NaN"
  else if x.isInf then (if x.isNeg then "-Inf" else "+Inf")
  else
    let hundredths := roundHalfEven (x.magnitude * 100) unitScale
    String.ofList ((if x.isNeg then ['-'] else []) ++ natText (hundredths / 100) ++
      ['.', hexDigit (hundredths / 10 % 10), hexDigit (hundredths % 10)])

end Float64
end FleetLlmd.Go
