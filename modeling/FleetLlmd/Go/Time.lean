import FleetLlmd.Go.Float64

/-!
# Instants

A `time.Time` as the nanoseconds since the Unix epoch and the offset of its zone,
with the RFC 3339 texts that `encoding/json` reads and writes. Reading follows
`time.Parse`, which also accepts one-digit hours, a comma before the fraction and
offsets up to `24:60`.
-/

namespace FleetLlmd.Go

structure Time where
  nanos : Int
  offset : Int := 0
  deriving DecidableEq, Repr

namespace Time

def zero : Time := ⟨-62135596800000000000, 0⟩

def isZero (t : Time) : Bool := t.nanos == zero.nanos
def after (t u : Time) : Bool := u.nanos < t.nanos
def before (t u : Time) : Bool := t.nanos < u.nanos
def equal (t u : Time) : Bool := t.nanos == u.nanos
def utc (t : Time) : Time := ⟨t.nanos, 0⟩
def unixMilli (t : Time) : Int := t.nanos / 1000000

def maxDuration : Int := 9223372036854775807

/-- `t.Sub(u)`, which saturates. -/
def sub (t u : Time) : Int := max (-maxDuration - 1) (min maxDuration (t.nanos - u.nanos))

def isLeap (year : Int) : Bool := year % 4 == 0 && (year % 100 != 0 || year % 400 == 0)

def daysIn (year month : Int) : Int :=
  if month = 2 then (if isLeap year then 29 else 28)
  else if month = 4 ∨ month = 6 ∨ month = 9 ∨ month = 11 then 30 else 31

def daysOfDate (year month day : Int) : Int :=
  let y := if month ≤ 2 then year - 1 else year
  let era := y / 400
  let yoe := y % 400
  let doy := (153 * (if 2 < month then month - 3 else month + 9) + 2) / 5 + day - 1
  era * 146097 + (yoe * 365 + yoe / 4 - yoe / 100 + doy) - 719468

def dateOfDays (days : Int) : Int × Int × Int :=
  let z := days + 719468
  let era := z / 146097
  let doe := z % 146097
  let yoe := (doe - doe / 1460 + doe / 36524 - doe / 146096) / 365
  let doy := doe - (365 * yoe + yoe / 4 - yoe / 100)
  let mp := (5 * doy + 2) / 153
  let month := if mp < 10 then mp + 3 else mp - 9
  (yoe + era * 400 + (if month ≤ 2 then 1 else 0), month, doy - (153 * mp + 2) / 5 + 1)

def isDecimal (c : Char) : Bool := '0' ≤ c && c ≤ '9'

def takeTwo (lo hi : Nat) : List Char → Option (Int × List Char)
  | a :: b :: cs =>
    let n := digitsValue [a, b]
    if isDecimal a && isDecimal b && lo ≤ n && n ≤ hi then some (n, cs) else none
  | _ => none

def takeYear : List Char → Option (Int × List Char)
  | a :: b :: c :: d :: cs =>
    if [a, b, c, d].all isDecimal then some (digitsValue [a, b, c, d], cs) else none
  | _ => none

def takeHour : List Char → Option (Int × List Char)
  | a :: b :: cs =>
    if isDecimal b then takeTwo 0 23 (a :: b :: cs)
    else if isDecimal a then some (digitValue a, b :: cs) else none
  | _ => none

def takeChar (c : Char) : List Char → Option (List Char)
  | d :: cs => if c == d then some cs else none
  | [] => none

def takeFraction : List Char → Int × List Char
  | point :: d :: cs =>
    if (point == '.' || point == ',') && isDecimal d then
      let ds := (d :: cs).takeWhile isDecimal
      let kept := ds.take 9
      (digitsValue kept * 10 ^ (9 - kept.length), (d :: cs).dropWhile isDecimal)
    else (0, point :: d :: cs)
  | cs => (0, cs)

def takeZone : List Char → Option Int
  | ['Z'] => some 0
  | sign :: cs =>
    if sign == '+' || sign == '-' then do
      let (hour, cs) ← takeTwo 0 24 cs
      let cs ← takeChar ':' cs
      let (minute, cs) ← takeTwo 0 60 cs
      if cs.isEmpty then
        some (if sign == '-' then -((hour * 60 + minute) * 60) else (hour * 60 + minute) * 60)
      else none
    else none
  | [] => none

def parse (cs : List Char) : Option Time := do
  let (year, cs) ← takeYear cs
  let cs ← takeChar '-' cs
  let (month, cs) ← takeTwo 1 12 cs
  let cs ← takeChar '-' cs
  let (day, cs) ← takeTwo 1 31 cs
  let cs ← takeChar 'T' cs
  let (hour, cs) ← takeHour cs
  let cs ← takeChar ':' cs
  let (minute, cs) ← takeTwo 0 59 cs
  let cs ← takeChar ':' cs
  let (second, cs) ← takeTwo 0 59 cs
  let (fraction, cs) := takeFraction cs
  let offset ← takeZone cs
  if day ≤ daysIn year month then
    let seconds := ((daysOfDate year month day * 24 + hour) * 60 + minute) * 60 + second - offset
    some ⟨seconds * 1000000000 + fraction, offset⟩
  else none

def padded (width : Nat) (n : Int) : List Char :=
  let ds := natText n.toNat
  List.replicate (width - ds.length) '0' ++ ds

def fractionText (nanos : Int) : List Char :=
  if nanos = 0 then [] else '.' :: ((padded 9 nanos).reverse.dropWhile (· == '0')).reverse

def zoneText (offset : Int) : List Char :=
  if offset = 0 then ['Z']
  else
    let minutes : Int := offset.natAbs / 60
    (if offset < 0 then '-' else '+') :: (padded 2 (minutes / 60) ++ ':' :: padded 2 (minutes % 60))

/-- `MarshalJSON` without the quotes; an error for years or offsets RFC 3339 cannot write. -/
def format (t : Time) : Option (List Char) :=
  let seconds := t.nanos / 1000000000 + t.offset
  let (year, month, day) := dateOfDays (seconds / 86400)
  let clock := seconds % 86400
  if 0 ≤ year && year ≤ 9999 && t.offset.natAbs < 86400 then
    some (padded 4 year ++ '-' :: padded 2 month ++ '-' :: padded 2 day ++
      'T' :: padded 2 (clock / 3600) ++ ':' :: padded 2 (clock / 60 % 60) ++
      ':' :: padded 2 (clock % 60) ++ fractionText (t.nanos % 1000000000) ++ zoneText t.offset)
  else none

end Time
end FleetLlmd.Go
