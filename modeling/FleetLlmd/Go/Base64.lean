import FleetLlmd.Go.Text

/-!
# Base 64

`base64.StdEncoding.DecodeString`: padded groups of four characters, line breaks
ignored, the bits a padding leaves over not looked at. The URL form has two other
characters and no padding.
-/

namespace FleetLlmd.Go

def base64Value (c : Char) : Option Nat :=
  if 'A' ≤ c ∧ c ≤ 'Z' then some (c.toNat - 65)
  else if 'a' ≤ c ∧ c ≤ 'z' then some (c.toNat - 71)
  else if '0' ≤ c ∧ c ≤ '9' then some (c.toNat + 4)
  else if c = '+' then some 62
  else if c = '/' then some 63
  else none

def base64Bytes (count a b c d : Nat) : Bytes :=
  let group := a * 262144 + b * 4096 + c * 64 + d
  [UInt8.ofNat (group / 65536), UInt8.ofNat (group / 256), UInt8.ofNat group].take count

def base64Groups : List Char → Option Bytes
  | [] => some []
  | [a, b, '=', '='] => do return base64Bytes 1 (← base64Value a) (← base64Value b) 0 0
  | [a, b, c, '='] => do
    return base64Bytes 2 (← base64Value a) (← base64Value b) (← base64Value c) 0
  | a :: b :: c :: d :: cs => do
    let group := base64Bytes 3 (← base64Value a) (← base64Value b) (← base64Value c)
      (← base64Value d)
    return group ++ (← base64Groups cs)
  | _ => none

def base64Decode (s : String) : Option Bytes :=
  base64Groups ((chars s).filter fun c => c != '\n' && c != '\r')

/-- `base64.RawURLEncoding.DecodeString`. -/
def rawURLDecode (s : String) : Option Bytes :=
  let cs := ((chars s).filter fun c => c != '\n' && c != '\r').map fun c =>
    if c = '-' then '+' else if c = '_' then '/'
    else if c = '+' ∨ c = '/' ∨ c = '=' then '!' else c
  base64Groups (cs ++ List.replicate ((4 - cs.length % 4) % 4) '=')

end FleetLlmd.Go
