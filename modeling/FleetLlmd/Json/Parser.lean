import FleetLlmd.Go.Text

/-!
# JSON texts

A parser for the grammar that `encoding/json` scans. The result keeps what a
later decoder may still depend on: number and string literals as they are
spelled, members in the order of the text, and repeated keys. The text is the
sequence of characters that Go's lossy UTF-8 decoding yields.

The parser is fuelled by the length of the text; `maxNestingDepth` is the
scanner's own limit.
-/

namespace FleetLlmd.Json
open Go

inductive Raw where
  | null
  | bool (b : Bool)
  | number (lit : List Char)
  | string (lit : List Char)
  | array (items : List Raw)
  | object (members : List (String × Raw))

def isWhitespace (c : Char) : Bool := c == ' ' || c == '\t' || c == '\r' || c == '\n'

def skipWhitespace (cs : List Char) : List Char := cs.dropWhile isWhitespace

def isDigit (c : Char) : Bool := '0' ≤ c && c ≤ '9'

def isNumberChar (c : Char) : Bool :=
  isDigit c || c == '-' || c == '+' || c == '.' || c == 'e' || c == 'E'

def allDigits (cs : List Char) : Bool := !cs.isEmpty && cs.all isDigit

def validExponent : List Char → Bool
  | [] => true
  | e :: sign :: cs =>
    (e == 'e' || e == 'E') &&
      (if sign == '+' || sign == '-' then allDigits cs else allDigits (sign :: cs))
  | [_] => false

def validFraction : List Char → Bool
  | '.' :: c :: cs => isDigit c && validExponent (cs.dropWhile isDigit)
  | cs => validExponent cs

def validMagnitude : List Char → Bool
  | [] => false
  | c :: cs =>
    if c == '0' then validFraction cs
    else isDigit c && validFraction (cs.dropWhile isDigit)

def validNumber : List Char → Bool
  | '-' :: cs => validMagnitude cs
  | cs => validMagnitude cs

def isSimpleEscape (c : Char) : Bool :=
  c == 'b' || c == 'f' || c == 'n' || c == 'r' || c == 't' || c == '\\' || c == '/' || c == '"'

def scanString : List Char → Option (List Char × List Char)
  | [] => none
  | c :: cs =>
    if c = '"' then some ([], cs)
    else if c = '\\' then
      match cs with
      | [] => none
      | e :: cs =>
        if e = 'u' then
          match cs with
          | h1 :: h2 :: h3 :: h4 :: cs =>
            if isHexDigit h1 && isHexDigit h2 && isHexDigit h3 && isHexDigit h4 then
              (scanString cs).map fun r => (c :: e :: h1 :: h2 :: h3 :: h4 :: r.1, r.2)
            else none
          | _ => none
        else if isSimpleEscape e then (scanString cs).map fun r => (c :: e :: r.1, r.2) else none
    else if c.toNat < 0x20 then none
    else (scanString cs).map fun r => (c :: r.1, r.2)
  termination_by structural cs => cs

def hexValue (c : Char) : Nat :=
  if '0' ≤ c ∧ c ≤ '9' then c.toNat - 48
  else if 'a' ≤ c ∧ c ≤ 'f' then c.toNat - 87
  else c.toNat - 55

def hex4 (a b c d : Char) : Nat :=
  ((hexValue a * 16 + hexValue b) * 16 + hexValue c) * 16 + hexValue d

def replacementChar : Char := Char.ofNat 0xFFFD

def escapedRune (n : Nat) : Char :=
  if 0xD800 ≤ n ∧ n < 0xE000 then replacementChar else Char.ofNat n

def isSurrogatePair (hi lo : Nat) : Bool :=
  0xD800 ≤ hi && hi < 0xDC00 && 0xDC00 ≤ lo && lo < 0xE000

def simpleEscape (e : Char) : Char :=
  if e == 'b' then Char.ofNat 8 else if e == 'f' then Char.ofNat 12 else if e == 'n' then '\n'
  else if e == 'r' then '\r' else if e == 't' then '\t' else e

def unicodeAt : List Char → Nat
  | x :: y :: a :: b :: c :: d :: _ => if x = '\\' ∧ y = 'u' then hex4 a b c d else 0
  | _ => 0

def escapeAt : List Char → Char × Nat
  | e :: a :: b :: c :: d :: cs =>
    if e = 'u' then
      let hi := hex4 a b c d
      let lo := unicodeAt cs
      if isSurrogatePair hi lo then
        (Char.ofNat ((hi - 0xD800) * 0x400 + (lo - 0xDC00) + 0x10000), 11)
      else (escapedRune hi, 5)
    else (simpleEscape e, 1)
  | e :: _ => (simpleEscape e, 1)
  | [] => ('\\', 0)

def unquoteAfter : Nat → List Char → List Char
  | _, [] => []
  | skip + 1, _ :: cs => unquoteAfter skip cs
  | 0, c :: cs =>
    if c = '\\' then (escapeAt cs).1 :: unquoteAfter (escapeAt cs).2 cs
    else c :: unquoteAfter 0 cs

def unquote (cs : List Char) : List Char := unquoteAfter 0 cs

def maxNestingDepth : Nat := 10000

mutual

def parseValue : Nat → Nat → List Char → Option (Raw × List Char)
  | 0, _, _ => none
  | fuel + 1, depth, cs =>
    match skipWhitespace cs with
    | '{' :: cs =>
      match depth with
      | 0 => none
      | depth + 1 =>
        match skipWhitespace cs with
        | '}' :: cs => some (.object [], cs)
        | cs => (parseMembers fuel depth cs).map fun r => (.object r.1, r.2)
    | '[' :: cs =>
      match depth with
      | 0 => none
      | depth + 1 =>
        match skipWhitespace cs with
        | ']' :: cs => some (.array [], cs)
        | cs => (parseItems fuel depth cs).map fun r => (.array r.1, r.2)
    | '"' :: cs => (scanString cs).map fun r => (.string r.1, r.2)
    | 't' :: 'r' :: 'u' :: 'e' :: cs => some (.bool true, cs)
    | 'f' :: 'a' :: 'l' :: 's' :: 'e' :: cs => some (.bool false, cs)
    | 'n' :: 'u' :: 'l' :: 'l' :: cs => some (.null, cs)
    | cs =>
      let lit := cs.takeWhile isNumberChar
      if validNumber lit then some (.number lit, cs.dropWhile isNumberChar) else none

def parseItems : Nat → Nat → List Char → Option (List Raw × List Char)
  | 0, _, _ => none
  | fuel + 1, depth, cs =>
    match parseValue fuel depth cs with
    | none => none
    | some (item, cs) =>
      match skipWhitespace cs with
      | ']' :: cs => some ([item], cs)
      | ',' :: cs => (parseItems fuel depth cs).map fun r => (item :: r.1, r.2)
      | _ => none

def parseMembers : Nat → Nat → List Char → Option (List (String × Raw) × List Char)
  | 0, _, _ => none
  | fuel + 1, depth, cs =>
    match skipWhitespace cs with
    | '"' :: cs =>
      match scanString cs with
      | none => none
      | some (key, cs) =>
        match skipWhitespace cs with
        | ':' :: cs =>
          match parseValue fuel depth cs with
          | none => none
          | some (value, cs) =>
            let member := (String.ofList (unquote key), value)
            match skipWhitespace cs with
            | '}' :: cs => some ([member], cs)
            | ',' :: cs => (parseMembers fuel depth cs).map fun r => (member :: r.1, r.2)
            | _ => none
        | _ => none
    | _ => none

end

def parse (cs : List Char) : Option Raw :=
  match parseValue (2 * cs.length + 2) maxNestingDepth cs with
  | some (value, rest) => if skipWhitespace rest = [] then some value else none
  | none => none

end FleetLlmd.Json
