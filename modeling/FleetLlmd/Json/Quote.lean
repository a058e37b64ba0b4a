import FleetLlmd.Json.Parser
import Mathlib.Tactic.IntervalCases

/-!
# String literals

How a string is written so that the parser reads it back. An `Escaping` carries
the two facts about one character from which the facts about whole literals
follow: the scanner passes over its escape, and unquoting undoes it. The escaping
of `encoding/json` is the instance used by `json.Marshal`.
-/

namespace FleetLlmd.Json
open Go

theorem isHexDigit_hexDigit {n : Nat} (h : n < 16) : isHexDigit (hexDigit n) = true := by
  interval_cases n <;> rfl

theorem hexValue_hexDigit {n : Nat} (h : n < 16) : hexValue (hexDigit n) = n := by
  interval_cases n <;> rfl

def unicodeEscape (n : Nat) : List Char :=
  ['\\', 'u', hexDigit (n / 4096 % 16), hexDigit (n / 256 % 16), hexDigit (n / 16 % 16),
    hexDigit (n % 16)]

theorem hex4_digits {n : Nat} (h : n < 65536) :
    hex4 (hexDigit (n / 4096 % 16)) (hexDigit (n / 256 % 16)) (hexDigit (n / 16 % 16))
      (hexDigit (n % 16)) = n := by
  have hd (m : Nat) : hexValue (hexDigit (m % 16)) = m % 16 :=
    hexValue_hexDigit (Nat.mod_lt _ (by decide))
  rw [hex4, hd, hd, hd, hd]
  omega

theorem scanString_unicodeEscape (n : Nat) (cs : List Char) :
    scanString (unicodeEscape n ++ cs) =
      (scanString cs).map fun r => (unicodeEscape n ++ r.1, r.2) := by
  have h (m : Nat) : isHexDigit (hexDigit (m % 16)) = true :=
    isHexDigit_hexDigit (Nat.mod_lt _ (by decide))
  simp [unicodeEscape, scanString, h]

theorem unquote_unicodeEscape {n : Nat} (h : n < 0xD800) (cs : List Char) :
    unquote (unicodeEscape n ++ cs) = Char.ofNat n :: unquote cs := by
  have h4 := hex4_digits (n := n) (by omega)
  have hr : escapedRune n = Char.ofNat n := by rw [escapedRune, if_neg (by omega)]
  have hs (m : Nat) : isSurrogatePair n m = false := by simp [isSurrogatePair]; omega
  simp [unicodeEscape, unquote, unquoteAfter, escapeAt, h4, hr, hs]

theorem scanString_simple {e : Char} (he : isSimpleEscape e = true) (cs : List Char) :
    scanString ('\\' :: e :: cs) = (scanString cs).map fun r => ('\\' :: e :: r.1, r.2) := by
  have hu : e ≠ 'u' := by rintro rfl; simp [isSimpleEscape] at he
  rw [scanString.eq_def]
  simp [he, hu]

theorem escapeAt_simple {e : Char} (he : e ≠ 'u') (cs : List Char) :
    escapeAt (e :: cs) = (simpleEscape e, 1) := by
  unfold escapeAt
  split <;> simp_all

theorem unquote_simple {e : Char} (he : e ≠ 'u') (cs : List Char) :
    unquote ('\\' :: e :: cs) = simpleEscape e :: unquote cs := by
  simp [unquote, unquoteAfter, escapeAt_simple he]

theorem scanString_quote (cs : List Char) : scanString ('"' :: cs) = some ([], cs) := by
  rw [scanString.eq_def]
  simp

theorem scanString_plain {c : Char} (hq : c ≠ '"') (hb : c ≠ '\\') (hc : 0x20 ≤ c.toNat)
    (cs : List Char) : scanString (c :: cs) = (scanString cs).map fun r => (c :: r.1, r.2) := by
  rw [scanString.eq_def]
  simp [hq, hb, Nat.not_lt.mpr hc]

theorem unquote_plain {c : Char} (hb : c ≠ '\\') (cs : List Char) :
    unquote (c :: cs) = c :: unquote cs := by
  simp [unquote, unquoteAfter, hb]

structure Escaping where
  escape : Char → List Char
  scan_escape : ∀ c cs,
    scanString (escape c ++ cs) = (scanString cs).map fun r => (escape c ++ r.1, r.2)
  unquote_escape : ∀ c cs, unquote (escape c ++ cs) = c :: unquote cs

/-- The escapes every writer here shares: two characters for the quote, the backslash and the
named control characters, `\u00xx` for the other control characters and for those `extra` asks
for, and the character itself otherwise. -/
def escapeRune (extra : Char → Bool) (c : Char) : List Char :=
  if c = '"' then ['\\', '"']
  else if c = '\\' then ['\\', '\\']
  else if c = '\x08' then ['\\', 'b']
  else if c = '\x0c' then ['\\', 'f']
  else if c = '\n' then ['\\', 'n']
  else if c = '\r' then ['\\', 'r']
  else if c = '\t' then ['\\', 't']
  else if c.toNat < 0x20 || extra c then unicodeEscape c.toNat
  else [c]

theorem scanString_escapeRune (extra : Char → Bool) (c : Char) (cs : List Char) :
    scanString (escapeRune extra c ++ cs) =
      (scanString cs).map fun r => (escapeRune extra c ++ r.1, r.2) := by
  fun_cases escapeRune extra c with
  | case8 => exact scanString_unicodeEscape _ cs
  | case9 hq hb _ _ _ _ _ h =>
    simp only [Bool.or_eq_true, decide_eq_true_eq, not_or, not_lt] at h
    exact scanString_plain hq hb h.1 cs
  | _ => exact scanString_simple (by decide) cs

theorem unquote_escapeRune {extra : Char → Bool} (hextra : ∀ c, extra c = true → c.toNat < 0xD800)
    (c : Char) (cs : List Char) : unquote (escapeRune extra c ++ cs) = c :: unquote cs := by
  fun_cases escapeRune extra c with
  | case8 _ _ _ _ _ _ _ h =>
    have hc : c.toNat < 0xD800 := by
      simp only [Bool.or_eq_true, decide_eq_true_eq] at h
      rcases h with h | h
      · omega
      · exact hextra c h
    rw [unquote_unicodeEscape hc, Char.ofNat_toNat]
  | case9 _ hb => exact unquote_plain hb cs
  | _ =>
    subst c
    exact unquote_simple (by decide) cs

def escapingOf (extra : Char → Bool) (hextra : ∀ c, extra c = true → c.toNat < 0xD800) :
    Escaping where
  escape := escapeRune extra
  scan_escape := scanString_escapeRune extra
  unquote_escape := unquote_escapeRune hextra

def htmlUnsafe (c : Char) : Bool :=
  c == '<' || c == '>' || c == '&' || c.toNat == 0x2028 || c.toNat == 0x2029

theorem toNat_lt_of_htmlUnsafe (c : Char) (h : htmlUnsafe c = true) : c.toNat < 0xD800 := by
  simp only [htmlUnsafe, Bool.or_eq_true, beq_iff_eq] at h
  rcases h with (((rfl | rfl) | rfl) | h) | h
  iterate 3 decide
  all_goals omega

def goEscaping : Escaping := escapingOf htmlUnsafe toNat_lt_of_htmlUnsafe

namespace Escaping
variable (E : Escaping)

def body (s : String) : List Char := (chars s).flatMap E.escape

def quote (s : String) : List Char := '"' :: (E.body s ++ ['"'])

theorem scanString_body (cs rest : List Char) :
    scanString (cs.flatMap E.escape ++ '"' :: rest) = some (cs.flatMap E.escape, rest) := by
  induction cs with
  | nil => exact scanString_quote rest
  | cons c cs ih => rw [List.flatMap_cons, List.append_assoc, E.scan_escape, ih]; rfl

theorem unquote_flatMap (cs : List Char) : unquote (cs.flatMap E.escape) = cs := by
  induction cs with
  | nil => rfl
  | cons c cs ih => rw [List.flatMap_cons, E.unquote_escape, ih]

theorem unquote_body (s : String) : String.ofList (unquote (E.body s)) = s := by
  rw [body, E.unquote_flatMap, chars_eq_toList, String.ofList_toList]

theorem quote_append_inj {s t : String} {r r' : List Char}
    (h : E.quote s ++ r = E.quote t ++ r') : s = t ∧ r = r' := by
  have hb : E.body s ++ '"' :: r = E.body t ++ '"' :: r' := by
    simpa [quote] using h
  have hs := E.scanString_body (chars s) r
  have ht := E.scanString_body (chars t) r'
  rw [body, body] at hb
  rw [hb, ht, Option.some.injEq, Prod.mk.injEq] at hs
  refine ⟨?_, hs.2.symm⟩
  rw [← E.unquote_body s, ← E.unquote_body t, body, body, hs.1]

theorem quote_injective {s t : String} (h : E.quote s = E.quote t) : s = t :=
  (E.quote_append_inj (show E.quote s ++ [] = E.quote t ++ [] by rw [h])).1

end Escaping

def commaSep : List (List Char) → List Char
  | [] => []
  | [x] => x
  | x :: xs => x ++ ',' :: commaSep xs

def memberText (E : Escaping) (m : String × List Char) : List Char := E.quote m.1 ++ ':' :: m.2

def objectText (E : Escaping) (ms : List (String × List Char)) : List Char :=
  '{' :: (commaSep (ms.map (memberText E)) ++ ['}'])

def arrayText (items : List (List Char)) : List Char := '[' :: (commaSep items ++ [']'])

section Texts
variable (E : Escaping)

theorem skipWhitespace_cons {c : Char} (h : isWhitespace c = false) (cs : List Char) :
    skipWhitespace (c :: cs) = c :: cs := by
  simp [skipWhitespace, h]

theorem parseValue_quote (fuel depth : Nat) (s : String) (rest : List Char) :
    parseValue (fuel + 1) depth (E.quote s ++ rest) = some (.string (E.body s), rest) := by
  have hw : skipWhitespace (E.quote s ++ rest) = '"' :: (E.body s ++ '"' :: rest) := by
    simp [Escaping.quote, skipWhitespace, isWhitespace]
  rw [parseValue, hw]
  simp only [Escaping.body, E.scanString_body, Option.map_some]

end Texts
end FleetLlmd.Json
