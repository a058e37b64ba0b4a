import Mathlib.Data.List.Basic

/-!
# Strings, bytes and errors of the Go standard library

Go strings that reach the fleet come out of JSON or of Go source and are valid
UTF-8, so they are Lean strings. `utf8` is the byte view, and `chars` ranges over
the runes of those bytes as a Go loop does.

`equalFold` folds ASCII letters and the two other characters whose fold orbit contains
an ASCII letter. It agrees with package `strings` whenever one side is ASCII, which every
use here has checked or written as a constant. `toLower` lowers every letter, by the case
pairs of `unicode.CaseRanges`.
-/

namespace FleetLlmd.Go

abbrev Bytes := List UInt8

def utf8 (s : String) : Bytes := s.toByteArray.data.toList

def isContinuation (b : UInt8) : Bool := 0x80 ≤ b.toNat && b.toNat ≤ 0xBF

def isRune2 (a b : UInt8) : Bool := 0xC2 ≤ a.toNat && a.toNat ≤ 0xDF && isContinuation b
def isRune3 (a b c : UInt8) : Bool :=
  0xE0 ≤ a.toNat && a.toNat ≤ 0xEF && isContinuation b && isContinuation c &&
    !(a.toNat == 0xE0 && b.toNat < 0xA0) && !(a.toNat == 0xED && 0x9F < b.toNat)
def isRune4 (a b c d : UInt8) : Bool :=
  0xF0 ≤ a.toNat && a.toNat ≤ 0xF4 && isContinuation b && isContinuation c && isContinuation d &&
    !(a.toNat == 0xF0 && b.toNat < 0x90) && !(a.toNat == 0xF4 && 0x8F < b.toNat)

/-- `utf8.DecodeRune`: the rune at the head and how many of the following bytes belong to it. -/
def decodeRune (a : UInt8) (bs : Bytes) : Char × Nat :=
  let b := bs.getD 0 0
  let c := bs.getD 1 0
  let d := bs.getD 2 0
  if a.toNat < 0x80 then (Char.ofNat a.toNat, 0)
  else if isRune2 a b then (Char.ofNat ((a.toNat % 32) * 64 + b.toNat % 64), 1)
  else if isRune3 a b c then
    (Char.ofNat ((a.toNat % 16) * 4096 + (b.toNat % 64) * 64 + c.toNat % 64), 2)
  else if isRune4 a b c d then
    (Char.ofNat ((a.toNat % 8) * 262144 + (b.toNat % 64) * 4096 + (c.toNat % 64) * 64 +
      d.toNat % 64), 3)
  else (Char.ofNat 0xFFFD, 0)

def runesAfter : Nat → Bytes → List Char
  | _, [] => []
  | skip + 1, _ :: bs => runesAfter skip bs
  | 0, a :: bs => (decodeRune a bs).1 :: runesAfter (decodeRune a bs).2 bs

def runes (bs : Bytes) : List Char := runesAfter 0 bs

theorem toNat_ofNat_lt {n : Nat} (h : n < 256) : (UInt8.ofNat n).toNat = n := by
  simp [UInt8.toNat_ofNat', Nat.mod_eq_of_lt h]

theorem runes_utf8EncodeChar_append (c : Char) (bs : Bytes) :
    runes (String.utf8EncodeChar c ++ bs) = c :: runes bs := by
  have hv : Nat.isValidChar c.val.toNat := c.valid
  have hc : Char.ofNat c.val.toNat = c := Char.ofNat_toNat c
  unfold String.utf8EncodeChar
  generalize c.val.toNat = n at hv hc
  simp only [Nat.isValidChar] at hv
  subst hc
  dsimp only
  split_ifs with h1 h2 h3
  · have e0 := toNat_ofNat_lt (n := n) (by omega)
    simp [runes, runesAfter, decodeRune, e0, show n < 128 by omega]
  · have e0 := toNat_ofNat_lt (n := n / 64 % 32 + 192) (by omega)
    have e1 := toNat_ofNat_lt (n := n % 64 + 128) (by omega)
    have hr : (n / 64 % 32 + 192) % 32 * 64 + (n % 64 + 128) % 64 = n := by omega
    simp only [runes, List.cons_append, List.nil_append, runesAfter, decodeRune, isRune2,
      isContinuation, List.getD_cons_zero, List.getD_cons_succ, e0, e1]
    rw [if_neg (by omega), if_pos (by simp; omega)]
    simp only [runesAfter, hr]
  · have e0 := toNat_ofNat_lt (n := n / 4096 % 16 + 224) (by omega)
    have e1 := toNat_ofNat_lt (n := n / 64 % 64 + 128) (by omega)
    have e2 := toNat_ofNat_lt (n := n % 64 + 128) (by omega)
    have hr : (n / 4096 % 16 + 224) % 16 * 4096 + (n / 64 % 64 + 128) % 64 * 64 +
        (n % 64 + 128) % 64 = n := by omega
    simp only [runes, List.cons_append, List.nil_append, runesAfter, decodeRune, isRune2, isRune3,
      isContinuation, List.getD_cons_zero, List.getD_cons_succ, e0, e1, e2]
    rw [if_neg (by omega), if_neg (by simp), if_pos (by simp; omega)]
    simp only [runesAfter, hr]
  · have e0 := toNat_ofNat_lt (n := n / 262144 % 8 + 240) (by omega)
    have e1 := toNat_ofNat_lt (n := n / 4096 % 64 + 128) (by omega)
    have e2 := toNat_ofNat_lt (n := n / 64 % 64 + 128) (by omega)
    have e3 := toNat_ofNat_lt (n := n % 64 + 128) (by omega)
    have hr : (n / 262144 % 8 + 240) % 8 * 262144 + (n / 4096 % 64 + 128) % 64 * 4096 +
        (n / 64 % 64 + 128) % 64 * 64 + (n % 64 + 128) % 64 = n := by omega
    simp only [runes, List.cons_append, List.nil_append, runesAfter, decodeRune, isRune2, isRune3,
      isRune4, isContinuation, List.getD_cons_zero, List.getD_cons_succ, e0, e1, e2, e3]
    rw [if_neg (by omega), if_neg (by simp), if_neg (by simp),
      if_pos (by simp; omega)]
    simp only [runesAfter, hr]

def encodeRunes (cs : List Char) : Bytes := cs.flatMap String.utf8EncodeChar

@[simp] theorem runes_encodeRunes (cs : List Char) : runes (encodeRunes cs) = cs := by
  induction cs with
  | nil => rfl
  | cons c cs ih => rw [encodeRunes, List.flatMap_cons, runes_utf8EncodeChar_append, ← encodeRunes,
      ih]

def chars (s : String) : List Char := runes (utf8 s)

@[simp] theorem chars_eq_toList (s : String) : chars s = s.toList := by
  conv_lhs => rw [← @String.ofList_toList s]
  simp only [chars, utf8, String.ofList, List.utf8Encode, List.data_toByteArray,
    List.toList_toArray]
  exact runes_encodeRunes _

def isSpace (c : Char) : Bool :=
  let n := c.toNat
  (9 ≤ n && n ≤ 13) || n == 0x20 || n == 0x85 || n == 0xA0 || n == 0x1680 ||
    (0x2000 ≤ n && n ≤ 0x200a) || n == 0x2028 || n == 0x2029 || n == 0x202f ||
    n == 0x205f || n == 0x3000

def trimChars (p : Char → Bool) (cs : List Char) : List Char :=
  ((cs.dropWhile p).reverse.dropWhile p).reverse

def trimSpace (s : String) : String := String.ofList (trimChars isSpace (chars s))

def blank (s : String) : Bool := trimSpace s == ""

theorem trimChars_eq_self {p : Char → Bool} {cs : List Char} (h : ∀ c ∈ cs, p c = false) :
    trimChars p cs = cs := by
  have hdrop (ds : List Char) (hd : ∀ c ∈ ds, p c = false) : ds.dropWhile p = ds := by
    cases ds with
    | nil => rfl
    | cons d ds => simp [hd d List.mem_cons_self]
  have hrev : ∀ c ∈ cs.reverse, p c = false := fun c hc => h c (List.mem_reverse.mp hc)
  rw [trimChars, hdrop cs h, hdrop cs.reverse hrev, List.reverse_reverse]

theorem trimSpace_eq_self {s : String} (h : ∀ c ∈ s.toList, isSpace c = false) :
    trimSpace s = s := by
  rw [trimSpace, chars_eq_toList, trimChars_eq_self h, String.ofList_toList]

def trimPrefix (s pre : String) : String :=
  if (chars pre).isPrefixOf (chars s) then String.ofList ((chars s).drop (chars pre).length)
  else s

def trimSuffix (s suf : String) : String :=
  if (chars suf).isSuffixOf (chars s) then
    String.ofList ((chars s).take ((chars s).length - (chars suf).length))
  else s

def foldRune (c : Char) : Char :=
  if 'a' ≤ c ∧ c ≤ 'z' then Char.ofNat (c.toNat - 32)
  else if c = '\u017f' then 'S' else if c = '\u212a' then 'K' else c

def equalFold (s t : String) : Bool := (chars s).map foldRune == (chars t).map foldRune

/-- The ranges in which every other rune, from the first on, is the capital of the next. -/
def alternatingCases : List (Nat × Nat) :=
  [(256, 302), (306, 310), (313, 327), (330, 374), (377, 381), (386, 388), (391, 391), (395, 395),
   (401, 401), (408, 408), (416, 420), (423, 423), (428, 428), (431, 431), (435, 437), (440, 440),
   (444, 444), (453, 453), (456, 456), (459, 475), (478, 494), (498, 500), (504, 542), (546, 562),
   (571, 571), (577, 577), (582, 590), (880, 882), (886, 886), (984, 1006), (1015, 1015),
   (1018, 1018), (1120, 1152), (1162, 1214), (1217, 1229), (1232, 1326), (7680, 7828),
   (7840, 7934), (8579, 8579), (11360, 11360), (11367, 11371), (11378, 11378), (11381, 11381),
   (11392, 11490), (11499, 11501), (11506, 11506), (42560, 42604), (42624, 42650), (42786, 42798),
   (42802, 42862), (42873, 42875), (42878, 42886), (42891, 42891), (42896, 42898), (42902, 42920),
   (42932, 42946), (42951, 42953), (42960, 42960), (42966, 42968), (42997, 42997)]

/-- The other ranges of capitals, with the distance to the small letters. -/
def shiftedCases : List (Nat × Nat × Int) :=
  [(192, 214, 32), (216, 222, 32), (304, 304, -199), (376, 376, -121), (385, 385, 210),
   (390, 390, 206), (393, 394, 205), (398, 398, 79), (399, 399, 202), (400, 400, 203),
   (403, 403, 205), (404, 404, 207), (406, 406, 211), (407, 407, 209), (412, 412, 211),
   (413, 413, 213), (415, 415, 214), (422, 422, 218), (425, 425, 218), (430, 430, 218),
   (433, 434, 217), (439, 439, 219), (452, 452, 2), (455, 455, 2), (458, 458, 2), (497, 497, 2),
   (502, 502, -97), (503, 503, -56), (544, 544, -130), (570, 570, 10795), (573, 573, -163),
   (574, 574, 10792), (579, 579, -195), (580, 580, 69), (581, 581, 71), (895, 895, 116),
   (902, 902, 38), (904, 906, 37), (908, 908, 64), (910, 911, 63), (913, 929, 32), (931, 939, 32),
   (975, 975, 8), (1012, 1012, -60), (1017, 1017, -7), (1021, 1023, -130), (1024, 1039, 80),
   (1040, 1071, 32), (1216, 1216, 15), (1329, 1366, 48), (4256, 4293, 7264), (4295, 4295, 7264),
   (4301, 4301, 7264), (5024, 5103, 38864), (5104, 5109, 8), (7312, 7354, -3008),
   (7357, 7359, -3008), (7838, 7838, -7615), (7944, 7951, -8), (7960, 7965, -8), (7976, 7983, -8),
   (7992, 7999, -8), (8008, 8013, -8), (8025, 8025, -8), (8027, 8027, -8), (8029, 8029, -8),
   (8031, 8031, -8), (8040, 8047, -8), (8072, 8079, -8), (8088, 8095, -8), (8104, 8111, -8),
   (8120, 8121, -8), (8122, 8123, -74), (8124, 8124, -9), (8136, 8139, -86), (8140, 8140, -9),
   (8152, 8153, -8), (8154, 8155, -100), (8168, 8169, -8), (8170, 8171, -112), (8172, 8172, -7),
   (8184, 8185, -128), (8186, 8187, -126), (8188, 8188, -9), (8486, 8486, -7517),
   (8490, 8490, -8383), (8491, 8491, -8262), (8498, 8498, 28), (8544, 8559, 16), (9398, 9423, 26),
   (11264, 11311, 48), (11362, 11362, -10743), (11363, 11363, -3814), (11364, 11364, -10727),
   (11373, 11373, -10780), (11374, 11374, -10749), (11375, 11375, -10783), (11376, 11376, -10782),
   (11390, 11391, -10815), (42877, 42877, -35332), (42893, 42893, -42280), (42922, 42922, -42308),
   (42923, 42923, -42319), (42924, 42924, -42315), (42925, 42925, -42305), (42926, 42926, -42308),
   (42928, 42928, -42258), (42929, 42929, -42282), (42930, 42930, -42261), (42931, 42931, 928),
   (42948, 42948, -48), (42949, 42949, -42307), (42950, 42950, -35384), (65313, 65338, 32),
   (66560, 66599, 40), (66736, 66771, 40), (66928, 66938, 39), (66940, 66954, 39),
   (66956, 66962, 39), (66964, 66965, 39), (68736, 68786, 64), (71840, 71871, 32),
   (93760, 93791, 32), (125184, 125217, 34)]

/-- `unicode.ToLower`. -/
def lowerRune (c : Char) : Char :=
  if c.toNat < 128 then if 'A' ≤ c ∧ c ≤ 'Z' then Char.ofNat (c.toNat + 32) else c
  else if alternatingCases.any fun r =>
      r.1 ≤ c.toNat && c.toNat ≤ r.2 && (c.toNat - r.1) % 2 == 0 then Char.ofNat (c.toNat + 1)
  else
    match shiftedCases.find? fun r => r.1 ≤ c.toNat && c.toNat ≤ r.2.1 with
    | some r => Char.ofNat (c.toNat + r.2.2).toNat
    | none => c

def toLower (s : String) : String := String.ofList ((chars s).map lowerRune)

theorem lowerRune_of_foldRune {c d : Char} (h : foldRune c = d)
    (hd : ('A' ≤ d ∧ d ≤ 'Z') ∧ d ≠ 'S' ∧ d ≠ 'K') : lowerRune c = lowerRune d := by
  rw [foldRune] at h
  split_ifs at h with hlow
  · have hrange : 97 ≤ c.toNat ∧ c.toNat ≤ 122 := hlow
    have hlower : ¬('A' ≤ c ∧ c ≤ 'Z') := fun hupper =>
      absurd (show c.toNat ≤ 90 from hupper.2) (by omega)
    have hvalid : (c.toNat - 32).isValidChar := .inl (by omega)
    have hcapital : d.toNat = c.toNat - 32 := by
      rw [← h, Char.ofNat, dif_pos hvalid]
      exact UInt32.toNat_ofNatLT
    rw [lowerRune, if_pos (by omega), if_neg hlower, lowerRune, if_pos (by omega), if_pos hd.1,
      hcapital, Nat.sub_add_cancel (by omega), Char.ofNat_toNat]
  · exact absurd h.symm hd.2.1
  · exact absurd h.symm hd.2.2
  · rw [h]

/-- Without `K` and `S` only the two cases of a letter have the same fold. -/
theorem toLower_of_equalFold {s t : String} (h : equalFold s t = true)
    (ht : ∀ d ∈ (chars t).map foldRune, ('A' ≤ d ∧ d ≤ 'Z') ∧ d ≠ 'S' ∧ d ≠ 'K') :
    toLower s = toLower t := by
  have hfold : (chars s).map foldRune = (chars t).map foldRune := eq_of_beq h
  have hlower : ∀ u : String, (∀ d ∈ (chars u).map foldRune,
      ('A' ≤ d ∧ d ≤ 'Z') ∧ d ≠ 'S' ∧ d ≠ 'K') →
      (chars u).map lowerRune = ((chars u).map foldRune).map lowerRune := by
    intro u hu
    rw [List.map_map]
    exact List.map_congr_left fun c hc => lowerRune_of_foldRune rfl (hu _ (List.mem_map_of_mem hc))
  rw [toLower, toLower, hlower s (hfold ▸ ht), hlower t ht, hfold]

def isHexDigit (c : Char) : Bool :=
  ('0' ≤ c && c ≤ '9') || ('a' ≤ c && c ≤ 'f') || ('A' ≤ c && c ≤ 'F')

def hexDigit (n : Nat) : Char := if n < 10 then Char.ofNat (48 + n) else Char.ofNat (87 + n)

def hexByte (b : UInt8) : List Char := [hexDigit (b.toNat / 16), hexDigit (b.toNat % 16)]

/-- `hex.EncodeToString`. -/
def hexEncode (bs : Bytes) : String := String.ofList (bs.flatMap hexByte)

/-- An `error` value. Formatted errors keep the format text and its arguments as the source
writes them. `wrapf` has one `%w` operand; `wrapv` also shows an error by `%v`, which
`errors.Is` does not look into. -/
inductive Error where
  | sentinel (text : String)
  | errorf (format : String) (args : List String)
  | wrapf (format : String) (args : List String) (cause : Error)
  | wrapv (format : String) (args : List String) (shown cause : Error)
  deriving DecidableEq, Repr

def Error.is : Error → Error → Bool
  | .wrapf format args cause, target => .wrapf format args cause == target || cause.is target
  | .wrapv format args shown cause, target =>
    .wrapv format args shown cause == target || cause.is target
  | e, target => e == target

@[simp] theorem Error.is_self (e : Error) : e.is e = true := by
  cases e <;> simp [Error.is]

end FleetLlmd.Go
