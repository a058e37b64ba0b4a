import FleetLlmd.Json.Agreement
import FleetLlmd.Json.Render
import FleetLlmd.Json.Untyped

/-!
# The canonical text of a decision package

`canonicalGCLJSON` reads a package without types and writes it back with sorted keys, no
blanks and one spelling for every number. The text determines the package as far as an
untyped decoder sees it, up to the spelling of its numbers.
-/

namespace FleetLlmd.Intents
open Go Json

/-- `new(big.Int).SetString(raw, 10)` on the text of a JSON number. -/
def bigInt : List Char → Option Int
  | '-' :: cs => if allDigits cs then some (-(digitsValue cs : Nat)) else none
  | cs => if allDigits cs then some (digitsValue cs : Nat) else none

def isFloatChar (c : Char) : Bool := c == '.' || c == 'e' || c == 'E'

def canonicalEscaping : Escaping := escapingOf (fun _ => false) nofun

section Writer
variable (floorLog10 : Float64 → Int)

/-- `floorLog10 x` is `int(math.Floor(math.Log10(math.Abs(x))))`. -/
def canonicalFormat (x : Float64) : Nat → Int → List Char :=
  if x.magnitude = 0 ∨ (-4 ≤ floorLog10 x ∧ floorLog10 x < 16) then Float64.fixedText
  else Float64.scientificText 2

def canonicalGCLNumber (raw : List Char) : Except Error (List Char) :=
  if raw.any isFloatChar then
    match (Float64.parse raw).filter (fun x => !x.isNaN && !x.isInf) with
    | none => .error (.errorf "invalid canonical JSON float %q" [String.ofList raw])
    | some x =>
      match x.formatShortest (canonicalFormat floorLog10 x) with
      | none => .error (.errorf "invalid canonical JSON float %q" [String.ofList raw])
      | some result => .ok (if result.any isFloatChar then result else result ++ ['.', '0'])
  else
    match bigInt raw with
    | none => .error (.errorf "invalid canonical JSON integer %q" [String.ofList raw])
    | some n => .ok (intText n)

mutual

def writeCanonicalGCLJSON : Value → Except Error (List Char)
  | .null => .ok ['n', 'u', 'l', 'l']
  | .bool true => .ok ['t', 'r', 'u', 'e']
  | .bool false => .ok ['f', 'a', 'l', 's', 'e']
  | .number lit => canonicalGCLNumber floorLog10 lit
  | .float _ => .error (.errorf "unsupported canonical JSON value %T" ["float64"])
  | .string s => .ok (canonicalEscaping.quote s)
  | .array items => (writeCanonicalItems items).map arrayText
  | .object entries =>
    (writeCanonicalEntries entries).map fun texts => '{' :: (commaSep texts ++ ['}'])

def writeCanonicalItems : List Value → Except Error (List (List Char))
  | [] => .ok []
  | item :: items =>
    match writeCanonicalGCLJSON item, writeCanonicalItems items with
    | .ok text, .ok texts => .ok (text :: texts)
    | .error err, _ => .error err
    | _, .error err => .error err

def writeCanonicalEntries : List (String × Value) → Except Error (List (List Char))
  | [] => .ok []
  | (key, value) :: entries =>
    match writeCanonicalGCLJSON value, writeCanonicalEntries entries with
    | .ok text, .ok texts => .ok (memberText canonicalEscaping (key, text) :: texts)
    | .error err, _ => .error err
    | _, .error err => .error err

end

def canonicalGCLJSON (payload : Raw) : Except Error Bytes :=
  (writeCanonicalGCLJSON floorLog10 payload.toAny).map encodeRunes

def canonicalSpelling (lit : List Char) : List Char :=
  match canonicalGCLNumber floorLog10 lit with
  | .ok text => text
  | .error _ => lit

end Writer

variable {floorLog10 : Float64 → Int} {lit text : List Char}

/-! ## Numbers -/

theorem bigInt_signed {n : Int} (h : bigInt lit = some n) :
    ∃ neg ds, lit = Decimal.signed neg ds ∧ allDigits ds = true ∧
      n = if neg then -(digitsValue ds : Int) else digitsValue ds := by
  rw [bigInt.eq_def] at h
  split at h
  · next cs =>
    split_ifs at h with hdigits
    exact ⟨true, cs, rfl, hdigits, (Option.some.inj h).symm⟩
  · split_ifs at h with hdigits
    exact ⟨false, lit, rfl, hdigits, (Option.some.inj h).symm⟩

theorem allDigits_iff {ds : List Char} :
    allDigits ds = true ↔ ds ≠ [] ∧ ∀ c ∈ ds, isDigit c = true := by
  simp [allDigits]

theorem canonicalFormat_chars (x : Float64) (digits : Nat) (exp : Int) :
    ∀ c ∈ canonicalFormat floorLog10 x digits exp, isNumberChar c = true := by
  rw [canonicalFormat]
  split_ifs
  · exact Decimal.fixedText_chars digits exp
  · exact Decimal.scientificText_chars 2 digits exp

theorem canonicalFormat_whole {x : Float64} {digits : Nat} {exp : Int}
    (h : (canonicalFormat floorLog10 x digits exp).any isFloatChar = false) :
    ∀ c ∈ canonicalFormat floorLog10 x digits exp, isDigit c = true := by
  rw [List.any_eq_false] at h
  rw [canonicalFormat] at h ⊢
  split_ifs at h ⊢
  · exact Decimal.fixedText_whole fun hpoint => h '.' hpoint rfl
  · exact absurd rfl (h 'e' (Decimal.mem_scientificText 2 digits exp))

theorem canonicalGCLNumber_cases (h : canonicalGCLNumber floorLog10 lit = .ok text) :
    (∃ n, bigInt lit = some n ∧ text = intText n) ∨
      ∃ x result digits exp, Float64.parse lit = some x ∧
        x.formatShortest (canonicalFormat floorLog10 x) = some result ∧
        result = Decimal.signed x.isNeg (canonicalFormat floorLog10 x digits exp) ∧
        text = if result.any isFloatChar then result else result ++ ['.', '0'] := by
  rw [canonicalGCLNumber] at h
  split_ifs at h
  · split at h
    · cases h
    · next x hx =>
      split at h
      · cases h
      · next result hresult =>
        obtain ⟨digits, exp, hsigned⟩ := Decimal.formatShortest_signed hresult
        exact Or.inr ⟨x, result, digits, exp, (Option.filter_eq_some_iff.mp hx).1, hresult, hsigned,
          (Except.ok.inj h).symm⟩
  · split at h
    · cases h
    · next n hn => exact Or.inl ⟨n, hn, (Except.ok.inj h).symm⟩

theorem any_signed (neg : Bool) (cs : List Char) :
    (Decimal.signed neg cs).any isFloatChar = cs.any isFloatChar := by
  cases neg <;> rfl

theorem signed_chars {neg : Bool} {cs : List Char} (h : ∀ c ∈ cs, isNumberChar c = true) :
    ∀ c ∈ Decimal.signed neg cs, isNumberChar c = true := by
  cases neg with
  | false => exact h
  | true => exact List.forall_mem_cons.mpr ⟨rfl, h⟩

theorem intText_signed (n : Int) :
    intText n = Decimal.signed (decide (n < 0)) (natText n.natAbs) := by
  cases n with
  | ofNat n =>
    rw [decide_eq_false (Int.not_lt.mpr (Int.natCast_nonneg n) : ¬ Int.ofNat n < 0)]
    rfl
  | negSucc n =>
    rw [decide_eq_true (Int.negSucc_lt_zero n)]
    rfl

theorem canonicalGCLNumber_chars (h : canonicalGCLNumber floorLog10 lit = .ok text) :
    text ≠ [] ∧ ∀ c ∈ text, isNumberChar c = true := by
  rcases canonicalGCLNumber_cases h with ⟨n, -, rfl⟩ | ⟨x, result, digits, exp, -, -, hresult, rfl⟩
  · rw [intText_signed]
    refine ⟨?_, signed_chars fun c hc => Decimal.isNumberChar_digit (isDigit_natText _ c hc)⟩
    cases decide (n < 0) with
    | false => exact natText_ne_nil _
    | true => exact List.cons_ne_nil _ _
  · have hchars : ∀ c ∈ result, isNumberChar c = true := by
      rw [hresult]
      exact signed_chars (canonicalFormat_chars x digits exp)
    split_ifs with hfloat
    · refine ⟨?_, hchars⟩
      rintro rfl
      cases hfloat
    · refine ⟨by simp, fun c hc => ?_⟩
      rcases List.mem_append.mp hc with hc | hc
      · exact hchars c hc
      · rcases List.mem_cons.mp hc with rfl | hc
        · rfl
        · rw [List.mem_singleton.mp hc]
          rfl

def isWholeNegativeZero : List Char → Bool
  | '-' :: cs => allDigits cs && digitsValue cs == 0
  | _ => false

theorem parse_canonicalSpelling (h : isWholeNegativeZero lit = false) :
    Float64.parse (canonicalSpelling floorLog10 lit) = Float64.parse lit := by
  rw [canonicalSpelling]
  split
  · next text hok =>
    rcases canonicalGCLNumber_cases hok with
      ⟨n, hn, rfl⟩ | ⟨x, result, digits, exp, hparse, hshort, hresult, rfl⟩
    · obtain ⟨neg, ds, rfl, hdigits, rfl⟩ := bigInt_signed hn
      have hsign :
          decide ((if neg then -(digitsValue ds : Int) else digitsValue ds) < 0) = neg := by
        cases neg with
        | false => simp
        | true =>
          have hzero : digitsValue ds ≠ 0 := by
            simpa [Decimal.signed, isWholeNegativeZero, hdigits] using h
          simp
          omega
      have habs : (if neg then -(digitsValue ds : Int) else digitsValue ds).natAbs =
          digitsValue ds := by
        cases neg <;> simp
      rw [intText_signed, hsign, habs, Decimal.parse_whole neg (isDigit_natText _),
        digitsValue_natText, Decimal.parse_whole neg (allDigits_iff.mp hdigits).2]
    · rw [hparse, ← Float64.parse_formatShortest hshort]
      split_ifs with hfloat
      · rfl
      · rw [Bool.not_eq_true, hresult, any_signed] at hfloat
        have hwhole := canonicalFormat_whole hfloat
        rw [hresult, ← Decimal.parse_point_zero x.isNeg hwhole]
        cases x.isNeg <;> rfl
  · rfl

/-! ## The text parses, and determines the value -/

theorem map_ok {α β : Type} {g : α → β} {x : Except Error α} {b : β} (h : x.map g = .ok b) :
    ∃ a, x = .ok a ∧ b = g a := by
  cases x with
  | error err => cases h
  | ok a => exact ⟨a, rfl, (Except.ok.inj h).symm⟩

theorem validMagnitude_canonicalFormat {x : Float64} {result : List Char}
    (h : x.formatShortest (canonicalFormat floorLog10 x) = some result) :
    ∃ digits exp, result = Decimal.signed x.isNeg (canonicalFormat floorLog10 x digits exp) ∧
      validMagnitude (canonicalFormat floorLog10 x digits exp) = true := by
  by_cases hzero : x.magnitude = 0
  · refine ⟨0, 0, Decimal.formatShortest_zero hzero h, ?_⟩
    rw [canonicalFormat, if_pos (.inl hzero)]
    rfl
  · rw [canonicalFormat] at h ⊢
    split_ifs at h ⊢
    · obtain ⟨digits, exp, hresult, hdigits⟩ := Decimal.formatShortest_fixedText hzero h
      exact ⟨digits, exp, hresult, Decimal.validMagnitude_fixedText hdigits exp⟩
    · obtain ⟨digits, exp, hresult⟩ := Decimal.formatShortest_signed h
      exact ⟨digits, exp, hresult, Decimal.validMagnitude_scientificText 2 digits exp⟩

theorem canonicalGCLNumber_valid (h : canonicalGCLNumber floorLog10 lit = .ok text) :
    validNumber text = true := by
  rcases canonicalGCLNumber_cases h with ⟨n, -, rfl⟩ | ⟨x, result, -, -, -, hshort, -, rfl⟩
  · exact validNumber_intText n
  · obtain ⟨digits, exp, hresult, hvalid⟩ := validMagnitude_canonicalFormat hshort
    rw [hresult, any_signed]
    split_ifs with hfloat
    · exact Decimal.validNumber_signed hvalid
    · have hpoint := Decimal.validMagnitude_point_zero hvalid
        (canonicalFormat_whole (Bool.eq_false_of_not_eq_true hfloat))
      have hsigned := @Decimal.validNumber_signed x.isNeg _ hpoint
      rw [Decimal.signed] at hsigned ⊢
      split_ifs at hsigned ⊢ <;> exact hsigned

variable {texts : List (List Char)} {entries : List (String × Value)}

theorem writeItems_cons {item : Value} {items : List Value}
    (h : writeCanonicalItems floorLog10 (item :: items) = .ok texts) :
    ∃ text rest, writeCanonicalGCLJSON floorLog10 item = .ok text ∧
      writeCanonicalItems floorLog10 items = .ok rest ∧ texts = text :: rest := by
  rw [writeCanonicalItems] at h
  split at h
  · next text rest htext hrest => exact ⟨text, rest, htext, hrest, (Except.ok.inj h).symm⟩
  all_goals cases h

theorem writeEntries_cons {entry : String × Value}
    (h : writeCanonicalEntries floorLog10 (entry :: entries) = .ok texts) :
    ∃ text rest, writeCanonicalGCLJSON floorLog10 entry.2 = .ok text ∧
      writeCanonicalEntries floorLog10 entries = .ok rest ∧
      texts = memberText canonicalEscaping (entry.1, text) :: rest := by
  rw [writeCanonicalEntries] at h
  split at h
  · next text rest htext hrest => exact ⟨text, rest, htext, hrest, (Except.ok.inj h).symm⟩
  all_goals cases h

theorem rendered_items {n : Nat} {items : List Value}
    (ih : ∀ v ∈ items, ∀ text, writeCanonicalGCLJSON floorLog10 v = .ok text →
      ∃ R : Rendered, R.text = text ∧ R.depth ≤ n ∧
        R.raw.toAny = v.mapNumbers (canonicalSpelling floorLog10))
    (h : writeCanonicalItems floorLog10 items = .ok texts) :
    ∃ Rs : List Rendered, Rs.map (·.text) = texts ∧ (∀ R ∈ Rs, R.depth ≤ n) ∧
      Rs.map (·.raw.toAny) = Value.mapNumbersItems (canonicalSpelling floorLog10) items := by
  induction items generalizing texts with
  | nil =>
    cases h
    exact ⟨[], rfl, nofun, rfl⟩
  | cons item items ihs =>
    obtain ⟨hitem, hitems⟩ := List.forall_mem_cons.mp ih
    obtain ⟨text, texts, htext, htexts, rfl⟩ := writeItems_cons h
    obtain ⟨R, rfl, hdepth, hvalue⟩ := hitem text htext
    obtain ⟨Rs, rfl, hdepths, hvalues⟩ := ihs hitems htexts
    refine ⟨R :: Rs, rfl, List.forall_mem_cons.mpr ⟨hdepth, hdepths⟩, ?_⟩
    rw [List.map_cons, hvalue, hvalues, Value.mapNumbersItems]

theorem rendered_entries {n : Nat}
    (ih : ∀ e ∈ entries, ∀ text, writeCanonicalGCLJSON floorLog10 e.2 = .ok text →
      ∃ R : Rendered, R.text = text ∧ R.depth ≤ n ∧
        R.raw.toAny = e.2.mapNumbers (canonicalSpelling floorLog10))
    (h : writeCanonicalEntries floorLog10 entries = .ok texts) :
    ∃ Rs : List (String × Rendered), Rendered.memberTexts canonicalEscaping Rs = texts ∧
      (∀ R ∈ Rs, R.2.depth ≤ n) ∧ (Rs.map fun R => (R.1, R.2.raw.toAny)) =
        Value.mapNumbersEntries (canonicalSpelling floorLog10) entries := by
  induction entries generalizing texts with
  | nil =>
    cases h
    exact ⟨[], rfl, nofun, rfl⟩
  | cons e entries ihs =>
    obtain ⟨hentry, hentries⟩ := List.forall_mem_cons.mp ih
    obtain ⟨text, texts, htext, htexts, rfl⟩ := writeEntries_cons h
    obtain ⟨R, rfl, hdepth, hvalue⟩ := hentry text htext
    obtain ⟨Rs, rfl, hdepths, hvalues⟩ := ihs hentries htexts
    refine ⟨(e.1, R) :: Rs, rfl, List.forall_mem_cons.mpr ⟨hdepth, hdepths⟩, ?_⟩
    rw [List.map_cons, hvalue, hvalues, Value.mapNumbersEntries]

theorem ordered_mapNumbersEntries (f : List Char → List Char)
    (h : Ordered entries) : Ordered (Value.mapNumbersEntries f entries) := by
  rw [Value.mapNumbersEntries_eq_map]
  exact List.pairwise_map.mpr h

theorem rendered_of_write {n : Nat} {v : Value} (hv : Within n v) (text : List Char)
    (h : writeCanonicalGCLJSON floorLog10 v = .ok text) :
    ∃ R : Rendered, R.text = text ∧ R.depth ≤ n ∧
      R.raw.toAny = v.mapNumbers (canonicalSpelling floorLog10) := by
  induction hv generalizing text with
  | null n =>
    cases h
    exact ⟨.null, rfl, n.zero_le, rfl⟩
  | bool n b =>
    cases b <;> cases h
    · exact ⟨.bool false, rfl, n.zero_le, rfl⟩
    · exact ⟨.bool true, rfl, n.zero_le, rfl⟩
  | number n lit =>
    refine ⟨.number text (canonicalGCLNumber_valid h) (canonicalGCLNumber_chars h).2, rfl,
      n.zero_le, ?_⟩
    have hnumber : canonicalGCLNumber floorLog10 lit = .ok text := h
    rw [Value.mapNumbers, canonicalSpelling, hnumber]
    rfl
  | string n s =>
    cases h
    exact ⟨.string canonicalEscaping s, rfl, n.zero_le,
      congrArg Value.string (canonicalEscaping.unquote_body s)⟩
  | array _ ih =>
    obtain ⟨texts, htexts, rfl⟩ := map_ok h
    obtain ⟨Rs, rfl, hdepth, hvalues⟩ := rendered_items ih htexts
    refine ⟨.array Rs, rfl, Nat.succ_le_succ (Rendered.maxDepth_le hdepth), ?_⟩
    rw [Value.mapNumbers, ← hvalues]
    simp only [Rendered.array, Raw.toAny, Raw.toAnyItems_eq_map, List.map_map, Function.comp_def]
  | object hordered _ ih =>
    obtain ⟨texts, htexts, rfl⟩ := map_ok h
    obtain ⟨Rs, rfl, hdepth, hvalues⟩ := rendered_entries ih htexts
    refine ⟨.object canonicalEscaping Rs, ?_, Nat.succ_le_succ (Rendered.maxDepth_le ?_), ?_⟩
    · simp only [Rendered.object, objectText, Rendered.memberTexts, List.map_map, Function.comp_def]
    · exact List.forall_mem_map.mpr hdepth
    · have hsorted := ordered_mapNumbersEntries (canonicalSpelling floorLog10) hordered
      rw [← hvalues] at hsorted
      rw [Value.mapNumbers, ← hvalues, Rendered.object, Raw.toAny, Raw.toAnyEntries_of_ordered]
      · simp only [List.nil_append, List.map_map, Function.comp_def]
      · simpa only [List.nil_append, List.map_map, Function.comp_def] using hsorted

theorem value_of_canonicalGCLJSON {r r' : Raw} {canonical : Bytes}
    (h : canonicalGCLJSON floorLog10 r = .ok canonical)
    (h' : canonicalGCLJSON floorLog10 r' = .ok canonical) :
    r.value (canonicalSpelling floorLog10) = r'.value (canonicalSpelling floorLog10) := by
  obtain ⟨n, hwithin⟩ := Within.exists_toAny r
  obtain ⟨n', hwithin'⟩ := Within.exists_toAny r'
  obtain ⟨text, htext, rfl⟩ := map_ok h
  obtain ⟨text', htext', heq⟩ := map_ok h'
  obtain ⟨R, hR, hdepth, hvalue⟩ := rendered_of_write hwithin text htext
  obtain ⟨R', hR', hdepth', hvalue'⟩ := rendered_of_write hwithin' text' htext'
  have htexts : R.text = R'.text := by
    have hruns := congrArg runes heq
    rw [runes_encodeRunes, runes_encodeRunes] at hruns
    rw [hR, hR', hruns]
  -- both are what the parser makes of the one text
  have hread := R.reads (2 * R.text.length + 1) (max n n') [] le_rfl
    (hdepth.trans (le_max_left n n')) clear_nil
  rw [htexts, R'.reads (2 * R'.text.length + 1) (max n n') [] le_rfl
    (hdepth'.trans (le_max_right n n')) clear_nil] at hread
  rw [Raw.value, Raw.value, ← hvalue, ← hvalue', (Prod.mk.inj (Option.some.inj hread)).1]

end FleetLlmd.Intents
