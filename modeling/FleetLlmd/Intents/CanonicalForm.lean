import FleetLlmd.Intents.GCLCanonical

/-!
# Canonical JSON is canonical

On texts whose numbers are integers, `canonicalGCLJSON` is a normal form: it always succeeds, it
keeps the value a text denotes, texts of one value have one canonical text, and that text is its
own. The decoder reads texts up to a nesting depth, and so does the normal form.
-/

namespace FleetLlmd.Intents
open Go Json

variable {floorLog10 : Float64 → Int}

/-- `canonicalGCLJSON` on the bytes of a text. -/
def canonicalGCLBytes (floorLog10 : Float64 → Int) (payload : Bytes) : Except Error Bytes :=
  match parse (runes payload) with
  | none => .error syntaxError
  | some r => canonicalGCLJSON floorLog10 r

theorem canonicalGCLBytes_of_parse {payload : Bytes} {r : Raw}
    (h : parse (runes payload) = some r) :
    canonicalGCLBytes floorLog10 payload =
      (writeCanonicalGCLJSON floorLog10 r.toAny).map encodeRunes := by
  rw [canonicalGCLBytes, h]
  rfl

def isInteger (lit : List Char) : Bool := (bigInt lit).isSome

def numeral (lit : List Char) : List Char := intText ((bigInt lit).getD 0)

def meaning (r : Raw) : Value := r.value numeral

structure IntegerText (payload : Bytes) (r : Raw) : Prop where
  parses : parse (runes payload) = some r
  integers : r.toAny.allNumbers isInteger = true

theorem bigInt_intText (n : Int) : bigInt (intText n) = some n := by
  cases n with
  | negSucc n =>
    simp only [intText, bigInt, Rendered.allDigits_natText, digitsValue_natText, if_true]
    rfl
  | ofNat n =>
    obtain ⟨c, cs, htext, hc⟩ := Rendered.natText_head n
    have hdigits := Rendered.allDigits_natText n
    have hvalue := digitsValue_natText n
    rw [htext] at hdigits hvalue
    rw [intText, htext, bigInt.eq_def]
    split
    · next heq => exact absurd (List.cons.inj heq).1 hc
    · rw [hdigits, hvalue, if_pos rfl]
      rfl

theorem canonicalGCLNumber_integer {lit : List Char} {n : Int} (h : bigInt lit = some n) :
    canonicalGCLNumber floorLog10 lit = .ok (intText n) := by
  obtain ⟨neg, ds, rfl, hdigits, -⟩ := bigInt_signed h
  have hwhole : (Decimal.signed neg ds).any isFloatChar = false := by
    rw [any_signed, List.any_eq_false]
    intro c hc hfloat
    have hdigit := (allDigits_iff.mp hdigits).2 c hc
    simp only [isFloatChar, Bool.or_eq_true, beq_iff_eq] at hfloat
    rcases hfloat with (rfl | rfl) | rfl <;> cases hdigit
  rw [canonicalGCLNumber, hwhole, if_neg Bool.false_ne_true, h]

structure Spelled (floorLog10 : Float64 → Int) (v : Value) (text : List Char) : Prop where
  write : writeCanonicalGCLJSON floorLog10 v = .ok text
  numerals : writeCanonicalGCLJSON floorLog10 (v.mapNumbers numeral) = .ok text
  spelling : v.mapNumbers (canonicalSpelling floorLog10) = v.mapNumbers numeral
  again : (v.mapNumbers numeral).mapNumbers numeral = v.mapNumbers numeral

theorem Spelled.number {lit : List Char} (h : isInteger lit = true) :
    Spelled floorLog10 (.number lit) (numeral lit) := by
  obtain ⟨n, hn⟩ := Option.isSome_iff_exists.mp h
  have hnumeral : numeral lit = intText n := by rw [numeral, hn]; rfl
  have hwrite : canonicalGCLNumber floorLog10 lit = .ok (intText n) := canonicalGCLNumber_integer hn
  have hagain := @canonicalGCLNumber_integer floorLog10 _ n (bigInt_intText n)
  constructor
  · rw [hnumeral]
    exact hwrite
  · rw [Value.mapNumbers, hnumeral]
    exact hagain
  · rw [Value.mapNumbers, Value.mapNumbers, canonicalSpelling, hwrite, hnumeral]
  · rw [Value.mapNumbers, Value.mapNumbers, hnumeral, numeral, bigInt_intText]
    rfl

theorem Spelled.array {items : List Value} (hints : Value.allNumbersItems isInteger items = true)
    (ih : ∀ v ∈ items, v.allNumbers isInteger = true → ∃ text, Spelled floorLog10 v text) :
    ∃ texts, writeCanonicalItems floorLog10 items = .ok texts ∧
      writeCanonicalItems floorLog10 (Value.mapNumbersItems numeral items) = .ok texts ∧
      Value.mapNumbersItems (canonicalSpelling floorLog10) items =
        Value.mapNumbersItems numeral items ∧
      Value.mapNumbersItems numeral (Value.mapNumbersItems numeral items) =
        Value.mapNumbersItems numeral items := by
  induction items with
  | nil => exact ⟨[], rfl, rfl, rfl, rfl⟩
  | cons item items ihs =>
    rw [Value.allNumbersItems, Bool.and_eq_true] at hints
    obtain ⟨hitem, hitems⟩ := List.forall_mem_cons.mp ih
    obtain ⟨text, h⟩ := hitem hints.1
    obtain ⟨texts, hwrite, hnumerals, hspelling, hagain⟩ := ihs hints.2 hitems
    refine ⟨text :: texts, ?_, ?_, ?_, ?_⟩
    · rw [writeCanonicalItems, h.write, hwrite]
    · rw [Value.mapNumbersItems, writeCanonicalItems, h.numerals, hnumerals]
    · rw [Value.mapNumbersItems, Value.mapNumbersItems, h.spelling, hspelling]
    · rw [Value.mapNumbersItems, Value.mapNumbersItems, h.again, hagain]

theorem Spelled.object {entries : List (String × Value)}
    (hints : Value.allNumbersEntries isInteger entries = true)
    (ih : ∀ e ∈ entries, e.2.allNumbers isInteger = true → ∃ text, Spelled floorLog10 e.2 text) :
    ∃ texts, writeCanonicalEntries floorLog10 entries = .ok texts ∧
      writeCanonicalEntries floorLog10 (Value.mapNumbersEntries numeral entries) = .ok texts ∧
      Value.mapNumbersEntries (canonicalSpelling floorLog10) entries =
        Value.mapNumbersEntries numeral entries ∧
      Value.mapNumbersEntries numeral (Value.mapNumbersEntries numeral entries) =
        Value.mapNumbersEntries numeral entries := by
  induction entries with
  | nil => exact ⟨[], rfl, rfl, rfl, rfl⟩
  | cons e entries ihs =>
    rw [Value.allNumbersEntries, Bool.and_eq_true] at hints
    obtain ⟨hentry, hentries⟩ := List.forall_mem_cons.mp ih
    obtain ⟨text, h⟩ := hentry hints.1
    obtain ⟨texts, hwrite, hnumerals, hspelling, hagain⟩ := ihs hints.2 hentries
    refine ⟨memberText canonicalEscaping (e.1, text) :: texts, ?_, ?_, ?_, ?_⟩
    · rw [writeCanonicalEntries, h.write, hwrite]
    · rw [Value.mapNumbersEntries, writeCanonicalEntries, h.numerals, hnumerals]
    · rw [Value.mapNumbersEntries, Value.mapNumbersEntries, h.spelling, hspelling]
    · rw [Value.mapNumbersEntries, Value.mapNumbersEntries, h.again, hagain]

theorem Spelled.of_integers {n : Nat} {v : Value} (hv : Within n v)
    (hints : v.allNumbers isInteger = true) : ∃ text, Spelled floorLog10 v text := by
  induction hv with
  | null n => exact ⟨_, rfl, rfl, rfl, rfl⟩
  | bool n b => cases b <;> exact ⟨_, rfl, rfl, rfl, rfl⟩
  | number n lit => exact ⟨_, .number hints⟩
  | string n s => exact ⟨_, rfl, rfl, rfl, rfl⟩
  | array _ ih =>
    obtain ⟨texts, hwrite, hnumerals, hspelling, hagain⟩ := Spelled.array hints ih
    refine ⟨arrayText texts, ?_, ?_, congrArg Value.array hspelling, congrArg Value.array hagain⟩
    · rw [writeCanonicalGCLJSON, hwrite]
      rfl
    · rw [Value.mapNumbers, writeCanonicalGCLJSON, hnumerals]
      rfl
  | object _ _ ih =>
    obtain ⟨texts, hwrite, hnumerals, hspelling, hagain⟩ := Spelled.object hints ih
    refine ⟨'{' :: (commaSep texts ++ ['}']), ?_, ?_, congrArg Value.object hspelling,
      congrArg Value.object hagain⟩
    · rw [writeCanonicalGCLJSON, hwrite]
      rfl
    · rw [Value.mapNumbers, writeCanonicalGCLJSON, hnumerals]
      rfl

section Normal
variable {payload payload' : Bytes} {r r' : Raw}

theorem IntegerText.spelled (h : IntegerText payload r) :
    ∃ text, Spelled floorLog10 r.toAny text ∧
      canonicalGCLBytes floorLog10 payload = .ok (encodeRunes text) := by
  obtain ⟨text, hspelled⟩ := Spelled.of_integers (Within.of_parse_eq h.parses) h.integers
  refine ⟨text, hspelled, ?_⟩
  rw [canonicalGCLBytes_of_parse h.parses, hspelled.write]
  rfl

theorem IntegerText.normal {text : List Char} (h : IntegerText payload r)
    (hspelled : Spelled floorLog10 r.toAny text) :
    ∃ s, parse (runes (encodeRunes text)) = some s ∧ meaning s = meaning r ∧
      canonicalGCLBytes floorLog10 (encodeRunes text) = .ok (encodeRunes text) := by
  obtain ⟨R, rfl, hdepth, hvalue⟩ :=
    rendered_of_write (Within.of_parse_eq h.parses) text hspelled.write
  rw [hspelled.spelling] at hvalue
  have hparse : parse (runes (encodeRunes R.text)) = some R.raw := by
    rw [runes_encodeRunes, R.parse_text hdepth]
  refine ⟨R.raw, hparse, ?_, ?_⟩
  · rw [meaning, Raw.value, hvalue, hspelled.again]
    rfl
  · rw [canonicalGCLBytes_of_parse hparse, hvalue, hspelled.numerals]
    rfl

/-- For texts that nest at most ten thousand deep, the canonical text exists, denotes the same
value, is its own canonical text, and is shared exactly by the texts of one value. -/
theorem canonical_json_normal_form (h : IntegerText payload r) (h' : IntegerText payload' r') :
    ∃ out out' s, canonicalGCLBytes floorLog10 payload = .ok out ∧
      canonicalGCLBytes floorLog10 payload' = .ok out' ∧
      parse (runes out) = some s ∧ meaning s = meaning r ∧
      (out = out' ↔ meaning r = meaning r') ∧
      canonicalGCLBytes floorLog10 out = .ok out := by
  obtain ⟨text, hspelled, hout⟩ := @IntegerText.spelled floorLog10 _ _ h
  obtain ⟨text', hspelled', hout'⟩ := @IntegerText.spelled floorLog10 _ _ h'
  obtain ⟨s, hparse, hsame, hagain⟩ := h.normal hspelled
  refine ⟨_, _, s, hout, hout', hparse, hsame, ?_, hagain⟩
  constructor
  · intro heq
    rw [canonicalGCLBytes, h.parses] at hout
    rw [canonicalGCLBytes, h'.parses, ← heq] at hout'
    have hvalue := value_of_canonicalGCLJSON hout hout'
    rw [Raw.value, Raw.value, hspelled.spelling, hspelled'.spelling] at hvalue
    exact hvalue
  · intro hvalue
    have hnumerals := hspelled.numerals
    rw [show r.toAny.mapNumbers numeral = r'.toAny.mapNumbers numeral from hvalue,
      hspelled'.numerals] at hnumerals
    rw [Except.ok.inj hnumerals]

end Normal

/-- Two spellings of one value. -/
theorem sample_normal_form :
    let R := Rendered.array [.number ['-', '0'] rfl (by simp [isNumberChar, isDigit]), .int 12]
    let R' := Rendered.array [.int 0, .int 12]
    ∃ out, canonicalGCLBytes (fun _ => 0) (encodeRunes R.text) = .ok out ∧
      canonicalGCLBytes (fun _ => 0) (encodeRunes R'.text) = .ok out := by
  intro R R'
  have h : IntegerText (encodeRunes R.text) R.raw :=
    ⟨by rw [runes_encodeRunes, R.parse_text (by decide)], rfl⟩
  have h' : IntegerText (encodeRunes R'.text) R'.raw :=
    ⟨by rw [runes_encodeRunes, R'.parse_text (by decide)], rfl⟩
  obtain ⟨out, out', -, hout, hout', -, -, hiff, -⟩ :=
    @canonical_json_normal_form (fun _ => 0) _ _ _ _ h h'
  rw [← hiff.mpr rfl] at hout'
  exact ⟨out, hout, hout'⟩

/-! ## Deep texts -/

def nestedArrays : Nat → Rendered
  | 0 => .array []
  | n + 1 => .array [nestedArrays n]

theorem depth_nestedArrays (n : Nat) : (nestedArrays n).depth = n + 1 := by
  induction n with
  | zero => rfl
  | succ n ih => simp [nestedArrays, Rendered.array, Rendered.maxDepth, ih]

theorem parseValue_nestedArrays {n d : Nat} (h : d ≤ n) (fuel : Nat) (rest : List Char) :
    parseValue fuel d ((nestedArrays n).text ++ rest) = none := by
  induction d generalizing n fuel rest with
  | zero => cases fuel <;> cases n <;> rfl
  | succ d ih =>
    obtain ⟨n, rfl⟩ := Nat.exists_eq_add_of_le' (show 1 ≤ n by omega)
    obtain ⟨t, ht⟩ : ∃ t, (nestedArrays n).text = '[' :: t := by cases n <;> exact ⟨_, rfl⟩
    have hinner (fuel : Nat) : parseValue fuel d ('[' :: (t ++ ']' :: rest)) = none := by
      rw [← List.cons_append, ← ht]
      exact ih (by omega) fuel _
    have htext : (nestedArrays (n + 1)).text ++ rest = '[' :: '[' :: (t ++ ']' :: rest) := by
      simp [nestedArrays, Rendered.array, arrayText, commaSep, ht]
    rw [htext]
    rcases fuel with _ | _ | fuel
    · rfl
    · rfl
    · change (parseItems (fuel + 1) d _).map _ = none
      rw [parseItems, hinner]
      rfl

/-- A text of arrays nested one deeper than the decoder goes has no canonical text. -/
theorem deep_text_refused :
    (∃ r, parseValue (2 * (nestedArrays 10000).text.length + 1) 10001
      (nestedArrays 10000).text = some (r, [])) ∧
      ∀ floorLog10, canonicalGCLBytes floorLog10 (encodeRunes (nestedArrays 10000).text) =
        .error syntaxError := by
  have hread := (nestedArrays 10000).reads _ 10001 [] le_rfl (depth_nestedArrays 10000).le clear_nil
  rw [List.append_nil] at hread
  refine ⟨⟨_, hread⟩, fun floorLog10 => ?_⟩
  have hnone := parseValue_nestedArrays (le_refl 10000)
    (2 * (nestedArrays 10000).text.length + 2) []
  rw [List.append_nil] at hnone
  rw [canonicalGCLBytes, runes_encodeRunes, parse, maxNestingDepth, hnone]

end FleetLlmd.Intents
