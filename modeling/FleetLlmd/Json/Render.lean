import FleetLlmd.Go.Int64
import FleetLlmd.Json.Decode
import FleetLlmd.Json.Numbers

/-!
# Texts that parse back

A rendered value is a text together with the tree the parser makes of it, whatever follows
the text. Strings, whole numbers, arrays and objects are rendered from their parts, so a text
that is put together this way needs no argument of its own.
-/

namespace FleetLlmd.Json
open Go

def decodeInt64 : Decoder Int64 := fun r n => (decodeInt r n.toInt).map Int64.ofInt

def decodeList {α : Type} (zero : α) (d : Decoder α) : Decoder (Option (List α)) := fun r old =>
  let slice := match old with
    | none => .nil
    | some xs => .backed xs []
  (decodeSlice zero d r slice).map fun
    | .nil => none
    | .backed xs _ => some xs

def Clear (rest : List Char) : Prop := ∀ c ∈ rest.head?, isNumberChar c = false

theorem clear_nil : Clear [] := nofun

theorem clear_cons {c : Char} (h : isNumberChar c = false) (rest : List Char) :
    Clear (c :: rest) := fun _ hc => Option.some.inj hc ▸ h

def Begins (text : List Char) : Prop :=
  ∃ c cs, text = c :: cs ∧ isWhitespace c = false ∧ c ≠ ']'

/-- `depth` is how deep the value nests. -/
structure Rendered where
  text : List Char
  raw : Raw
  depth : Nat
  begins : Begins text
  reads : ∀ fuel d rest, 2 * text.length + 1 ≤ fuel → depth ≤ d → Clear rest →
    parseValue fuel d (text ++ rest) = some (raw, rest)

namespace Rendered

theorem parse_text (v : Rendered) (h : v.depth ≤ maxNestingDepth) : parse v.text = some v.raw := by
  have hread := v.reads (2 * v.text.length + 2) maxNestingDepth [] (by omega) h clear_nil
  rw [List.append_nil] at hread
  rw [parse, hread]
  rfl

/-! ## Values without parts -/

def null : Rendered where
  text := ['n', 'u', 'l', 'l']
  raw := .null
  depth := 0
  begins := ⟨_, _, rfl, rfl, by decide⟩
  reads := by
    intro fuel d rest hfuel _ _
    obtain ⟨fuel, rfl⟩ := Nat.exists_eq_add_of_le' (show 1 ≤ fuel by omega)
    rfl

def bool (b : Bool) : Rendered where
  text := if b then ['t', 'r', 'u', 'e'] else ['f', 'a', 'l', 's', 'e']
  raw := .bool b
  depth := 0
  begins := by cases b <;> exact ⟨_, _, rfl, rfl, by decide⟩
  reads := by
    intro fuel d rest hfuel _ _
    obtain ⟨fuel, rfl⟩ := Nat.exists_eq_add_of_le' (show 1 ≤ fuel by omega)
    cases b <;> rfl

def string (E : Escaping) (s : String) : Rendered where
  text := E.quote s
  raw := .string (E.body s)
  depth := 0
  begins := ⟨_, _, rfl, rfl, by decide⟩
  reads := by
    intro fuel d rest hfuel _ _
    obtain ⟨fuel, rfl⟩ := Nat.exists_eq_add_of_le' (show 1 ≤ fuel by omega)
    exact parseValue_quote E fuel d s rest

theorem begins_number {lit : List Char} (hvalid : validNumber lit = true)
    (hchars : ∀ c ∈ lit, isNumberChar c = true) : Begins lit := by
  cases lit with
  | nil => cases hvalid
  | cons c cs =>
    have hc := hchars c List.mem_cons_self
    refine ⟨c, cs, rfl, ?_, ?_⟩
    · rw [← Bool.not_eq_true]
      intro hspace
      simp only [isWhitespace, Bool.or_eq_true, beq_iff_eq] at hspace
      rcases hspace with ((rfl | rfl) | rfl) | rfl <;> cases hc
    · rintro rfl
      cases hc

theorem parseValue_number {lit : List Char} (hvalid : validNumber lit = true)
    (hchars : ∀ c ∈ lit, isNumberChar c = true) (fuel d : Nat) {rest : List Char}
    (hrest : Clear rest) : parseValue (fuel + 1) d (lit ++ rest) = some (.number lit, rest) := by
  obtain ⟨htake, hdrop⟩ := Decimal.split_while hchars hrest
  obtain ⟨c, cs, rfl, hspace, -⟩ := begins_number hvalid hchars
  have hc := hchars c List.mem_cons_self
  rw [List.cons_append] at htake hdrop ⊢
  rw [parseValue, skipWhitespace_cons hspace]
  -- a number text begins with none of the characters the other values begin with
  split
  iterate 6
    next heq =>
      obtain ⟨rfl, -⟩ := List.cons.inj heq
      cases hc
  simp only [htake, hdrop, hvalid, if_true]

def number (lit : List Char) (hvalid : validNumber lit = true)
    (hchars : ∀ c ∈ lit, isNumberChar c = true) : Rendered where
  text := lit
  raw := .number lit
  depth := 0
  begins := begins_number hvalid hchars
  reads := by
    intro fuel d rest hfuel _ hrest
    obtain ⟨fuel, rfl⟩ := Nat.exists_eq_add_of_le' (show 1 ≤ fuel by omega)
    exact parseValue_number hvalid hchars fuel d hrest

def int (n : Int) : Rendered where
  text := intText n
  raw := .number (intText n)
  depth := 0
  begins := begins_number (validNumber_intText n) (isNumberChar_intText n)
  reads := by
    intro fuel d rest hfuel _ hrest
    obtain ⟨fuel, rfl⟩ := Nat.exists_eq_add_of_le' (show 1 ≤ fuel by omega)
    exact parseValue_number (validNumber_intText n) (isNumberChar_intText n) fuel d hrest

/-! ## Arrays -/

def maxDepth : List Rendered → Nat
  | [] => 0
  | v :: vs => max v.depth (maxDepth vs)

theorem maxDepth_le {vs : List Rendered} {n : Nat} (h : ∀ v ∈ vs, v.depth ≤ n) :
    maxDepth vs ≤ n := by
  induction vs with
  | nil => exact n.zero_le
  | cons v vs ih =>
    exact max_le (h v List.mem_cons_self) (ih fun v' hv => h v' (List.mem_cons_of_mem v hv))

theorem parseItems_texts (v : Rendered) (vs : List Rendered) (fuel d : Nat) (rest : List Char)
    (hfuel : 2 * (commaSep ((v :: vs).map text)).length + 2 ≤ fuel)
    (hdepth : maxDepth (v :: vs) ≤ d) :
    parseItems fuel d (commaSep ((v :: vs).map text) ++ ']' :: rest) =
      some ((v :: vs).map raw, rest) := by
  induction vs generalizing v fuel with
  | nil =>
    obtain ⟨fuel, rfl⟩ := Nat.exists_eq_add_of_le' (show 1 ≤ fuel by omega)
    simp only [List.map_cons, List.map_nil, commaSep] at hfuel ⊢
    rw [parseItems, v.reads fuel d _ (by omega) (le_trans (le_max_left _ _) hdepth)
      (clear_cons rfl _)]
    simp only [skipWhitespace_cons (show isWhitespace ']' = false from rfl)]
  | cons v' vs ih =>
    obtain ⟨fuel, rfl⟩ := Nat.exists_eq_add_of_le' (show 1 ≤ fuel by omega)
    simp only [List.map_cons, commaSep, List.length_append, List.length_cons, List.append_assoc,
      List.cons_append] at hfuel ⊢
    have hrest := ih v' fuel (by simp only [List.map_cons]; omega)
      (le_trans (le_max_right _ _) hdepth)
    simp only [List.map_cons] at hrest
    rw [parseItems, v.reads fuel d _ (by omega) (le_trans (le_max_left _ _) hdepth)
      (clear_cons rfl _)]
    simp only [skipWhitespace_cons (show isWhitespace ',' = false from rfl), hrest,
      Option.map_some]

def array (items : List Rendered) : Rendered where
  text := arrayText (items.map text)
  raw := .array (items.map raw)
  depth := maxDepth items + 1
  begins := ⟨_, _, rfl, rfl, by decide⟩
  reads := by
    intro fuel d rest hfuel hdepth _
    obtain ⟨fuel, rfl⟩ := Nat.exists_eq_add_of_le' (show 1 ≤ fuel by omega)
    obtain ⟨d, rfl⟩ := Nat.exists_eq_add_of_le' (show 1 ≤ d by omega)
    cases items with
    | nil => rfl
    | cons v vs =>
      obtain ⟨c, cs, htext, hspace, hc⟩ := v.begins
      obtain ⟨tail, htail⟩ : ∃ tail, commaSep ((v :: vs).map text) ++ ']' :: rest = c :: tail := by
        cases vs <;> simp [commaSep, htext]
      have hitems := parseItems_texts v vs fuel d rest (by
        simp only [arrayText, List.length_cons, List.length_append, List.length_nil] at hfuel
        omega) (by omega)
      rw [htail] at hitems
      rw [arrayText, List.cons_append, List.append_assoc, List.singleton_append, htail, parseValue,
        skipWhitespace_cons rfl]
      simp only [skipWhitespace_cons hspace]
      split
      · next heq => exact absurd (List.cons.inj heq).1 hc
      · rw [hitems]
        rfl

/-! ## Objects -/

section Objects
variable (E : Escaping)

def memberTexts (members : List (String × Rendered)) : List (List Char) :=
  members.map fun m => memberText E (m.1, m.2.text)

theorem parseMembers_member (m : String × Rendered) {fuel d : Nat} {rest : List Char}
    (hfuel : 2 * m.2.text.length + 1 ≤ fuel) (hdepth : m.2.depth ≤ d) (hrest : Clear rest) :
    parseMembers (fuel + 1) d (memberText E (m.1, m.2.text) ++ rest) =
      match skipWhitespace rest with
      | '}' :: cs => some ([(m.1, m.2.raw)], cs)
      | ',' :: cs => (parseMembers fuel d cs).map fun r => ((m.1, m.2.raw) :: r.1, r.2)
      | _ => none := by
  have hw : skipWhitespace (memberText E (m.1, m.2.text) ++ rest) =
      '"' :: (E.body m.1 ++ '"' :: (':' :: (m.2.text ++ rest))) := by
    simp [memberText, Escaping.quote, skipWhitespace, isWhitespace]
  have hc : skipWhitespace (':' :: (m.2.text ++ rest)) = ':' :: (m.2.text ++ rest) :=
    skipWhitespace_cons rfl _
  have hread := parseMembers.eq_2 d (memberText E (m.1, m.2.text) ++ rest) fuel
  rw [hw] at hread
  simp only [Escaping.body, E.scanString_body] at hread
  simp only [hc, m.2.reads fuel d rest hfuel hdepth hrest, E.unquote_flatMap, chars_eq_toList,
    String.ofList_toList] at hread
  exact hread

theorem parseMembers_texts (m : String × Rendered) (ms : List (String × Rendered)) (fuel d : Nat)
    (rest : List Char) (hfuel : 2 * (commaSep (memberTexts E (m :: ms))).length + 2 ≤ fuel)
    (hdepth : maxDepth ((m :: ms).map (·.2)) ≤ d) :
    parseMembers fuel d (commaSep (memberTexts E (m :: ms)) ++ '}' :: rest) =
      some ((m :: ms).map fun m => (m.1, m.2.raw), rest) := by
  have hlen (m : String × Rendered) :
      m.2.text.length ≤ (memberText E (m.1, m.2.text)).length := by
    simp only [memberText, List.length_append, List.length_cons]
    omega
  induction ms generalizing m fuel with
  | nil =>
    obtain ⟨fuel, rfl⟩ := Nat.exists_eq_add_of_le' (show 1 ≤ fuel by omega)
    have hm := hlen m
    simp only [memberTexts, List.map_cons, List.map_nil, commaSep] at hfuel ⊢
    rw [parseMembers_member E m (by omega) (le_trans (le_max_left _ _) hdepth) (clear_cons rfl _),
      skipWhitespace_cons rfl]
    rfl
  | cons m' ms ih =>
    obtain ⟨fuel, rfl⟩ := Nat.exists_eq_add_of_le' (show 1 ≤ fuel by omega)
    have hm := hlen m
    simp only [memberTexts, List.map_cons, commaSep, List.length_append, List.length_cons,
      List.append_assoc, List.cons_append] at hfuel ⊢
    have hrest := ih m' fuel (by simp only [memberTexts, List.map_cons]; omega)
      (le_trans (le_max_right _ _) hdepth)
    simp only [memberTexts, List.map_cons] at hrest
    rw [parseMembers_member E m (by omega) (le_trans (le_max_left _ _) hdepth) (clear_cons rfl _),
      skipWhitespace_cons rfl]
    simp only [hrest, Option.map_some]

def object (members : List (String × Rendered)) : Rendered where
  text := objectText E (members.map fun m => (m.1, m.2.text))
  raw := .object (members.map fun m => (m.1, m.2.raw))
  depth := maxDepth (members.map (·.2)) + 1
  begins := ⟨_, _, rfl, rfl, by decide⟩
  reads := by
    intro fuel d rest hfuel hdepth _
    obtain ⟨fuel, rfl⟩ := Nat.exists_eq_add_of_le' (show 1 ≤ fuel by omega)
    obtain ⟨d, rfl⟩ := Nat.exists_eq_add_of_le' (show 1 ≤ d by omega)
    cases members with
    | nil => rfl
    | cons m ms =>
      have htexts : (((m :: ms).map fun m => (m.1, m.2.text)).map (memberText E)) =
          memberTexts E (m :: ms) := by
        simp [memberTexts]
      obtain ⟨tail, htail⟩ : ∃ tail,
          commaSep (memberTexts E (m :: ms)) ++ '}' :: rest = '"' :: tail := by
        cases ms <;> exact ⟨_, rfl⟩
      have hmembers := parseMembers_texts E m ms fuel d rest (by
        simp only [objectText, htexts, List.length_cons, List.length_append, List.length_nil]
          at hfuel
        omega) (by omega)
      rw [htail] at hmembers
      rw [objectText, htexts, List.cons_append, List.append_assoc, List.singleton_append, htail,
        parseValue, skipWhitespace_cons rfl]
      simp only [skipWhitespace_cons (show isWhitespace '"' = false from rfl)]
      change (parseMembers fuel d ('"' :: tail)).map _ = _
      rw [hmembers]
      rfl

end Objects

/-! ## Decoding what was rendered -/

theorem unmarshal_text {α : Type} (v : Rendered) (h : v.depth ≤ maxNestingDepth) (d : Decoder α)
    (zero : α) : unmarshal d (encodeRunes v.text) zero = d v.raw zero := by
  rw [unmarshal, runes_encodeRunes, v.parse_text h]

@[simp] theorem decodeString_string (E : Escaping) (s old : String) :
    decodeString (string E s).raw old = .ok s :=
  congrArg Except.ok (E.unquote_body s)

@[simp] theorem decodeBool_bool (b old : Bool) : decodeBool (bool b).raw old = .ok b := rfl

theorem allDigits_natText (n : Nat) : allDigits (natText n) = true := by
  have hne := natText_ne_nil n
  simpa [allDigits, hne] using isDigit_natText n

theorem natText_head (n : Nat) : ∃ c cs, natText n = c :: cs ∧ c ≠ '-' := by
  cases htext : natText n with
  | nil => exact absurd htext (natText_ne_nil n)
  | cons c cs =>
    have hdigit := isDigit_natText n c (htext ▸ List.mem_cons_self)
    exact ⟨c, cs, rfl, by rintro rfl; cases hdigit⟩

theorem parseInt_intText {n : Int} (h : InInt64 n) : parseInt (intText n) = some n := by
  have hrange : -9223372036854775808 ≤ n ∧ n ≤ 9223372036854775807 := by
    obtain ⟨hlow, hhigh⟩ := h
    omega
  cases n with
  | negSucc n =>
    have hneg : -((n + 1 : Nat) : Int) = Int.negSucc n := rfl
    simp only [parseInt, intText, allDigits_natText, digitsValue_natText, if_true,
      Option.map_some, hneg]
    exact Option.filter_eq_some_iff.mpr ⟨rfl, decide_eq_true hrange⟩
  | ofNat n =>
    obtain ⟨c, cs, htext, hc⟩ := natText_head n
    have hdigits := allDigits_natText n
    have hvalue := digitsValue_natText n
    rw [htext] at hdigits hvalue
    simp only [parseInt, intText, htext]
    split
    · next heq => exact absurd (List.cons.inj heq).1 hc
    · rw [hdigits, hvalue, if_pos rfl]
      exact Option.filter_eq_some_iff.mpr ⟨rfl, decide_eq_true hrange⟩

theorem decodeInt_int {n : Int} (h : InInt64 n) (old : Int) :
    decodeInt (int n).raw old = .ok n := by
  simp only [int, decodeInt, parseInt_intText h]

theorem decodeItems_map {α β : Type} {zero : β} {d : Decoder β} {v : α → Rendered} {f : α → β}
    (h : ∀ x, d (v x).raw zero = .ok (f x)) (xs : List α) :
    decodeItems zero d ((xs.map v).map raw) [] = .ok (xs.map f) := by
  induction xs with
  | nil => rfl
  | cons x xs ih =>
    simp only [List.map_cons, decodeItems, List.headD_nil, List.tail_nil, h, ih]
    rfl

theorem decodeSlice_array {α β : Type} {zero : β} {d : Decoder β} {v : α → Rendered} {f : α → β}
    (h : ∀ x, d (v x).raw zero = .ok (f x)) {old : Slice β} (hold : old.held = []) (xs : List α) :
    decodeSlice zero d (array (xs.map v)).raw old = .ok (.backed (xs.map f) []) := by
  cases xs with
  | nil => rfl
  | cons x xs =>
    have hitems := decodeItems_map h (x :: xs)
    simp only [array, List.map_cons, decodeSlice, hold, List.drop_nil] at hitems ⊢
    rw [hitems]
    rfl

theorem decodePointer_raw {α : Type} {zero x : α} {d : Decoder α} {r : Raw} (hnull : r ≠ .null)
    (h : d r zero = .ok x) : decodePointer zero d r none = .ok (some x) := by
  cases r with
  | null => exact absurd rfl hnull
  | _ => exact congrArg (Except.map some) h

@[simp] theorem decodeStruct_object {σ : Type} (E : Escaping) (strict : Bool)
    (fields : List (StructField σ)) (members : List (String × Rendered)) (s : σ) :
    decodeStruct strict fields (object E members).raw s =
      decodeMembers strict fields (members.map fun m => (m.1, m.2.raw)) s := rfl

/-! ## Whole numbers of 64 bits, and slices -/

theorem decodeInt64_int (n old : Int64) : decodeInt64 (int n.toInt).raw old = .ok n := by
  have hrange : InInt64 n.toInt := ⟨n.le_toInt, n.toInt_lt⟩
  rw [decodeInt64, decodeInt_int hrange]
  exact congrArg Except.ok n.ofInt_toInt

theorem decodeList_array {α β : Type} {zero : β} {d : Decoder β} {v : α → Rendered} {f : α → β}
    (h : ∀ x, d (v x).raw zero = .ok (f x)) {old : Option (List β)} (hold : old.getD [] = [])
    (xs : List α) : decodeList zero d (array (xs.map v)).raw old = .ok (some (xs.map f)) := by
  cases old with
  | none =>
    rw [decodeList, decodeSlice_array h (by rfl)]
    rfl
  | some old =>
    obtain rfl : old = [] := hold
    rw [decodeList, decodeSlice_array h (by rfl)]
    rfl

theorem maxDepth_map_le {α : Type} {v : α → Rendered} {n : Nat} (h : ∀ x, (v x).depth ≤ n)
    (xs : List α) : maxDepth (xs.map v) ≤ n := by
  apply maxDepth_le
  intro r hr
  obtain ⟨x, -, rfl⟩ := List.mem_map.mp hr
  exact h x

end Rendered
end FleetLlmd.Json
