import FleetLlmd.Go.Float64
import FleetLlmd.Json.Parser
import Mathlib.Data.List.TakeWhile
import Mathlib.Tactic.IntervalCases
import Mathlib.Tactic.Ring

/-!
# Number texts

The decimal text of a natural number reads back as that number, and every text that is
written for a number consists of the characters of a JSON number.
-/

namespace FleetLlmd.Json
open Go

theorem isDigit_hexDigit {n : Nat} (h : n < 10) : isDigit (hexDigit n) = true := by
  interval_cases n <;> rfl

theorem digitValue_hexDigit {n : Nat} (h : n < 10) : digitValue (hexDigit n) = n := by
  interval_cases n <;> rfl

/-! ## Whole numbers -/

theorem decimalDigits_append (fuel n : Nat) (acc : List Char) :
    decimalDigits fuel n acc = decimalDigits fuel n [] ++ acc := by
  induction fuel generalizing n acc with
  | zero => rfl
  | succ fuel ih =>
    rw [decimalDigits, decimalDigits]
    split_ifs
    · rfl
    · rw [ih, ih (n / 10) [_], List.append_assoc]
      rfl

theorem decimalDigits_fuel {fuel fuel' n : Nat} (h : n < 2 ^ fuel) (h' : n < 2 ^ fuel')
    (hpos : 0 < fuel) (hpos' : 0 < fuel') (acc : List Char) :
    decimalDigits fuel n acc = decimalDigits fuel' n acc := by
  induction fuel generalizing n fuel' acc with
  | zero => omega
  | succ fuel ih =>
    obtain ⟨fuel', rfl⟩ : ∃ k, fuel' = k + 1 := ⟨fuel' - 1, by omega⟩
    rw [decimalDigits, decimalDigits]
    split_ifs with hn
    · rfl
    · rw [Nat.pow_succ] at h h'
      refine ih (by omega) (by omega) (Nat.pos_of_ne_zero ?_) (Nat.pos_of_ne_zero ?_) _
      · rintro rfl
        omega
      · rintro rfl
        omega

theorem foldl_decimalDigits {fuel n : Nat} (h : n < 2 ^ fuel) (hpos : 0 < fuel) (acc : List Char) :
    (decimalDigits fuel n acc).foldl (fun n c => n * 10 + digitValue c) 0 =
      acc.foldl (fun n c => n * 10 + digitValue c) n := by
  induction fuel generalizing n acc with
  | zero => omega
  | succ fuel ih =>
    rw [decimalDigits]
    split_ifs with hn
    · rw [List.foldl_cons, digitValue_hexDigit (Nat.mod_lt _ (by decide)), Nat.mod_eq_of_lt hn]
      simp
    · rw [Nat.pow_succ] at h
      rw [ih (by omega) (Nat.pos_of_ne_zero (by rintro rfl; omega)), List.foldl_cons,
        digitValue_hexDigit (Nat.mod_lt _ (by decide)), Nat.div_add_mod' n 10]

variable (n : Nat)

theorem digitsValue_natText : digitsValue (natText n) = n :=
  foldl_decimalDigits Nat.lt_log2_self (Nat.succ_pos _) []

theorem isDigit_natText : ∀ c ∈ natText n, isDigit c = true := by
  have hdigits : ∀ fuel n acc, (∀ c ∈ acc, isDigit c = true) →
      ∀ c ∈ decimalDigits fuel n acc, isDigit c = true := by
    intro fuel
    induction fuel with
    | zero => exact fun n acc h => h
    | succ fuel ih =>
      intro n acc h
      have hcons : ∀ c ∈ hexDigit (n % 10) :: acc, isDigit c = true :=
        List.forall_mem_cons.mpr ⟨isDigit_hexDigit (Nat.mod_lt _ (by decide)), h⟩
      rw [decimalDigits]
      split_ifs
      · exact hcons
      · exact ih _ _ hcons
  exact hdigits _ n [] (fun c hc => absurd hc List.not_mem_nil)

theorem natText_ne_nil : natText n ≠ [] := by
  rw [natText, decimalDigits]
  split_ifs
  · exact List.cons_ne_nil _ _
  · rw [decimalDigits_append]
    exact List.append_ne_nil_of_right_ne_nil _ (List.cons_ne_nil _ _)

theorem natText_mul_ten {n : Nat} (h : n ≠ 0) : natText (n * 10) = natText n ++ ['0'] := by
  have hlog : n * 10 < 2 ^ ((n * 10).log2 + 1) := Nat.lt_log2_self
  have hten : ¬ n * 10 < 10 := by omega
  rw [Nat.pow_succ] at hlog
  have hpos : 0 < (n * 10).log2 := by
    refine Nat.pos_of_ne_zero fun hzero => ?_
    rw [hzero] at hlog
    omega
  rw [natText, decimalDigits, if_neg hten, Nat.mul_mod_left, Nat.mul_div_cancel n (by decide),
    decimalDigits_append, natText]
  rw [decimalDigits_fuel (by omega) Nat.lt_log2_self hpos (Nat.succ_pos _)]
  rfl

theorem hexDigit_ne_zero {n : Nat} (h : n < 10) (hn : n ≠ 0) : hexDigit n ≠ '0' := by
  interval_cases n
  · exact absurd rfl hn
  all_goals decide

theorem decimalDigits_head {fuel n : Nat} (h : n < 2 ^ fuel) (hn : n ≠ 0) (acc : List Char) :
    ∃ c cs, decimalDigits fuel n acc = c :: cs ∧ c ≠ '0' := by
  induction fuel generalizing n acc with
  | zero => omega
  | succ fuel ih =>
    rw [decimalDigits]
    split_ifs with hlt
    · refine ⟨_, acc, rfl, ?_⟩
      rw [Nat.mod_eq_of_lt hlt]
      exact hexDigit_ne_zero hlt hn
    · rw [Nat.pow_succ] at h
      exact ih (by omega) (by omega) _

theorem validMagnitude_natText : validMagnitude (natText n) = true := by
  by_cases hn : n = 0
  · subst hn
    rfl
  · have hdigits := isDigit_natText n
    obtain ⟨c, cs, htext, hc⟩ := decimalDigits_head Nat.lt_log2_self hn []
    rw [natText, htext] at hdigits ⊢
    obtain ⟨hdigit, hrest⟩ := List.forall_mem_cons.mp hdigits
    have hdrop : cs.dropWhile isDigit = [] := by
      rw [List.dropWhile_eq_nil_iff]
      exact hrest
    simp [validMagnitude, hc, hdigit, hdrop, validFraction, validExponent]

theorem validNumber_intText (n : Int) : validNumber (intText n) = true := by
  cases n with
  | negSucc n => exact validMagnitude_natText (n + 1)
  | ofNat n =>
    have hdigits := isDigit_natText n
    have hvalid := validMagnitude_natText n
    rw [intText]
    cases htext : natText n with
    | nil => exact absurd htext (natText_ne_nil n)
    | cons c cs =>
      rw [htext] at hdigits hvalid
      have hc : c ≠ '-' := by
        rintro rfl
        exact absurd (hdigits '-' List.mem_cons_self) (by decide)
      rw [validNumber]
      · exact hvalid
      · exact fun cs' h => hc (List.cons.inj h).1

theorem isNumberChar_intText (n : Int) : ∀ c ∈ intText n, isNumberChar c = true := by
  have hnat (n : Nat) : ∀ c ∈ natText n, isNumberChar c = true := fun c hc => by
    simp [isNumberChar, isDigit_natText n c hc]
  cases n with
  | ofNat n => exact hnat n
  | negSucc n => exact List.forall_mem_cons.mpr ⟨rfl, hnat (n + 1)⟩

/-! ## Reading decimals -/

namespace Decimal

theorem split_while {p : Char → Bool} {ds rest : List Char} (h : ∀ c ∈ ds, p c = true)
    (hrest : ∀ c ∈ rest.head?, p c = false) :
    (ds ++ rest).takeWhile p = ds ∧ (ds ++ rest).dropWhile p = rest := by
  induction ds with
  | nil =>
    cases rest with
    | nil => exact ⟨rfl, rfl⟩
    | cons c rest => simp [hrest c rfl]
  | cons d ds ih =>
    obtain ⟨htake, hdrop⟩ := ih fun c hc => h c (List.mem_cons_of_mem d hc)
    simp [h d List.mem_cons_self, htake, hdrop]

theorem isDigit_eq : (fun c : Char => decide ('0' ≤ c) && decide (c ≤ '9')) = isDigit := rfl

variable {ds : List Char}

theorem decimalParts_whole (h : ∀ c ∈ ds, isDigit c = true) :
    Float64.decimalParts ds = (digitsValue ds, 0) := by
  obtain ⟨htake, hdrop⟩ := @split_while isDigit ds [] h (by simp)
  rw [List.append_nil] at htake hdrop
  simp [Float64.decimalParts, isDigit_eq, htake, hdrop]

theorem decimalParts_point_zero (h : ∀ c ∈ ds, isDigit c = true) :
    Float64.decimalParts (ds ++ ['.', '0']) = (digitsValue ds * 10, -1) := by
  obtain ⟨htake, hdrop⟩ := @split_while isDigit ds ['.', '0'] h (by rintro c ⟨⟩; rfl)
  have hzero : isDigit '0' = true := rfl
  simp [Float64.decimalParts, isDigit_eq, htake, hdrop, hzero, digitsValue, digitValue]

theorem roundHalfEven_mul {k : Nat} (hk : 0 < k) (n d : Nat) :
    Float64.roundHalfEven (n * k) (d * k) = Float64.roundHalfEven n d := by
  have hmod : n * k % (d * k) = n % d * k := Nat.mul_mod_mul_right k n d
  have hlt : d * k < 2 * (n % d * k) ↔ d < 2 * (n % d) := by
    rw [← Nat.mul_assoc, Nat.mul_lt_mul_right hk]
  have heq : d * k = 2 * (n % d * k) ↔ d = 2 * (n % d) := by
    rw [← Nat.mul_assoc, Nat.mul_left_inj hk.ne']
  simp only [Float64.roundHalfEven, hmod, Nat.mul_div_mul_right n d hk, hlt, heq, beq_iff_eq,
    Bool.or_eq_true, Bool.and_eq_true, decide_eq_true_eq]

theorem ofRatio_mul {k : Nat} (hk : 0 < k) (neg : Bool) (n d : Nat) :
    Float64.ofRatio neg (n * k) (d * k) = Float64.ofRatio neg n d := by
  have hunits : n * k * Float64.unitScale = n * Float64.unitScale * k := by ring
  have hshift (e : Nat) : d * k * e = d * e * k := by ring
  simp only [Float64.ofRatio, hunits, hshift, Nat.mul_div_mul_right _ d hk, roundHalfEven_mul hk]

theorem ofDecimal_point_zero (neg : Bool) (n : Nat) :
    Float64.ofDecimal neg (n * 10) (-1) = Float64.ofDecimal neg n 0 := by
  by_cases hn : n = 0
  · simp only [hn, Float64.ofDecimal, Nat.zero_mul, decide_true, Bool.true_or, if_true]
  · have hlength : ((natText (n * 10)).length : Int) + -1 = (natText n).length + 0 := by
      rw [natText_mul_ten hn, List.length_append]
      simp
    have hratio : Float64.ofRatio neg (n * 10) (10 ^ (- -1 : Int).toNat) =
        Float64.ofRatio neg (n * 10 ^ (0 : Int).toNat) 1 := by
      have hmul := ofRatio_mul (k := 10) (by decide) neg n 1
      rw [Nat.one_mul] at hmul
      rw [show (- -1 : Int).toNat = 1 from rfl, Int.toNat_zero, Nat.pow_one, Nat.pow_zero,
        Nat.mul_one, hmul]
    have hten : (n * 10 = 0) = (n = 0) := by
      rw [eq_iff_iff]
      omega
    rw [Float64.ofDecimal, Float64.ofDecimal]
    rw [hlength, hratio, if_neg (by decide : ¬ (0 : Int) ≤ -1), if_pos (le_refl (0 : Int))]
    simp only [hten]

def signed (neg : Bool) (cs : List Char) : List Char := if neg then '-' :: cs else cs

theorem parse_signed (neg : Bool) {cs : List Char} (h : cs.head? ≠ some '-') :
    Float64.parse (signed neg cs) =
      let x := Float64.ofDecimal neg (Float64.decimalParts cs).1 (Float64.decimalParts cs).2
      if x.isInf then none else some x := by
  cases neg with
  | true => rfl
  | false =>
    change Float64.parse cs = _
    rw [Float64.parse]
    rintro cs' rfl
    exact h rfl

theorem head_of_digits (h : ∀ c ∈ ds, isDigit c = true) (rest : List Char)
    (hrest : rest.head? ≠ some '-') : (ds ++ rest).head? ≠ some '-' := by
  cases ds with
  | nil => exact hrest
  | cons d ds =>
    rw [List.cons_append, List.head?_cons]
    rintro ⟨⟩
    exact absurd (h '-' List.mem_cons_self) (by decide)

theorem parse_whole (neg : Bool) (h : ∀ c ∈ ds, isDigit c = true) :
    Float64.parse (signed neg ds) =
      let x := Float64.ofDecimal neg (digitsValue ds) 0
      if x.isInf then none else some x := by
  have hhead := head_of_digits h [] (by simp)
  rw [List.append_nil] at hhead
  rw [parse_signed neg hhead, decimalParts_whole h]

theorem parse_point_zero (neg : Bool) (h : ∀ c ∈ ds, isDigit c = true) :
    Float64.parse (signed neg (ds ++ ['.', '0'])) = Float64.parse (signed neg ds) := by
  rw [parse_signed neg (head_of_digits h _ (by simp)), parse_whole neg h,
    decimalParts_point_zero h]
  dsimp only
  rw [ofDecimal_point_zero]

/-! ## The characters of a number -/

theorem isNumberChar_digit {c : Char} (h : isDigit c = true) : isNumberChar c = true := by
  simp [isNumberChar, h]

theorem fixedText_chars (digits : Nat) (exp : Int) :
    ∀ c ∈ Float64.fixedText digits exp, isNumberChar c = true := by
  have hdigits : ∀ c ∈ natText digits, isNumberChar c = true :=
    fun c hc => isNumberChar_digit (isDigit_natText digits c hc)
  have hzeros : ∀ n, ∀ c ∈ List.replicate n '0', isNumberChar c = true := by
    intro n c hc
    rw [List.eq_of_mem_replicate hc]
    rfl
  intro c hc
  rw [Float64.fixedText] at hc
  split_ifs at hc
  · rcases List.mem_append.mp hc with h | h
    · exact hdigits c h
    · exact hzeros _ c h
  · rcases List.mem_append.mp hc with h | h
    · exact hdigits c (List.mem_of_mem_take h)
    · rcases List.mem_cons.mp h with rfl | h
      · rfl
      · exact hdigits c (List.mem_of_mem_drop h)
  · simp only [List.cons_append, List.mem_cons, List.mem_append] at hc
    rcases hc with rfl | rfl | h | h
    · rfl
    · rfl
    · exact hzeros _ c h
    · exact hdigits c h

theorem exponentText_chars (width : Nat) (exp : Int) :
    ∀ c ∈ Float64.exponentText width exp, isNumberChar c = true := by
  intro c hc
  simp only [Float64.exponentText, List.mem_cons, List.mem_append] at hc
  rcases hc with rfl | rfl | h | h
  · rfl
  · split_ifs <;> rfl
  · rw [List.eq_of_mem_replicate h]
    rfl
  · exact isNumberChar_digit (isDigit_natText _ c h)

variable (width digits : Nat)

theorem scientificText_chars (exp : Int) :
    ∀ c ∈ Float64.scientificText width digits exp, isNumberChar c = true := by
  have hdigits : ∀ c ∈ natText digits, isNumberChar c = true :=
    fun c hc => isNumberChar_digit (isDigit_natText digits c hc)
  intro c hc
  rw [Float64.scientificText] at hc
  split at hc
  · cases hc
  · next d hd =>
    rw [hd] at hdigits
    rcases List.mem_cons.mp hc with rfl | h
    · exact hdigits c List.mem_cons_self
    · exact exponentText_chars _ _ c h
  · next d ds _ hd =>
    rw [hd] at hdigits
    simp only [List.mem_cons, List.mem_append] at hc
    rcases hc with rfl | rfl | h | h
    · exact hdigits c List.mem_cons_self
    · rfl
    · exact hdigits c (List.mem_cons_of_mem d h)
    · exact exponentText_chars _ _ c h

theorem fixedText_whole {digits : Nat} {exp : Int} (h : '.' ∉ Float64.fixedText digits exp) :
    ∀ c ∈ Float64.fixedText digits exp, isDigit c = true := by
  rw [Float64.fixedText] at h ⊢
  split_ifs at h ⊢ with hexp hpoint
  · intro c hc
    rcases List.mem_append.mp hc with hdigit | hzero
    · exact isDigit_natText digits c hdigit
    · rw [List.eq_of_mem_replicate hzero]
      rfl
  · exact absurd (by simp) h
  · exact absurd (by simp) h

theorem mem_scientificText (exp : Int) :
    'e' ∈ Float64.scientificText width digits exp := by
  rw [Float64.scientificText]
  split
  · next hnil => exact absurd hnil (natText_ne_nil digits)
  · simp [Float64.exponentText]
  · simp [Float64.exponentText]

variable {fmt : Nat → Int → List Char}

theorem formatShortest_signed {x : Float64} {text : List Char}
    (h : x.formatShortest fmt = some text) :
    ∃ digits exp, text = signed x.isNeg (fmt digits exp) := by
  obtain ⟨n, -, hn⟩ := List.exists_of_findSome?_eq_some h
  obtain ⟨⟨digits, exp⟩, -, hc⟩ := List.exists_of_findSome?_eq_some hn
  refine ⟨digits, exp, ?_⟩
  dsimp only at hc
  split_ifs at hc with hneg hparse hparse
  · rw [signed, if_pos hneg, Option.some.inj hc]
  · rw [signed, if_neg hneg, Option.some.inj hc]

/-! ## The texts of a number are valid -/

theorem natText_leading : ∃ c cs, natText n = c :: cs ∧ (n ≠ 0 → c ≠ '0') ∧ (n = 0 → cs = []) := by
  by_cases hn : n = 0
  · subst hn
    exact ⟨'0', [], rfl, fun h => absurd rfl h, fun _ => rfl⟩
  · obtain ⟨c, cs, htext, hc⟩ := decimalDigits_head Nat.lt_log2_self hn []
    exact ⟨c, cs, htext, fun _ => hc, fun h => absurd h hn⟩

theorem validMagnitude_append {c : Char} {cs rest : List Char}
    (hdigits : ∀ d ∈ c :: cs, isDigit d = true) (hc : c = '0' → cs = [])
    (hrest : ∀ d ∈ rest.head?, isDigit d = false) (hvalid : validFraction rest = true) :
    validMagnitude (c :: cs ++ rest) = true := by
  obtain ⟨hdigit, htail⟩ := List.forall_mem_cons.mp hdigits
  rw [List.cons_append, validMagnitude]
  by_cases hzero : c = '0'
  · simp [hzero, hc hzero, hvalid]
  · simp [hzero, hdigit, (split_while htail hrest).2, hvalid]

theorem validFraction_point {ds rest : List Char} (hne : ds ≠ [])
    (hdigits : ∀ d ∈ ds, isDigit d = true) (hrest : ∀ d ∈ rest.head?, isDigit d = false)
    (hvalid : validExponent rest = true) : validFraction ('.' :: (ds ++ rest)) = true := by
  cases ds with
  | nil => exact absurd rfl hne
  | cons d ds =>
    obtain ⟨hdigit, htail⟩ := List.forall_mem_cons.mp hdigits
    rw [List.cons_append, validFraction, (split_while htail hrest).2, hdigit, hvalid]
    rfl

theorem validExponent_exponentText (width : Nat) (exp : Int) :
    validExponent (Float64.exponentText width exp) = true := by
  have hdigits : allDigits (List.replicate (width - (natText exp.natAbs).length) '0' ++
      natText exp.natAbs) = true := by
    have hne := List.append_ne_nil_of_right_ne_nil
      (List.replicate (width - (natText exp.natAbs).length) '0') (natText_ne_nil exp.natAbs)
    rw [allDigits, List.isEmpty_eq_false_iff.mpr hne, Bool.not_false, Bool.true_and,
      List.all_eq_true]
    intro d hd
    rcases List.mem_append.mp hd with hzero | hdigit
    · rw [List.eq_of_mem_replicate hzero]
      rfl
    · exact isDigit_natText _ d hdigit
  rw [Float64.exponentText]
  split_ifs <;> simp [validExponent, hdigits]

theorem isDigit_zeros : ∀ d ∈ List.replicate n '0', isDigit d = true := by
  intro d hd
  rw [List.eq_of_mem_replicate hd]
  rfl

theorem validMagnitude_fixedText {digits : Nat} (h : digits ≠ 0) (exp : Int) :
    validMagnitude (Float64.fixedText digits exp) = true := by
  obtain ⟨c, cs, htext, hc, -⟩ := natText_leading digits
  have hdigits := isDigit_natText digits
  rw [Float64.fixedText]
  split_ifs with hexp hpoint
  · rw [htext, List.cons_append, ← List.append_nil (c :: (cs ++ _))]
    apply validMagnitude_append _ (fun hzero => absurd hzero (hc h)) (by simp) rfl
    intro d hd
    rw [← List.cons_append, ← htext] at hd
    exact (List.mem_append.mp hd).elim (hdigits d) (isDigit_zeros _ d)
  · have hdrop : (natText digits).drop (((natText digits).length : Int) + exp).toNat ≠ [] := by
      rw [Ne, List.drop_eq_nil_iff]
      omega
    obtain ⟨p, hp⟩ : ∃ p, (((natText digits).length : Int) + exp).toNat = p + 1 :=
      ⟨_, (Nat.succ_pred_eq_of_pos (by omega)).symm⟩
    rw [hp] at hdrop ⊢
    have htake : (natText digits).take (p + 1) = c :: cs.take p := by rw [htext]; rfl
    rw [htake]
    apply validMagnitude_append _ (fun hzero => absurd hzero (hc h)) (by rintro d ⟨⟩; rfl)
    · rw [← List.append_nil (List.drop _ _)]
      exact validFraction_point hdrop (fun d hd => hdigits d (List.mem_of_mem_drop hd)) (by simp)
        rfl
    · intro d hd
      rw [← htake] at hd
      exact hdigits d (List.mem_of_mem_take hd)
  · have hfraction := @validFraction_point _ []
      (List.append_ne_nil_of_right_ne_nil
        (List.replicate (-(((natText digits).length : Int) + exp)).toNat '0')
        (natText_ne_nil digits))
      (fun d hd => (List.mem_append.mp hd).elim (isDigit_zeros _ d) (hdigits d)) (by simp) rfl
    rw [List.append_nil] at hfraction
    exact @validMagnitude_append '0' [] _ (by simp [isDigit]) (fun _ => rfl)
      (by rintro d ⟨⟩; rfl) hfraction

theorem head_exponentText (width : Nat) (exp : Int) :
    ∀ d ∈ (Float64.exponentText width exp).head?, isDigit d = false := by
  rintro d ⟨⟩
  rfl

theorem validMagnitude_scientificText (exp : Int) :
    validMagnitude (Float64.scientificText width digits exp) = true := by
  obtain ⟨c, cs, htext, hc, hzero⟩ := natText_leading digits
  have hdigits := isDigit_natText digits
  rw [htext] at hdigits
  rw [Float64.scientificText, htext]
  cases cs with
  | nil =>
    have hexponent := validExponent_exponentText width exp
    apply validMagnitude_append hdigits (fun _ => rfl) (head_exponentText width exp)
    rw [Float64.exponentText] at hexponent ⊢
    rw [validFraction]
    · exact hexponent
    · rintro _ _ ⟨⟩
  | cons d ds =>
    have hne : digits ≠ 0 := fun h => absurd (hzero h) (List.cons_ne_nil _ _)
    apply @validMagnitude_append c [] _ (fun x hx => hdigits x ?_)
      (fun h => absurd h (hc hne)) (by rintro _ ⟨⟩; rfl)
    · exact validFraction_point (List.cons_ne_nil d ds)
        (fun x hx => hdigits x (List.mem_cons_of_mem c hx)) (head_exponentText _ _)
        (validExponent_exponentText _ _)
    · rw [List.mem_singleton.mp hx]
      exact List.mem_cons_self

theorem validNumber_signed {neg : Bool} {cs : List Char} (h : validMagnitude cs = true) :
    validNumber (signed neg cs) = true := by
  cases neg with
  | true => exact h
  | false =>
    change validNumber cs = true
    rw [validNumber]
    · exact h
    · rintro cs' rfl
      cases h

/-- Nothing but zero is written with the digit zero only. -/
theorem magnitude_ofDecimal_zero (neg : Bool) (exp : Int) :
    (Float64.ofDecimal neg 0 exp).magnitude = 0 := by
  have hzero : Float64.ofDecimal neg 0 exp = Float64.ofRatio neg 0 1 := by
    simp [Float64.ofDecimal]
  rw [hzero]
  cases neg <;> decide +kernel

theorem digitsValue_zeros : digitsValue (List.replicate n '0') = 0 := by
  rw [digitsValue]
  induction n with
  | zero => rfl
  | succ n ih => exact ih

theorem decimalParts_fixedText_zero (exp : Int) :
    (Float64.decimalParts (Float64.fixedText 0 exp)).1 = 0 := by
  have hnat : natText 0 = ['0'] := rfl
  rw [Float64.fixedText, hnat]
  split_ifs with hexp hpoint
  · have htext : ['0'] ++ List.replicate exp.toNat '0' = List.replicate (exp.toNat + 1) '0' := rfl
    rw [htext, decimalParts_whole (isDigit_zeros _)]
    exact digitsValue_zeros _
  · simp only [List.length_singleton] at hpoint
    omega
  · generalize (-(((['0'] : List Char).length : Int) + exp)).toNat = n
    have htext : '0' :: '.' :: List.replicate n '0' ++ ['0'] =
        ['0'] ++ '.' :: List.replicate (n + 1) '0' := by
      simp [List.replicate_succ']
    obtain ⟨htake, hdrop⟩ := @split_while isDigit ['0'] ('.' :: List.replicate (n + 1) '0')
      (isDigit_zeros 1) (by rintro d ⟨⟩; rfl)
    have hfraction : (List.replicate (n + 1) '0').takeWhile isDigit = List.replicate (n + 1) '0' :=
      List.takeWhile_eq_self_iff.mpr (isDigit_zeros _)
    rw [htext]
    simp only [Float64.decimalParts, isDigit_eq, htake, hdrop, hfraction]
    exact digitsValue_zeros (n + 2)

/-- What is written for a number other than zero has a digit other than zero. -/
theorem formatShortest_zero {x : Float64} {text : List Char}
    (hx : x.magnitude = 0) (h : x.formatShortest fmt = some text) :
    text = signed x.isNeg (fmt 0 0) := by
  obtain ⟨n, -, hn⟩ := List.exists_of_findSome?_eq_some h
  simp only [Float64.candidates, hx, if_true, List.findSome?_cons, List.findSome?_nil] at hn
  rw [signed]
  split_ifs at hn ⊢ <;> exact (Option.some.inj hn).symm

theorem validMagnitude_point_zero (hvalid : validMagnitude ds = true)
    (hdigits : ∀ d ∈ ds, isDigit d = true) : validMagnitude (ds ++ ['.', '0']) = true := by
  cases ds with
  | nil => cases hvalid
  | cons c cs =>
    apply validMagnitude_append hdigits _ (by simp [isDigit]) rfl
    rintro rfl
    cases cs with
    | nil => rfl
    | cons d ds =>
      have hd := hdigits d (by simp)
      have hfraction : validFraction (d :: ds) = true := hvalid
      rw [validFraction] at hfraction
      · cases ds with
        | nil => cases hfraction
        | cons e ds =>
          rw [validExponent, Bool.and_eq_true, Bool.or_eq_true, beq_iff_eq, beq_iff_eq] at hfraction
          rcases hfraction.1 with rfl | rfl <;> cases hd
      · rintro c cs ⟨⟩
        cases hd

theorem formatShortest_fixedText {x : Float64} {text : List Char} (hx : x.magnitude ≠ 0)
    (h : x.formatShortest Float64.fixedText = some text) :
    ∃ digits exp, text = signed x.isNeg (Float64.fixedText digits exp) ∧ digits ≠ 0 := by
  obtain ⟨digits, exp, rfl⟩ := formatShortest_signed h
  refine ⟨digits, exp, rfl, ?_⟩
  rintro rfl
  have hhead : (Float64.fixedText 0 exp).head? ≠ some '-' := by
    rw [Float64.fixedText]
    split_ifs with hexp hpoint
    · simp [show natText 0 = ['0'] from rfl]
    · simp only [show natText 0 = ['0'] from rfl, List.length_singleton] at hpoint
      omega
    · simp
  have hparse := Float64.parse_formatShortest h
  rw [parse_signed _ hhead, decimalParts_fixedText_zero] at hparse
  dsimp only at hparse
  split_ifs at hparse
  rw [← Option.some.inj hparse, magnitude_ofDecimal_zero] at hx
  exact hx rfl

end Decimal
end FleetLlmd.Json
