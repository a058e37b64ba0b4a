import FleetLlmd.Go.Hex
import FleetLlmd.Kubernetes.Repository

/-!
# Names of resources

`resourceName` of `pkg/intents/kubernetes_repository.go` keeps an ID that is a label
of at most 63 characters and otherwise appends a digest of the ID to a stem made from
it. Two digests tell two rewritten IDs apart, but nothing keeps an ID from being the
rewritten name of another.
-/

namespace FleetLlmd.Intents
open Go Effect Prog

section Trim
variable {p : Char → Bool} {cs : List Char} {c : Char}

theorem mem_of_mem_trimChars (h : c ∈ trimChars p cs) : c ∈ cs := by
  rw [trimChars, List.mem_reverse] at h
  have hrev := (List.dropWhile_suffix p).subset h
  exact (List.dropWhile_suffix p).subset (List.mem_reverse.mp hrev)

theorem head_trimChars (h : (trimChars p cs).head? = some c) : p c = false := by
  have hpre : trimChars p cs <+: cs.dropWhile p := by
    have hsuffix := List.dropWhile_suffix p (l := (cs.dropWhile p).reverse)
    simpa [trimChars] using List.reverse_prefix.mpr hsuffix
  obtain ⟨rest, hrest⟩ := hpre
  have hhead : (cs.dropWhile p).head? = some c := by
    rw [← hrest, List.head?_append, h]
    rfl
  have hnot := List.head?_dropWhile_not p cs
  rw [hhead] at hnot
  simpa using hnot

theorem last_trimChars (h : (trimChars p cs).getLast? = some c) : p c = false := by
  rw [trimChars, List.getLast?_reverse] at h
  have hnot := List.head?_dropWhile_not p (cs.dropWhile p).reverse
  rw [h] at hnot
  simpa using hnot

theorem trimChars_of_ends (hhead : ∀ c ∈ cs.head?, p c = false)
    (hlast : cs.getLast? = some c) (h : p c = false) : trimChars p cs = cs := by
  have hdrop : cs.dropWhile p = cs := by
    cases cs with
    | nil => rfl
    | cons d ds => simp [hhead d rfl]
  have hrev : cs.reverse.dropWhile p = cs.reverse := by
    obtain ⟨front, rfl⟩ := List.getLast?_eq_some_iff.mp hlast
    simp [h]
  rw [trimChars, hdrop, hrev, List.reverse_reverse]

end Trim

section Labels

theorem isLabelChar_iff (c : Char) : isLabelChar c = true ↔
    (97 ≤ c.toNat ∧ c.toNat ≤ 122) ∨ (48 ≤ c.toNat ∧ c.toNat ≤ 57) ∨ c = '-' := by
  simp [isLabelChar, Char.le_def, UInt32.le_iff_toNat_le, or_assoc]

theorem isLabelChar_hexDigit {n : Nat} (h : n < 16) :
    isLabelChar (hexDigit n) = true ∧ hexDigit n ≠ '-' := by
  interval_cases n <;> decide

theorem lowerRune_label {c : Char} (h : isLabelChar c = true) : lowerRune c = c := by
  rw [isLabelChar_iff] at h
  have hupper : ¬('A' ≤ c ∧ c ≤ 'Z') := by
    rintro ⟨hlow, hhigh⟩
    rw [Char.le_def, UInt32.le_iff_toNat_le] at hlow hhigh
    change 65 ≤ c.toNat at hlow
    change c.toNat ≤ 90 at hhigh
    rcases h with h | h | rfl
    · omega
    · omega
    · exact absurd hlow (by decide)
  have hascii : c.toNat < 128 := by
    rcases h with h | h | rfl
    · omega
    · omega
    · decide
  rw [lowerRune, if_pos hascii, if_neg hupper]

theorem mem_replaceInvalid {c : Char} {inside : Bool} {cs : List Char}
    (h : c ∈ replaceInvalid inside cs) : isLabelChar c = true := by
  induction cs generalizing inside with
  | nil => simp [replaceInvalid] at h
  | cons d ds ih =>
    rw [replaceInvalid] at h
    split_ifs at h with hd hinside
    · rcases List.mem_cons.mp h with rfl | htail
      · exact hd
      · exact ih htail
    · exact ih h
    · rcases List.mem_cons.mp h with rfl | htail
      · decide
      · exact ih htail

theorem replaceInvalid_label {cs : List Char} (h : ∀ c ∈ cs, isLabelChar c = true) :
    replaceInvalid false cs = cs := by
  induction cs with
  | nil => rfl
  | cons c cs ih =>
    rw [replaceInvalid, if_pos (h c List.mem_cons_self),
      ih fun d hd => h d (List.mem_cons_of_mem _ hd)]

structure IsStem (cs : List Char) : Prop where
  label : ∀ c ∈ cs, isLabelChar c = true
  head : ∃ c ∈ cs.head?, c ≠ '-'

theorem IsStem.ne_nil {cs : List Char} (h : IsStem cs) : cs ≠ [] := by
  rintro rfl
  obtain ⟨c, hc, -⟩ := h.head
  cases hc

theorem isStem_orResource {cs : List Char} (h : ∀ c ∈ cs, isLabelChar c = true) :
    IsStem (orResource (trimHyphens cs)) := by
  have hlabel : ∀ c ∈ trimHyphens cs, isLabelChar c = true := fun c hc =>
    h c (mem_of_mem_trimChars hc)
  cases htrim : trimHyphens cs with
  | nil =>
    have hname : orResource [] = ['r', 'e', 's', 'o', 'u', 'r', 'c', 'e'] :=
      chars_eq_toList "resource"
    rw [hname]
    exact ⟨by simp [isLabelChar_iff], 'r', rfl, by decide⟩
  | cons c rest =>
    have hhead : (c == '-') = false :=
      head_trimChars (p := (· == '-')) (show (trimHyphens cs).head? = some c by rw [htrim]; rfl)
    rw [htrim] at hlabel
    exact ⟨hlabel, c, rfl, by simpa using hhead⟩

end Labels

section Shape

def dnsLabel (id : String) : List Char :=
  orResource (trimHyphens (replaceInvalid false (chars (toLower (trimSpace id)))))

def Plain (id : String) : Prop :=
  dnsLabel id = chars (trimSpace id) ∧ (dnsLabel id).length ≤ 63

instance (id : String) : Decidable (Plain id) := inferInstanceAs (Decidable (_ ∧ _))

def stem (id : String) : List Char :=
  orResource (if 46 < (dnsLabel id).length then trimHyphens ((dnsLabel id).take 46)
    else dnsLabel id)

def digestPrefix (id : String) : Bytes := (sha256 (utf8 (trimSpace id))).take 8

variable {id : String}

theorem resourceName_plain (h : Plain id) : resourceName id = trimSpace id := by
  have hkept : ¬(dnsLabel id ≠ chars (trimSpace id) ∨ 63 < (dnsLabel id).length) := by
    rintro (hne | hlong)
    · exact hne h.1
    · exact absurd h.2 (by omega)
  have hname : resourceName id = String.ofList (dnsLabel id) := by
    simp only [dnsLabel] at hkept
    simp only [resourceName, if_neg hkept]
    rfl
  rw [hname, h.1, chars_eq_toList, String.ofList_toList]

theorem resourceName_rewritten (h : ¬Plain id) :
    resourceName id = String.ofList (stem id ++ '-' :: (hexEncode (digestPrefix id)).toList) := by
  have hrewritten : dnsLabel id ≠ chars (trimSpace id) ∨ 63 < (dnsLabel id).length := by
    by_cases hne : dnsLabel id = chars (trimSpace id)
    · exact .inr (by_contra fun hshort => h ⟨hne, by omega⟩)
    · exact .inl hne
  simp only [dnsLabel] at hrewritten
  simp only [resourceName, if_pos hrewritten]
  rw [← chars_eq_toList]
  rfl

theorem isStem_dnsLabel (id : String) : IsStem (dnsLabel id) :=
  isStem_orResource fun _ => mem_replaceInvalid

theorem isStem_stem (id : String) : IsStem (stem id) ∧ (stem id).length ≤ 46 := by
  rw [stem]
  split_ifs with hlong
  · refine ⟨isStem_orResource fun c hc => (isStem_dnsLabel id).label c (List.mem_of_mem_take hc), ?_⟩
    have hlen : (trimHyphens ((dnsLabel id).take 46)).length ≤ 46 := by
      rw [trimHyphens, trimChars]
      have h₁ := (List.dropWhile_suffix (· == '-')
        (l := (((dnsLabel id).take 46).dropWhile (· == '-')).reverse)).length_le
      have h₂ := (List.dropWhile_suffix (· == '-') (l := (dnsLabel id).take 46)).length_le
      have h₃ := List.length_take_le 46 (dnsLabel id)
      simp only [List.length_reverse] at h₁ ⊢
      omega
    rw [orResource]
    split_ifs
    · decide
    · exact hlen
  · have hkept : orResource (dnsLabel id) = dnsLabel id := by
      rw [orResource, if_neg]
      simpa using (isStem_dnsLabel id).ne_nil
    rw [hkept]
    exact ⟨isStem_dnsLabel id, by omega⟩

def Imitates (id other : String) : Prop :=
  ¬Plain other ∧
    (trimSpace id).toList = stem other ++ '-' :: (hexEncode (digestPrefix other)).toList

instance (id other : String) : Decidable (Imitates id other) :=
  inferInstanceAs (Decidable (_ ∧ _))

theorem digestPrefix_length (id : String) : (digestPrefix id).length = 8 := by
  rw [digestPrefix, List.length_take, sha256_length]
  rfl

structure IsLabelName (cs : List Char) : Prop where
  nonempty : 1 ≤ cs.length
  short : cs.length ≤ 63
  label : ∀ c ∈ cs, isLabelChar c = true
  head : cs.head? ≠ some '-'
  last : cs.getLast? ≠ some '-'

theorem IsLabelName.plain (h : IsLabelName (trimSpace id).toList) : Plain id := by
  have hne : (trimSpace id).toList ≠ [] := List.ne_nil_of_length_pos h.nonempty
  have htrim : trimHyphens (trimSpace id).toList = (trimSpace id).toList := by
    refine trimChars_of_ends ?_ (List.getLast?_eq_some_getLast hne) ?_
    · intro c hc
      rw [beq_eq_false_iff_ne]
      rintro rfl
      exact h.head hc
    · rw [beq_eq_false_iff_ne]
      intro heq
      exact h.last (heq ▸ List.getLast?_eq_some_getLast hne)
  have hlower : (trimSpace id).toList.map lowerRune = (trimSpace id).toList := by
    conv_rhs => rw [← List.map_id (trimSpace id).toList]
    exact List.map_congr_left fun c hc => lowerRune_label (h.label c hc)
  have hname : dnsLabel id = (trimSpace id).toList := by
    rw [dnsLabel, toLower, chars_eq_toList, chars_eq_toList, String.toList_ofList, hlower,
      replaceInvalid_label h.label, htrim, orResource, if_neg (by simpa using hne)]
  exact ⟨by rw [hname, chars_eq_toList], hname ▸ h.short⟩

theorem isLabelName_rewritten (id : String) :
    IsLabelName (stem id ++ '-' :: (hexEncode (digestPrefix id)).toList) := by
  obtain ⟨hstem, hlen⟩ := isStem_stem id
  have hdigits := length_hexEncode (digestPrefix id)
  rw [digestPrefix_length] at hdigits
  constructor
  · rw [List.length_append, List.length_cons]
    omega
  · rw [List.length_append, List.length_cons, hdigits]
    omega
  · intro c hc
    rw [List.mem_append, List.mem_cons] at hc
    rcases hc with hc | rfl | hc
    · exact hstem.label c hc
    · decide
    · obtain ⟨n, hn, rfl⟩ := mem_hexEncode hc
      exact (isLabelChar_hexDigit hn).1
  · obtain ⟨d, hd, hne⟩ := hstem.head
    rw [List.head?_append, hd]
    exact fun heq => hne (Option.some.inj heq)
  · intro hlast
    have hne : (hexEncode (digestPrefix id)).toList ≠ [] :=
      List.ne_nil_of_length_pos (by omega)
    rw [List.append_cons, List.getLast?_append_of_ne_nil _ hne] at hlast
    obtain ⟨n, hn, heq⟩ := mem_hexEncode (List.mem_of_getLast? hlast)
    exact (isLabelChar_hexDigit hn).2 heq.symm

theorem Plain.isLabelName (h : Plain id) : IsLabelName (trimSpace id).toList := by
  obtain ⟨hname, hshort⟩ := h
  have hstem := isStem_dnsLabel id
  rw [chars_eq_toList] at hname
  have hlast : (dnsLabel id).getLast? ≠ some '-' := by
    rw [dnsLabel, orResource]
    split_ifs
    · decide
    · intro heq
      exact absurd (last_trimChars heq) (by decide)
  rw [← hname]
  refine ⟨List.length_pos_of_ne_nil hstem.ne_nil, hshort, hstem.label, ?_, hlast⟩
  obtain ⟨c, hc, hne⟩ := hstem.head
  rw [Option.mem_def.mp hc]
  exact fun heq => hne (Option.some.inj heq)

theorem isLabelName_resourceName (id : String) : IsLabelName (resourceName id).toList := by
  by_cases h : Plain id
  · rw [resourceName_plain h]
    exact h.isLabelName
  · rw [resourceName_rewritten h, String.toList_ofList]
    exact isLabelName_rewritten id

theorem isSpace_label {c : Char} (h : isLabelChar c = true) : isSpace c = false := by
  rw [isLabelChar_iff] at h
  rcases h with h | h | rfl
  · simp [isSpace]; omega
  · simp [isSpace]; omega
  · decide

/-- Every name is a DNS label, and naming it again changes nothing. -/
theorem resourceName_label_name (id : String) :
    IsLabelName (resourceName id).toList ∧ resourceName (resourceName id) = resourceName id := by
  have hname := isLabelName_resourceName id
  have htrim : trimSpace (resourceName id) = resourceName id :=
    trimSpace_eq_self fun c hc => isSpace_label (hname.label c hc)
  refine ⟨hname, ?_⟩
  rw [resourceName_plain (IsLabelName.plain (by rwa [htrim])), htrim]

theorem Imitates.plain {other : String} (h : Imitates id other) : Plain id := by
  apply IsLabelName.plain
  rw [h.2]
  exact isLabelName_rewritten other

theorem Imitates.resourceName {other : String} (h : Imitates id other) :
    Intents.resourceName id = Intents.resourceName other := by
  rw [resourceName_plain h.plain, resourceName_rewritten h.1, ← h.2, String.ofList_toList]

theorem resourceName_eq_iff {other : String} (hne : trimSpace id ≠ trimSpace other)
    (hdigest : digestPrefix id ≠ digestPrefix other) :
    resourceName id = resourceName other ↔ Imitates id other ∨ Imitates other id := by
  constructor
  · intro hsame
    by_cases hid : Plain id
    · rw [resourceName_plain hid] at hsame
      by_cases hother : Plain other
      · rw [resourceName_plain hother] at hsame
        exact absurd hsame hne
      · left
        refine ⟨hother, ?_⟩
        rw [hsame, resourceName_rewritten hother, String.toList_ofList]
    · by_cases hother : Plain other
      · right
        refine ⟨hid, ?_⟩
        rw [resourceName_plain hother] at hsame
        rw [← hsame, resourceName_rewritten hid, String.toList_ofList]
      · rw [resourceName_rewritten hid, resourceName_rewritten hother] at hsame
        -- both digests have sixteen digits, so they are the ends of one text
        obtain ⟨-, hends⟩ := List.append_inj' (String.ofList_injective hsame)
          (by simp only [List.length_cons, length_hexEncode, digestPrefix_length])
        have hdigits := String.toList_injective (List.cons.inj hends).2
        exact absurd (hexEncode_injective hdigits) hdigest
  · rintro (h | h)
    · exact h.resourceName
    · exact h.resourceName.symm

end Shape

section Requests

def ApiCall.reaches (name : String) : ApiCall → Prop
  | .postOperation resource => resource.metadata.name = name
  | .getOperation other | .putOperation other _ | .putOperationStatus other _
  | .deleteOperation other => other = name
  | .listOperations _ => True
  | _ => False

def Spares {α : Type} (p : ApiAction α) (name : String) : Prop :=
  p.Meets (fun _ (c : ApiCall) => ¬c.reaches name) (fun _ _ => True) []

theorem getOperation_spares {id name : String} (h : resourceName id ≠ name) :
    Spares (KubernetesRepository.getOperation id) name := by
  rw [Spares, KubernetesRepository.getOperation]
  simp only [bind_eq_bind, getOperationRequest, request_bind, meets_call]
  refine ⟨h, fun answer => ?_⟩
  cases answer <;> trivial

theorem updateIntentStatus_spares (intentName name : String) (operation : FleetOperation)
    (past : List (Event apiCalls)) :
    (KubernetesRepository.updateIntentStatus intentName operation).Meets
      (fun _ (c : ApiCall) => ¬c.reaches name) (fun _ _ => True) past := by
  rw [KubernetesRepository.updateIntentStatus]
  simp only [bind_eq_bind, getIntentRequest, request_bind, meets_call]
  refine ⟨id, fun answer => ?_⟩
  cases answer with
  | error failure => trivial
  | ok resource =>
    simp only [settle_ok, putIntentStatusRequest, request_bind, meets_call]
    refine ⟨id, fun answer => ?_⟩
    cases answer <;> trivial

theorem updateOperation_spares {operation : FleetOperation} {name : String}
    (h : resourceName operation.id ≠ name) :
    Spares (KubernetesRepository.updateOperation operation) name := by
  rw [Spares, KubernetesRepository.updateOperation]
  simp only [bind_eq_bind, getOperationRequest, request_bind, meets_call]
  refine ⟨h, fun answer => ?_⟩
  cases answer with
  | error failure => trivial
  | ok resource =>
    simp only [settle_ok, putOperationRequest, request_bind, meets_call]
    refine ⟨h, fun answer => ?_⟩
    cases answer with
    | error failure => trivial
    | ok resource =>
      simp only [settle_ok, KubernetesRepository.updateStatus, bind_eq_bind,
        putOperationStatusRequest, request_bind, meets_call]
      refine ⟨h, fun answer => ?_⟩
      cases answer with
      | error failure => trivial
      | ok resource =>
        simp only [settle_ok, meets_bind]
        refine (updateIntentStatus_spares _ name operation _).imp ?_
        intro past result _
        cases result <;> trivial

structure Separate (id other : String) : Prop where
  name : resourceName id ≠ resourceName other
  get : Spares (KubernetesRepository.getOperation id) (resourceName other)
  update : ∀ operation : FleetOperation, operation.id = id →
    Spares (KubernetesRepository.updateOperation operation) (resourceName other)

/-- IDs with different digests are separate exactly if neither is the rewritten name of the
other. -/
theorem separate_iff (id other : String) (hne : trimSpace id ≠ trimSpace other)
    (hdigest : digestPrefix id ≠ digestPrefix other) :
    Separate id other ∧ Separate other id ↔ ¬Imitates id other ∧ ¬Imitates other id := by
  have hnames := resourceName_eq_iff hne hdigest
  have hsep {a b : String} (h : resourceName a ≠ resourceName b) : Separate a b :=
    ⟨h, getOperation_spares h, fun operation hop => updateOperation_spares (by rwa [hop])⟩
  constructor
  · rintro ⟨h, -⟩
    exact not_or.mp fun himitates => h.name (hnames.mpr himitates)
  · intro h
    have hdiffer : resourceName id ≠ resourceName other := fun hsame =>
      not_or.mpr h (hnames.mp hsame)
    exact ⟨hsep hdiffer, hsep hdiffer.symm⟩

theorem separate_upper_lower : Separate "Foo" "foo" ∧ Separate "foo" "Foo" :=
  (separate_iff "Foo" "foo" (by decide +kernel) (by decide +kernel)).mpr (by decide +kernel)

/-- The second ID is what the first is rewritten to. -/
theorem resourceName_imitated : trimSpace "Foo" ≠ trimSpace "foo-1cbec737f863e492" ∧
    digestPrefix "Foo" ≠ digestPrefix "foo-1cbec737f863e492" ∧
    resourceName "Foo" = resourceName "foo-1cbec737f863e492" := by
  decide +kernel

end Requests
end FleetLlmd.Intents
