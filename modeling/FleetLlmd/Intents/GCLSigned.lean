import FleetLlmd.Intents.GCLAdapter

/-!
# Signed content and executed content

A decision package is read twice, into typed structs from which the intent is projected and
into an untyped value whose canonical text the signature covers. On plain packages the two
readings agree, so a signature that verifies fixes the intent. They do not where a member is
repeated: in the typed reading the map of a repeated member keeps its earlier entries.
-/

namespace FleetLlmd.Intents
open Go Json

section Agreement
variable {env : GCLPlatform} {keyring : List (String × Bytes)} {allowLegacyHMAC : Bool}
  {now : Time} {e e' : GCLDecisionPackageCloudEvent}

theorem toOption_wrapError {α : Type} (format : String) (x : Except Error α) :
    (wrapError format x).toOption = x.toOption := by
  cases x <;> rfl

theorem toOption_bind {α β : Type} (x : Except Error α) (k : α → Except Error β) :
    (x >>= k).toOption = x.toOption.bind fun a => (k a).toOption := by
  cases x <;> rfl

theorem ok_of_toOption {α : Type} {x : Except Error α} {a : α} (h : x.toOption = some a) :
    x = .ok a := by
  cases x with
  | error err => cases h
  | ok b => rw [Option.some.inj h]

theorem toOption_decodePackageOf (e : GCLDecisionPackageCloudEvent) (package : Raw) :
    (decodePackageOf env keyring allowLegacyHMAC now e package).toOption =
      (decodeDecisionPackage package).toOption.bind fun decision =>
        (validateGCLDecisionPackage decision now).toOption.bind fun _ =>
          (canonicalGCLJSON env.floorLog10 package).toOption.bind fun canonical =>
            (verifyGCLSignedPackage env e.envelope.event.data canonical keyring
              allowLegacyHMAC).toOption.bind fun _ =>
              (validateGCLEnvelope e.envelope.event decision).toOption.bind fun _ =>
                (projectGCLDecision e.envelope.event decision).toOption := by
  simp only [decodePackageOf, toOption_bind, toOption_wrapError]
  rfl

theorem signedText_eq_some {canonical : Bytes} (h : signedText env e = some canonical) :
    ∃ package, e.data.package = some package ∧
      canonicalGCLJSON env.floorLog10 package = .ok canonical := by
  obtain ⟨package, hsome, hok⟩ := Option.bind_eq_some_iff.mp h
  exact ⟨package, hsome, ok_of_toOption hok⟩

theorem isNull_of_value {f : List Char → List Char} {r r' : Raw} (h : r.value f = r'.value f) :
    r.isNull = r'.isNull := by
  cases Raw.alike_of_value h <;> rfl

theorem toOption_decodeGCLEvent {package : Raw} (h : e.data.package = some package) :
    (decodeGCLEvent env keyring allowLegacyHMAC now e).toOption =
      if package.isNull then none
      else (decodePackageOf env keyring allowLegacyHMAC now e package).toOption := by
  rw [decodeGCLEvent, h]
  cases package <;> rfl

def Verifies (env : GCLPlatform) (keyring : List (String × Bytes)) (allowLegacyHMAC : Bool)
    (e : GCLDecisionPackageCloudEvent) : Prop :=
  ∃ canonical ∈ signedText env e,
    verifyGCLSignedPackage env e.data canonical keyring allowLegacyHMAC = .ok ()

theorem decodeGCLEvent_unverified (h : ¬ Verifies env keyring allowLegacyHMAC e) :
    (decodeGCLEvent env keyring allowLegacyHMAC now e).toOption = none := by
  cases hpackage : e.data.package with
  | none =>
    rw [decodeGCLEvent, hpackage]
    rfl
  | some package =>
    rw [toOption_decodeGCLEvent hpackage, toOption_decodePackageOf]
    refine ite_eq_left_iff.mpr fun _ => Option.eq_none_iff_forall_ne_some.mpr fun intent h' => ?_
    obtain ⟨decision, -, hdecision⟩ := Option.bind_eq_some_iff.mp h'
    obtain ⟨-, -, hvalid⟩ := Option.bind_eq_some_iff.mp hdecision
    obtain ⟨canonical, hcanonical, hverify⟩ := Option.bind_eq_some_iff.mp hvalid
    obtain ⟨_, hverified, -⟩ := Option.bind_eq_some_iff.mp hverify
    refine h ⟨canonical, ?_, ok_of_toOption hverified⟩
    rw [signedText, hpackage]
    exact hcanonical

theorem verifies_congr (henvelope : e.envelope = e'.envelope)
    (hsigned : signedText env e = signedText env e') :
    Verifies env keyring allowLegacyHMAC e ↔ Verifies env keyring allowLegacyHMAC e' := by
  have hverify : ∀ (e : GCLDecisionPackageCloudEvent) canonical,
      verifyGCLSignedPackage env e.data canonical keyring allowLegacyHMAC =
        verifyGCLSignedPackage env e.envelope.event.data canonical keyring allowLegacyHMAC :=
    fun _ _ => rfl
  rw [Verifies, Verifies, hsigned]
  simp only [hverify e, hverify e', henvelope]

theorem decodeGCLEvent_agree (henvelope : e.envelope = e'.envelope)
    (hsigned : signedText env e = signedText env e')
    (hread : e.data.package = e'.data.package ∨
      e.data.package.all (plainPackage env.floorLog10) = true ∧
        e'.data.package.all (plainPackage env.floorLog10) = true) :
    (decodeGCLEvent env keyring allowLegacyHMAC now e).toOption =
      (decodeGCLEvent env keyring allowLegacyHMAC now e').toOption := by
  cases htext : signedText env e with
  | none =>
    rw [decodeGCLEvent_unverified (by simp [Verifies, htext]),
      decodeGCLEvent_unverified (by simp [Verifies, ← hsigned, htext])]
  | some canonical =>
    obtain ⟨package, hsome, hcanonical⟩ := signedText_eq_some htext
    obtain ⟨package', hsome', hcanonical'⟩ := signedText_eq_some (hsigned ▸ htext)
    have hdecision : (decodeDecisionPackage package).toOption =
        (decodeDecisionPackage package').toOption := by
      rcases hread with hsame | ⟨hplain, hplain'⟩
      · rw [Option.some.inj ((hsome.symm.trans hsame).trans hsome')]
      · rw [hsome, Option.all_some] at hplain
        rw [hsome', Option.all_some] at hplain'
        exact decodeDecisionPackage_agree hplain hplain' hcanonical hcanonical'
    have hnull := isNull_of_value (value_of_canonicalGCLJSON hcanonical hcanonical')
    rw [toOption_decodeGCLEvent hsome, toOption_decodeGCLEvent hsome', hnull,
      toOption_decodePackageOf, toOption_decodePackageOf, hdecision, hcanonical, hcanonical',
      henvelope]

def projectVerified (now : Time) (e : GCLDecisionPackageCloudEvent) : Option FleetIntent :=
  e.data.package.bind fun package =>
    (decodeDecisionPackage package).toOption.bind fun decision =>
      (validateGCLDecisionPackage decision now).toOption.bind fun _ =>
        (validateGCLEnvelope e.envelope.event decision).toOption.bind fun _ =>
          (projectGCLDecision e.envelope.event decision).toOption

theorem decodeGCLEvent_resigned (henvelope : e.envelope = e'.envelope)
    (hsigned : signedText env e = signedText env e')
    (h : (decodeGCLEvent env keyring allowLegacyHMAC now e).toOption.isSome = true) :
    (decodeGCLEvent env keyring allowLegacyHMAC now e').toOption = projectVerified now e' := by
  cases htext : signedText env e with
  | none =>
    rw [decodeGCLEvent_unverified (by simp [Verifies, htext])] at h
    cases h
  | some canonical =>
    obtain ⟨package, hsome, hcanonical⟩ := signedText_eq_some htext
    obtain ⟨package', hsome', hcanonical'⟩ := signedText_eq_some (hsigned ▸ htext)
    have hnull := isNull_of_value (value_of_canonicalGCLJSON hcanonical hcanonical')
    rw [toOption_decodeGCLEvent hsome] at h
    rw [toOption_decodeGCLEvent hsome', ← hnull, projectVerified, hsome', Option.bind_some]
    split_ifs at h ⊢
    · cases h
    · rw [toOption_decodePackageOf, hcanonical] at h
      obtain ⟨intent, hintent⟩ := Option.isSome_iff_exists.mp h
      obtain ⟨decision, -, hdecision⟩ := Option.bind_eq_some_iff.mp hintent
      obtain ⟨-, -, hvalid⟩ := Option.bind_eq_some_iff.mp hdecision
      obtain ⟨text, hok, hverify⟩ := Option.bind_eq_some_iff.mp hvalid
      obtain ⟨_, hverified, -⟩ := Option.bind_eq_some_iff.mp hverify
      cases hok
      rw [henvelope] at hverified
      rw [toOption_decodePackageOf, hcanonical']
      simp only [Except.toOption, Option.bind_some] at hverified ⊢
      simp only [hverified, Option.bind_some]

end Agreement

/-! ## Samples -/

def readEvent (text : List Char) : Except Error GCLDecisionPackageCloudEvent :=
  match parse text with
  | none => .error syntaxError
  | some r => decodeStruct true cloudEventFields r {}

theorem decodeCloudEvent_utf8 (s : String) : decodeCloudEvent (utf8 s) = readEvent s.toList := by
  rw [decodeCloudEvent, unmarshal, show runes (utf8 s) = s.toList from chars_eq_toList s]
  rfl

def gclPlatform : GCLPlatform where
  parseMediaType s := .ok (s, [])
  ed25519Verify _ _ _ := false
  floorLog10 _ := 0

def gclKeyring : List (String × Bytes) := [("k", List.replicate 32 7)]

def gclNow : Time := ⟨1767268800000000000, 0⟩

def eventBefore : List String :=
  ["\x7b\"specversion\":\"1.0\",\"id\":\"urn:sha256:",
    "326ce8b47bd5fd1b2919f6e89c8e1ba3677ac5d3ce79c5aa8479cce19fdb19a6\",\"source\":\"urn:g\",",
    "\"type\":\"ai.llm-d.gcl.decision-package.v1\",\"subject\":",
    "\"decision-package/00000000-0000-0000-0000-000000000001\",\"time\":\"2026-01-01T00:00:00Z\",",
    "\"datacontenttype\":\"application/json\",\"dataschema\":\"https:",
    "//schemas.llm-d.ai/gcl/decision-package/v1/schema.json\",\"correlationid\":\"c\",",
    "\"causationid\":\"u\",\"idempotencyid\":\"i\",\"tenant\":\"t\",\"zone\":\"z\",\"expiry\":",
    "\"2026-01-02T00:00:00Z\",\"evidence\":[\"sha256:",
    "0000000000000000000000000000000000000000000000000000000000000000\"],\"data\":",
    "\x7b\"package\":\x7b\"schema_version\":\"gcl.llm-d.ai/decision-package/v1\",\"package_id\":",
    "\"00000000-0000-0000-0000-000000000001\",\"created_at\":\"2026-01-01T00:00:00Z\",",
    "\"expires_at\":\"2026-01-02T00:00:00Z\",\"correlation_id\":\"c\",\"causation_id\":\"u\",",
    "\"idempotency_id\":\"i\",\"tenant\":\"t\",\"zone\":\"z\",\"proposer\":\x7b\"agent_id\":",
    "\"a\",\"workload_identity\":\"spiffe://a\",\"trust_domain\":\"a\"\x7d,\"constraints\":",
    "[\x7b\"constraint_id\":\"k\",\"constraint_type\":\"t\",\"hard\":true,\"bound\":1,",
    "\"confidence\":1,\"evidence_refs\":[\"sha256:",
    "0000000000000000000000000000000000000000000000000000000000000000\"]\x7d],\"candidates\":",
    "[\x7b\"candidate_id\":\"a\",\"action_class\":\"fleet.scale\","]

def eventAfter : List String :=
  ["\x7d],\"selected_candidate_id\":\"a\",\"rejected_alternatives\":[],",
    "\"falsification_results\":[\x7b\"candidate_id\":\"a\",\"check_id\":\"k\",\"verdict\":",
    "\"survives\",\"reasoning\":\"r\",\"evidence_refs\":[\"sha256:",
    "0000000000000000000000000000000000000000000000000000000000000000\"]\x7d],\"confidence\":1,",
    "\"evidence_sources\":[\"s\"],\"evidence_refs\":[\"sha256:",
    "0000000000000000000000000000000000000000000000000000000000000000\"]\x7d,\"digest\":\"sha256:",
    "28e8089a3aaec034d32085b1af8eb68852208c39a3771ac5459cac55c6ba4e73\",\"signature\":",
    "\"E-_LmuxybgPDv9v4irZjDeW-XE2hTccc68B-DnisE3Y\",\"algorithm\":\"HMAC-SHA256\",\"key_id\":",
    "\"k\"\x7d\x7d"]

/-- `members` are the parameters and the confidence of the candidate. -/
def signedEvent (members : String) : String :=
  String.ofList (eventBefore.flatMap String.toList ++
    (members.toList ++ eventAfter.flatMap String.toList))

def poolMembers : String := "\"parameters\":\x7b\"pool\":\"p\"\x7d,\"confidence\":1"

def swappedMembers : String := "\"confidence\":1,\"parameters\":\x7b\"pool\":\"p\"\x7d"

def extraMembers : String :=
  "\"parameters\":\x7b\"replicas\":100\x7d,\"parameters\":\x7b\"pool\":\"p\"\x7d,\"confidence\":1"

def sameSigned (env : GCLPlatform) (P : GCLDecisionPackageCloudEvent →
    GCLDecisionPackageCloudEvent → Bool) (text text' : List Char) : Bool :=
  match readEvent text, readEvent text' with
  | .ok e, .ok e' => decide (e.envelope = e'.envelope) &&
      decide (signedText env e = signedText env e') && P e e'
  | _, _ => false

theorem events_of_sameSigned {env : GCLPlatform} {P : GCLDecisionPackageCloudEvent →
    GCLDecisionPackageCloudEvent → Bool} {s t : String}
    (h : sameSigned env P s.toList t.toList = true) :
    ∃ e e', decodeCloudEvent (utf8 s) = .ok e ∧ decodeCloudEvent (utf8 t) = .ok e' ∧
      e.envelope = e'.envelope ∧ signedText env e = signedText env e' ∧ P e e' = true := by
  rw [sameSigned] at h
  split at h
  · next e e' hs ht =>
    simp only [Bool.and_eq_true, decide_eq_true_eq] at h
    exact ⟨e, e', (decodeCloudEvent_utf8 s).trans hs, (decodeCloudEvent_utf8 t).trans ht,
      h.1.1, h.1.2, h.2⟩
  · cases h

def bothPlain (env : GCLPlatform) (e e' : GCLDecisionPackageCloudEvent) : Bool :=
  e.data.package.all (plainPackage env.floorLog10) &&
    e'.data.package.all (plainPackage env.floorLog10)

def raisesReplicas (e e' : GCLDecisionPackageCloudEvent) : Bool :=
  (decodeGCLEvent gclPlatform gclKeyring true gclNow e).toOption.map
      (·.desiredReplicas) == some 0 &&
    (projectVerified gclNow e').map (·.desiredReplicas) == some 100

-- The literals are opened by `String.toList_ofList`, since the kernel decodes a literal slowly.
set_option maxRecDepth 100000 in
theorem signedEvent_swapped : sameSigned gclPlatform (bothPlain gclPlatform)
    (signedEvent poolMembers).toList (signedEvent swappedMembers).toList = true := by
  rw [signedEvent, signedEvent, String.toList_ofList, String.toList_ofList, eventBefore,
    eventAfter, poolMembers, swappedMembers]
  repeat rw [List.flatMap_cons]
  rw [List.flatMap_nil]
  iterate 29 rw [show String.toList _ = _ from String.toList_ofList]
  decide +kernel

set_option maxRecDepth 100000 in
theorem signedEvent_raises : sameSigned gclPlatform raisesReplicas
    (signedEvent poolMembers).toList (signedEvent extraMembers).toList = true := by
  rw [signedEvent, signedEvent, String.toList_ofList, String.toList_ofList, eventBefore,
    eventAfter, poolMembers, extraMembers]
  repeat rw [List.flatMap_cons]
  rw [List.flatMap_nil]
  iterate 29 rw [show String.toList _ = _ from String.toList_ofList]
  decide +kernel

theorem toOption_decode (env : GCLPlatform) (keyring : List (String × Bytes))
    (allowLegacyHMAC : Bool) (now : Time) (contentType : String) {p : Bytes}
    {e : GCLDecisionPackageCloudEvent} (hp : decodeCloudEvent p = .ok e) :
    (decodeGCLDecisionPackageCloudEvent env keyring allowLegacyHMAC now contentType p).toOption =
      (validateGCLContentType env contentType).toOption.bind fun _ =>
        (decodeGCLEvent env keyring allowLegacyHMAC now e).toOption := by
  rw [decodeGCLDecisionPackageCloudEvent, hp]
  simp only [toOption_bind, toOption_wrapError]
  rfl

def decodeSample : Bytes → Except Error FleetIntent :=
  decodeGCLDecisionPackageCloudEvent gclPlatform gclKeyring true gclNow gclCloudEventContentType

theorem accepted_iff {p : Bytes} {e : GCLDecisionPackageCloudEvent} {intent : FleetIntent}
    (hp : decodeCloudEvent p = .ok e) :
    decodeSample p = .ok intent ↔
      (decodeGCLEvent gclPlatform gclKeyring true gclNow e).toOption = some intent := by
  have hcontent : (validateGCLContentType gclPlatform gclCloudEventContentType).toOption =
      some () := by decide +kernel
  have haccept := toOption_decode gclPlatform gclKeyring true gclNow gclCloudEventContentType hp
  rw [hcontent, Option.bind_some] at haccept
  rw [← haccept]
  exact ⟨fun h => congrArg Except.toOption h, ok_of_toOption⟩

/-! ## The signature and the intent -/

/-- Deliveries on which the two readings of a package have no occasion to come apart. -/
inductive Settled (env : GCLPlatform) (keyring : List (String × Bytes)) (allowLegacyHMAC : Bool)
    (contentType : String) (e e' : GCLDecisionPackageCloudEvent) : Prop
  | refused (h : validateGCLContentType env contentType ≠ .ok ())
  | unverified (h : ¬ Verifies env keyring allowLegacyHMAC e)
  | same (h : e.data.package = e'.data.package)
  | plain (h : e.data.package.all (plainPackage env.floorLog10) = true)
      (h' : e'.data.package.all (plainPackage env.floorLog10) = true)

theorem signed_is_executed (env : GCLPlatform) (keyring : List (String × Bytes))
    (allowLegacyHMAC : Bool) (now : Time) (contentType : String) {p q : Bytes}
    {e e' : GCLDecisionPackageCloudEvent} (hp : decodeCloudEvent p = .ok e)
    (hq : decodeCloudEvent q = .ok e') (henvelope : e.envelope = e'.envelope)
    (hsigned : signedText env e = signedText env e')
    (hsettled : Settled env keyring allowLegacyHMAC contentType e e') :
    (decodeGCLDecisionPackageCloudEvent env keyring allowLegacyHMAC now contentType p).toOption =
      (decodeGCLDecisionPackageCloudEvent env keyring allowLegacyHMAC now contentType
        q).toOption := by
  rw [toOption_decode env keyring allowLegacyHMAC now contentType hp,
    toOption_decode env keyring allowLegacyHMAC now contentType hq]
  cases hsettled with
  | refused hrefused =>
    cases hcontent : validateGCLContentType env contentType with
    | error err => rw [Except.toOption, Option.bind_none, Option.bind_none]
    | ok _ => exact absurd hcontent hrefused
  | unverified hno =>
    rw [decodeGCLEvent_unverified hno,
      decodeGCLEvent_unverified (mt (verifies_congr henvelope hsigned).mpr hno)]
  | same hsame => rw [decodeGCLEvent_agree henvelope hsigned (.inl hsame)]
  | plain hplain hplain' => rw [decodeGCLEvent_agree henvelope hsigned (.inr ⟨hplain, hplain'⟩)]

/-- A signed package whose members are spelled in another order is accepted as the same intent. -/
theorem reordered_package_agrees :
    ∃ e e' intent, decodeCloudEvent (utf8 (signedEvent poolMembers)) = .ok e ∧
      decodeCloudEvent (utf8 (signedEvent swappedMembers)) = .ok e' ∧ e.envelope = e'.envelope ∧
      signedText gclPlatform e = signedText gclPlatform e' ∧
      decodeSample (utf8 (signedEvent poolMembers)) = .ok intent ∧
      decodeSample (utf8 (signedEvent swappedMembers)) = .ok intent := by
  obtain ⟨e, e', he, he', henvelope, hsigned, hplain⟩ := events_of_sameSigned signedEvent_swapped
  obtain ⟨_, _, hraises, -, -, -, hreplicas⟩ := events_of_sameSigned signedEvent_raises
  obtain rfl := Except.ok.inj (he.symm.trans hraises)
  rw [raisesReplicas, Bool.and_eq_true, beq_iff_eq] at hreplicas
  obtain ⟨intent, hintent, -⟩ := Option.map_eq_some_iff.mp hreplicas.1
  rw [bothPlain, Bool.and_eq_true] at hplain
  have haccept := (accepted_iff he).mpr hintent
  have hagree := signed_is_executed gclPlatform gclKeyring true gclNow gclCloudEventContentType he
    he' henvelope hsigned (.plain hplain.1 hplain.2)
  exact ⟨e, e', intent, he, he', henvelope, hsigned, haccept,
    ok_of_toOption (hagree.symm.trans (congrArg Except.toOption haccept))⟩

/-- A member before the parameters of a signed package adds to them under the same signature. -/
theorem repeated_parameters_change_intent :
    ∃ p q e e', decodeCloudEvent p = .ok e ∧ decodeCloudEvent q = .ok e' ∧
      e.envelope = e'.envelope ∧ signedText gclPlatform e = signedText gclPlatform e' ∧
      ∃ intent intent', decodeSample p = .ok intent ∧ decodeSample q = .ok intent' ∧
        intent.desiredReplicas = 0 ∧ intent'.desiredReplicas = 100 := by
  obtain ⟨e, e', he, he', henvelope, hsigned, hraises⟩ := events_of_sameSigned signedEvent_raises
  rw [raisesReplicas, Bool.and_eq_true, beq_iff_eq, beq_iff_eq] at hraises
  obtain ⟨intent, hintent, hreplicas⟩ := Option.map_eq_some_iff.mp hraises.1
  obtain ⟨intent', hintent', hreplicas'⟩ := Option.map_eq_some_iff.mp hraises.2
  have hresigned := decodeGCLEvent_resigned henvelope hsigned (by rw [hintent]; rfl)
  exact ⟨_, _, e, e', he, he', henvelope, hsigned, intent, intent', (accepted_iff he).mpr hintent,
    (accepted_iff he').mpr (hresigned.trans hintent'), hreplicas, hreplicas'⟩

end FleetLlmd.Intents
