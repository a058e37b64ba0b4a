import FleetLlmd.Effect.Paths
import FleetLlmd.Modelpack.Resolver

/-!
# What a model signature says about a model

A signature covers the tag or digest a reference ends with, and nothing checks what the
registry then serves against it. So with signatures required, a signature decides what
is resolved exactly if the registry itself serves a single config for the reference;
and key bytes that do not parse make any signature manifest pass.
-/

namespace FleetLlmd.Modelpack
open Go Json Effect

/-! ## Successful runs -/

section Runs
variable {ε ρ : Type} (crypto : Crypto ε ρ) (r : RegistryModelResolver ε ρ) (ref : String)

abbrev answered (url : RegistryURL) (accept : String) (status : Nat) (content : Bytes) :
    Event registryCalls :=
  ⟨.get url accept, .ok (status, content)⟩

def Success (status : Nat) : Prop := 200 ≤ status ∧ status < 300

def signatureIn (key : PublicKey ε ρ) (reference : String) (content : Bytes) : Option Bytes :=
  match decodeSignatureManifest (content.take bodyLimit) with
  | .error _ => none
  | .ok manifest => firstVerified crypto key reference manifest.layers.items

inductive Resolved : List (Event registryCalls) → ModelPackConfig → Prop where
  | intro {parsed : ParsedOCIRef} {manifest : OCIManifest} {config : ModelPackConfig}
    {status₁ status₂ status₃ : Nat} {content₁ content₂ content₃ : Bytes}
    (hparse : parseOCIRef ref = .ok parsed)
    (hmanifest : decodeManifest (content₁.take bodyLimit) = .ok manifest)
    (hdigest : manifest.config.digest ≠ "")
    (hconfig : decodeConfig ref parsed (content₂.take bodyLimit) = .ok config)
    (hsignature : ∀ key, r.cosignPublicKey = some key →
      ∃ signature, signatureIn crypto key parsed.reference content₃ = some signature)
    (hstatus : Success status₁ ∧ Success status₂ ∧ Success status₃) :
    Resolved
      [answered (r.manifestURL parsed) manifestMediaType status₁ content₁,
        answered (r.configURL parsed manifest.config.digest) modelConfigMediaType status₂ content₂,
        answered (r.signatureURL parsed) manifestMediaType status₃ content₃] config

variable {crypto r ref} {es : List (Event registryCalls)}

theorem doGet_yields {url : RegistryURL} {accept : String} {body : Bytes} :
    (doGet url accept).Yields es (.ok body) ↔ ∃ status content,
      es = [answered url accept status content] ∧ Success status ∧
        body = content.take bodyLimit := by
  constructor
  · intro ⟨answer, rest, hes, h⟩
    cases answer with
    | error err => cases h.2
    | ok pair =>
      obtain ⟨status, content⟩ := pair
      dsimp only at h
      split_ifs at h with hfailed
      · cases h.2
      · refine ⟨status, content, ?_, ?_, ?_⟩
        · rw [hes, h.1]
        · simpa [Success] using hfailed
        · exact (Except.ok.inj h.2).symm
  · intro ⟨status, content, hes, hstatus, hbody⟩
    refine ⟨.ok (status, content), [], hes, ?_⟩
    dsimp only
    rw [if_neg (by simpa [Success] using hstatus), hbody]
    exact ⟨rfl, rfl⟩

theorem checkSignature_ok {reference : String} {content : Bytes} :
    r.checkSignature crypto ref reference (content.take bodyLimit) = .ok () ↔
      ∀ key, r.cosignPublicKey = some key →
        ∃ signature, signatureIn crypto key reference content = some signature := by
  rw [RegistryModelResolver.checkSignature]
  cases r.cosignPublicKey with
  | none => simp
  | some key =>
    have hkeys (P : PublicKey ε ρ → Prop) : (∀ k, some key = some k → P k) ↔ P key :=
      ⟨fun h => h key rfl, fun h k hk => Option.some.inj hk ▸ h⟩
    rw [hkeys, signatureIn]
    cases decodeSignatureManifest (content.take bodyLimit) with
    | error err => simp
    | ok manifest =>
      dsimp only
      cases hlayers : manifest.layers.items with
      | nil => simp [firstVerified]
      | cons layer layers =>
        rw [if_neg (by simp)]
        cases firstVerified crypto key reference (layer :: layers) with
        | none => simp
        | some signature => exact ⟨fun _ => ⟨signature, rfl⟩, fun _ => rfl⟩

theorem fetch_yields {α : Type} {url : RegistryURL} {accept : String} {a : α}
    {wrap : Error → Error} {k : Bytes → Prog registryCalls (Except Error α)} :
    ((doGet url accept).bind fun
      | .error err => .done (.error (wrap err))
      | .ok body => k body).Yields es (.ok a) ↔ ∃ status content rest,
        es = answered url accept status content :: rest ∧ Success status ∧
          (k (content.take bodyLimit)).Yields rest (.ok a) := by
  rw [Prog.yields_bind]
  constructor
  · intro ⟨result, first, rest, hes, hget, hrest⟩
    cases result with
    | error err => cases hrest.2
    | ok body =>
      obtain ⟨status, content, hfirst, hstatus, rfl⟩ := doGet_yields.mp hget
      exact ⟨status, content, rest, by rw [hes, hfirst]; rfl, hstatus, hrest⟩
  · intro ⟨status, content, rest, hes, hstatus, hrest⟩
    refine ⟨.ok (content.take bodyLimit), [answered url accept status content], rest, hes, ?_, hrest⟩
    exact doGet_yields.mpr ⟨status, content, rfl, hstatus, rfl⟩

theorem verifySignature_yields {parsed : ParsedOCIRef} (hparse : parseOCIRef ref = .ok parsed) :
    (r.verifySignature crypto ref).Yields es (.ok ()) ↔ ∃ status content,
      es = [answered (r.signatureURL parsed) manifestMediaType status content] ∧ Success status ∧
        ∀ key, r.cosignPublicKey = some key →
          ∃ signature, signatureIn crypto key parsed.reference content = some signature := by
  rw [RegistryModelResolver.verifySignature, hparse]
  refine fetch_yields.trans ?_
  constructor
  · rintro ⟨status, content, rest, hes, hstatus, hrest, hchecked⟩
    exact ⟨status, content, hrest ▸ hes, hstatus, checkSignature_ok.mp hchecked⟩
  · rintro ⟨status, content, hes, hstatus, hsigned⟩
    exact ⟨status, content, [], hes, hstatus, rfl, checkSignature_ok.mpr hsigned⟩

theorem resolve_yields {config : ModelPackConfig} (hrequire : r.requireSignature = true) :
    (r.resolve crypto ref).Yields es (.ok config) ↔ Resolved crypto r ref es config := by
  rw [RegistryModelResolver.resolve]
  cases hparse : parseOCIRef ref with
  | error err =>
    constructor
    · intro h
      cases h.2
    · intro ⟨hok, _, _, _, _, _⟩
      rw [hparse] at hok
      cases hok
  | ok parsed =>
    dsimp only
    refine fetch_yields.trans ?_
    constructor
    · intro ⟨status₁, content₁, rest₁, hes, hstatus₁, h⟩
      cases hmanifest : decodeManifest (content₁.take bodyLimit) with
      | error err =>
        rw [hmanifest] at h
        cases h.2
      | ok manifest =>
        rw [hmanifest] at h
        dsimp only at h
        by_cases hdigest : (manifest.config.digest == "") = true
        · rw [if_pos hdigest] at h
          cases h.2
        rw [if_neg hdigest] at h
        obtain ⟨status₂, content₂, rest₂, hrest₁, hstatus₂, h⟩ := fetch_yields.mp h
        cases hconfig : decodeConfig ref parsed (content₂.take bodyLimit) with
        | error err =>
          rw [hconfig] at h
          cases h.2
        | ok config' =>
          rw [hconfig] at h
          dsimp only at h
          rw [if_neg (by rw [hrequire]; decide)] at h
          obtain ⟨result, first, rest₃, hrest₂, hverify, h⟩ := Prog.yields_bind.mp h
          cases result with
          | error err => cases h.2
          | ok u =>
            obtain ⟨hrest₃, hsame⟩ := h
            cases hsame
            obtain ⟨status₃, content₃, hfirst, hstatus₃, hsigned⟩ :=
              (verifySignature_yields hparse).mp hverify
            rw [hes, hrest₁, hrest₂, hfirst, hrest₃]
            exact .intro hparse hmanifest (by simpa using hdigest) hconfig hsigned
              ⟨hstatus₁, hstatus₂, hstatus₃⟩
    · intro h
      cases h with
      | intro hok hmanifest hdigest hconfig hsigned hstatus =>
        rw [hparse] at hok
        cases hok
        refine ⟨_, _, _, rfl, hstatus.1, ?_⟩
        rw [hmanifest]
        dsimp only
        rw [if_neg (by simpa using hdigest)]
        refine fetch_yields.mpr ⟨_, _, _, rfl, hstatus.2.1, ?_⟩
        rw [hconfig]
        dsimp only
        rw [if_neg (by rw [hrequire]; decide)]
        refine Prog.yields_bind.mpr ⟨.ok (), _, [], (List.append_nil _).symm, ?_, ⟨rfl, rfl⟩⟩
        exact (verifySignature_yields hparse).mpr ⟨_, _, rfl, hstatus.2.2, hsigned⟩

end Runs

/-! ## Configs -/

def visible {α : Type} : Slice α → Slice α
  | .nil => .nil
  | .backed items _ => .backed items []

def ModelPackConfig.visible (c : ModelPackConfig) : ModelPackConfig :=
  { c with config :=
    { c.config with
      inputTypes := Modelpack.visible c.config.inputTypes
      outputTypes := Modelpack.visible c.config.outputTypes
      languages := Modelpack.visible c.config.languages } }

/-! ## What a signature is worth -/

section Worth
variable {ε ρ : Type} (crypto : Crypto ε ρ) (scheme : String) (pemData : Bytes)

def signedResolver : RegistryModelResolver ε ρ :=
  newRegistryModelResolver
    [withRegistryScheme scheme, withRequireSignature true, withCosignPublicKey crypto pemData]

abbrev Registry := RegistryURL → Bytes → Prop

def Registry.Allows (registry : Registry) (es : List (Event registryCalls)) : Prop :=
  ∀ url accept status content, answered url accept status content ∈ es → Success status →
    registry url content

variable (registry : Registry) (ref : String)

def AcceptedOn (parsed : ParsedOCIRef) (key : PublicKey ε ρ) (es : List (Event registryCalls))
    (signature : Bytes) : Prop :=
  ∃ status content, es.getLast? =
    some (answered ((signedResolver crypto scheme pemData).signatureURL parsed) manifestMediaType
      status content) ∧ signatureIn crypto key parsed.reference content = some signature

structure SignatureBinds : Prop where
  verified : ∀ es config, registry.Allows es →
    ((signedResolver crypto scheme pemData).resolve crypto ref).Yields es (.ok config) →
    ∃ parsed key signature, parseOCIRef ref = .ok parsed ∧
      parseCosignPublicKey crypto pemData = .ok key ∧
      AcceptedOn crypto scheme pemData parsed key es signature
  determined : ∀ es₁ es₂ config₁ config₂ parsed key signature,
    registry.Allows es₁ → registry.Allows es₂ →
    ((signedResolver crypto scheme pemData).resolve crypto ref).Yields es₁ (.ok config₁) →
    ((signedResolver crypto scheme pemData).resolve crypto ref).Yields es₂ (.ok config₂) →
    parseOCIRef ref = .ok parsed → parseCosignPublicKey crypto pemData = .ok key →
    AcceptedOn crypto scheme pemData parsed key es₁ signature →
    AcceptedOn crypto scheme pemData parsed key es₂ signature →
    config₁.visible = config₂.visible

def Offers (parsed : ParsedOCIRef) (config : ModelPackConfig) : Prop :=
  ∃ manifestContent manifest configContent,
    registry ((signedResolver crypto scheme pemData).manifestURL parsed) manifestContent ∧
    decodeManifest (manifestContent.take bodyLimit) = .ok manifest ∧
    manifest.config.digest ≠ "" ∧
    registry ((signedResolver crypto scheme pemData).configURL parsed manifest.config.digest)
      configContent ∧
    decodeConfig ref parsed (configContent.take bodyLimit) = .ok config

structure Trustworthy (parsed : ParsedOCIRef) : Prop where
  key : ∀ content, registry ((signedResolver crypto scheme pemData).signatureURL parsed) content →
    ∃ key, parseCosignPublicKey crypto pemData = .ok key
  single : ∀ content key signature,
    registry ((signedResolver crypto scheme pemData).signatureURL parsed) content →
    parseCosignPublicKey crypto pemData = .ok key →
    signatureIn crypto key parsed.reference content = some signature →
    ∀ config₁ config₂, Offers crypto scheme pemData registry ref parsed config₁ →
      Offers crypto scheme pemData registry ref parsed config₂ → config₁.visible = config₂.visible

variable {crypto scheme pemData registry ref}

theorem signedResolver_require :
    (signedResolver crypto scheme pemData).requireSignature = true := by
  rw [signedResolver, newRegistryModelResolver, List.foldl, List.foldl, List.foldl, List.foldl,
    withCosignPublicKey]
  cases parseCosignPublicKey crypto pemData <;> rfl

theorem signedResolver_key {key : PublicKey ε ρ} :
    (signedResolver crypto scheme pemData).cosignPublicKey = some key ↔
      parseCosignPublicKey crypto pemData = .ok key := by
  rw [signedResolver, newRegistryModelResolver, List.foldl, List.foldl, List.foldl, List.foldl,
    withCosignPublicKey]
  cases hparse : parseCosignPublicKey crypto pemData with
  | error err => exact ⟨fun h => (nomatch h), fun h => (nomatch h)⟩
  | ok key' => exact ⟨fun h => congrArg _ (Option.some.inj h), fun h => congrArg _ (Except.ok.inj h)⟩

theorem Resolved.served {es : List (Event registryCalls)} {config : ModelPackConfig}
    (h : Resolved crypto (signedResolver crypto scheme pemData) ref es config)
    (hallows : registry.Allows es) : ∃ parsed content, parseOCIRef ref = .ok parsed ∧
      Offers crypto scheme pemData registry ref parsed config ∧
      registry ((signedResolver crypto scheme pemData).signatureURL parsed) content ∧
      (∃ status, es.getLast? = some (answered
        ((signedResolver crypto scheme pemData).signatureURL parsed) manifestMediaType status
          content)) ∧
      ∀ key, parseCosignPublicKey crypto pemData = .ok key →
        ∃ signature, signatureIn crypto key parsed.reference content = some signature := by
  cases h with
  | intro hparse hmanifest hdigest hconfig hsigned hstatus =>
    refine ⟨_, _, hparse, ?_, hallows _ manifestMediaType _ _ ?_ hstatus.2.2, ⟨_, rfl⟩, ?_⟩
    · refine ⟨_, _, _, hallows _ manifestMediaType _ _ ?_ hstatus.1, hmanifest, hdigest,
        hallows _ modelConfigMediaType _ _ ?_ hstatus.2.1, hconfig⟩
      · exact List.mem_cons_self
      · exact List.mem_cons_of_mem _ List.mem_cons_self
    · exact List.mem_cons_of_mem _ (List.mem_cons_of_mem _ List.mem_cons_self)
    · exact fun key hkey => hsigned key (signedResolver_key.mpr hkey)

theorem Offers.resolved {parsed : ParsedOCIRef} {config : ModelPackConfig}
    (hoffers : Offers crypto scheme pemData registry ref parsed config)
    (hparse : parseOCIRef ref = .ok parsed) (content : Bytes)
    (hserved : registry ((signedResolver crypto scheme pemData).signatureURL parsed) content)
    (hsigned : ∀ key, parseCosignPublicKey crypto pemData = .ok key →
      ∃ signature, signatureIn crypto key parsed.reference content = some signature) :
    ∃ es, registry.Allows es ∧
      ((signedResolver crypto scheme pemData).resolve crypto ref).Yields es (.ok config) ∧
      es.getLast? = some (answered ((signedResolver crypto scheme pemData).signatureURL parsed)
        manifestMediaType 200 content) := by
  obtain ⟨manifestContent, manifest, configContent, hm, hmanifest, hdigest, hc, hconfig⟩ := hoffers
  have hsuccess : Success 200 := ⟨by decide, by decide⟩
  refine ⟨_, ?_, (resolve_yields signedResolver_require).mpr (.intro hparse hmanifest hdigest
    hconfig (fun key hkey => hsigned key (signedResolver_key.mp hkey))
    ⟨hsuccess, hsuccess, hsuccess⟩), rfl⟩
  intro url accept status body hmem _
  simp only [List.mem_cons, List.not_mem_nil, or_false] at hmem
  rcases hmem with heq | heq | heq
  · cases heq
    exact hm
  · cases heq
    exact hc
  · cases heq
    exact hserved

theorem signature_binds_iff : SignatureBinds crypto scheme pemData registry ref ↔
    ∀ parsed, parseOCIRef ref = .ok parsed →
      (∃ config, Offers crypto scheme pemData registry ref parsed config) →
      Trustworthy crypto scheme pemData registry ref parsed := by
  constructor
  · intro h parsed hparse ⟨config, hoffers⟩
    constructor
    · intro content hserved
      cases hkey : parseCosignPublicKey crypto pemData with
      | ok key => exact ⟨key, rfl⟩
      | error err =>
        obtain ⟨es, hallows, hyields, -⟩ := hoffers.resolved hparse content hserved
          (fun key hok => by rw [hkey] at hok; cases hok)
        obtain ⟨-, key, -, -, hok, -⟩ := h.verified es config hallows hyields
        rw [hkey] at hok
        cases hok
    · intro content key signature hserved hkey hsignature config₁ config₂ hoffers₁ hoffers₂
      have hsigned (k : PublicKey ε ρ) (hk : parseCosignPublicKey crypto pemData = .ok k) :
          ∃ signature, signatureIn crypto k parsed.reference content = some signature := by
        rw [hkey] at hk
        rw [← Except.ok.inj hk]
        exact ⟨signature, hsignature⟩
      obtain ⟨es₁, hallows₁, hyields₁, hlast₁⟩ := hoffers₁.resolved hparse content hserved hsigned
      obtain ⟨es₂, hallows₂, hyields₂, hlast₂⟩ := hoffers₂.resolved hparse content hserved hsigned
      exact h.determined es₁ es₂ config₁ config₂ parsed key signature hallows₁ hallows₂ hyields₁
        hyields₂ hparse hkey ⟨200, content, hlast₁, hsignature⟩ ⟨200, content, hlast₂, hsignature⟩
  · intro h
    constructor
    · intro es config hallows hyields
      obtain ⟨parsed, content, hparse, hoffers, hserved, ⟨status, hlast⟩, hsigned⟩ :=
        ((resolve_yields signedResolver_require).mp hyields).served hallows
      obtain ⟨key, hkey⟩ := (h parsed hparse ⟨config, hoffers⟩).key content hserved
      obtain ⟨signature, hsignature⟩ := hsigned key hkey
      exact ⟨parsed, key, signature, hparse, hkey, status, content, hlast, hsignature⟩
    · intro es₁ es₂ config₁ config₂ parsed key signature hallows₁ hallows₂ hyields₁ hyields₂ hparse
        hkey haccepted₁ _
      obtain ⟨parsed₁, content, hparse₁, hoffers₁, hserved, ⟨status, hlast⟩, -⟩ :=
        ((resolve_yields signedResolver_require).mp hyields₁).served hallows₁
      obtain ⟨parsed₂, -, hparse₂, hoffers₂, -⟩ :=
        ((resolve_yields signedResolver_require).mp hyields₂).served hallows₂
      obtain rfl := Except.ok.inj (hparse.symm.trans hparse₁)
      obtain rfl := Except.ok.inj (hparse.symm.trans hparse₂)
      obtain ⟨status', content', hlast', hsignature⟩ := haccepted₁
      rw [hlast] at hlast'
      cases hlast'
      exact (h parsed hparse ⟨config₁, hoffers₁⟩).single content key signature hserved hkey
        hsignature config₁ config₂ hoffers₁ hoffers₂

end Worth

/-! ## Two configs under one signature -/

theorem ok_of_toOption {α β : Type} {x : Except Error α} {f : α → β} {b : β}
    (h : x.toOption.map f = some b) : ∃ a, x = .ok a ∧ f a = b := by
  cases x with
  | error err => cases h
  | ok a => exact ⟨a, rfl, Option.some.inj h⟩

def sampleCrypto : Crypto Unit Unit where
  pemDecode pemData := if pemData = utf8 "key" then some [] else none
  parsePKIXPublicKey _ := .ok (.ecdsa ())
  verifyASN1 _ _ signature := signature == [1, 2, 3]
  verifyPKCS1v15 _ _ _ := false

def sampleRef : String := "r.io/m:v1"

def sampleManifest : Bytes := utf8 "\x7b\"config\":\x7b\"digest\":\"d\"\x7d\x7d"

def sampleConfig (name : String) : Bytes :=
  utf8 ("\x7b\"Descriptor\":\x7b\"Name\":\"" ++ name ++ "\"\x7d\x7d")

def sampleSignature : Bytes :=
  utf8 ("\x7b\"layers\":[\x7b\"annotations\":\x7b" ++
    "\"dev.cosignproject.cosign/signature\":\"AQID\"\x7d\x7d]\x7d")

def sampleParsed : ParsedOCIRef := ⟨"r.io", "m", "v1"⟩

theorem sampleRef_parses : parseOCIRef sampleRef = .ok sampleParsed := by
  have h : (parseOCIRef sampleRef).toOption.map id = some sampleParsed := by decide +kernel
  obtain ⟨parsed, hparse, rfl⟩ := ok_of_toOption h
  exact hparse

theorem sample_offers (pemData : Bytes) (name : String)
    (hname : ((decodeConfig sampleRef sampleParsed ((sampleConfig name).take bodyLimit)).toOption.map
      fun c => c.descriptor.name) = some name) :
    ∃ config, config.descriptor.name = name ∧
      Offers sampleCrypto "https" pemData (fun _ _ => True) sampleRef sampleParsed config := by
  have hdigest : ((decodeManifest (sampleManifest.take bodyLimit)).toOption.map
      fun m => decide (m.config.digest ≠ "")) = some true := by decide +kernel
  obtain ⟨manifest, hmanifest, hset⟩ := ok_of_toOption hdigest
  obtain ⟨config, hconfig, hconfigName⟩ := ok_of_toOption hname
  exact ⟨config, hconfigName, sampleManifest, manifest, sampleConfig name, trivial, hmanifest,
    of_decide_eq_true hset, trivial, hconfig⟩

/-- The same signature is accepted for two configs; and with key bytes that do not parse, a config is
resolved without any. -/
theorem signature_does_not_bind :
    ¬ SignatureBinds sampleCrypto "https" (utf8 "key") (fun _ _ => True) sampleRef ∧
      ¬ SignatureBinds sampleCrypto "https" [] (fun _ _ => True) sampleRef := by
  constructor
  · intro h
    have hkey : parseCosignPublicKey sampleCrypto (utf8 "key") = .ok (.ecdsa ()) := by
      have hpem : sampleCrypto.pemDecode (utf8 "key") = some [] := by
        decide +kernel
      rw [parseCosignPublicKey, hpem]
      rfl
    have hsignature : signatureIn sampleCrypto (.ecdsa ()) "v1" sampleSignature = some [1, 2, 3] := by
      decide +kernel
    have hsigned (key : PublicKey Unit Unit)
        (hok : parseCosignPublicKey sampleCrypto (utf8 "key") = .ok key) :
        ∃ signature, signatureIn sampleCrypto key "v1" sampleSignature = some signature := by
      rw [hkey] at hok
      rw [← Except.ok.inj hok]
      exact ⟨_, hsignature⟩
    obtain ⟨config₁, hname₁, hoffers₁⟩ := sample_offers (utf8 "key") "a" (by decide +kernel)
    obtain ⟨config₂, hname₂, hoffers₂⟩ := sample_offers (utf8 "key") "b" (by decide +kernel)
    obtain ⟨es₁, hallows₁, hyields₁, hlast₁⟩ :=
      hoffers₁.resolved sampleRef_parses sampleSignature trivial hsigned
    obtain ⟨es₂, hallows₂, hyields₂, hlast₂⟩ :=
      hoffers₂.resolved sampleRef_parses sampleSignature trivial hsigned
    have hsame := h.determined es₁ es₂ config₁ config₂ sampleParsed _ _ hallows₁ hallows₂ hyields₁
      hyields₂ sampleRef_parses hkey ⟨200, _, hlast₁, hsignature⟩ ⟨200, _, hlast₂, hsignature⟩
    have hnames : config₁.descriptor.name = config₂.descriptor.name :=
      congrArg (fun c => c.descriptor.name) hsame
    rw [hname₁, hname₂] at hnames
    exact absurd hnames (by decide)
  · intro h
    have hkey : (parseCosignPublicKey sampleCrypto []).toOption.isNone = true := by decide +kernel
    obtain ⟨config, -, hoffers⟩ := sample_offers [] "a" (by decide +kernel)
    have hnone (key : PublicKey Unit Unit) (hok : parseCosignPublicKey sampleCrypto [] = .ok key) :
        False := by
      rw [hok] at hkey
      cases hkey
    obtain ⟨es, hallows, hyields, -⟩ := hoffers.resolved sampleRef_parses [] trivial
      (fun key hok => (hnone key hok).elim)
    obtain ⟨-, key, -, -, hok, -⟩ := h.verified es config hallows hyields
    exact hnone key hok

end FleetLlmd.Modelpack
