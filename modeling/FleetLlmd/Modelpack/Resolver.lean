import FleetLlmd.Effect.Program
import FleetLlmd.Go.Base64
import FleetLlmd.Go.Sha256
import FleetLlmd.Json.Decode

/-!
# Resolving a model pack

`RegistryModelResolver` of `pkg/modelpack`: the manifest of a reference names a config
blob, which is the model's description; a signature is looked for under the tag of the
reference with `.sig` appended. What the registry answers to a request is arbitrary.
PEM, PKIX and the two signature schemes are parameters.
-/

namespace FleetLlmd.Modelpack
open Go Json Effect

/-! ## References -/

def cutFirst (sep : Char) : List Char → Option (List Char × List Char)
  | [] => none
  | c :: cs => if c = sep then some ([], cs) else (cutFirst sep cs).map fun r => (c :: r.1, r.2)

def cutLast (sep : Char) (cs : List Char) : Option (List Char × List Char) :=
  (cutFirst sep cs.reverse).map fun r => (r.2.reverse, r.1.reverse)

structure ParsedOCIRef where
  host : String
  repository : String
  reference : String
  deriving DecidableEq

def validateOCIRef (ref : String) : Except Error Unit :=
  if ref == "" then .error (.sentinel "empty reference")
  else
    match cutFirst '/' (chars ref) with
    | none => .error (.sentinel "missing repository path")
    | some (host, _) =>
      let hostWithoutPort := ((cutFirst ':' host).map (·.1)).getD host
      if !hostWithoutPort.contains '.' && hostWithoutPort != chars "localhost" then
        .error (.errorf "invalid registry host %q" [String.ofList host])
      else .ok ()

def splitReference (remainder : List Char) : List Char × List Char :=
  match cutLast '@' remainder with
  | some split => split
  | none =>
    match cutLast ':' remainder with
    | some (repository, reference) =>
      if reference.contains '/' then (remainder, chars "latest") else (repository, reference)
    | none => (remainder, chars "latest")

def parseOCIRef (ref : String) : Except Error ParsedOCIRef :=
  match validateOCIRef ref with
  | .error err => .error err
  | .ok () =>
    match cutFirst '/' (chars ref) with
    | none => .error (.sentinel "missing repository path")
    | some (host, remainder) =>
      let (repository, reference) := splitReference remainder
      if repository.isEmpty then .error (.sentinel "missing repository path")
      else if reference.isEmpty then .error (.sentinel "missing tag or digest")
      else .ok ⟨String.ofList host, String.ofList repository, String.ofList reference⟩

/-! ## Documents -/

structure OCIDescriptor where
  mediaType : String := ""
  digest : String := ""
  size : Int := 0

def ociDescriptorFields : List (StructField OCIDescriptor) :=
  [structField "mediaType" (·.mediaType) (fun s x => { s with mediaType := x }) decodeString,
    structField "digest" (·.digest) (fun s x => { s with digest := x }) decodeString,
    structField "size" (·.size) (fun s x => { s with size := x }) decodeInt]

structure OCIManifest where
  schemaVersion : Int := 0
  mediaType : String := ""
  config : OCIDescriptor := {}
  layers : Slice OCIDescriptor := .nil

def ociManifestFields : List (StructField OCIManifest) :=
  [structField "schemaVersion" (·.schemaVersion) (fun s x => { s with schemaVersion := x }) decodeInt,
    structField "mediaType" (·.mediaType) (fun s x => { s with mediaType := x }) decodeString,
    structField "config" (·.config) (fun s x => { s with config := x })
      (decodeStruct false ociDescriptorFields),
    structField "layers" (·.layers) (fun s x => { s with layers := x })
      (decodeSlice {} (decodeStruct false ociDescriptorFields))]

structure OCISignatureLayer where
  mediaType : String := ""
  digest : String := ""
  size : Int := 0
  annotations : Option (List (String × String)) := none

def ociSignatureLayerFields : List (StructField OCISignatureLayer) :=
  [structField "mediaType" (·.mediaType) (fun s x => { s with mediaType := x }) decodeString,
    structField "digest" (·.digest) (fun s x => { s with digest := x }) decodeString,
    structField "size" (·.size) (fun s x => { s with size := x }) decodeInt,
    structField "annotations" (fun s => s.annotations) (fun s x => { s with annotations := x })
      decodeStringMap]

structure OCISignatureManifest where
  schemaVersion : Int := 0
  mediaType : String := ""
  config : OCIDescriptor := {}
  layers : Slice OCISignatureLayer := .nil

def ociSignatureManifestFields : List (StructField OCISignatureManifest) :=
  [structField "schemaVersion" (·.schemaVersion) (fun s x => { s with schemaVersion := x }) decodeInt,
    structField "mediaType" (·.mediaType) (fun s x => { s with mediaType := x }) decodeString,
    structField "config" (·.config) (fun s x => { s with config := x })
      (decodeStruct false ociDescriptorFields),
    structField "layers" (·.layers) (fun s x => { s with layers := x })
      (decodeSlice {} (decodeStruct false ociSignatureLayerFields))]

structure ModelDescriptor where
  name : String := ""
  family : String := ""
  version : String := ""
  vendor : String := ""
  license : String := ""
  deriving DecidableEq

def modelDescriptorFields : List (StructField ModelDescriptor) :=
  [structField "Name" (·.name) (fun s x => { s with name := x }) decodeString,
    structField "Family" (·.family) (fun s x => { s with family := x }) decodeString,
    structField "Version" (·.version) (fun s x => { s with version := x }) decodeString,
    structField "Vendor" (·.vendor) (fun s x => { s with vendor := x }) decodeString,
    structField "License" (·.license) (fun s x => { s with license := x }) decodeString]

structure ModelTechnicalConfig where
  architecture : String := ""
  format : String := ""
  paramSize : String := ""
  precision : String := ""
  quantization : String := ""
  inputTypes : Slice String := .nil
  outputTypes : Slice String := .nil
  toolUsage : Bool := false
  reasoning : Bool := false
  languages : Slice String := .nil

def modelTechnicalConfigFields : List (StructField ModelTechnicalConfig) :=
  [structField "Architecture" (·.architecture) (fun s x => { s with architecture := x }) decodeString,
    structField "Format" (·.format) (fun s x => { s with format := x }) decodeString,
    structField "ParamSize" (·.paramSize) (fun s x => { s with paramSize := x }) decodeString,
    structField "Precision" (·.precision) (fun s x => { s with precision := x }) decodeString,
    structField "Quantization" (·.quantization) (fun s x => { s with quantization := x }) decodeString,
    structField "InputTypes" (·.inputTypes) (fun s x => { s with inputTypes := x })
      (decodeSlice "" decodeString),
    structField "OutputTypes" (·.outputTypes) (fun s x => { s with outputTypes := x })
      (decodeSlice "" decodeString),
    structField "ToolUsage" (·.toolUsage) (fun s x => { s with toolUsage := x }) decodeBool,
    structField "Reasoning" (·.reasoning) (fun s x => { s with reasoning := x }) decodeBool,
    structField "Languages" (·.languages) (fun s x => { s with languages := x })
      (decodeSlice "" decodeString)]

structure ModelPackConfig where
  descriptor : ModelDescriptor := {}
  config : ModelTechnicalConfig := {}
  ociRef : String := ""

def modelPackConfigFields : List (StructField ModelPackConfig) :=
  [structField "Descriptor" (·.descriptor) (fun s x => { s with descriptor := x })
      (decodeStruct false modelDescriptorFields),
    structField "Config" (·.config) (fun s x => { s with config := x })
      (decodeStruct false modelTechnicalConfigFields),
    structField "OciRef" (·.ociRef) (fun s x => { s with ociRef := x }) decodeString]

/-- `json.Unmarshal` of a manifest. -/
def decodeManifest (content : Bytes) : Except Error OCIManifest :=
  unmarshal (decodeStruct false ociManifestFields) content {}

def decodeSignatureManifest (content : Bytes) : Except Error OCISignatureManifest :=
  unmarshal (decodeStruct false ociSignatureManifestFields) content {}

def decodeConfig (ociRef : String) (parsed : ParsedOCIRef) (content : Bytes) :
    Except Error ModelPackConfig :=
  (unmarshal (decodeStruct false modelPackConfigFields) content {}).map fun config =>
    let config := { config with ociRef := ociRef }
    if config.descriptor.name == "" then
      { config with descriptor := { config.descriptor with name := parsed.repository } }
    else config

/-! ## Signatures -/

section Signatures
variable {ε ρ : Type}

inductive PublicKey (ε ρ : Type) where
  | ecdsa (key : ε)
  | rsa (key : ρ)
  | other

structure Crypto (ε ρ : Type) where
  pemDecode : Bytes → Option Bytes
  parsePKIXPublicKey : Bytes → Except Error (PublicKey ε ρ)
  verifyASN1 : ε → Bytes → Bytes → Bool
  verifyPKCS1v15 : ρ → Bytes → Bytes → Bool

variable (crypto : Crypto ε ρ)

def parseCosignPublicKey (pemData : Bytes) : Except Error (PublicKey ε ρ) :=
  match crypto.pemDecode pemData with
  | none => .error (.sentinel "no PEM block found in cosign public key data")
  | some block =>
    match crypto.parsePKIXPublicKey block with
    | .error err => .error (.wrapf "parse cosign public key: %w" [] err)
    | .ok pub => .ok pub

def verifies (key : PublicKey ε ρ) (reference : String) (signature : Bytes) : Bool :=
  match key with
  | .ecdsa key => crypto.verifyASN1 key (sha256 (utf8 reference)) signature
  | .rsa key => crypto.verifyPKCS1v15 key (sha256 (utf8 reference)) signature
  | .other => false

def OCISignatureLayer.signature (layer : OCISignatureLayer) : Option Bytes :=
  (lookupKey "dev.cosignproject.cosign/signature" (layer.annotations.getD [])).bind base64Decode

def firstVerified (key : PublicKey ε ρ) (reference : String) :
    List OCISignatureLayer → Option Bytes
  | [] => none
  | layer :: layers =>
    match layer.signature with
    | none => firstVerified key reference layers
    | some signature =>
      if verifies crypto key reference signature then some signature
      else firstVerified key reference layers

end Signatures

/-! ## The resolver -/

structure RegistryURL where
  scheme : String
  host : String
  path : String
  deriving DecidableEq

inductive RegistryCall where
  | get (url : RegistryURL) (accept : String)

abbrev registryCalls : Signature := ⟨RegistryCall, fun _ => Except Error (Nat × Bytes)⟩

def bodyLimit : Nat := 10485760

def doGet (url : RegistryURL) (accept : String) : Prog registryCalls (Except Error Bytes) :=
  .call (.get url accept) fun
  | .error err => .done (.error err)
  | .ok (status, content) =>
    let body := content.take bodyLimit
    if status < 200 || 300 ≤ status then
      .done (.error (.errorf "registry returned %d: %s"
        [toString status, String.ofList (runes body)]))
    else .done (.ok body)

structure RegistryModelResolver (ε ρ : Type) where
  scheme : String := "https"
  requireSignature : Bool := false
  cosignPublicKey : Option (PublicKey ε ρ) := none

abbrev RegistryResolverOption (ε ρ : Type) :=
  RegistryModelResolver ε ρ → RegistryModelResolver ε ρ

section Resolver
variable {ε ρ : Type} (crypto : Crypto ε ρ)

def withRegistryScheme (scheme : String) : RegistryResolverOption ε ρ :=
  fun r => { r with scheme := scheme }

def withRequireSignature (require : Bool) : RegistryResolverOption ε ρ :=
  fun r => { r with requireSignature := require }

def withCosignPublicKey (pemData : Bytes) : RegistryResolverOption ε ρ := fun r =>
  match parseCosignPublicKey crypto pemData with
  | .error _ => r
  | .ok key => { r with cosignPublicKey := some key }

def newRegistryModelResolver (opts : List (RegistryResolverOption ε ρ)) :
    RegistryModelResolver ε ρ :=
  opts.foldl (fun r opt => opt r) {}

def manifestMediaType : String := "application/vnd.oci.image.manifest.v1+json"
def modelConfigMediaType : String := "application/vnd.cncf.model.config.v1+json"

namespace RegistryModelResolver
variable (r : RegistryModelResolver ε ρ)

def registryURL (host path : String) : RegistryURL := ⟨r.scheme, host, path⟩

def manifestURL (parsed : ParsedOCIRef) : RegistryURL :=
  r.registryURL parsed.host ("/v2/" ++ parsed.repository ++ "/manifests/" ++ parsed.reference)

def configURL (parsed : ParsedOCIRef) (digest : String) : RegistryURL :=
  r.registryURL parsed.host ("/v2/" ++ parsed.repository ++ "/blobs/" ++ digest)

def signatureURL (parsed : ParsedOCIRef) : RegistryURL :=
  r.registryURL parsed.host
    ("/v2/" ++ parsed.repository ++ "/manifests/" ++ (parsed.reference ++ ".sig"))

def checkSignature (ref reference : String) (content : Bytes) : Except Error Unit :=
  match r.cosignPublicKey with
  | none => .ok ()
  | some key =>
    match decodeSignatureManifest content with
    | .error err => .error (.wrapf "parse signature manifest for %s: %w" [ref] err)
    | .ok manifest =>
      if manifest.layers.items.isEmpty then
        .error (.errorf "signature manifest for %s has no layers" [ref])
      else
        match firstVerified crypto key reference manifest.layers.items with
        | some _ => .ok ()
        | none => .error (.errorf
          "no valid cosign signature verified against the configured public key for %s" [ref])

def verifySignature (ref : String) : Prog registryCalls (Except Error Unit) :=
  match parseOCIRef ref with
  | .error err => .done (.error (.wrapf "invalid reference for signature check: %w" [] err))
  | .ok parsed =>
    (doGet (r.signatureURL parsed) manifestMediaType).bind fun
    | .error err => .done (.error (.wrapf "no cosign signature found for %s: %w" [ref] err))
    | .ok content => .done (r.checkSignature crypto ref parsed.reference content)

def resolve (ociRef : String) : Prog registryCalls (Except Error ModelPackConfig) :=
  match parseOCIRef ociRef with
  | .error err => .done (.error (.wrapf "invalid OCI reference %q: %w" [ociRef] err))
  | .ok parsed =>
    (doGet (r.manifestURL parsed) manifestMediaType).bind fun
    | .error err => .done (.error (.wrapf "registry manifest fetch failed for %q: %w" [ociRef] err))
    | .ok manifestBytes =>
      match decodeManifest manifestBytes with
      | .error err => .done (.error (.wrapf "parse OCI manifest for %q: %w" [ociRef] err))
      | .ok manifest =>
        if manifest.config.digest == "" then
          .done (.error (.errorf "OCI manifest for %q did not include a config digest" [ociRef]))
        else
          (doGet (r.configURL parsed manifest.config.digest) modelConfigMediaType).bind fun
          | .error err =>
            .done (.error (.wrapf "registry config fetch failed for %q: %w" [ociRef] err))
          | .ok configBytes =>
            match decodeConfig ociRef parsed configBytes with
            | .error err =>
              .done (.error (.wrapf "parse ModelPack config for %q: %w" [ociRef] err))
            | .ok config =>
              if !r.requireSignature then .done (.ok config)
              else (r.verifySignature crypto ociRef).bind fun
              | .error err => .done (.error
                (.wrapf "model signature verification failed for %s: %w" [ociRef] err))
              | .ok () => .done (.ok config)

end RegistryModelResolver
end Resolver
end FleetLlmd.Modelpack
