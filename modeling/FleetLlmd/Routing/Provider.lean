import FleetLlmd.Clusters.Repository
import FleetLlmd.Go.Sha256
import FleetLlmd.Inference.Gateway
import FleetLlmd.Json.Members
import Mathlib.Data.List.Infix

/-!
# The llm-d Router provider

`LLMDProvider` of `pkg/routing`: from the clusters and pools of the fleet it renders one
file of endpoints for each physical model and an index of the models. Files it has rendered
before and that have no endpoints any more stay, with an empty list. The text of a file is
left out, what is written into it is kept.
-/

namespace FleetLlmd.Routing
open Go Json
open Clusters (Labels)
open Inference (sortStrings)

/-! ## What the provider is given -/

structure EndpointTransport where
  routingURL : String := ""
  metricsURL : String := ""
  tlsServerName : String := ""
  trustRef : String := ""
  authRef : String := ""

structure FleetClusterInfo where
  id : String
  region : String := ""
  labels : Labels := []
  egressAddress : String := ""
  metricsEndpoint : String := ""
  transport : EndpointTransport := {}
  status : String := ""
  updatedAt : Time := Time.zero
  draining : Bool := false
  authorized : Bool := false

structure FleetPoolInfo where
  name : String
  modelName : String := ""
  physicalModel : String := ""
  clusters : List String := []
  targetPorts : List Int := []
  metricsEndpoint : String := ""

structure URL where
  scheme : String
  host : String
  deriving DecidableEq

/-- `parseURL` is `url.Parse`; `maxStaleness` is in nanoseconds. -/
structure LLMDProviderOptions where
  «namespace» : String := "default"
  maxStaleness : Int := 30 * 1000000000
  requireTLS : Bool := false
  parseURL : String → Option URL

namespace FleetClusterInfo
variable (cluster : FleetClusterInfo)

def label (name : String) : String := (lookupKey name cluster.labels).getD ""

def routingEndpoint : String :=
  let value := trimSpace cluster.transport.routingURL
  if value != "" then value else trimSpace cluster.egressAddress

def metricsEndpointURL : String :=
  let value := trimSpace cluster.transport.metricsURL
  if value != "" then value else trimSpace cluster.metricsEndpoint

def tlsServerName : String :=
  let value := trimSpace cluster.transport.tlsServerName
  if value != "" then value else trimSpace (cluster.label "fleet.llm-d.ai/tls-server-name")

end FleetClusterInfo

/-! ## Hosts and ports -/

namespace URL

def isPort (cs : List Char) : Bool := cs.all fun c => '0' ≤ c && c ≤ '9'

/-- `splitHostPort` of `net/url`. -/
def splitHostPort (hostPort : List Char) : List Char × List Char :=
  let last := (hostPort.reverse.takeWhile (· != ':')).reverse
  let (host, port) :=
    if hostPort.contains ':' && isPort last then
      (hostPort.take (hostPort.length - last.length - 1), last)
    else (hostPort, [])
  if host.head? = some '[' && host.getLast? = some ']' then (host.tail.dropLast, port)
  else (host, port)

def hostname (u : URL) : String := String.ofList (splitHostPort u.host.toList).1
def port (u : URL) : String := String.ofList (splitHostPort u.host.toList).2

end URL

def joinHostPort (host port : String) : String :=
  if host.toList.contains ':' then "[" ++ host ++ "]:" ++ port else host ++ ":" ++ port

def parseEndpoint (parseURL : String → Option URL) (raw : String) (targetPorts : List Int) :
    Except Error URL :=
  let raw := trimSpace raw
  if raw == "" then .error (.sentinel "endpoint is empty")
  else
    let raw := if "://".toList <:+: raw.toList then raw else "https://" ++ raw
    match (parseURL raw).filter (·.hostname != "") with
    | none => .error (.errorf "invalid endpoint %q" [raw])
    | some u =>
      match targetPorts with
      | [] => .ok u
      | port :: _ =>
        if u.port == "" then
          .ok { u with host := joinHostPort u.hostname (String.ofList (intText port)) }
        else .ok u

def endpointPort (u : URL) : String :=
  if u.port != "" then u.port else if u.scheme == "http" then "80" else "443"

/-! ## Eligible clusters -/

def supportsExactModel (cluster : FleetClusterInfo) (model : String) : Bool :=
  let configured := trimSpace (cluster.label "fleet.llm-d.ai/physical-models")
  configured == "" ||
    (configured.toList.splitOn ',').any fun candidate =>
      trimSpace (String.ofList candidate) == model

def unavailableStatuses : List String := ["unavailable", "unreachable", "failed", "left", "offline"]

def eligible (opts : LLMDProviderOptions) (now : Time) (cluster : FleetClusterInfo) : Bool :=
  if !cluster.authorized && cluster.label "fleet.llm-d.ai/authorized" == "false" then false
  else if cluster.draining || equalFold cluster.status "draining" ||
      cluster.label "fleet.llm-d.ai/draining" == "true" then false
  else if unavailableStatuses.contains (toLower cluster.status) then false
  else if !cluster.updatedAt.isZero && opts.maxStaleness < now.sub cluster.updatedAt then false
  else cluster.routingEndpoint != ""

/-! ## Endpoints -/

structure LLMDClusterEndpoint where
  name : String
  «namespace» : String
  address : String
  port : String
  labels : Labels
  deriving DecidableEq

def failureDomain (cluster : FleetClusterInfo) : String :=
  let zone := cluster.label "topology.kubernetes.io/zone"
  if zone != "" then zone else cluster.region

def normalizedHealth (cluster : FleetClusterInfo) : String :=
  if ["degraded", "degraded/non-ha"].contains (toLower cluster.status) then "degraded/non-HA"
  else "healthy"

def setNonEmpty (key value : String) (labels : Labels) : Labels :=
  if value != "" then insertKey key value labels else labels

def endpointLabels (cluster : FleetClusterInfo) (model : String) (routingURL metricsURL : URL) :
    Labels :=
  setNonEmpty "fleet.llm-d.ai/auth-ref" cluster.transport.authRef
    (setNonEmpty "fleet.llm-d.ai/trust-ref" cluster.transport.trustRef
      (setNonEmpty "fleet.llm-d.ai/tls-server-name" cluster.tlsServerName
        (ofEntries
          [("model", model), ("fleet.llm-d.ai/cluster-id", cluster.id),
            ("fleet.llm-d.ai/physical-model", model),
            ("fleet.llm-d.ai/health", normalizedHealth cluster),
            ("fleet.llm-d.ai/failure-domain", failureDomain cluster),
            ("fleet.llm-d.ai/tls-verify", if routingURL.scheme == "https" then "true" else "false"),
            ("metricsAddress", metricsURL.hostname),
            ("metricsPort", endpointPort metricsURL)])))

def metricsRaw (cluster : FleetClusterInfo) : String :=
  if cluster.metricsEndpointURL != "" then cluster.metricsEndpointURL
  else if cluster.label "fleet.llm-d.ai/metrics-endpoint" != "" then
    cluster.label "fleet.llm-d.ai/metrics-endpoint"
  else cluster.routingEndpoint

def endpoint (opts : LLMDProviderOptions) (cluster : FleetClusterInfo) (pool : FleetPoolInfo)
    (model : String) : Except Error LLMDClusterEndpoint :=
  match parseEndpoint opts.parseURL cluster.routingEndpoint pool.targetPorts with
  | .error err => .error err
  | .ok routingURL =>
    if opts.requireTLS && routingURL.scheme != "https" then
      .error (.sentinel "routing endpoint must use HTTPS")
    else
      match parseEndpoint opts.parseURL (metricsRaw cluster) pool.targetPorts with
      | .error err => .error (.wrapf "metrics endpoint: %w" [] err)
      | .ok metricsURL =>
        if opts.requireTLS && metricsURL.scheme != "https" then
          .error (.sentinel "metrics endpoint must use HTTPS")
        else
          .ok
            { name := cluster.id ++ "--" ++ pool.name
              «namespace» := opts.namespace
              address := routingURL.hostname
              port := endpointPort routingURL
              labels := endpointLabels cluster model routingURL metricsURL }

/-! ## Rendering -/

def FleetPoolInfo.model (pool : FleetPoolInfo) : String :=
  let model := trimSpace pool.physicalModel
  if model == "" then trimSpace pool.modelName else model

structure Occurrence where
  pool : FleetPoolInfo
  clusterID : String

def Occurrence.model (o : Occurrence) : String := o.pool.model

def occurrences (pools : List FleetPoolInfo) : List Occurrence :=
  (pools.filter (·.model != "")).flatMap fun pool => pool.clusters.map fun id => ⟨pool, id⟩

structure SyncCall where
  clusters : List FleetClusterInfo
  pools : List FleetPoolInfo
  clock : Nat → Time

def byID (clusters : List FleetClusterInfo) : List (String × FleetClusterInfo) :=
  ofEntries (clusters.map fun c => (c.id, c))

section Render
variable (opts : LLMDProviderOptions)

def qualified (clusters : List FleetClusterInfo) (now : Time) (o : Occurrence) :
    Option FleetClusterInfo :=
  (lookupKey o.clusterID (byID clusters)).filter fun cluster =>
    eligible opts now cluster && supportsExactModel cluster o.model

abbrev ByModel := List (String × List LLMDClusterEndpoint)

def ByModel.add (byModel : ByModel) (model : String) (e : LLMDClusterEndpoint) : ByModel :=
  insertKey model ((lookupKey model byModel).getD [] ++ [e]) byModel

def renderLoop (clusters : List FleetClusterInfo) :
    List (Occurrence × Time) → ByModel → Except Error ByModel
  | [], byModel => .ok byModel
  | (o, now) :: rest, byModel =>
    match qualified opts clusters now o with
    | none => renderLoop clusters rest byModel
    | some cluster =>
      match endpoint opts cluster o.pool o.model with
      | .error err =>
        .error (.wrapf "render model %q cluster %q: %w" [o.model, o.clusterID] err)
      | .ok e => renderLoop clusters rest (byModel.add o.model e)

def SyncCall.timed (c : SyncCall) : List (Occurrence × Time) :=
  (occurrences c.pools).zipIdx.map fun p => (p.1, c.clock p.2)

def SyncCall.render (c : SyncCall) : Except Error ByModel :=
  renderLoop opts c.clusters c.timed []

end Render

/-! ## Files -/

def modelFilename (model : String) : String :=
  "endpoints-" ++ hexEncode ((sha256 (utf8 model)).take 6) ++ ".json"

inductive RouterFile where
  | endpoints (endpoints : List LLMDClusterEndpoint)
  | index (version : String) (models : List (String × String))
  deriving DecidableEq

abbrev Files := List (String × RouterFile)

def sortByName (endpoints : List LLMDClusterEndpoint) : List LLMDClusterEndpoint :=
  endpoints.insertionSort fun a b => keyLt b.name a.name = false

/-- `sort.Strings` of the models rendered. -/
def ByModel.models (byModel : ByModel) : List String := sortStrings (byModel.map (·.1))

def ByModel.files (byModel : ByModel) : Files :=
  ofEntries (byModel.models.map fun model =>
    (modelFilename model, .endpoints (sortByName ((lookupKey model byModel).getD []))))

def ByModel.index (byModel : ByModel) : RouterFile :=
  .index "v1" (ofEntries (byModel.models.map fun model => (model, modelFilename model)))

def tombstones (seenFiles : List String) (files : Files) : Files :=
  seenFiles.foldl (fun files name =>
    if (lookupKey name files).isSome then files else insertKey name (.endpoints []) files) files

abbrev SeenFiles := List String

def sync (opts : LLMDProviderOptions) (c : SyncCall) (seenFiles : SeenFiles) :
    Except Error Files × SeenFiles :=
  match c.render opts with
  | .error err => (.error err, seenFiles)
  | .ok byModel =>
    let seenFiles := byModel.models.map modelFilename ++ seenFiles
    (.ok (insertKey "index.json" byModel.index (tombstones seenFiles byModel.files)), seenFiles)

end FleetLlmd.Routing
