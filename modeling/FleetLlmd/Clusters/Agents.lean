import FleetLlmd.Clusters.Handlers

/-!
# Agent reports and the SWIM synchroniser

The other writers of cluster records: `handleAgentStatus` of `pkg/server/handlers_agent.go`
and `SWIMSyncAdapter.Sync` of `pkg/cluster/client/swim_sync.go`. Both read a whole record
and write it back later. Only the agent handler looks at the status it has read.
-/

namespace FleetLlmd.Clusters
open Go Json Effect

def ClusterRecord.isDraining (r : ClusterRecord) : Bool :=
  r.status == clusterStatusDraining || r.status == clusterStatusDrained

/-! ## Agent reports -/

structure AgentStatusReport where
  clusterID : String := ""
  name : String := ""
  region : String := ""
  phase : String := ""
  gpuAvailable : Int := 0
  gpuTotal : Int := 0
  healthy : Bool := false
  healthURL : String := ""
  inferenceURL : String := ""
  routingEndpoint : String := ""
  metricsEndpoint : String := ""
  tlsServerName : String := ""

def agentStatusFields : List (StructField AgentStatusReport) :=
  [structField "cluster_id" (·.clusterID) (fun s x => { s with clusterID := x }) decodeString,
    structField "name" (·.name) (fun s x => { s with name := x }) decodeString,
    structField "region" (·.region) (fun s x => { s with region := x }) decodeString,
    structField "phase" (·.phase) (fun s x => { s with phase := x }) decodeString,
    structField "gpu_available" (·.gpuAvailable) (fun s x => { s with gpuAvailable := x }) decodeInt,
    structField "gpu_total" (·.gpuTotal) (fun s x => { s with gpuTotal := x }) decodeInt,
    structField "healthy" (·.healthy) (fun s x => { s with healthy := x }) decodeBool,
    structField "health_url" (·.healthURL) (fun s x => { s with healthURL := x }) decodeString,
    structField "inference_url" (·.inferenceURL) (fun s x => { s with inferenceURL := x })
      decodeString,
    structField "routing_endpoint" (·.routingEndpoint)
      (fun s x => { s with routingEndpoint := x }) decodeString,
    structField "metrics_endpoint" (·.metricsEndpoint)
      (fun s x => { s with metricsEndpoint := x }) decodeString,
    structField "tls_server_name" (·.tlsServerName) (fun s x => { s with tlsServerName := x })
      decodeString]

/-- `url.ParseRequestURI`: the scheme and the host of a text that parses. -/
abbrev ParseRequestURI := String → Option (String × String)

def validateAgentURL (parseRequestURI : ParseRequestURI) (field value : String) :
    Except Error Unit :=
  let accepted := (parseRequestURI value).any fun url =>
    url.2 != "" && (url.1 == "http" || url.1 == "https")
  if value == "" || accepted then .ok ()
  else .error (.errorf "%s must be an absolute HTTP(S) URL" [field])

def AgentStatusReport.urls (report : AgentStatusReport) : List (String × String) :=
  [("health_url", report.healthURL), ("inference_url", report.inferenceURL),
    ("routing_endpoint", report.routingEndpoint), ("metrics_endpoint", report.metricsEndpoint)]

def agentReport (parseRequestURI : ParseRequestURI) (body : Option Bytes) :
    Except Error AgentStatusReport :=
  match decodeJSON (decodeStruct true agentStatusFields) body {} with
  | .error err => .error (.wrapf "invalid JSON: %w" [] err)
  | .ok report =>
    if blank report.clusterID then .error (.sentinel "cluster_id is required")
    else
      let report := if report.name == "" then { report with name := report.clusterID } else report
      if report.gpuAvailable < 0 || report.gpuTotal < 0 ||
          report.gpuTotal < report.gpuAvailable then
        .error (.sentinel "GPU capacity must satisfy 0 <= gpu_available <= gpu_total")
      else
        match report.urls.mapM fun url => validateAgentURL parseRequestURI url.1 url.2 with
        | .error err => .error err
        | .ok _ => .ok report

def AgentStatusReport.status (report : AgentStatusReport) : String :=
  let status := trimSpace report.phase
  if status == "" then if report.healthy then "Running" else "Unhealthy"
  else if !report.healthy && status != "Degraded" && status != "Unhealthy" then "Unhealthy"
  else status

def AgentStatusReport.labels (report : AgentStatusReport) : List (String × String) :=
  [("health_url", report.healthURL), ("inference_url", report.inferenceURL),
    ("fleet.llm-d.ai/egress-address", report.routingEndpoint),
    ("fleet.llm-d.ai/metrics-endpoint", report.metricsEndpoint),
    ("fleet.llm-d.ai/tls-server-name", report.tlsServerName)]

def deleteLabel (label : String) (labels : Labels) : Labels := labels.filter fun e => e.1 != label

def setLabel (labels : Labels) (e : String × String) : Labels :=
  if e.2 == "" then deleteLabel e.1 labels else insertKey e.1 e.2 labels

def AgentStatusReport.fill (report : AgentStatusReport) (record : ClusterRecord) :
    ClusterRecord :=
  { record with
    name := report.name
    region := report.region
    gpuAvailable := report.gpuAvailable
    gpuTotal := report.gpuTotal
    labels := some (report.labels.foldl setLabel (record.labels.getD [])) }

def activationGrace : Int := 30 * 1000000000

/-- `applyAgentStatus`: the status of a record that is drained stays, and for a while that of one
that has been activated. -/
def applyAgentStatus (record : ClusterRecord) (report : AgentStatusReport) (status : String) :
    Prog clusterCalls ClusterRecord :=
  let replaced := { record with
    status := status
    labels := record.labels.map (deleteLabel "activated_at") }
  if record.isDraining then .done (report.fill record)
  else
    match lookupKey "activated_at" (record.labels.getD []) with
    | none => .done (report.fill { record with status := status })
    | some activatedAt =>
      match Time.parse activatedAt.toList with
      | none => .done (report.fill replaced)
      | some t => .call .now fun (now : Time) =>
        .done (report.fill (if now.sub t < activationGrace then record else replaced))

def handleAgentStatus (parseRequestURI : ParseRequestURI) (body : Option Bytes) :
    Prog clusterCalls Reply :=
  match agentReport parseRequestURI body with
  | .error err => .done (.error 400 err)
  | .ok report => .call (.get report.clusterID) fun
    | .error err =>
      if err.is errClusterNotFound then
        .done (.error 403 (.errorf
          "cluster %q is not registered; register via POST /api/v1/clusters first"
          [report.clusterID]))
      else .done (.error 500 err)
    | .ok record => (applyAgentStatus record report report.status).bind fun record =>
      .call (.update record) fun
      | .error err => .done (.error 500 err)
      | .ok () => .done (.json 200 [("status", "accepted"), ("created", "false")])

/-! ## The SWIM synchroniser -/

inductive GridSitePhase where
  | unset
  | active
  | discovered
  | connecting
  | pending
  | unreachable
  | left
  | other (phase : String)
  deriving DecidableEq

structure GridSite where
  name : String
  phase : GridSitePhase

def gridPhaseToFleetStatus : GridSitePhase → String
  | .active => "Running"
  | .discovered | .connecting | .pending => "Pending"
  | .unreachable => "Degraded"
  | .left => "Disconnected"
  | .unset | .other _ => "Unknown"

abbrev Phases := List (String × GridSitePhase)

def syncSites : List GridSite → Nat → Phases → Prog clusterCalls (Nat × Phases)
  | [], updated, lastPhases => .done (updated, lastPhases)
  | site :: sites, updated, lastPhases =>
    let phase := if site.phase = .unset then .pending else site.phase
    let fleetStatus := gridPhaseToFleetStatus phase
    let seen := insertKey site.name phase lastPhases
    if lookupKey site.name lastPhases = some phase then syncSites sites updated lastPhases
    else .call (.get site.name) fun
    | .error _ => syncSites sites updated lastPhases
    | .ok record =>
      if record.status != fleetStatus then
        .call (.update { record with status := fleetStatus }) fun
        | .error _ => syncSites sites updated lastPhases
        | .ok () => syncSites sites (updated + 1) seen
      else syncSites sites updated seen

/-- `Sync`: what listing the sites gave, and the phases of the pass before; the phases are kept for
the next pass. -/
def swimSync (sites : Except Error (List GridSite)) (lastPhases : Phases) :
    Prog clusterCalls (Except Error Nat × Phases) :=
  match sites with
  | .error err => .done (.error (.wrapf "list GridSites: %w" [] err), lastPhases)
  | .ok sites => (syncSites sites 0 lastPhases).bind fun r => .done (.ok r.1, r.2)

end FleetLlmd.Clusters
