import FleetLlmd.Clusters.Evidence
import FleetLlmd.Controller.GatewayRoutes
import FleetLlmd.Controller.Watcher
import FleetLlmd.Drain.Sessions
import FleetLlmd.Inference.Affinity
import FleetLlmd.Inference.Scope
import FleetLlmd.Modelpack.Reference
import FleetLlmd.Modelpack.Signature
import FleetLlmd.Quota.Limits
import FleetLlmd.Quota.Local
import FleetLlmd.Quota.SharedRuns
import FleetLlmd.Routing.Isolation
import FleetLlmd.Routing.Mirror
import FleetLlmd.Routing.Withdrawal
import FleetLlmd.Server.Retry
import FleetLlmd.Intents.GCLSigned
import FleetLlmd.Controller.Lease
import FleetLlmd.Server.Leadership
import FleetLlmd.Server.LeaderWorkers
import FleetLlmd.Rollout.Shared
import FleetLlmd.Kubernetes.Names
import FleetLlmd.Kubernetes.Create
import FleetLlmd.Auth.RateLimit
import FleetLlmd.KvTransfer.EndOnce
import FleetLlmd.FleetAgent.Enforcer
import FleetLlmd.Server.TenantAccess
import FleetLlmd.Apis.Routing
import FleetLlmd.Intents.CanonicalForm
import FleetLlmd.Clusters.Mesh
import FleetLlmd.FleetAgent.Watcher
import FleetLlmd.Rollout.Progress
import FleetLlmd.Routing.Preferences
import FleetLlmd.Server.ProviderHealth
import FleetLlmd.Placement.ModelPack
import FleetLlmd.FleetLedger.Client
import FleetLlmd.KvTransfer.Frames
