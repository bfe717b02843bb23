import Mesh.Control.Authentication
import Mesh.Control.Lifecycle
import Mesh.Control.LocalView
import Mesh.Control.ManagedDNS
import Mesh.Control.Memory
import Mesh.Control.Readiness
import Mesh.Control.RecoveryNames
import Mesh.Control.Retirement
import Mesh.Control.Rollouts
import Mesh.Control.RoundTrip
import Mesh.Control.StagedRoutes
import Mesh.Identity.Secrets
import Mesh.NodeAgent.Activation
import Mesh.NodeAgent.Rollback
import Mesh.Release.Canonical
import Mesh.Release.Votes
import Mesh.Telemetry.Store
