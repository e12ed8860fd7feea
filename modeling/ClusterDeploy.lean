import ClusterDeploy.Main
import ClusterDeploy.Deploy.Step
import ClusterDeploy.Deploy.Ops
import ClusterDeploy.Deploy.InstallerCache
import ClusterDeploy.Remote.Auth
import ClusterDeploy.Remote.Session
import ClusterDeploy.Kubeconfig.Edit
import ClusterDeploy.Settings
import ClusterDeploy.Proofs.Schedule
import ClusterDeploy.Proofs.Session
import ClusterDeploy.Proofs.Install
import ClusterDeploy.Proofs.Phases
import ClusterDeploy.Proofs.Installation
import ClusterDeploy.Proofs.JoinProtocol
import ClusterDeploy.Proofs.Accounting
import ClusterDeploy.Proofs.Lifecycle
import ClusterDeploy.Proofs.Reachable
import ClusterDeploy.Proofs.Disconnect
import ClusterDeploy.Proofs.Upsert
import ClusterDeploy.Proofs.Overlay
import ClusterDeploy.Proofs.Layering
import ClusterDeploy.Proofs.Reconcile
import ClusterDeploy.Proofs.Operations
import ClusterDeploy.Proofs.Rollback
import ClusterDeploy.Proofs.ConcurrentFetch
import ClusterDeploy.Proofs.Downloads
import ClusterDeploy.Proofs.CommandWords
import ClusterDeploy.Proofs.Fields
import ClusterDeploy.Proofs.Rereading
import ClusterDeploy.Proofs.PathWords
import ClusterDeploy.Proofs.Adoption
import ClusterDeploy.Proofs.Endpoint
import ClusterDeploy.Proofs.KeyWidth
