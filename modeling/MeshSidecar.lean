import MeshSidecar.CommandLine.Execution
import MeshSidecar.Main
import MeshSidecar.Proofs.Template.Composition
import MeshSidecar.Proofs.Json.Reading
import MeshSidecar.Proofs.Template.Manifest
import MeshSidecar.Proofs.Injection.Defined
import MeshSidecar.Proofs.Pod.Changes
import MeshSidecar.Proofs.Injection.Effect
import MeshSidecar.Proofs.Injection.Marker
import MeshSidecar.Proofs.Injection.Repetition
import MeshSidecar.Proofs.Injection.Complaints
import MeshSidecar.Proofs.Injection.Acceptance
import MeshSidecar.Proofs.Injection.Volumes
import MeshSidecar.Proofs.Injection.Mutation
import MeshSidecar.Proofs.Injection.Inventory
import MeshSidecar.Proofs.Injection.Bounds
import MeshSidecar.Proofs.Injection.ContainerNames
import MeshSidecar.Proofs.Injection.Atomicity
import MeshSidecar.Proofs.Injection.Contribution
import MeshSidecar.Proofs.Injection.Independence
import MeshSidecar.Proofs.Injection.Order
import MeshSidecar.Proofs.Injection.Environment
import MeshSidecar.Proofs.Injection.Tracing
import MeshSidecar.Proofs.Injection.Socket
import MeshSidecar.Proofs.Injection.Mounting
import MeshSidecar.Proofs.Injection.Drain
import MeshSidecar.Proofs.Injection.Noninterference
import MeshSidecar.Proofs.Injection.Modes
import MeshSidecar.Proofs.Injection.ControlPlane
import MeshSidecar.Proofs.Injection.TracingWay
import MeshSidecar.Proofs.Config.Layers
import MeshSidecar.Proofs.Quantity
import MeshSidecar.Proofs.SamplingRate
import MeshSidecar.Proofs.Injection.Sizing
import MeshSidecar.Proofs.Injection.Filling
import MeshSidecar.Proofs.Injection.Assembly
import MeshSidecar.Proofs.Injection.Delegation
import MeshSidecar.Proofs.Injection.TracerScript
import MeshSidecar.Proofs.Injection.DaemonCommand
import MeshSidecar.Proofs.Injection.ProxyName
import MeshSidecar.Proofs.Injection.DaemonFile
import MeshSidecar.Proofs.Injection.PairLists
import MeshSidecar.Proofs.Mesh.Snapshots
