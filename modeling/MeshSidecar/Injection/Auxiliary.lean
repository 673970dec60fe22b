import MeshSidecar.Injection.Event
import MeshSidecar.Injection.Names
import MeshSidecar.Mesh.Basic
import MeshSidecar.Pod.Basic
import MeshSidecar.Text.Decimal

namespace MeshSidecar

/-!
# What a pod of the mesh needs besides its containers

Four small changes prepare a pod for its sidecars.  None of them can fail, and
each touches one field of the specification.  What the first three add is not
added again, and what the pod has there is kept; the grace period is set.
-/

namespace Pod

/-! ## Readiness in Cloud Map -/

/-- Whether the pod of a node still lacks the gate that keeps it unready until
Cloud Map finds it healthy. -/
def needsCloudMapGate (node : VirtualNode) (pod : Pod) : Bool :=
  node.usesCloudMap && !pod.readinessGates.contains Artifact.cloudMapGate

def withCloudMapGate (node : VirtualNode) (pod : Pod) : Pod :=
  if pod.needsCloudMapGate node then pod.addReadinessGate Artifact.cloudMapGate else pod

/-! ## Group of the file system -/

/-- The group that owns the volumes of the pod. -/
def fsGroup? (pod : Pod) : Option Int :=
  (pod.spec.bind PodSpec.securityContext).bind PodSecurityContext.fsGroup

/-- Sets the group that owns the volumes. -/
def setFsGroup (group : Int) (pod : Pod) : Pod :=
  pod.mapSpec fun spec =>
    let context := spec.securityContext.getD .empty
    { spec with securityContext := some { context with fsGroup := some group } }

/-- Whether the proxy could not read the token of the service account without a
group. -/
def needsFsGroup (enabled : Bool) (pod : Pod) : Bool :=
  enabled && pod.fsGroup?.isNone

def withFsGroup (enabled : Bool) (pod : Pod) : Pod :=
  if pod.needsFsGroup enabled then pod.setFsGroup proxyUid else pod

/-! ## Secret for pulling images -/

/-- Whether the secret for pulling the images of the sidecars is missing. -/
def needsPullSecret (enabled : Bool) (pod : Pod) : Bool :=
  enabled && !pod.pullSecrets.contains Artifact.pullSecret

def withPullSecret (enabled : Bool) (pod : Pod) : Pod :=
  if pod.needsPullSecret enabled then pod.addPullSecret Artifact.pullSecret else pod

/-! ## Time for termination -/

/-- The seconds that a pod is given to terminate when it does not say. -/
def defaultGracePeriod : UInt32 := 30

/-- Whether draining Envoy takes longer than a pod is given by default. -/
def outlastsGracePeriod (preStopDelay : UInt32) : Bool :=
  preStopDelay > defaultGracePeriod

/-- Gives the pod as long as draining takes, where that is longer than the
default, whatever the pod said. -/
def withGracePeriod (preStopDelay : UInt32) (pod : Pod) : Pod :=
  if outlastsGracePeriod preStopDelay then
    pod.mapSpec fun spec => { spec with terminationGracePeriodSeconds := some preStopDelay.toNat }
  else pod

end Pod

end MeshSidecar
