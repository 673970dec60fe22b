import MeshSidecar.Config.Basic
import MeshSidecar.Injection.Names
import MeshSidecar.Text.Split

namespace MeshSidecar

/-!
# Certificates from an agent on the node

Envoy can fetch its certificates over a socket of the node.  The socket is shown
to Envoy by a volume of the pod; a pod that already has a volume of that path is
left to mount it itself.
-/

namespace Sds

/-- Whether Envoy fetches certificates in this pod.  A pod can only opt out. -/
def isUsed (envoy : Config.Envoy) (pod : Pod) : Bool :=
  envoy.enableSds &&
    !(pod.annotation? Annotations.sds).any fun value =>
      Text.sameIgnoringCase value Annotations.disabled

/-- The path of the socket, when the pod uses one. -/
def path? (envoy : Config.Envoy) (pod : Pod) : Option String :=
  if isUsed envoy pod then some envoy.sdsUdsPath else none

/-- The volume that shows the socket. -/
def volume (path : String) : Volume where
  name := Artifact.sdsVolume
  hostPath := some { path, kind := some "Socket" }
  rest := []

/-- The mount of that volume in Envoy, at the path that it has on the node. -/
def mount (path : String) : VolumeMount where
  name := Artifact.sdsVolume
  mountPath := path
  readOnly := none
  rest := []

/-- The path of the socket that still has to be shown, if any. -/
def missingPath? (envoy : Config.Envoy) (pod : Pod) : Option String :=
  (path? envoy pod).filter fun path => !pod.mountsHostPath path

end Sds

end MeshSidecar
