namespace MeshSidecar

/-!
# Mesh snapshots

The injector is handed resolved snapshots of the mesh, of the virtual node or
virtual gateway that selects the pod, and of the cluster it runs in.  Envoy
introduces itself to the control plane by a name composed from them.
-/

/-- A service mesh.  A mesh shared from another account names its owner. -/
structure Mesh where
  name : String
  awsName : String
  owner : Option String := none
  deriving DecidableEq

/-- The protocols that a listener can speak. -/
inductive Protocol where
  | http
  | http2
  | grpc
  | tcp
  deriving DecidableEq

/-- A port on which a node or gateway accepts traffic. -/
structure Listener where
  port : UInt16
  protocol : Protocol
  deriving DecidableEq

/-- How the callers of a node find it. -/
inductive ServiceDiscovery where
  | dns (hostname : String)
  | cloudMap (namespaceName serviceName : String)
  deriving DecidableEq

/-- A virtual node.  An empty `awsName` asks for the default one. -/
structure VirtualNode where
  name : String
  namespaceName : String
  awsName : String := ""
  listeners : List Listener := []
  discovery : Option ServiceDiscovery := none
  deriving DecidableEq

/-- A virtual gateway. -/
structure VirtualGateway where
  name : String
  namespaceName : String
  awsName : String := ""
  listeners : List Listener := []
  deriving DecidableEq

/-- The cluster and account that the injector runs in. -/
structure Identity where
  accountId : String := ""
  awsRegion : String := ""
  controllerVersion : Option String := none
  k8sVersion : Option String := none
  deriving DecidableEq

/-- The name of an object in the control plane: its own, or else its name and
namespace joined by an underscore. -/
def resolvedName (awsName name namespaceName : String) : String :=
  if awsName = "" then name ++ "_" ++ namespaceName else awsName

namespace Mesh

/-- The name by which a proxy in account `accountId` addresses the mesh.  A mesh
owned by another account is qualified with its owner. -/
def nameFrom (mesh : Mesh) (accountId : String) : String :=
  match mesh.owner with
  | some owner => if owner = accountId then mesh.awsName else mesh.awsName ++ "@" ++ owner
  | none => mesh.awsName

end Mesh

namespace VirtualNode

/-- The name of the node in the control plane. -/
def resolvedAwsName (node : VirtualNode) : String :=
  resolvedName node.awsName node.name node.namespaceName

/-- The ports of the listeners, in order of declaration. -/
def ports (node : VirtualNode) : List UInt16 :=
  node.listeners.map Listener.port

/-- Whether the node is registered in Cloud Map. -/
def usesCloudMap (node : VirtualNode) : Bool :=
  node.discovery matches some (.cloudMap ..)

/-- The name by which Envoy introduces itself for this node. -/
def proxyName (node : VirtualNode) (mesh : Mesh) (accountId : String) : String :=
  "mesh/" ++ mesh.nameFrom accountId ++ "/virtualNode/" ++ node.resolvedAwsName

end VirtualNode

namespace VirtualGateway

/-- The name of the gateway in the control plane. -/
def resolvedAwsName (gateway : VirtualGateway) : String :=
  resolvedName gateway.awsName gateway.name gateway.namespaceName

/-- The name by which Envoy introduces itself for this gateway. -/
def proxyName (gateway : VirtualGateway) (mesh : Mesh) (accountId : String) : String :=
  "mesh/" ++ mesh.nameFrom accountId ++ "/virtualGateway/" ++ gateway.resolvedAwsName

end VirtualGateway

end MeshSidecar
