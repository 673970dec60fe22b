import MeshSidecar.Injection.Event
import MeshSidecar.Injection.Rendered
import MeshSidecar.Injection.Setting
import MeshSidecar.Mesh.Basic

namespace MeshSidecar

/-!
# Interception of traffic

The traffic of a pod has to be redirected to Envoy before the application starts.
Either the network plugin of the node does it, told by annotations of the pod, or
a privileged init container of the pod does.  The settings are derived in the
same way for both.
-/

/-- How the traffic of one pod is redirected.  Lists are separated by commas. -/
structure Interception where
  /-- Ports whose inbound traffic is redirected. -/
  appPorts : String
  /-- Addresses whose outbound traffic is left alone. -/
  egressIgnoredIps : String
  /-- Ports whose outbound traffic is left alone. -/
  egressIgnoredPorts : String
  /-- Whether IPv6 traffic is redirected too. -/
  enableIpv6 : Bool
  /-- The port on which Envoy takes outbound traffic. -/
  egressPort : UInt16 := 15001
  /-- The port on which Envoy takes inbound traffic. -/
  ingressPort : UInt16 := 15000
  /-- The user whose traffic is never redirected. -/
  uid : Nat := proxyUid
  deriving DecidableEq

/-- The ports of a node as a list in text; `0` says that no port is
intercepted. -/
def VirtualNode.portList (node : VirtualNode) : String :=
  if node.ports.isEmpty then "0"
  else ",".intercalate (node.ports.map fun port => Text.ofNat port.toNat)

namespace Pod

/-- What the pod says about IPv6; none when it says nothing that is understood. -/
def ipv6? (pod : Pod) : Option Bool :=
  (pod.annotation? Annotations.ipv6).bind fun value =>
    if Text.sameIgnoringCase value Annotations.enabled then some true
    else if Text.sameIgnoringCase value Annotations.disabled then some false
    else none

/-- Whether interception is left to the network plugin.  Without a word from the
pod it is on a Fargate profile, where no container may be privileged. -/
def usesNetworkPlugin (pod : Pod) : Bool :=
  (pod.switch? Annotations.cni).getD
    ((pod.label? fargateProfileLabel).any fun profile => profile != "")

end Pod

namespace Interception

/-- SSH stays reachable unless the pod wants otherwise. -/
def defaultIgnoredPorts : String := "22"

/-- The settings of a pod: its own annotations first, then the node and the
configuration. -/
def ofPod (config : Config.ProxyInit) (node : VirtualNode) (pod : Pod) : Interception where
  appPorts := (pod.annotation? Annotations.ports).getD node.portList
  egressIgnoredIps := (pod.annotation? Annotations.egressIgnoredIps).getD config.ignoredIps
  egressIgnoredPorts := (pod.annotation? Annotations.egressIgnoredPorts).getD defaultIgnoredPorts
  enableIpv6 := pod.ipv6?.getD config.enableIpv6

/-! ## Interception by the network plugin -/

/-- The annotations that tell the network plugin. -/
def annotations (settings : Interception) : List (String × String) :=
  [(Annotations.ports, settings.appPorts),
    (Annotations.egressIgnoredIps, settings.egressIgnoredIps),
    (Annotations.egressIgnoredPorts, settings.egressIgnoredPorts),
    (Annotations.proxyEgressPort, Text.ofNat settings.egressPort.toNat),
    (Annotations.proxyIngressPort, Text.ofNat settings.ingressPort.toNat),
    (Annotations.ignoredUid, Text.ofNat settings.uid),
    (Annotations.inject, Annotations.enabled)]

/-- Leaves interception to the network plugin, whatever the annotations said
before. -/
def delegate (settings : Interception) (pod : Pod) : Pod :=
  settings.annotations.foldl (fun pod entry => pod.annotate entry.1 entry.2) pod

/-! ## Interception by an init container -/

/-- What the definition of the init container is rendered with. -/
structure InitVariables where
  name : String
  image : String
  ignoredUid : String
  ingressPort : String
  egressPort : String
  appPorts : String
  ignoredIps : String
  ignoredPorts : String
  ipv6 : Bool

namespace InitVariables

def ofSettings (settings : Interception) (image : String) : InitVariables where
  name := Artifact.proxyInit
  image := image
  ignoredUid := Text.ofNat settings.uid
  ingressPort := Text.ofNat settings.ingressPort.toNat
  egressPort := Text.ofNat settings.egressPort.toNat
  appPorts := settings.appPorts
  ignoredIps := settings.egressIgnoredIps
  ignoredPorts := settings.egressIgnoredPorts
  ipv6 := settings.enableIpv6

def toJson (vars : InitVariables) : Json :=
  .obj [("name", .str vars.name),
    ("image", .str vars.image),
    ("ignored_uid", .str vars.ignoredUid),
    ("proxy_ingress_port", .str vars.ingressPort),
    ("proxy_egress_port", .str vars.egressPort),
    ("app_ports", .str vars.appPorts),
    ("egress_ignored_ips", .str vars.ignoredIps),
    ("egress_ignored_ports", .str vars.ignoredPorts),
    ("enable_ipv6", .bool vars.ipv6)]

end InitVariables

/-- The environment of the init container. -/
def environment : List String := [
  r#"    {"name": "APPMESH_START_ENABLED", "value": "1"},"#,
  r#"    {"name": "APPMESH_IGNORE_UID", "value": {{ ignored_uid|tojson }}},"#,
  r#"    {"name": "APPMESH_ENVOY_INGRESS_PORT", "value": {{ proxy_ingress_port|tojson }}},"#,
  r#"    {"name": "APPMESH_ENVOY_EGRESS_PORT", "value": {{ proxy_egress_port|tojson }}},"#,
  r#"    {"name": "APPMESH_APP_PORTS", "value": {{ app_ports|tojson }}},"#,
  r#"    {"name": "APPMESH_EGRESS_IGNORED_IP", "value": {{ egress_ignored_ips|tojson }}},"#,
  r#"    {"name": "APPMESH_EGRESS_IGNORED_PORTS", "value": {{ egress_ignored_ports|tojson }}},"#,
  r#"    {"name": "APPMESH_ENABLE_IPV6", "value": {{ enable_ipv6|flag|tojson }}}"#]

/-- The init container, which may change the routes of the pod. -/
def definition : String :=
  Template.braced ([
    r#"  "name": {{ name|tojson }},"#,
    r#"  "image": {{ image|tojson }},"#,
    "  \"securityContext\": \x7b",
    r#"    "capabilities": {"add": ["NET_ADMIN"]}"#,
    "  \x7d,",
    r#"  "env": ["#] ++ environment ++ ["  ]"])

/-- The init container with its resources. -/
def container (settings : Interception) (image : String) (sizing : Config.Sidecar) (pod : Pod) :
    Except Error Container := do
  let container ← Template.container "proxyInit" definition
    (InitVariables.ofSettings settings image).toJson
  let resources ← pod.sidecarResources sizing
  return { container with resources := some resources }

/-- Adds the init container unless the pod has it. -/
def install (settings : Interception) (image : String) (sizing : Config.Sidecar) (pod : Pod) :
    Except Error Pod :=
  if pod.hasInitContainer Artifact.proxyInit then .ok pod
  else (settings.container image sizing pod).map pod.addInitContainer

/-! ## The step -/

/-- Sets up interception in the way that the pod calls for. -/
def apply (config : Config.ProxyInit) (sizing : Config.Sidecar) (node : VirtualNode) (pod : Pod) :
    Except Error Pod :=
  let settings := ofPod config node pod
  if pod.usesNetworkPlugin then .ok (settings.delegate pod)
  else settings.install config.image sizing pod

/-- A value for IPv6 that is neither of the two known ones is reported. -/
def ipv6Events (pod : Pod) : List Event :=
  match pod.annotation? Annotations.ipv6, pod.ipv6? with
  | some value, none =>
    [.warn pod.displayName
      ("unsupported " ++ Annotations.ipv6 ++ " value, using configured default") [("value", value)]]
  | _, _ => []

/-- What setting up interception reports. -/
def events (pod : Pod) : List Event :=
  ipv6Events pod ++
    if pod.usesNetworkPlugin then [.debug pod.displayName "traffic interception via CNI" []]
    else .debug pod.displayName "traffic interception via init container" [] ::
      if pod.hasInitContainer Artifact.proxyInit then
        [.debug pod.displayName "proxyinit already present" []]
      else []

end Interception

end MeshSidecar
