import MeshSidecar.Config.Basic
import MeshSidecar.Injection.Event
import MeshSidecar.Injection.Names
import MeshSidecar.Injection.Rendered

namespace MeshSidecar

/-!
# Tracers that Envoy reads from a file

For Jaeger and Datadog, Envoy reads where to send its traces from a file in a
volume of the pod.  An init container writes that file before Envoy starts: its
script appends the configuration as a here-document, in which the shell fills in
the address of the node where it is wanted.  The volume marks a pod that has been
served.
-/

/-- A tracer that is configured by a file: the lines of the file above the address and the
port, and the init container that writes it. -/
structure Tracer where
  /-- What the definition of the file is called in errors. -/
  template : String
  heading : List String
  containerName : String
  image : String
  /-- The event that reports the tracer, and what the address is called in it. -/
  report : String × String
  enabled : Bool
  address : String
  port : UInt16

namespace Tracer

/-- The file for a Jaeger collector, which takes Zipkin spans. -/
def jaegerHeading : List String := [
  "",
  "tracing:",
  "  http:",
  "    name: envoy.tracers.zipkin",
  "    typed_config:",
  r#"      "@type": type.googleapis.com/envoy.config.trace.v3.ZipkinConfig"#,
  "      collector_cluster: jaeger",
  r#"      collector_endpoint: "/api/v2/spans""#,
  "      collector_endpoint_version: HTTP_JSON",
  "      shared_span_context: false",
  "static_resources:",
  "  clusters:",
  "  - name: jaeger",
  "    connect_timeout: 1s",
  "    type: STRICT_DNS",
  "    lb_policy: ROUND_ROBIN",
  "    load_assignment:",
  "      cluster_name: jaeger",
  "      endpoints:",
  "      - lb_endpoints:",
  "        - endpoint:",
  "            address:",
  "              socket_address:"]

/-- The file for a Datadog agent. -/
def datadogHeading : List String := [
  "",
  "tracing:",
  "  http:",
  "    name: envoy.tracers.datadog",
  "    typed_config:",
  r#"      "@type": type.googleapis.com/envoy.config.trace.v3.DatadogConfig"#,
  "      collector_cluster: datadog_agent",
  "      service_name: envoy",
  "static_resources:",
  "  clusters:",
  "  - name: datadog_agent",
  "    connect_timeout: 1s",
  "    type: STRICT_DNS",
  "    lb_policy: ROUND_ROBIN",
  "    load_assignment:",
  "      cluster_name: datadog_agent",
  "      endpoints:",
  "      - lb_endpoints:",
  "        - endpoint:",
  "            address:",
  "              socket_address:"]

def jaeger (config : Config.Jaeger) : Tracer where
  template := "jaeger"
  heading := jaegerHeading
  containerName := Artifact.jaegerInit
  image := "public.ecr.aws/docker/library/busybox"
  report := ("injecting jaeger config", "collector")
  enabled := config.enabled
  address := config.address
  port := config.port

def datadog (config : Config.Datadog) : Tracer where
  template := "datadog"
  heading := datadogHeading
  containerName := Artifact.datadogInit
  image := "busybox"
  report := ("injecting datadog config", "agent")
  enabled := config.enabled
  address := config.address
  port := config.port

/-- The file, to be rendered with its address and port. -/
def definition (tracer : Tracer) : String :=
  Text.ofLines (tracer.heading ++ [
    r#"                address: {{ address }}"#,
    r#"                port_value: {{ port }}"#,
    ""])

/-! ## The script -/

/-- The variable of the script that holds the address of the node. -/
def hostIpVariable : String := "HOST_IP"

/-- Whether traces go to the node that the pod runs on. -/
def isOnHost (tracer : Tracer) : Bool :=
  tracer.address == hostIpReference

/-- The address as written in the file; that of the node is filled in by the
shell. -/
def writtenAddress (tracer : Tracer) : String :=
  if tracer.isOnHost then "$\x7b" ++ hostIpVariable ++ "\x7d" else tracer.address

/-- The content of the file. -/
def content (tracer : Tracer) : Except Error String :=
  Template.render tracer.template tracer.definition
    (.obj [("address", .str tracer.writtenAddress), ("port", .int tracer.port.toNat)])

/-- The script that appends to the file, without the empty lines that the content starts
with, and shows it. -/
def script (content : String) : String :=
  "cat <<EOF >> " ++ Artifact.tracingFile ++ "\n" ++
    String.ofList (Text.trimStartWhere (· == '\n') content.toList) ++ "EOF\n\ncat " ++
    Artifact.tracingFile ++ "\n"

/-! ## The init container -/

/-- What the definition of the init container is rendered with. -/
structure InitVariables where
  name : String
  image : String
  script : String
  onHost : Bool
  hostIpVariable : String
  volume : String
  mountPath : String

namespace InitVariables

def ofTracer (tracer : Tracer) (content : String) : InitVariables where
  name := tracer.containerName
  image := tracer.image
  script := Tracer.script content
  onHost := tracer.isOnHost
  hostIpVariable := Tracer.hostIpVariable
  volume := Artifact.tracingVolume
  mountPath := Artifact.tracingMountPath

def toJson (vars : InitVariables) : Json :=
  .obj [("name", .str vars.name),
    ("image", .str vars.image),
    ("script", .str vars.script),
    ("host_ip", .bool vars.onHost),
    ("host_ip_var", .str vars.hostIpVariable),
    ("volume", .str vars.volume),
    ("mount_path", .str vars.mountPath)]

end InitVariables

/-- The init container. -/
def initDefinition : String := Template.braced [
  r#"  "name": {{ name|tojson }},"#,
  r#"  "image": {{ image|tojson }},"#,
  r#"  "imagePullPolicy": "IfNotPresent","#,
  r#"  "command": ["sh", "-c", {{ script|tojson }}],"#,
  r#"  {%- if host_ip %}"#,
  r#"  "env": ["#,
  r#"    {"name": {{ host_ip_var|tojson }}, "valueFrom": {"fieldRef": {"fieldPath": "status.hostIP"}}}"#,
  "  ],",
  r#"  {%- endif %}"#,
  r#"  "volumeMounts": ["#,
  r#"    {"name": {{ volume|tojson }}, "mountPath": {{ mount_path|tojson }}}"#,
  "  ]"]

/-- The init container for a file; it is sized by its task alone. -/
def container (tracer : Tracer) : Except Error Container := do
  let content ← tracer.content
  let container ← Template.container tracer.containerName initDefinition
    (InitVariables.ofTracer tracer content).toJson
  let resources ← (Resources.ofQuantities (some "10m") (some "32Mi") (some "100m")
    (some "64Mi")).mapError .badQuantity
  return { container with resources := some resources }

/-- The volume that holds the file. -/
def volume : Volume where
  name := Artifact.tracingVolume
  hostPath := none
  rest := [("emptyDir", .obj [])]

/-! ## The step -/

/-- Adds the init container and its volume when the tracer is enabled, unless the
pod has the volume. -/
def apply (tracer : Tracer) (pod : Pod) : Except Error Pod :=
  if !tracer.enabled || pod.hasVolume Artifact.tracingVolume then .ok pod
  else tracer.container.map fun container =>
    (pod.addInitContainer container).addVolumes [volume]

/-- What adding the init container reports. -/
def events (tracer : Tracer) (pod : Pod) : List Event :=
  if !tracer.enabled then []
  else if pod.hasVolume Artifact.tracingVolume then
    [.debug pod.displayName "tracing config already present" []]
  else match tracer.content with
    | .error _ => []
    | .ok _ => [.debug pod.displayName tracer.report.1 [(tracer.report.2, tracer.address)]]

end Tracer

end MeshSidecar
