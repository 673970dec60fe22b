import MeshSidecar.Injection.Event
import MeshSidecar.Injection.Rendered
import MeshSidecar.Injection.Sds
import MeshSidecar.Injection.Setting
import MeshSidecar.Mesh.Basic

namespace MeshSidecar

/-!
# The Envoy container of a virtual node

The container is defined by a template.  Its resources, its readiness probe, and
what the pod asks for in annotations are put into it afterwards: further
environment variables, secrets and volumes to mount, and the socket of the agent
for certificates.
-/

namespace Envoy

/-- Whether the init container of a tracer writes a configuration that Envoy has
to read. -/
def readsTracingFile (tracing : Config.Tracing) : Bool :=
  tracing.jaeger.enabled || tracing.datadog.enabled

/-- Whether Envoy gets its configuration from the preview channel: the pod
decides, and the configuration for pods that say nothing. -/
def usesPreview (envoy : Config.Envoy) (pod : Pod) : Bool :=
  (pod.switch? Annotations.preview).getD envoy.preview

/-- What the definition of the container is rendered with. -/
structure Variables where
  name : String
  image : String
  uid : Int64
  adminPort : UInt16
  adminLogFile : Option String
  adminIpv6 : Bool
  preStopCommand : String
  proxyName : String
  preview : Bool
  logLevel : String
  region : String
  sdsPath : Option String
  controllerVersion : Option String
  k8sVersion : Option String
  dualStack : Bool
  fips : Bool
  readsTracingFile : Bool
  tracingFile : String
  tracingVolume : String
  tracingMountPath : String
  xray : Bool
  xrayPort : UInt16
  xraySamplingRate : Option String
  datadog : Bool
  datadogPort : UInt16
  datadogAddress : String
  datadogOnHost : Bool
  statsTags : Bool
  statsd : Bool
  statsdPort : UInt16
  statsdAddress : String
  statsdOnHost : Bool
  statsdSocket : Option String

/-- The command that keeps Envoy alive while connections drain. -/
def preStopCommand (preStopDelay : UInt32) : String :=
  "sleep " ++ Text.ofNat preStopDelay.toNat

namespace Variables

def ofPod (config : Config) (identity : Identity) (mesh : Mesh) (node : VirtualNode) (pod : Pod) :
    Variables where
  name := Artifact.envoy
  image := config.sidecar.image
  uid := .ofNat proxyUid
  adminPort := config.envoy.adminAccessPort
  adminLogFile := config.envoy.adminAccessLogFile
  adminIpv6 := config.envoy.adminAccessEnableIpv6
  preStopCommand := Envoy.preStopCommand config.envoy.preStopDelay
  proxyName := node.proxyName mesh identity.accountId
  preview := usesPreview config.envoy pod
  logLevel := config.envoy.logLevel
  region := identity.awsRegion
  sdsPath := Sds.path? config.envoy pod
  controllerVersion := identity.controllerVersion
  k8sVersion := identity.k8sVersion
  dualStack := config.envoy.dualStackEndpoint
  fips := config.envoy.fipsEndpoint
  readsTracingFile := Envoy.readsTracingFile config.tracing
  tracingFile := Artifact.tracingFile
  tracingVolume := Artifact.tracingVolume
  tracingMountPath := Artifact.tracingMountPath
  xray := config.tracing.xray.enabled
  xrayPort := config.tracing.xray.daemonPort
  xraySamplingRate := config.tracing.xray.samplingRate
  datadog := config.tracing.datadog.enabled
  datadogPort := config.tracing.datadog.port
  datadogAddress := config.tracing.datadog.address
  datadogOnHost := config.tracing.datadog.address == hostIpReference
  statsTags := config.stats.enableStatsTags
  statsd := config.stats.enableStatsd
  statsdPort := config.stats.statsdPort
  statsdAddress := config.stats.statsdAddress
  statsdOnHost := config.stats.statsdAddress == hostIpReference
  statsdSocket := config.stats.statsdSocketPath

def toJson (vars : Variables) : Json :=
  .obj [("name", .str vars.name),
    ("image", .str vars.image),
    ("proxy_uid", .int vars.uid.toInt),
    ("admin_access_port", .int vars.adminPort.toNat),
    ("admin_access_log_file", Json.ofText? vars.adminLogFile),
    ("admin_access_enable_ipv6", .bool vars.adminIpv6),
    ("pre_stop_command", .str vars.preStopCommand),
    ("virtual_node_name", .str vars.proxyName),
    ("preview", .bool vars.preview),
    ("log_level", .str vars.logLevel),
    ("aws_region", .str vars.region),
    ("sds_uds_path", Json.ofText? vars.sdsPath),
    ("controller_version", Json.ofText? vars.controllerVersion),
    ("k8s_version", Json.ofText? vars.k8sVersion),
    ("dual_stack_endpoint", .bool vars.dualStack),
    ("fips_endpoint", .bool vars.fips),
    ("tracing_config", .bool vars.readsTracingFile),
    ("tracing_config_file", .str vars.tracingFile),
    ("tracing_volume", .str vars.tracingVolume),
    ("tracing_mount_path", .str vars.tracingMountPath),
    ("xray", .bool vars.xray),
    ("xray_daemon_port", .int vars.xrayPort.toNat),
    ("xray_sampling_rate", Json.ofText? vars.xraySamplingRate),
    ("datadog", .bool vars.datadog),
    ("datadog_port", .int vars.datadogPort.toNat),
    ("datadog_address", .str vars.datadogAddress),
    ("datadog_address_from_host", .bool vars.datadogOnHost),
    ("stats_tags", .bool vars.statsTags),
    ("statsd", .bool vars.statsd),
    ("statsd_port", .int vars.statsdPort.toNat),
    ("statsd_address", .str vars.statsdAddress),
    ("statsd_address_from_host", .bool vars.statsdOnHost),
    ("statsd_socket_path", Json.ofText? vars.statsdSocket)]

end Variables

/-- The variable behind which those of the pod are placed. -/
def adminPortVariable : String := "ENVOY_ADMIN_ACCESS_PORT"

/-- The environment of the container. -/
def environment : List String := [
  r#"    {"name": "APPMESH_VIRTUAL_NODE_NAME", "value": {{ virtual_node_name|tojson }}},"#,
  r#"    {"name": "APPMESH_PREVIEW", "value": {{ preview|flag|tojson }}},"#,
  r#"    {"name": "ENVOY_LOG_LEVEL", "value": {{ log_level|tojson }}},"#,
  r#"    {"name": "ENVOY_ADMIN_ACCESS_PORT", "value": {{ admin_access_port|string|tojson }}},"#,
  r#"    {%- if admin_access_log_file %}"#,
  r#"    {"name": "ENVOY_ADMIN_ACCESS_LOG_FILE", "value": {{ admin_access_log_file|tojson }}},"#,
  r#"    {%- endif %}"#,
  r#"    {%- if tracing_config %}"#,
  r#"    {"name": "ENVOY_TRACING_CFG_FILE", "value": {{ tracing_config_file|tojson }}},"#,
  r#"    {%- endif %}"#,
  r#"    {"name": "AWS_REGION", "value": {{ aws_region|tojson }}},"#,
  r#"    {%- if sds_uds_path %}"#,
  r#"    {"name": "APPMESH_SDS_SOCKET_PATH", "value": {{ sds_uds_path|tojson }}},"#,
  r#"    {%- endif %}"#,
  r#"    {%- if controller_version %}"#,
  r#"    {"name": "APPMESH_PLATFORM_APP_MESH_CONTROLLER_VERSION", "value": {{ controller_version|tojson }}},"#,
  r#"    {%- endif %}"#,
  r#"    {%- if k8s_version %}"#,
  r#"    {"name": "APPMESH_PLATFORM_K8S_VERSION", "value": {{ k8s_version|tojson }}},"#,
  r#"    {%- endif %}"#,
  r#"    {"name": "APPMESH_DUALSTACK_ENDPOINT", "value": {{ dual_stack_endpoint|flag|tojson }}},"#,
  r#"    {"name": "ENVOY_ADMIN_ACCESS_ENABLE_IPV6", "value": {% if admin_access_enable_ipv6 %}"true"{% else %}"false"{% endif %}},"#,
  r#"    {"name": "APPMESH_FIPS_ENDPOINT", "value": {{ fips_endpoint|flag|tojson }}},"#,
  r#"    {%- if xray %}"#,
  r#"    {"name": "ENABLE_ENVOY_XRAY_TRACING", "value": "1"},"#,
  r#"    {"name": "XRAY_DAEMON_PORT", "value": {{ xray_daemon_port|string|tojson }}},"#,
  r#"    {%- if xray_sampling_rate %}"#,
  r#"    {"name": "XRAY_SAMPLING_RATE", "value": {{ xray_sampling_rate|tojson }}},"#,
  r#"    {%- endif %}"#,
  r#"    {%- endif %}"#,
  r#"    {%- if datadog %}"#,
  r#"    {"name": "ENABLE_ENVOY_DATADOG_TRACING", "value": "1"},"#,
  r#"    {"name": "DATADOG_TRACER_PORT", "value": {{ datadog_port|string|tojson }}},"#,
  r#"    {%- if datadog_address_from_host %}"#,
  r#"    {"name": "DATADOG_TRACER_ADDRESS", "valueFrom": {"fieldRef": {"fieldPath": "status.hostIP"}}},"#,
  r#"    {%- else %}"#,
  r#"    {"name": "DATADOG_TRACER_ADDRESS", "value": {{ datadog_address|tojson }}},"#,
  r#"    {%- endif %}"#,
  r#"    {%- endif %}"#,
  r#"    {%- if stats_tags %}"#,
  r#"    {"name": "ENABLE_ENVOY_STATS_TAGS", "value": "1"},"#,
  r#"    {%- endif %}"#,
  r#"    {%- if statsd %}"#,
  r#"    {"name": "ENABLE_ENVOY_DOG_STATSD", "value": "1"},"#,
  r#"    {"name": "STATSD_PORT", "value": {{ statsd_port|string|tojson }}},"#,
  r#"    {%- if statsd_address_from_host %}"#,
  r#"    {"name": "STATSD_ADDRESS", "valueFrom": {"fieldRef": {"fieldPath": "status.hostIP"}}},"#,
  r#"    {%- else %}"#,
  r#"    {"name": "STATSD_ADDRESS", "value": {{ statsd_address|tojson }}},"#,
  r#"    {%- endif %}"#,
  r#"    {%- if statsd_socket_path %}"#,
  r#"    {"name": "STATSD_SOCKET_PATH", "value": {{ statsd_socket_path|tojson }}},"#,
  r#"    {%- endif %}"#,
  r#"    {%- endif %}"#,
  r#"    {"name": "APPMESH_PLATFORM_K8S_POD_UID", "valueFrom": {"fieldRef": {"fieldPath": "metadata.uid"}}}"#]

/-- The container as far as the configuration determines it. -/
def definition : String :=
  Template.braced ([
    r#"  "name": {{ name|tojson }},"#,
    r#"  "image": {{ image|tojson }},"#,
    r#"  "securityContext": {"runAsUser": {{ proxy_uid }}},"#,
    r#"  "ports": ["#,
    r#"    {"name": "stats", "containerPort": {{ admin_access_port }}, "protocol": "TCP"}"#,
    "  ],",
    "  \"lifecycle\": \x7b",
    r#"    "preStop": {"exec": {"command": ["sh", "-c", {{ pre_stop_command|tojson }}]}}"#,
    "  \x7d,",
    r#"  {%- if tracing_config %}"#,
    r#"  "volumeMounts": ["#,
    r#"    {"name": {{ tracing_volume|tojson }}, "mountPath": {{ tracing_mount_path|tojson }}}"#,
    "  ],",
    r#"  {%- endif %}"#,
    r#"  "env": ["#] ++ environment ++ ["  ]"])

/-! ## What the pod asks for -/

/-- Puts variables behind the first one of a name, or at the end when there is
none. -/
def insertAfter (anchor : String) (added : List EnvVar) : List EnvVar → List EnvVar
  | [] => added
  | var :: rest =>
    if var.name = anchor then var :: added ++ rest else var :: insertAfter anchor added rest

/-- The pairs that name no variable of `env`, as variables. -/
def unclaimed (custom : SortedMap String) (env : List EnvVar) : List EnvVar :=
  (custom.entries.filter fun entry => !env.any fun var => var.name == entry.1).map
    fun entry => { name := entry.1, value := some entry.2, valueFrom := none }

/-- Adds the variables of the pod; those of the definition keep their values. -/
def mergeEnv (custom : SortedMap String) (env : Option (List EnvVar)) : Option (List EnvVar) :=
  if custom.isEmpty then env
  else some (insertAfter adminPortVariable (unclaimed custom (env.getD [])) (env.getD []))

/-- A volume that Envoy may only read. -/
def readOnlyMount (entry : String × String) : VolumeMount where
  name := entry.1
  mountPath := entry.2
  readOnly := some true
  rest := []

/-- A volume that shows a secret and is called as the secret. -/
def secretVolume (name : String) : Volume where
  name := name
  hostPath := none
  rest := [("secret", .obj [("secretName", .str name)])]

/-- What a pod asks for in its annotations. -/
structure Wishes where
  secrets : SortedMap String
  volumes : SortedMap String
  env : SortedMap String

/-- The wishes of a pod; the first annotation that is malformed decides the
error. -/
def wishes (pod : Pod) : Except Error Wishes := do
  let secrets ← pod.pairs Annotations.secretMounts .secretMount
  let volumes ← pod.pairs Annotations.volumeMounts .volumeMount
  let env ← pod.pairs Annotations.sidecarEnv .assignment
  return { secrets, volumes, env }

/-- The mounts that are added to those of the definition. -/
def mounts (envoy : Config.Envoy) (pod : Pod) (wishes : Wishes) : List VolumeMount :=
  wishes.secrets.entries.map readOnlyMount ++ wishes.volumes.entries.map readOnlyMount ++
    (Sds.missingPath? envoy pod).toList.map Sds.mount

/-- The volumes that are added to the pod. -/
def volumes (envoy : Config.Envoy) (pod : Pod) (wishes : Wishes) : List Volume :=
  wishes.secrets.keys.map secretVolume ++ (Sds.missingPath? envoy pod).toList.map Sds.volume

/-! ## Readiness -/

/-- The command that asks Envoy whether it is live. -/
def probeCommand (port : UInt16) : String :=
  "curl -s http://localhost:" ++ Text.ofNat port.toNat ++
    "/server_info | grep state | grep -q LIVE"

/-- The readiness probe. -/
def probe (envoy : Config.Envoy) : Json :=
  .obj [
    ("exec", .obj [("command", Json.ofTexts ["sh", "-c", probeCommand envoy.adminAccessPort])]),
    ("failureThreshold", .int 3),
    ("initialDelaySeconds", .int envoy.readinessProbeInitialDelay.toInt),
    ("periodSeconds", .int envoy.readinessProbePeriod.toInt),
    ("successThreshold", .int 1),
    ("timeoutSeconds", .int 1)]

/-! ## The step -/

/-- A sampling rate is checked only when the tracer that uses it is enabled. -/
def checkSamplingRate (xray : Config.Xray) : Except Error Unit :=
  match xray.samplingRate with
  | none => .ok ()
  | some rate =>
    if xray.enabled then
      match SamplingRate.fault? rate with
      | some fault => .error (.setting (.samplingRate rate fault))
      | none => .ok ()
    else .ok ()

/-- The container for a pod. -/
def container (config : Config) (identity : Identity) (mesh : Mesh) (node : VirtualNode)
    (pod : Pod) (wishes : Wishes) : Except Error Container := do
  let container ← Template.container "envoy" definition
    (Variables.ofPod config identity mesh node pod).toJson
  let resources ← pod.sidecarResources config.sidecar
  return { container with
    env := mergeEnv wishes.env container.env
    resources := some resources
    readinessProbe := some (probe config.envoy)
    volumeMounts := Pod.extend container.volumeMounts (mounts config.envoy pod wishes) }

/-- The container and the volumes that a pod still needs. -/
def additions (config : Config) (identity : Identity) (mesh : Mesh) (node : VirtualNode)
    (pod : Pod) : Except Error (Container × List Volume) := do
  let wishes ← wishes pod
  checkSamplingRate config.tracing.xray
  let container ← container config identity mesh node pod wishes
  return (container, volumes config.envoy pod wishes)

/-- Adds Envoy unless the pod has it. -/
def apply (config : Config) (identity : Identity) (mesh : Mesh) (node : VirtualNode) (pod : Pod) :
    Except Error Pod :=
  if pod.hasContainer Artifact.envoy then .ok pod
  else (additions config identity mesh node pod).map fun (container, volumes) =>
    (pod.addContainer container).addVolumes volumes

/-- What adding Envoy reports. -/
def events (config : Config) (identity : Identity) (mesh : Mesh) (node : VirtualNode) (pod : Pod) :
    List Event :=
  if pod.hasContainer Artifact.envoy then [.debug pod.displayName "envoy already present" []]
  else match additions config identity mesh node pod with
    | .error _ => []
    | .ok (_, volumes) =>
      [.debug pod.displayName "injecting envoy" [("volumes", Text.ofNat volumes.length),
        ("sds", Event.ofBool (Sds.isUsed config.envoy pod))]]

end Envoy

end MeshSidecar
