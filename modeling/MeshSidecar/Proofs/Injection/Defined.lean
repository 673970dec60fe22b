import MeshSidecar.Injection.Gateway
import MeshSidecar.Injection.Interception
import MeshSidecar.Injection.Tracer
import MeshSidecar.Injection.Xray
import MeshSidecar.Proofs.Template.Manifest

namespace MeshSidecar

/-!
# What the definitions define

For each definition, the container or environment that its variables determine is
given here without any template.  The definition then renders and decodes to just
that, whatever its variables hold: every combination of flags leaves commas and
brackets balanced, and no text can leave the string that it was put into.
-/

open Template Json.Reader

/-! ## The X-Ray daemon -/

namespace Xray.Variables

/-- The daemon that the variables determine. -/
def container (vars : Variables) : Container where
  name := vars.name
  image := some vars.image
  command := none
  args := none
  env := some [.given "AWS_REGION" vars.region]
  volumeMounts := none
  resources := none
  readinessProbe := none
  rest := [
    ("ports", .arr [.obj [("containerPort", .int vars.port.toNat), ("name", .str "xray"),
      ("protocol", .str "UDP")]]),
    ("securityContext", .obj [("runAsUser", .int vars.uid.toInt)])]

theorem definition_members (vars : Variables) :
    Defines vars.toJson definition [
      ("name", .str vars.name), ("image", .str vars.image),
      ("securityContext", .obj [("runAsUser", .int vars.uid.toInt)]),
      ("ports", .arr [.obj [("containerPort", .int vars.port.toNat), ("name", .str "xray"),
        ("protocol", .str "UDP")]]),
      ("env", .arr [(EnvVar.given "AWS_REGION" vars.region).toJson])] := by
  have name : vars.toJson.get? "name" = some (.str vars.name) := by
    simp [toJson]
  have image : vars.toJson.get? "image" = some (.str vars.image) := by
    simp [toJson]
  have user : vars.toJson.get? "proxy_uid" = some (.int vars.uid.toInt) := by
    simp [toJson]
  have port : vars.toJson.get? "daemon_port" = some (.int vars.port.toNat) := by
    simp [toJson]
  have region : vars.toJson.get? "aws_region" = some (.str vars.region) := by
    simp [toJson]
  refine LastRows.defines (Nat.zero_le depthLimit) (List.cons_ne_nil _ _) ?_
  refine (row_text rfl rfl rfl name).followed ?_
  refine (row_text rfl rfl rfl image).followed ?_
  refine (((value_number rfl user).alone rfl).row rfl rfl).followed ?_
  refine (((value_port rfl port rfl rfl).item.lastRow rfl).row rfl rfl rfl).followed ?_
  exact (environment_given rfl rfl (value_text rfl region)).rows.lastRow rfl rfl rfl

theorem container_definition (vars : Variables) (name : String) :
    Template.container name definition vars.toJson = .ok vars.container := by
  refine vars.definition_members.define ?_
  have user := Schema.read?_runAsUser (fits_int64 vars.uid)
  have ports := Schema.read?_containerPorts (fits_uint16 vars.port) "xray" "UDP"
  apply Container.read?_ofMembers none (some [.given "AWS_REGION" vars.region]) none
  case readable => exact readable_given "AWS_REGION" vars.region
  case others =>
    simp [Document.find?, Document.isNull, Schema.readFields, Schema.containerRest, Schema.opt,
      Schema.ifRequired, user, ports]
  all_goals simp [Document.find?]

end Xray.Variables

/-! ## The init container that redirects traffic -/

namespace Interception.InitVariables

def environment (vars : InitVariables) : List EnvVar := [
  .given "APPMESH_START_ENABLED" "1",
  .given "APPMESH_IGNORE_UID" vars.ignoredUid,
  .given "APPMESH_ENVOY_INGRESS_PORT" vars.ingressPort,
  .given "APPMESH_ENVOY_EGRESS_PORT" vars.egressPort,
  .given "APPMESH_APP_PORTS" vars.appPorts,
  .given "APPMESH_EGRESS_IGNORED_IP" vars.ignoredIps,
  .given "APPMESH_EGRESS_IGNORED_PORTS" vars.ignoredPorts,
  .given "APPMESH_ENABLE_IPV6" (flagDigit vars.ipv6)]

/-- The init container that the variables determine. -/
def container (vars : InitVariables) : Container where
  name := vars.name
  image := some vars.image
  command := none
  args := none
  env := some vars.environment
  volumeMounts := none
  resources := none
  readinessProbe := none
  rest := [("securityContext",
    .obj [("capabilities", .obj [("add", .arr [.str "NET_ADMIN"])])])]

theorem environment_declared (vars : InitVariables) :
    Environment vars.toJson 0 Interception.environment vars.environment := by
  have uid : vars.toJson.get? "ignored_uid" = some (.str vars.ignoredUid) := by
    simp [toJson]
  have ingress : vars.toJson.get? "proxy_ingress_port" = some (.str vars.ingressPort) := by
    simp [toJson]
  have egress : vars.toJson.get? "proxy_egress_port" = some (.str vars.egressPort) := by
    simp [toJson]
  have appPorts : vars.toJson.get? "app_ports" = some (.str vars.appPorts) := by
    simp [toJson]
  have ips : vars.toJson.get? "egress_ignored_ips" = some (.str vars.ignoredIps) := by
    simp [toJson]
  have ports : vars.toJson.get? "egress_ignored_ports" = some (.str vars.ignoredPorts) := by
    simp [toJson]
  have ipv6 : vars.toJson.get? "enable_ipv6" = some (.bool vars.ipv6) := by
    simp [toJson]
  refine (declares_quoted rfl rfl rfl).followed ?_
  refine (declares_text rfl rfl rfl uid).followed ?_
  refine (declares_text rfl rfl rfl ingress).followed ?_
  refine (declares_text rfl rfl rfl egress).followed ?_
  refine (declares_text rfl rfl rfl appPorts).followed ?_
  refine (declares_text rfl rfl rfl ips).followed ?_
  refine (declares_text rfl rfl rfl ports).followed ?_
  exact environment_given rfl rfl (value_flag rfl ipv6)

theorem definition_members (vars : InitVariables) :
    Defines vars.toJson definition [
      ("name", .str vars.name), ("image", .str vars.image),
      ("securityContext", .obj [("capabilities", .obj [("add", .arr [.str "NET_ADMIN"])])]),
      ("env", .arr (vars.environment.map EnvVar.toJson))] := by
  have name : vars.toJson.get? "name" = some (.str vars.name) := by
    simp [toJson]
  have image : vars.toJson.get? "image" = some (.str vars.image) := by
    simp [toJson]
  refine LastRows.defines (Nat.zero_le depthLimit) (List.cons_ne_nil _ _) ?_
  simp only [List.cons_append, List.nil_append]
  refine (row_text rfl rfl rfl name).followed ?_
  refine (row_text rfl rfl rfl image).followed ?_
  refine ((((value_quoted rfl).item.last.array.alone rfl).lastRow rfl rfl).row rfl rfl
    rfl).followed ?_
  exact vars.environment_declared.rows.lastRow rfl rfl rfl

theorem container_definition (vars : InitVariables) (name : String) :
    Template.container name definition vars.toJson = .ok vars.container := by
  refine vars.definition_members.define ?_
  have capability := Schema.read?_addedCapability "NET_ADMIN"
  apply Container.read?_ofMembers none (some vars.environment) none
  case readable => exact vars.environment_declared.readable
  case others =>
    simp [Document.find?, Document.isNull, Schema.readFields, Schema.containerRest, Schema.opt,
      Schema.ifRequired, capability]
  all_goals simp [Document.find?]

end Interception.InitVariables

/-! ## The init container of a tracer -/

namespace Tracer.InitVariables

def environment (vars : InitVariables) : List EnvVar :=
  [.ofField vars.hostIpVariable "status.hostIP"]

/-- The init container that the variables determine. -/
def container (vars : InitVariables) : Container where
  name := vars.name
  image := some vars.image
  command := some ["sh", "-c", vars.script]
  args := none
  env := if vars.onHost then some vars.environment else none
  volumeMounts := some [.plain vars.volume vars.mountPath]
  resources := none
  readinessProbe := none
  rest := [("imagePullPolicy", .str "IfNotPresent")]

theorem definition_members (vars : InitVariables) :
    Defines vars.toJson initDefinition (
      [("name", .str vars.name), ("image", .str vars.image),
        ("imagePullPolicy", .str "IfNotPresent"),
        ("command", .ofTexts ["sh", "-c", vars.script])] ++
      (if vars.onHost then [("env", .arr (vars.environment.map EnvVar.toJson))] else []) ++
      [("volumeMounts", .arr [(VolumeMount.plain vars.volume vars.mountPath).toJson])]) := by
  have name : vars.toJson.get? "name" = some (.str vars.name) := by
    simp [toJson]
  have image : vars.toJson.get? "image" = some (.str vars.image) := by
    simp [toJson]
  have script : vars.toJson.get? "script" = some (.str vars.script) := by
    simp [toJson]
  have onHost : vars.toJson.get? "host_ip" = some (.bool vars.onHost) := by
    simp [toJson]
  have address : vars.toJson.get? "host_ip_var" = some (.str vars.hostIpVariable) := by
    simp [toJson]
  have volume : vars.toJson.get? "volume" = some (.str vars.volume) := by
    simp [toJson]
  have path : vars.toJson.get? "mount_path" = some (.str vars.mountPath) := by
    simp [toJson]
  refine LastRows.defines (by decide : 1 ≤ depthLimit) (List.cons_ne_nil _ _) ?_
  simp only [List.cons_append, List.nil_append]
  refine (row_text rfl rfl rfl name).followed ?_
  refine (row_text rfl rfl rfl image).followed ?_
  refine ((value_quoted rfl).row rfl rfl).followed ?_
  refine ((value_shellCommand rfl script).row rfl rfl).followed ?_
  refine (((environment_fromField rfl rfl (value_text rfl address)).rows.row rfl rfl rfl).onlyIf
    rfl rfl rfl onHost).followed ?_
  exact ((value_mount rfl rfl volume path).item.lastRow rfl).lastRow rfl rfl rfl

theorem container_definition (vars : InitVariables) (name : String) :
    Template.container name initDefinition vars.toJson = .ok vars.container := by
  refine vars.definition_members.define ?_
  apply Container.read?_ofMembers (some ["sh", "-c", vars.script])
    (if vars.onHost then some vars.environment else none) (some (vars.volume, vars.mountPath))
  case readable =>
    intro var member
    have declared : var ∈ vars.environment := by
      cases onHost : vars.onHost with
      | true => simpa [onHost] using member
      | false => simp [onHost] at member
    exact readable_ofField vars.hostIpVariable "status.hostIP" var declared
  case others =>
    cases vars.onHost <;>
      simp [Document.find?, Document.isNull, Document.text?, Schema.readFields,
        Schema.containerRest, Schema.opt, Schema.ifRequired, Schema.read?]
  all_goals cases vars.onHost <;> simp [Document.find?]

end Tracer.InitVariables

/-! ## Envoy -/

namespace Envoy.Variables

/-- What Envoy is told about the X-Ray daemon. -/
def xrayEnvironment (vars : Variables) : List EnvVar :=
  .given "ENABLE_ENVOY_XRAY_TRACING" "1" ::
    .given "XRAY_DAEMON_PORT" (Text.ofNat vars.xrayPort.toNat) ::
    EnvVar.optional "XRAY_SAMPLING_RATE" vars.xraySamplingRate

/-- What Envoy is told about the Datadog agent. -/
def datadogEnvironment (vars : Variables) : List EnvVar := [
  .given "ENABLE_ENVOY_DATADOG_TRACING" "1",
  .given "DATADOG_TRACER_PORT" (Text.ofNat vars.datadogPort.toNat),
  if vars.datadogOnHost then .ofField "DATADOG_TRACER_ADDRESS" "status.hostIP"
  else .given "DATADOG_TRACER_ADDRESS" vars.datadogAddress]

/-- What Envoy is told about the server for statistics. -/
def statsdEnvironment (vars : Variables) : List EnvVar :=
  .given "ENABLE_ENVOY_DOG_STATSD" "1" ::
    .given "STATSD_PORT" (Text.ofNat vars.statsdPort.toNat) ::
    (if vars.statsdOnHost then .ofField "STATSD_ADDRESS" "status.hostIP"
      else .given "STATSD_ADDRESS" vars.statsdAddress) ::
    EnvVar.optional "STATSD_SOCKET_PATH" vars.statsdSocket

/-- The environment that the variables determine, in the order in which Envoy
gets it. -/
def environment (vars : Variables) : List EnvVar :=
  [.given "APPMESH_VIRTUAL_NODE_NAME" vars.proxyName,
    .given "APPMESH_PREVIEW" (flagDigit vars.preview),
    .given "ENVOY_LOG_LEVEL" vars.logLevel,
    .given adminPortVariable (Text.ofNat vars.adminPort.toNat)] ++
  EnvVar.optional "ENVOY_ADMIN_ACCESS_LOG_FILE" vars.adminLogFile ++
  (if vars.readsTracingFile then [.given "ENVOY_TRACING_CFG_FILE" vars.tracingFile] else []) ++
  [.given "AWS_REGION" vars.region] ++
  EnvVar.optional "APPMESH_SDS_SOCKET_PATH" vars.sdsPath ++
  EnvVar.optional "APPMESH_PLATFORM_APP_MESH_CONTROLLER_VERSION" vars.controllerVersion ++
  EnvVar.optional "APPMESH_PLATFORM_K8S_VERSION" vars.k8sVersion ++
  [.given "APPMESH_DUALSTACK_ENDPOINT" (flagDigit vars.dualStack),
    .given "ENVOY_ADMIN_ACCESS_ENABLE_IPV6" (if vars.adminIpv6 then "true" else "false"),
    .given "APPMESH_FIPS_ENDPOINT" (flagDigit vars.fips)] ++
  (if vars.xray then vars.xrayEnvironment else []) ++
  (if vars.datadog then vars.datadogEnvironment else []) ++
  (if vars.statsTags then [.given "ENABLE_ENVOY_STATS_TAGS" "1"] else []) ++
  (if vars.statsd then vars.statsdEnvironment else []) ++
  [.ofField "APPMESH_PLATFORM_K8S_POD_UID" "metadata.uid"]

/-- The container that the variables determine. -/
def container (vars : Variables) : Container where
  name := vars.name
  image := some vars.image
  command := none
  args := none
  env := some vars.environment
  volumeMounts :=
    if vars.readsTracingFile then some [.plain vars.tracingVolume vars.tracingMountPath] else none
  resources := none
  readinessProbe := none
  rest := [
    ("lifecycle", .obj [("preStop", .obj [("exec",
      .obj [("command", .ofTexts ["sh", "-c", vars.preStopCommand])])])]),
    ("ports", .arr [.obj [("containerPort", .int vars.adminPort.toNat), ("name", .str "stats"),
      ("protocol", .str "TCP")]]),
    ("securityContext", .obj [("runAsUser", .int vars.uid.toInt)])]

theorem environment_declared (vars : Variables) :
    Environment vars.toJson 2 Envoy.environment vars.environment := by
  have proxyName : vars.toJson.get? "virtual_node_name" = some (.str vars.proxyName) := by
    simp [toJson]
  have preview : vars.toJson.get? "preview" = some (.bool vars.preview) := by
    simp [toJson]
  have logLevel : vars.toJson.get? "log_level" = some (.str vars.logLevel) := by
    simp [toJson]
  have port : vars.toJson.get? "admin_access_port" = some (.int vars.adminPort.toNat) := by
    simp [toJson]
  have logFile : vars.toJson.get? "admin_access_log_file" = some (.ofText? vars.adminLogFile) := by
    simp [toJson]
  have readsFile : vars.toJson.get? "tracing_config" = some (.bool vars.readsTracingFile) := by
    simp [toJson]
  have tracingFile : vars.toJson.get? "tracing_config_file" = some (.str vars.tracingFile) := by
    simp [toJson]
  have region : vars.toJson.get? "aws_region" = some (.str vars.region) := by
    simp [toJson]
  have sdsPath : vars.toJson.get? "sds_uds_path" = some (.ofText? vars.sdsPath) := by
    simp [toJson]
  have controller :
      vars.toJson.get? "controller_version" = some (.ofText? vars.controllerVersion) := by
    simp [toJson]
  have k8s : vars.toJson.get? "k8s_version" = some (.ofText? vars.k8sVersion) := by
    simp [toJson]
  have dualStack : vars.toJson.get? "dual_stack_endpoint" = some (.bool vars.dualStack) := by
    simp [toJson]
  have ipv6 : vars.toJson.get? "admin_access_enable_ipv6" = some (.bool vars.adminIpv6) := by
    simp [toJson]
  have fips : vars.toJson.get? "fips_endpoint" = some (.bool vars.fips) := by
    simp [toJson]
  have xray : vars.toJson.get? "xray" = some (.bool vars.xray) := by
    simp [toJson]
  have xrayPort : vars.toJson.get? "xray_daemon_port" = some (.int vars.xrayPort.toNat) := by
    simp [toJson]
  have samplingRate :
      vars.toJson.get? "xray_sampling_rate" = some (.ofText? vars.xraySamplingRate) := by
    simp [toJson]
  have datadog : vars.toJson.get? "datadog" = some (.bool vars.datadog) := by
    simp [toJson]
  have datadogPort : vars.toJson.get? "datadog_port" = some (.int vars.datadogPort.toNat) := by
    simp [toJson]
  have datadogOnHost :
      vars.toJson.get? "datadog_address_from_host" = some (.bool vars.datadogOnHost) := by
    simp [toJson]
  have datadogAddress : vars.toJson.get? "datadog_address" = some (.str vars.datadogAddress) := by
    simp [toJson]
  have statsTags : vars.toJson.get? "stats_tags" = some (.bool vars.statsTags) := by
    simp [toJson]
  have statsd : vars.toJson.get? "statsd" = some (.bool vars.statsd) := by
    simp [toJson]
  have statsdPort : vars.toJson.get? "statsd_port" = some (.int vars.statsdPort.toNat) := by
    simp [toJson]
  have statsdOnHost :
      vars.toJson.get? "statsd_address_from_host" = some (.bool vars.statsdOnHost) := by
    simp [toJson]
  have statsdAddress : vars.toJson.get? "statsd_address" = some (.str vars.statsdAddress) := by
    simp [toJson]
  have statsdSocket :
      vars.toJson.get? "statsd_socket_path" = some (.ofText? vars.statsdSocket) := by
    simp [toJson]
  simp only [environment, List.append_assoc, List.cons_append, List.nil_append]
  refine (declares_text rfl rfl rfl proxyName).followed ?_
  refine (declares_flag rfl rfl rfl preview).followed ?_
  refine (declares_text rfl rfl rfl logLevel).followed ?_
  refine (declares_digits rfl rfl rfl port).followed ?_
  refine (declares_optional rfl rfl rfl rfl rfl logFile).followed ?_
  refine ((declares_text rfl rfl rfl tracingFile).onlyIf rfl rfl rfl readsFile).followed ?_
  refine (declares_text rfl rfl rfl region).followed ?_
  refine (declares_optional rfl rfl rfl rfl rfl sdsPath).followed ?_
  refine (declares_optional rfl rfl rfl rfl rfl controller).followed ?_
  refine (declares_optional rfl rfl rfl rfl rfl k8s).followed ?_
  refine (declares_flag rfl rfl rfl dualStack).followed ?_
  refine (declares_given rfl rfl (value_either rfl ipv6 rfl rfl)).followed ?_
  refine (declares_flag rfl rfl rfl fips).followed ?_
  refine (((declares_quoted rfl rfl rfl).append
    ((declares_digits rfl rfl rfl xrayPort).append
    (declares_optional rfl rfl rfl rfl rfl samplingRate))).onlyIf rfl rfl rfl xray).followed ?_
  refine (((declares_quoted rfl rfl rfl).append
    ((declares_digits rfl rfl rfl datadogPort).append
    ((declares_fromField rfl rfl (value_quoted rfl)).either rfl rfl rfl rfl datadogOnHost
      (declares_text rfl rfl rfl datadogAddress)))).onlyIf rfl rfl rfl datadog).followed ?_
  refine ((declares_quoted rfl rfl rfl).onlyIf rfl rfl rfl statsTags).followed ?_
  refine (((declares_quoted rfl rfl rfl).append
    ((declares_digits rfl rfl rfl statsdPort).append
    (((declares_fromField rfl rfl (value_quoted rfl)).either rfl rfl rfl rfl statsdOnHost
      (declares_text rfl rfl rfl statsdAddress)).append
    (declares_optional rfl rfl rfl rfl rfl statsdSocket)))).onlyIf rfl rfl rfl statsd).followed ?_
  exact environment_fromField rfl rfl (value_quoted rfl)

theorem definition_members (vars : Variables) :
    Defines vars.toJson definition (
      [("name", .str vars.name), ("image", .str vars.image),
        ("securityContext", .obj [("runAsUser", .int vars.uid.toInt)]),
        ("ports", .arr [.obj [("containerPort", .int vars.adminPort.toNat),
          ("name", .str "stats"), ("protocol", .str "TCP")]]),
        ("lifecycle", .obj [("preStop", .obj [("exec",
          .obj [("command", .ofTexts ["sh", "-c", vars.preStopCommand])])])])] ++
      (if vars.readsTracingFile then
        [("volumeMounts",
          .arr [(VolumeMount.plain vars.tracingVolume vars.tracingMountPath).toJson])]
      else []) ++
      [("env", .arr (vars.environment.map EnvVar.toJson))]) := by
  have name : vars.toJson.get? "name" = some (.str vars.name) := by
    simp [toJson]
  have image : vars.toJson.get? "image" = some (.str vars.image) := by
    simp [toJson]
  have user : vars.toJson.get? "proxy_uid" = some (.int vars.uid.toInt) := by
    simp [toJson]
  have port : vars.toJson.get? "admin_access_port" = some (.int vars.adminPort.toNat) := by
    simp [toJson]
  have command : vars.toJson.get? "pre_stop_command" = some (.str vars.preStopCommand) := by
    simp [toJson]
  have readsFile : vars.toJson.get? "tracing_config" = some (.bool vars.readsTracingFile) := by
    simp [toJson]
  have volume : vars.toJson.get? "tracing_volume" = some (.str vars.tracingVolume) := by
    simp [toJson]
  have path : vars.toJson.get? "tracing_mount_path" = some (.str vars.tracingMountPath) := by
    simp [toJson]
  refine LastRows.defines (by decide : 2 ≤ depthLimit) (List.cons_ne_nil _ _) ?_
  simp only [List.cons_append, List.nil_append]
  refine (row_text rfl rfl rfl name).followed ?_
  refine (row_text rfl rfl rfl image).followed ?_
  refine (((value_number rfl user).alone rfl).row rfl rfl).followed ?_
  refine (((value_port rfl port rfl rfl).item.lastRow rfl).row rfl rfl rfl).followed ?_
  refine (((((value_shellCommand rfl command).alone rfl).alone rfl).lastRow rfl rfl).row rfl rfl
    rfl).followed ?_
  refine ((((value_mount rfl rfl volume path).item.lastRow rfl).row rfl rfl rfl).onlyIf rfl rfl rfl
    readsFile).followed ?_
  exact vars.environment_declared.rows.lastRow rfl rfl rfl

theorem container_definition (vars : Variables) (name : String) :
    Template.container name definition vars.toJson = .ok vars.container := by
  refine vars.definition_members.define ?_
  have user := Schema.read?_runAsUser (fits_int64 vars.uid)
  have ports := Schema.read?_containerPorts (fits_uint16 vars.adminPort) "stats" "TCP"
  have hook := Schema.read?_preStop "sh" "-c" vars.preStopCommand
  have mounts : vars.container.volumeMounts =
      (if vars.readsTracingFile then some (vars.tracingVolume, vars.tracingMountPath)
        else none).map fun mount => [VolumeMount.plain mount.1 mount.2] := by
    rw [container]
    cases vars.readsTracingFile with
    | true => rfl
    | false => rfl
  have decoded : vars.container = { vars.container with
      volumeMounts := (if vars.readsTracingFile then
        some (vars.tracingVolume, vars.tracingMountPath)
        else none).map fun mount => [VolumeMount.plain mount.1 mount.2] } := by
    rw [← mounts]
  rw [decoded]
  apply Container.read?_ofMembers none (some vars.environment)
    (if vars.readsTracingFile then some (vars.tracingVolume, vars.tracingMountPath) else none)
  case readable => exact vars.environment_declared.readable
  case others =>
    cases vars.readsTracingFile <;>
      simp [Document.find?, Document.isNull, Schema.readFields, Schema.containerRest, Schema.opt,
        Schema.ifRequired, user, ports, hook, container]
  all_goals cases vars.readsTracingFile <;> simp [Document.find?, container]

end Envoy.Variables

/-! ## The environment of a gateway -/

namespace Gateway.Variables

/-- The environment that the variables determine, in the order in which it is
written. -/
def assignments (vars : Variables) : List (String × String) :=
  [("APPMESH_VIRTUAL_NODE_NAME", vars.proxyName), ("APPMESH_PREVIEW", flagDigit vars.preview),
    ("ENVOY_LOG_LEVEL", vars.logLevel), ("AWS_REGION", vars.region)] ++
  (vars.sdsPath.filter fun path => path != "").toList.map fun path =>
    ("APPMESH_SDS_SOCKET_PATH", path)

theorem definition_members (vars : Variables) :
    Defines vars.toJson definition
      (vars.assignments.map fun entry => (entry.1, .str entry.2)) := by
  have proxyName : vars.toJson.get? "virtual_gateway_name" = some (.str vars.proxyName) := by
    simp [toJson]
  have preview : vars.toJson.get? "preview" = some (.bool vars.preview) := by
    simp [toJson]
  have logLevel : vars.toJson.get? "log_level" = some (.str vars.logLevel) := by
    simp [toJson]
  have region : vars.toJson.get? "aws_region" = some (.str vars.region) := by
    simp [toJson]
  have sdsPath : vars.toJson.get? "sds_uds_path" = some (.ofText? vars.sdsPath) := by
    simp [toJson]
  refine LastRows.defines (by decide : 1 ≤ depthLimit) (List.cons_ne_nil _ _) ?_
  simp only [assignments, List.map_cons, List.map_map, List.cons_append, List.nil_append]
  refine (row_text rfl rfl rfl proxyName).followed ?_
  refine ((value_flag rfl preview).row rfl rfl).followed ?_
  refine (row_text rfl rfl rfl logLevel).followed ?_
  exact ((value_text rfl region).lastRow rfl rfl).orText (List.cons_ne_nil _ _) rfl rfl rfl rfl rfl
    sdsPath

theorem environment_definition (vars : Variables) :
    Gateway.environment vars = .ok (.ofList vars.assignments) :=
  vars.definition_members.define (map?_ofMembers vars.assignments)

end Gateway.Variables

/-! ## All definitions -/

/-- Whatever its variables hold, each definition renders, and what it renders to
is read as just the container or environment that the variables determine. -/
theorem definitions_faithful :
    (∀ (vars : Envoy.Variables) (name : String),
      Template.container name Envoy.definition vars.toJson = .ok vars.container) ∧
    (∀ (vars : Interception.InitVariables) (name : String),
      Template.container name Interception.definition vars.toJson = .ok vars.container) ∧
    (∀ (vars : Xray.Variables) (name : String),
      Template.container name Xray.definition vars.toJson = .ok vars.container) ∧
    (∀ (vars : Tracer.InitVariables) (name : String),
      Template.container name Tracer.initDefinition vars.toJson = .ok vars.container) ∧
    (∀ vars : Gateway.Variables, Gateway.environment vars = .ok (.ofList vars.assignments)) := by
  refine ⟨?_, ?_, ?_, ?_, ?_⟩
  · exact Envoy.Variables.container_definition
  · exact Interception.InitVariables.container_definition
  · exact Xray.Variables.container_definition
  · exact Tracer.InitVariables.container_definition
  · exact Gateway.Variables.environment_definition

end MeshSidecar
