import MeshSidecar.Injection.Event
import MeshSidecar.Injection.Rendered
import MeshSidecar.Injection.Setting
import MeshSidecar.Mesh.Basic

namespace MeshSidecar

/-!
# The X-Ray daemon

The daemon runs beside Envoy and forwards what Envoy traces.  It takes its
settings from arguments, or else from a file in a volume that the pod names in an
annotation; with a file no argument is given, since the file decides.
-/

namespace Xray

/-- What the definition of the daemon is rendered with. -/
structure Variables where
  name : String
  image : String
  uid : Int64
  port : UInt16
  region : String

namespace Variables

def ofConfig (xray : Config.Xray) (region : String) : Variables where
  name := Artifact.xrayDaemon
  image := xray.image
  uid := .ofNat proxyUid
  port := xray.daemonPort
  region := region

def toJson (vars : Variables) : Json :=
  .obj [("name", .str vars.name),
    ("image", .str vars.image),
    ("proxy_uid", .int vars.uid.toInt),
    ("daemon_port", .int vars.port.toNat),
    ("aws_region", .str vars.region)]

end Variables

/-- The daemon as far as the configuration determines it. -/
def definition : String := Template.braced [
  r#"  "name": {{ name|tojson }},"#,
  r#"  "image": {{ image|tojson }},"#,
  r#"  "securityContext": {"runAsUser": {{ proxy_uid }}},"#,
  r#"  "ports": ["#,
  r#"    {"name": "xray", "containerPort": {{ daemon_port }}, "protocol": "UDP"}"#,
  "  ],",
  r#"  "env": ["#,
  r#"    {"name": "AWS_REGION", "value": {{ aws_region|tojson }}}"#,
  "  ]"]

/-! ## Settings in a file -/

/-- A volume that holds the configuration file, and where it is mounted. -/
structure ConfigMount where
  volume : String
  path : String
  deriving DecidableEq

namespace ConfigMount

/-- The parameter of the daemon for its file, in the mounted directory. -/
def file (mount : ConfigMount) : String :=
  String.ofList (Text.trimEndWhere (fun c => c == ' ' || c == '/') mount.path.toList) ++
    "/xray-daemon.yaml"

/-- A value of the annotation as a mount: one pair, both parts of which say
something. -/
def ofAnnotation (value : String) : Except Error ConfigMount :=
  if value.toList.contains ',' then
    .error (.setting (.severalConfigMounts Annotations.xrayConfigMount value))
  else
    let malformed := .error
      (.malformed ("\"" ++ Annotations.xrayConfigMount ++ "\"") PairForm.volumeMount.shown)
    match PairForm.volumeMount.pair? value.toList with
    | some (volume, path) => if volume = "" ∨ path = "" then malformed else .ok ⟨volume, path⟩
    | none => malformed

end ConfigMount

/-- Mounts the volume and points the daemon to its file. -/
def withFile (mount : ConfigMount) (container : Container) : Container :=
  { container with
    command := some ["/xray", "--config", mount.file]
    volumeMounts := some [⟨mount.volume, mount.path, some true, []⟩] }

/-! ## Settings in arguments -/

/-- The log levels of the daemon. -/
def logLevels : List String := ["dev", "debug", "info", "prod", "warn", "error"]

/-- Whether a text names a resource: `arn:partition:service:region:account:resource`
with a partition, a service and a resource, which may contain colons. -/
def isArn (text : String) : Bool :=
  match Text.splitAtMost ':' 5 text.toList with
  | [scheme, partition, service, _, _, resource] =>
    scheme == ['a', 'r', 'n'] && partition != [] && service != [] && resource != []
  | _ => false

/-- The argument for the log level; an empty level asks for none. -/
def logLevelArgs (level : String) : Except Error (List String) :=
  if level = "" then .ok []
  else if logLevels.contains level then .ok ["--log-level", level]
  else .error (.setting (.logLevel level logLevels))

/-- The argument for the role to take; an empty role asks for none. -/
def roleArgs (role : Option String) : Except Error (List String) :=
  match role with
  | none => .ok []
  | some role =>
    if role = "" then .ok []
    else if isArn role then .ok ["--role-arn", role]
    else .error (.setting (.roleArn role))

/-- Passes the settings as arguments; no list of arguments is given when there
are none. -/
def withArgs (xray : Config.Xray) (container : Container) : Except Error Container := do
  let level ← logLevelArgs xray.logLevel
  let role ← roleArgs xray.roleArn
  let args := level ++ role
  return if args.isEmpty then container else { container with args := some args }

/-! ## The step -/

/-- The parameters without which the daemon cannot run, where they are missing. -/
def missingParameters (xray : Config.Xray) (region : String) : List String :=
  (if region = "" then ["AWSRegion"] else []) ++ (if xray.image = "" then ["xRayImage"] else []) ++
    (if xray.daemonPort = 0 then ["xRayDaemonPort"] else [])

/-- The daemon for a pod. -/
def container (xray : Config.Xray) (sizing : Config.Sidecar) (region : String) (pod : Pod) :
    Except Error Container := do
  let missing := missingParameters xray region
  if !missing.isEmpty then throw (.setting (.missingParameters missing))
  let container ← Template.container "xray" definition (Variables.ofConfig xray region).toJson
  let container ← match pod.annotation? Annotations.xrayConfigMount with
    | some value => (ConfigMount.ofAnnotation value).map fun mount => withFile mount container
    | none => withArgs xray container
  let resources ← pod.sidecarResources sizing
  return { container with resources := some resources }

/-- Adds the daemon when it is enabled, unless the pod has it. -/
def apply (xray : Config.Xray) (sizing : Config.Sidecar) (region : String) (pod : Pod) :
    Except Error Pod :=
  if !xray.enabled || pod.hasContainer Artifact.xrayDaemon then .ok pod
  else (container xray sizing region pod).map pod.addContainer

/-- What adding the daemon reports. -/
def events (xray : Config.Xray) (sizing : Config.Sidecar) (region : String) (pod : Pod) :
    List Event :=
  if !xray.enabled then []
  else if pod.hasContainer Artifact.xrayDaemon then
    [.debug pod.displayName "xray daemon already present" []]
  else match container xray sizing region pod with
    | .error _ => []
    | .ok _ => [.debug pod.displayName "injecting xray daemon" []]

end Xray

end MeshSidecar
