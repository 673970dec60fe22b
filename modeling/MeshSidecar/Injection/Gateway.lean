import MeshSidecar.Injection.Envoy

namespace MeshSidecar

/-!
# The Envoy container of a virtual gateway

The deployment of a gateway declares the Envoy container itself, with a
placeholder for its image.  The image is filled in and the environment that
concerns the control plane is overridden; all else that the deployment declared
stays.  A deployment that pins its own image says so in an annotation.
-/

namespace Gateway

/-- What the environment is rendered with. -/
structure Variables where
  proxyName : String
  preview : Bool
  logLevel : String
  region : String
  sdsPath : Option String

namespace Variables

def ofPod (config : Config) (identity : Identity) (mesh : Mesh) (gateway : VirtualGateway)
    (pod : Pod) : Variables where
  proxyName := gateway.proxyName mesh identity.accountId
  preview := Envoy.usesPreview config.envoy pod
  logLevel := config.envoy.logLevel
  region := identity.awsRegion
  sdsPath := Sds.path? config.envoy pod

def toJson (vars : Variables) : Json :=
  .obj [("virtual_gateway_name", .str vars.proxyName),
    ("preview", .bool vars.preview),
    ("log_level", .str vars.logLevel),
    ("aws_region", .str vars.region),
    ("sds_uds_path", Json.ofText? vars.sdsPath)]

end Variables

/-- The environment that concerns the control plane, by name. -/
def definition : String := Template.braced [
  r#"  "APPMESH_VIRTUAL_NODE_NAME": {{ virtual_gateway_name|tojson }},"#,
  r#"  "APPMESH_PREVIEW": {{ preview|flag|tojson }},"#,
  r#"  "ENVOY_LOG_LEVEL": {{ log_level|tojson }},"#,
  r#"  "AWS_REGION": {{ aws_region|tojson }}"#,
  r#"  {%- if sds_uds_path %},"#,
  r#"  "APPMESH_SDS_SOCKET_PATH": {{ sds_uds_path|tojson }}"#,
  r#"  {%- endif %}"#]

/-- The environment that concerns the control plane. -/
def environment (vars : Variables) : Except Error (SortedMap String) :=
  Template.define (Document.map? Document.text?) "virtualGatewayEnvoy" definition vars.toJson

/-- Whether the deployment pins its own image. -/
def pinsImage (pod : Pod) : Bool :=
  (pod.switch? Annotations.skipImageOverride).getD false

/-- The image of the container: the configured one, unless the deployment pins
its own.  A deployment that does not may only declare the placeholder or what is
configured anyway. -/
def image (sidecar : Config.Sidecar) (pinned : Bool) (declared : Option String) :
    Except Error (Option String) :=
  if pinned then .ok declared
  else
    let image := declared.getD ""
    if image = Artifact.imagePlaceholder ∨ image = sidecar.image then .ok (some sidecar.image)
    else .error (.setting (.gatewayImage image Artifact.imagePlaceholder))

/-- Gives each variable its overriding value, at the first entry of its name;
what no entry has taken follows at the end in key order. -/
def overrideEnv (given : SortedMap String) : List EnvVar → List EnvVar
  | [] => given.entries.map fun entry =>
    { name := entry.1, value := some entry.2, valueFrom := none }
  | var :: rest =>
    match given.get? var.name with
    | some value =>
      { var with value := some value, valueFrom := none } ::
        overrideEnv (given.erase var.name) rest
    | none => var :: overrideEnv given rest

/-- Changes the first entry for which `p` holds. -/
def changeFirst {α : Type} (p : α → Bool) (change : α → α) : List α → List α
  | [] => []
  | a :: rest => if p a then change a :: rest else a :: changeFirst p change rest

/-- The declared container, if any. -/
def declared? (pod : Pod) : Option Container :=
  pod.containers.find? fun container => container.name == Artifact.envoy

/-- Fills in the declared container and adds the volume that it needs. -/
def apply (config : Config) (identity : Identity) (mesh : Mesh) (gateway : VirtualGateway)
    (pod : Pod) : Except Error Pod := do
  let given ← environment (.ofPod config identity mesh gateway pod)
  match declared? pod with
  | none => return pod
  | some declared =>
    let image ← image config.sidecar (pinsImage pod) declared.image
    let missing := (Sds.missingPath? config.envoy pod).toList
    let fill (container : Container) : Container :=
      { container with
        image := image
        env := some (overrideEnv given (container.env.getD []))
        volumeMounts := Pod.extend container.volumeMounts (missing.map Sds.mount) }
    let filled := pod.mapSpec fun spec =>
      { spec with containers :=
        changeFirst (fun container => container.name == Artifact.envoy) fill spec.containers }
    return filled.addVolumes (missing.map Sds.volume)

/-- What filling in the container reports. -/
def events (config : Config) (identity : Identity) (mesh : Mesh) (gateway : VirtualGateway)
    (pod : Pod) : List Event :=
  match apply config identity mesh gateway pod with
  | .error _ => []
  | .ok _ =>
    if (declared? pod).isNone then
      [.debug pod.displayName "no envoy container declared, skipping gateway injection" []]
    else
      [.debug pod.displayName "configured gateway envoy"
        [("skip_image_override", Event.ofBool (pinsImage pod)),
          ("sds", Event.ofBool (Sds.isUsed config.envoy pod))]]

end Gateway

end MeshSidecar
