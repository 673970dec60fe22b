import MeshSidecar.Pod.Basic
import MeshSidecar.Pod.Schema.Container
import MeshSidecar.Pod.Schema.Pod
import MeshSidecar.Pod.Schema.Volume

namespace MeshSidecar

/-!
# Reading and writing pods

A pod is read from a manifest by the rules of its schemas: unknown fields are
dropped, a null field is a missing one, required names that are missing are
empty, and a value of the wrong type makes the manifest unreadable.  A manifest
may leave out its `apiVersion` and `kind`, which are always written.
-/

open Document

/-- The field of a record that is being written, unless it is absent. -/
def Json.member? (key : String) (value : Option Json) : List (String × Json) :=
  match value with
  | some value => [(key, value)]
  | none => []

variable {δ : Type} [Document δ]

namespace EnvVar

def read? (document : δ) : Option EnvVar := do
  let fields ← entries? document
  return {
    name := ← nullableOr fields "name" "" text?
    value := ← nullable fields "value" text?
    valueFrom := ← nullable fields "valueFrom" Schema.envVarSource.read? }

def toJson (var : EnvVar) : Json :=
  .obj (("name", .str var.name) :: Json.member? "value" (var.value.map .str) ++
    Json.member? "valueFrom" var.valueFrom)

end EnvVar

namespace VolumeMount

def read? (document : δ) : Option VolumeMount := do
  let fields ← entries? document
  return {
    name := ← nullableOr fields "name" "" text?
    mountPath := ← nullableOr fields "mountPath" "" text?
    readOnly := ← nullable fields "readOnly" flag?
    rest := ← Schema.readFields Schema.volumeMountRest fields }

def toJson (mount : VolumeMount) : Json :=
  .obj ([("mountPath", .str mount.mountPath), ("name", .str mount.name)] ++
    Json.member? "readOnly" (mount.readOnly.map .bool) ++ mount.rest)

end VolumeMount

namespace Resources

def read? (document : δ) : Option Resources := do
  let fields ← entries? document
  return {
    requests := ← nullable fields "requests" (map? text?)
    limits := ← nullable fields "limits" (map? text?)
    claims := ← nullable fields "claims" (Schema.list Schema.resourceClaim).read? }

def toJson (resources : Resources) : Json :=
  .obj (Json.member? "claims" resources.claims ++
    Json.member? "limits" (resources.limits.map Json.ofTextMap) ++
    Json.member? "requests" (resources.requests.map Json.ofTextMap))

end Resources

namespace Container

def read? (document : δ) : Option Container := do
  let fields ← entries? document
  return {
    name := ← nullableOr fields "name" "" text?
    image := ← nullable fields "image" text?
    command := ← nullable fields "command" (list? text?)
    args := ← nullable fields "args" (list? text?)
    env := ← nullable fields "env" (list? EnvVar.read?)
    volumeMounts := ← nullable fields "volumeMounts" (list? VolumeMount.read?)
    resources := ← nullable fields "resources" Resources.read?
    readinessProbe := ← nullable fields "readinessProbe" Schema.probe.read?
    rest := ← Schema.readFields Schema.containerRest fields }

def toJson (container : Container) : Json :=
  .obj (Json.member? "args" (container.args.map Json.ofTexts) ++
    Json.member? "command" (container.command.map Json.ofTexts) ++
    Json.member? "env" (container.env.map fun env => .arr (env.map EnvVar.toJson)) ++
    Json.member? "image" (container.image.map .str) ++
    ("name", .str container.name) ::
    Json.member? "readinessProbe" container.readinessProbe ++
    Json.member? "resources" (container.resources.map Resources.toJson) ++
    Json.member? "volumeMounts"
      (container.volumeMounts.map fun mounts => .arr (mounts.map VolumeMount.toJson)) ++
    container.rest)

end Container

namespace HostPath

def read? (document : δ) : Option HostPath := do
  let fields ← entries? document
  return {
    path := ← nullableOr fields "path" "" text?
    kind := ← nullable fields "type" text? }

def toJson (hostPath : HostPath) : Json :=
  .obj (("path", .str hostPath.path) :: Json.member? "type" (hostPath.kind.map .str))

end HostPath

namespace Volume

def read? (document : δ) : Option Volume := do
  let fields ← entries? document
  return {
    name := ← nullableOr fields "name" "" text?
    hostPath := ← nullable fields "hostPath" HostPath.read?
    rest := ← Schema.readFields Schema.volumeRest fields }

def toJson (volume : Volume) : Json :=
  .obj (Json.member? "hostPath" (volume.hostPath.map HostPath.toJson) ++
    ("name", .str volume.name) :: volume.rest)

end Volume

namespace PodSecurityContext

def read? (document : δ) : Option PodSecurityContext := do
  let fields ← entries? document
  return {
    fsGroup := ← nullable fields "fsGroup" (signed? 64)
    rest := ← Schema.readFields Schema.podSecurityContextRest fields }

def toJson (context : PodSecurityContext) : Json :=
  .obj (Json.member? "fsGroup" (context.fsGroup.map .int) ++ context.rest)

end PodSecurityContext

namespace PodSpec

/-- Reads a record whose only field is a required text. -/
def readNamed? (field : String) (document : δ) : Option String := do
  let fields ← entries? document
  nullableOr fields field "" text?

/-- Writes records whose only field is a text. -/
def namedToJson (field : String) (names : List String) : Json :=
  .arr (names.map fun name => .obj [(field, .str name)])

def read? (document : δ) : Option PodSpec := do
  let fields ← entries? document
  return {
    containers := ← nullableOr fields "containers" [] (list? Container.read?)
    initContainers := ← nullable fields "initContainers" (list? Container.read?)
    volumes := ← nullable fields "volumes" (list? Volume.read?)
    imagePullSecrets := ← nullable fields "imagePullSecrets" (list? (readNamed? "name"))
    readinessGates := ← nullable fields "readinessGates" (list? (readNamed? "conditionType"))
    securityContext := ← nullable fields "securityContext" PodSecurityContext.read?
    terminationGracePeriodSeconds := ← nullable fields "terminationGracePeriodSeconds" (signed? 64)
    rest := ← Schema.readFields Schema.podSpecRest fields }

def toJson (spec : PodSpec) : Json :=
  .obj (("containers", .arr (spec.containers.map Container.toJson)) ::
    Json.member? "imagePullSecrets" (spec.imagePullSecrets.map (namedToJson "name")) ++
    Json.member? "initContainers"
      (spec.initContainers.map fun cs => .arr (cs.map Container.toJson)) ++
    Json.member? "readinessGates" (spec.readinessGates.map (namedToJson "conditionType")) ++
    Json.member? "securityContext" (spec.securityContext.map PodSecurityContext.toJson) ++
    Json.member? "terminationGracePeriodSeconds" (spec.terminationGracePeriodSeconds.map .int) ++
    Json.member? "volumes" (spec.volumes.map fun vs => .arr (vs.map Volume.toJson)) ++
    spec.rest)

end PodSpec

namespace Metadata

def read? (document : δ) : Option Metadata := do
  let fields ← entries? document
  return {
    name := ← nullable fields "name" text?
    generateName := ← nullable fields "generateName" text?
    annotations := ← nullable fields "annotations" (map? text?)
    labels := ← nullable fields "labels" (map? text?)
    rest := ← Schema.readFields Schema.metadataRest fields }

def toJson (metadata : Metadata) : Json :=
  .obj (Json.member? "annotations" (metadata.annotations.map Json.ofTextMap) ++
    Json.member? "generateName" (metadata.generateName.map .str) ++
    Json.member? "labels" (metadata.labels.map Json.ofTextMap) ++
    Json.member? "name" (metadata.name.map .str) ++ metadata.rest)

end Metadata

namespace Pod

/-- Whether a field that identifies the kind of object says what it should; it
may be missing but not null. -/
def identifies (fields : List (String × δ)) (name expected : String) : Bool :=
  match find? name fields with
  | none => true
  | some document => text? document == some expected

def read? (document : δ) : Option Pod := do
  let fields ← entries? document
  guard (identifies fields "apiVersion" "v1" ∧ identifies fields "kind" "Pod")
  return {
    metadata := ← nullableOr fields "metadata" Pod.empty.metadata Metadata.read?
    spec := ← nullable fields "spec" PodSpec.read?
    status := ← nullable fields "status" Schema.podStatus.read? }

def toJson (pod : Pod) : Json :=
  .obj ([("apiVersion", .str "v1"), ("kind", .str "Pod"), ("metadata", pod.metadata.toJson)] ++
    Json.member? "spec" (pod.spec.map PodSpec.toJson) ++ Json.member? "status" pod.status)

end Pod

end MeshSidecar
