import MeshSidecar.Json.Basic

namespace MeshSidecar

/-!
# Pods

A pod as the injector sees it.  Fields that some step of the injection reads or
writes have types of their own; all others are kept in `rest`, as read by the
schema of their record, and no step touches them.

A list that a manifest leaves out and an empty list are different pods: the one
is absent in the written pod and the other is not.
-/

/-- An environment variable, with a literal value or a source for one. -/
structure EnvVar where
  name : String
  value : Option String
  valueFrom : Option Json
  deriving DecidableEq

/-- Where a container sees a volume of its pod. -/
structure VolumeMount where
  name : String
  mountPath : String
  readOnly : Option Bool
  rest : List (String × Json)
  deriving DecidableEq

/-- What a container may use: quantities by resource name. -/
structure Resources where
  requests : Option (SortedMap String)
  limits : Option (SortedMap String)
  claims : Option Json
  deriving DecidableEq

/-- A container or an init container. -/
structure Container where
  name : String
  image : Option String
  command : Option (List String)
  args : Option (List String)
  env : Option (List EnvVar)
  volumeMounts : Option (List VolumeMount)
  resources : Option Resources
  readinessProbe : Option Json
  rest : List (String × Json)
  deriving DecidableEq

/-- A file or directory of the node. -/
structure HostPath where
  path : String
  kind : Option String
  deriving DecidableEq

/-- A volume of a pod.  Any source other than a path of the host is in `rest`. -/
structure Volume where
  name : String
  hostPath : Option HostPath
  rest : List (String × Json)
  deriving DecidableEq

/-- Security settings for all containers of a pod. -/
structure PodSecurityContext where
  fsGroup : Option Int
  rest : List (String × Json)
  deriving DecidableEq

/-- The specification of a pod.  Pull secrets and readiness gates are given by
the name that is their only field. -/
structure PodSpec where
  containers : List Container
  initContainers : Option (List Container)
  volumes : Option (List Volume)
  imagePullSecrets : Option (List String)
  readinessGates : Option (List String)
  securityContext : Option PodSecurityContext
  terminationGracePeriodSeconds : Option Int
  rest : List (String × Json)
  deriving DecidableEq

/-- The metadata of a pod. -/
structure Metadata where
  name : Option String
  generateName : Option String
  annotations : Option (SortedMap String)
  labels : Option (SortedMap String)
  rest : List (String × Json)
  deriving DecidableEq

/-- A pod, whose specification may still be missing. -/
structure Pod where
  metadata : Metadata
  spec : Option PodSpec
  status : Option Json
  deriving DecidableEq

namespace PodSecurityContext

/-- The context that sets nothing. -/
def empty : PodSecurityContext where
  fsGroup := none
  rest := []

end PodSecurityContext

namespace PodSpec

/-- The specification without containers. -/
def empty : PodSpec where
  containers := []
  initContainers := none
  volumes := none
  imagePullSecrets := none
  readinessGates := none
  securityContext := none
  terminationGracePeriodSeconds := none
  rest := []

end PodSpec

namespace Pod

/-- The pod without anything. -/
def empty : Pod where
  metadata := ⟨none, none, none, none, []⟩
  spec := none
  status := none

/-! ## Looking at a pod -/

/-- The value of an annotation. -/
def annotation? (pod : Pod) (key : String) : Option String :=
  pod.metadata.annotations.bind fun annotations => annotations.get? key

/-- The value of a label. -/
def label? (pod : Pod) (key : String) : Option String :=
  pod.metadata.labels.bind fun labels => labels.get? key

/-- The containers; a pod without a specification has none. -/
def containers (pod : Pod) : List Container :=
  (pod.spec.map PodSpec.containers).getD []

/-- The init containers. -/
def initContainers (pod : Pod) : List Container :=
  (pod.spec.bind PodSpec.initContainers).getD []

/-- The volumes. -/
def volumes (pod : Pod) : List Volume :=
  (pod.spec.bind PodSpec.volumes).getD []

/-- The names of the image pull secrets. -/
def pullSecrets (pod : Pod) : List String :=
  (pod.spec.bind PodSpec.imagePullSecrets).getD []

/-- The condition types of the readiness gates. -/
def readinessGates (pod : Pod) : List String :=
  (pod.spec.bind PodSpec.readinessGates).getD []

def hasContainer (pod : Pod) (name : String) : Bool :=
  pod.containers.any fun container => container.name == name

def hasInitContainer (pod : Pod) (name : String) : Bool :=
  pod.initContainers.any fun container => container.name == name

def hasVolume (pod : Pod) (name : String) : Bool :=
  pod.volumes.any fun volume => volume.name == name

/-- Whether a volume shows this path of the host. -/
def mountsHostPath (pod : Pod) (path : String) : Bool :=
  pod.volumes.any fun volume => (volume.hostPath.map HostPath.path) == some path

/-- What a pod is called in events.  A pod that a controller creates often has
only the stem of its name. -/
def displayName (pod : Pod) : String :=
  (pod.metadata.name.or pod.metadata.generateName).getD ""

/-! ## Changing a pod -/

/-- The specification, which is empty when the pod has none. -/
def specOrEmpty (pod : Pod) : PodSpec :=
  pod.spec.getD .empty

/-- Changes the specification, creating it when the pod has none. -/
def mapSpec (pod : Pod) (change : PodSpec → PodSpec) : Pod :=
  { pod with spec := some (change pod.specOrEmpty) }

/-- Puts entries behind a list that may be absent.  A list stays absent when
there is nothing to put. -/
def extend {α : Type} (list : Option (List α)) (added : List α) : Option (List α) :=
  if added.isEmpty then list else some (list.getD [] ++ added)

def addContainer (pod : Pod) (container : Container) : Pod :=
  pod.mapSpec fun spec => { spec with containers := spec.containers ++ [container] }

def addInitContainer (pod : Pod) (container : Container) : Pod :=
  pod.mapSpec fun spec => { spec with initContainers := extend spec.initContainers [container] }

def addVolumes (pod : Pod) (added : List Volume) : Pod :=
  pod.mapSpec fun spec => { spec with volumes := extend spec.volumes added }

def addPullSecret (pod : Pod) (name : String) : Pod :=
  pod.mapSpec fun spec => { spec with imagePullSecrets := extend spec.imagePullSecrets [name] }

def addReadinessGate (pod : Pod) (conditionType : String) : Pod :=
  pod.mapSpec fun spec =>
    { spec with readinessGates := extend spec.readinessGates [conditionType] }

/-- Changes the annotations, which are created when the pod has none. -/
def mapAnnotations (pod : Pod) (change : SortedMap String → SortedMap String) : Pod :=
  { pod with metadata :=
    { pod.metadata with annotations := some (change (pod.metadata.annotations.getD .empty)) } }

/-- Changes the labels, which are created when the pod has none. -/
def mapLabels (pod : Pod) (change : SortedMap String → SortedMap String) : Pod :=
  { pod with metadata :=
    { pod.metadata with labels := some (change (pod.metadata.labels.getD .empty)) } }

/-- Sets an annotation. -/
def annotate (pod : Pod) (key value : String) : Pod :=
  pod.mapAnnotations fun annotations => annotations.insert key value

/-- Drops every container of this name. -/
def dropContainers (pod : Pod) (name : String) : Pod :=
  { pod with spec := pod.spec.map fun spec =>
    { spec with containers := spec.containers.filter fun c => c.name != name } }

/-- Drops every init container of this name.  An emptied list stays. -/
def dropInitContainers (pod : Pod) (name : String) : Pod :=
  { pod with spec := pod.spec.map fun spec =>
    { spec with initContainers :=
      spec.initContainers.map fun cs => cs.filter fun c => c.name != name } }

/-- Drops every volume of this name.  An emptied list stays. -/
def dropVolumes (pod : Pod) (name : String) : Pod :=
  { pod with spec := pod.spec.map fun spec =>
    { spec with volumes := spec.volumes.map fun vs => vs.filter fun v => v.name != name } }

end Pod

end MeshSidecar
