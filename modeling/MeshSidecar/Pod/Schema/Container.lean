import MeshSidecar.Pod.Schema

namespace MeshSidecar.Schema

/-!
# Metadata, scheduling and containers

The records below a container and below the scheduling part of a pod, as the
Kubernetes API of version 1.32 declares them.  Names ending in `Rest` list the
fields of a record whose other fields have types of their own here.
-/

/-! ## Metadata -/

def keyToPath : Schema :=
  .record [req "key" .text, opt "mode" (.integer 32), req "path" .text]

def labelRequirement : Schema :=
  .record [req "key" .text, req "operator" .text, opt "values" (.list .text)]

def labelSelector : Schema :=
  .record [opt "matchExpressions" (.list labelRequirement), opt "matchLabels" (.table .text)]

def ownerReference : Schema :=
  .record [req "apiVersion" .text, opt "blockOwnerDeletion" .flag, opt "controller" .flag,
    req "kind" .text, req "name" .text, req "uid" .text]

def managedFieldsEntry : Schema :=
  .record [opt "apiVersion" .text, opt "fieldsType" .text, opt "fieldsV1" .anything,
    opt "manager" .text, opt "operation" .text, opt "subresource" .text, opt "time" .text]

/-- Fields of object metadata that the injector does not look at. -/
def metadataRest : List (String × Bool × Schema) :=
  [opt "creationTimestamp" .text, opt "deletionGracePeriodSeconds" (.integer 64),
   opt "deletionTimestamp" .text, opt "finalizers" (.list .text), opt "generation" (.integer 64),
   opt "managedFields" (.list managedFieldsEntry), opt "namespace" .text,
   opt "ownerReferences" (.list ownerReference), opt "resourceVersion" .text,
   opt "selfLink" .text, opt "uid" .text]

/-- Object metadata. -/
def metadata : Schema :=
  .record [opt "annotations" (.table .text), opt "creationTimestamp" .text,
    opt "deletionGracePeriodSeconds" (.integer 64), opt "deletionTimestamp" .text,
    opt "finalizers" (.list .text), opt "generateName" .text, opt "generation" (.integer 64),
    opt "labels" (.table .text), opt "managedFields" (.list managedFieldsEntry), opt "name" .text,
    opt "namespace" .text, opt "ownerReferences" (.list ownerReference),
    opt "resourceVersion" .text, opt "selfLink" .text, opt "uid" .text]

/-! ## Affinity and scheduling -/

def nodeSelectorTerm : Schema :=
  .record [opt "matchExpressions" (.list labelRequirement),
    opt "matchFields" (.list labelRequirement)]

def nodeSelector : Schema :=
  .record [req "nodeSelectorTerms" (.list nodeSelectorTerm)]

def preferredSchedulingTerm : Schema :=
  .record [req "preference" nodeSelectorTerm, req "weight" (.integer 32)]

def nodeAffinity : Schema :=
  .record [opt "preferredDuringSchedulingIgnoredDuringExecution" (.list preferredSchedulingTerm),
    opt "requiredDuringSchedulingIgnoredDuringExecution" nodeSelector]

def podAffinityTerm : Schema :=
  .record [opt "labelSelector" labelSelector, opt "matchLabelKeys" (.list .text),
    opt "mismatchLabelKeys" (.list .text), opt "namespaceSelector" labelSelector,
    opt "namespaces" (.list .text), req "topologyKey" .text]

def weightedPodAffinityTerm : Schema :=
  .record [req "podAffinityTerm" podAffinityTerm, req "weight" (.integer 32)]

def podAffinity : Schema :=
  .record [opt "preferredDuringSchedulingIgnoredDuringExecution" (.list weightedPodAffinityTerm),
    opt "requiredDuringSchedulingIgnoredDuringExecution" (.list podAffinityTerm)]

def affinity : Schema :=
  .record [opt "nodeAffinity" nodeAffinity, opt "podAffinity" podAffinity,
    opt "podAntiAffinity" podAffinity]

def toleration : Schema :=
  .record [opt "effect" .text, opt "key" .text, opt "operator" .text,
    opt "tolerationSeconds" (.integer 64), opt "value" .text]

def topologySpreadConstraint : Schema :=
  .record [opt "labelSelector" labelSelector, opt "matchLabelKeys" (.list .text),
    req "maxSkew" (.integer 32), opt "minDomains" (.integer 32), opt "nodeAffinityPolicy" .text,
    opt "nodeTaintsPolicy" .text, req "topologyKey" .text, req "whenUnsatisfiable" .text]

/-! ## Security contexts -/

def confinementProfile : Schema :=
  .record [opt "localhostProfile" .text, req "type" .text]

def seLinuxOptions : Schema :=
  .record [opt "level" .text, opt "role" .text, opt "type" .text, opt "user" .text]

def windowsOptions : Schema :=
  .record [opt "gmsaCredentialSpec" .text, opt "gmsaCredentialSpecName" .text,
    opt "hostProcess" .flag, opt "runAsUserName" .text]

def sysctl : Schema :=
  .record [req "name" .text, req "value" .text]

/-- Fields of a pod security context other than the file system group. -/
def podSecurityContextRest : List (String × Bool × Schema) :=
  [opt "appArmorProfile" confinementProfile, opt "fsGroupChangePolicy" .text,
   opt "runAsGroup" (.integer 64), opt "runAsNonRoot" .flag, opt "runAsUser" (.integer 64),
   opt "seLinuxChangePolicy" .text, opt "seLinuxOptions" seLinuxOptions,
   opt "seccompProfile" confinementProfile, opt "supplementalGroups" (.list (.integer 64)),
   opt "supplementalGroupsPolicy" .text, opt "sysctls" (.list sysctl),
   opt "windowsOptions" windowsOptions]

def capabilities : Schema :=
  .record [opt "add" (.list .text), opt "drop" (.list .text)]

def securityContext : Schema :=
  .record [opt "allowPrivilegeEscalation" .flag, opt "appArmorProfile" confinementProfile,
    opt "capabilities" capabilities, opt "privileged" .flag, opt "procMount" .text,
    opt "readOnlyRootFilesystem" .flag, opt "runAsGroup" (.integer 64), opt "runAsNonRoot" .flag,
    opt "runAsUser" (.integer 64), opt "seLinuxOptions" seLinuxOptions,
    opt "seccompProfile" confinementProfile, opt "windowsOptions" windowsOptions]

/-! ## Containers -/

def configMapKeySelector : Schema :=
  .record [req "key" .text, req "name" .text, opt "optional" .flag]

def objectFieldSelector : Schema :=
  .record [opt "apiVersion" .text, req "fieldPath" .text]

def resourceFieldSelector : Schema :=
  .record [opt "containerName" .text, opt "divisor" .text, req "resource" .text]

def envVarSource : Schema :=
  .record [opt "configMapKeyRef" configMapKeySelector, opt "fieldRef" objectFieldSelector,
    opt "resourceFieldRef" resourceFieldSelector, opt "secretKeyRef" configMapKeySelector]

def namedSource : Schema :=
  .record [req "name" .text, opt "optional" .flag]

def envFromSource : Schema :=
  .record [opt "configMapRef" namedSource, opt "prefix" .text, opt "secretRef" namedSource]

def execAction : Schema :=
  .record [opt "command" (.list .text)]

def httpHeader : Schema :=
  .record [req "name" .text, req "value" .text]

def httpGetAction : Schema :=
  .record [opt "host" .text, opt "httpHeaders" (.list httpHeader), opt "path" .text,
    req "port" .integerOrText, opt "scheme" .text]

def tcpSocketAction : Schema :=
  .record [opt "host" .text, req "port" .integerOrText]

def grpcAction : Schema :=
  .record [req "port" (.integer 32), opt "service" .text]

def sleepAction : Schema :=
  .record [req "seconds" (.integer 64)]

def lifecycleHandler : Schema :=
  .record [opt "exec" execAction, opt "httpGet" httpGetAction, opt "sleep" sleepAction,
    opt "tcpSocket" tcpSocketAction]

def lifecycle : Schema :=
  .record [opt "postStart" lifecycleHandler, opt "preStop" lifecycleHandler]

def probe : Schema :=
  .record [opt "exec" execAction, opt "failureThreshold" (.integer 32), opt "grpc" grpcAction,
    opt "httpGet" httpGetAction, opt "initialDelaySeconds" (.integer 32),
    opt "periodSeconds" (.integer 32), opt "successThreshold" (.integer 32),
    opt "tcpSocket" tcpSocketAction, opt "terminationGracePeriodSeconds" (.integer 64),
    opt "timeoutSeconds" (.integer 32)]

def containerPort : Schema :=
  .record [req "containerPort" (.integer 32), opt "hostIP" .text, opt "hostPort" (.integer 32),
    opt "name" .text, opt "protocol" .text]

def resizePolicy : Schema :=
  .record [req "resourceName" .text, req "restartPolicy" .text]

def resourceClaim : Schema :=
  .record [req "name" .text, opt "request" .text]

def resources : Schema :=
  .record [opt "claims" (.list resourceClaim), opt "limits" (.table .text),
    opt "requests" (.table .text)]

def volumeDevice : Schema :=
  .record [req "devicePath" .text, req "name" .text]

/-- Fields of a volume mount other than the three that the injector sets. -/
def volumeMountRest : List (String × Bool × Schema) :=
  [opt "mountPropagation" .text, opt "recursiveReadOnly" .text, opt "subPath" .text,
   opt "subPathExpr" .text]

def volumeMount : Schema :=
  .record [req "mountPath" .text, opt "mountPropagation" .text, req "name" .text,
    opt "readOnly" .flag, opt "recursiveReadOnly" .text, opt "subPath" .text,
    opt "subPathExpr" .text]

def envVar : Schema :=
  .record [req "name" .text, opt "value" .text, opt "valueFrom" envVarSource]

/-- Fields of a container that the injector does not look at. -/
def containerRest : List (String × Bool × Schema) :=
  [opt "envFrom" (.list envFromSource), opt "imagePullPolicy" .text, opt "lifecycle" lifecycle,
   opt "livenessProbe" probe, opt "ports" (.list containerPort),
   opt "resizePolicy" (.list resizePolicy), opt "restartPolicy" .text,
   opt "securityContext" securityContext, opt "startupProbe" probe, opt "stdin" .flag,
   opt "stdinOnce" .flag, opt "terminationMessagePath" .text,
   opt "terminationMessagePolicy" .text, opt "tty" .flag,
   opt "volumeDevices" (.list volumeDevice), opt "workingDir" .text]

def ephemeralContainer : Schema :=
  .record [opt "args" (.list .text), opt "command" (.list .text), opt "env" (.list envVar),
    opt "envFrom" (.list envFromSource), opt "image" .text, opt "imagePullPolicy" .text,
    opt "lifecycle" lifecycle, opt "livenessProbe" probe, req "name" .text,
    opt "ports" (.list containerPort), opt "readinessProbe" probe,
    opt "resizePolicy" (.list resizePolicy), opt "resources" resources, opt "restartPolicy" .text,
    opt "securityContext" securityContext, opt "startupProbe" probe, opt "stdin" .flag,
    opt "stdinOnce" .flag, opt "targetContainerName" .text, opt "terminationMessagePath" .text,
    opt "terminationMessagePolicy" .text, opt "tty" .flag,
    opt "volumeDevices" (.list volumeDevice), opt "volumeMounts" (.list volumeMount),
    opt "workingDir" .text]

end MeshSidecar.Schema
