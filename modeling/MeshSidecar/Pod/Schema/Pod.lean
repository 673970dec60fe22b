import MeshSidecar.Pod.Schema.Container

namespace MeshSidecar.Schema

/-!
# Pods

The remaining fields of a pod's specification and its observed state, as the
Kubernetes API of version 1.32 declares them.
-/

/-! ## Specification -/

def dnsOption : Schema :=
  .record [opt "name" .text, opt "value" .text]

def dnsConfig : Schema :=
  .record [opt "nameservers" (.list .text), opt "options" (.list dnsOption),
    opt "searches" (.list .text)]

def hostAlias : Schema :=
  .record [opt "hostnames" (.list .text), req "ip" .text]

def operatingSystem : Schema :=
  .record [req "name" .text]

def podResourceClaim : Schema :=
  .record [req "name" .text, opt "resourceClaimName" .text, opt "resourceClaimTemplateName" .text]

def schedulingGate : Schema :=
  .record [req "name" .text]

/-- Fields of a pod specification that the injector does not look at. -/
def podSpecRest : List (String × Bool × Schema) :=
  [opt "activeDeadlineSeconds" (.integer 64), opt "affinity" affinity,
   opt "automountServiceAccountToken" .flag, opt "dnsConfig" dnsConfig, opt "dnsPolicy" .text,
   opt "enableServiceLinks" .flag, opt "ephemeralContainers" (.list ephemeralContainer),
   opt "hostAliases" (.list hostAlias), opt "hostIPC" .flag, opt "hostNetwork" .flag,
   opt "hostPID" .flag, opt "hostUsers" .flag, opt "hostname" .text, opt "nodeName" .text,
   opt "nodeSelector" (.table .text), opt "os" operatingSystem, opt "overhead" (.table .text),
   opt "preemptionPolicy" .text, opt "priority" (.integer 32), opt "priorityClassName" .text,
   opt "resourceClaims" (.list podResourceClaim), opt "resources" resources,
   opt "restartPolicy" .text, opt "runtimeClassName" .text, opt "schedulerName" .text,
   opt "schedulingGates" (.list schedulingGate), opt "serviceAccount" .text,
   opt "serviceAccountName" .text, opt "setHostnameAsFQDN" .flag,
   opt "shareProcessNamespace" .flag, opt "subdomain" .text, opt "tolerations" (.list toleration),
   opt "topologySpreadConstraints" (.list topologySpreadConstraint)]

/-! ## Status -/

def podCondition : Schema :=
  .record [opt "lastProbeTime" .text, opt "lastTransitionTime" .text, opt "message" .text,
    opt "reason" .text, req "status" .text, req "type" .text]

def stateRunning : Schema :=
  .record [opt "startedAt" .text]

def stateTerminated : Schema :=
  .record [opt "containerID" .text, req "exitCode" (.integer 32), opt "finishedAt" .text,
    opt "message" .text, opt "reason" .text, opt "signal" (.integer 32), opt "startedAt" .text]

def stateWaiting : Schema :=
  .record [opt "message" .text, opt "reason" .text]

def containerState : Schema :=
  .record [opt "running" stateRunning, opt "terminated" stateTerminated,
    opt "waiting" stateWaiting]

def resourceHealth : Schema :=
  .record [opt "health" .text, req "resourceID" .text]

def resourceStatus : Schema :=
  .record [req "name" .text, opt "resources" (.list resourceHealth)]

def linuxUser : Schema :=
  .record [req "gid" (.integer 64), opt "supplementalGroups" (.list (.integer 64)),
    req "uid" (.integer 64)]

def containerUser : Schema :=
  .record [opt "linux" linuxUser]

def volumeMountStatus : Schema :=
  .record [req "mountPath" .text, req "name" .text, opt "readOnly" .flag,
    opt "recursiveReadOnly" .text]

def containerStatus : Schema :=
  .record [opt "allocatedResources" (.table .text),
    opt "allocatedResourcesStatus" (.list resourceStatus), opt "containerID" .text,
    req "image" .text, req "imageID" .text, opt "lastState" containerState, req "name" .text,
    req "ready" .flag, opt "resources" resources, req "restartCount" (.integer 32),
    opt "started" .flag, opt "state" containerState, opt "user" containerUser,
    opt "volumeMounts" (.list volumeMountStatus)]

def address : Schema :=
  .record [req "ip" .text]

def resourceClaimStatus : Schema :=
  .record [req "name" .text, opt "resourceClaimName" .text]

/-- The observed state of a pod. -/
def podStatus : Schema :=
  .record [opt "conditions" (.list podCondition), opt "containerStatuses" (.list containerStatus),
    opt "ephemeralContainerStatuses" (.list containerStatus), opt "hostIP" .text,
    opt "hostIPs" (.list address), opt "initContainerStatuses" (.list containerStatus),
    opt "message" .text, opt "nominatedNodeName" .text, opt "phase" .text, opt "podIP" .text,
    opt "podIPs" (.list address), opt "qosClass" .text, opt "reason" .text, opt "resize" .text,
    opt "resourceClaimStatuses" (.list resourceClaimStatus), opt "startTime" .text]

end MeshSidecar.Schema
