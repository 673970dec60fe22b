namespace MeshSidecar

/-!
# The names that the injector and a pod share

A pod tells the injector its wishes in annotations and one label; the injector
recognises what it has already added by name.  All of these names are public: they
stand in manifests, so none of them may change.
-/

namespace Annotations

/-- Whether the pod wants to be injected. -/
def inject : String := "appmesh.k8s.aws/sidecarInjectorWebhook"

/-! ## Sizing of the sidecars -/

def cpuRequest : String := "appmesh.k8s.aws/cpuRequest"
def memoryRequest : String := "appmesh.k8s.aws/memoryRequest"
def cpuLimit : String := "appmesh.k8s.aws/cpuLimit"
def memoryLimit : String := "appmesh.k8s.aws/memoryLimit"

/-! ## Interception of traffic -/

/-- Whether interception is left to the network plugin. -/
def cni : String := "appmesh.k8s.aws/appmeshCNI"
def ports : String := "appmesh.k8s.aws/ports"
def egressIgnoredIps : String := "appmesh.k8s.aws/egressIgnoredIPs"
def egressIgnoredPorts : String := "appmesh.k8s.aws/egressIgnoredPorts"
def ignoredUid : String := "appmesh.k8s.aws/ignoredUID"
def proxyEgressPort : String := "appmesh.k8s.aws/proxyEgressPort"
def proxyIngressPort : String := "appmesh.k8s.aws/proxyIngressPort"
def ipv6 : String := "appmesh.k8s.aws/ipv6"

/-! ## Envoy -/

def preview : String := "appmesh.k8s.aws/preview"
/-- Secrets to mount, as `secretName:mountPath` separated by commas. -/
def secretMounts : String := "appmesh.k8s.aws/secretMounts"
/-- Volumes of the pod to mount, as `volumeName:mountPath` separated by commas. -/
def volumeMounts : String := "appmesh.k8s.aws/volumeMounts"
/-- Further environment, as `key=value` separated by commas. -/
def sidecarEnv : String := "appmesh.k8s.aws/sidecarEnv"
def sds : String := "appmesh.k8s.aws/sds"
/-- Whether a gateway keeps the image that it declares. -/
def skipImageOverride : String := "appmesh.k8s.aws/virtualGatewaySkipImageOverride"
/-- The volume with the configuration of the X-Ray daemon. -/
def xrayConfigMount : String := "appmesh.k8s.aws/xrayAgentConfigMount"

/-- Every annotation that the injector looks at or sets. -/
def all : List String :=
  [inject, cpuRequest, memoryRequest, cpuLimit, memoryLimit, cni, ports, egressIgnoredIps,
    egressIgnoredPorts, ignoredUid, proxyEgressPort, proxyIngressPort, ipv6, preview, secretMounts,
    volumeMounts, sidecarEnv, sds, skipImageOverride, xrayConfigMount]

/-- The value that switches something on. -/
def enabled : String := "enabled"

/-- The value that switches something off. -/
def disabled : String := "disabled"

end Annotations

/-- The label that the Fargate scheduler sets. -/
def fargateProfileLabel : String := "eks.amazonaws.com/fargate-profile"

namespace Artifact

def envoy : String := "envoy"
def proxyInit : String := "proxyinit"
def xrayDaemon : String := "xray-daemon"
def jaegerInit : String := "inject-jaeger-config"
def datadogInit : String := "inject-datadog-config"
/-- The volume that a tracer's init container shares with Envoy. -/
def tracingVolume : String := "envoy-tracing-config"
def tracingMountPath : String := "/tmp/envoy"
/-- The file in it that the init container writes and Envoy reads. -/
def tracingFile : String := "/tmp/envoy/envoyconf.yaml"
def sdsVolume : String := "appmesh-sds-socket-volume"
def pullSecret : String := "appmesh-ecr-secret"
def cloudMapGate : String := "conditions.appmesh.k8s.aws/aws-cloudmap-healthy"
/-- The image that a gateway declares to have it replaced. -/
def imagePlaceholder : String := "injector-envoy-image"

end Artifact

/-- The user that the proxy and its companions run as, whose traffic is never
intercepted. -/
def proxyUid : Nat := 1337

/-- The address that stands for the address of the node. -/
def hostIpReference : String := "ref:status.hostIP"

end MeshSidecar
