import MeshSidecar.Injection.Auxiliary
import MeshSidecar.Injection.Envoy
import MeshSidecar.Injection.Gateway
import MeshSidecar.Injection.Interception
import MeshSidecar.Injection.Tracer
import MeshSidecar.Injection.Xray

namespace MeshSidecar

/-!
# Steps of an injection

A step is one change of a pod together with the settings that it needs.  It
either yields the changed pod or fails, and then there is no changed pod; a step
that finds what it adds yields the pod as it was.
-/

/-- A step with its settings. -/
inductive Step where
  | interception (config : Config.ProxyInit) (sizing : Config.Sidecar) (node : VirtualNode)
  | envoy (config : Config) (identity : Identity) (mesh : Mesh) (node : VirtualNode)
  | gateway (config : Config) (identity : Identity) (mesh : Mesh) (gateway : VirtualGateway)
  | xray (config : Config.Xray) (sizing : Config.Sidecar) (region : String)
  | jaeger (config : Config.Jaeger)
  | datadog (config : Config.Datadog)
  | cloudMapGate (node : VirtualNode)
  | fsGroup (enabled : Bool)
  | pullSecret (enabled : Bool)
  | gracePeriod (preStopDelay : UInt32)

namespace Step

/-- What a step is called. -/
def name : Step → String
  | .interception .. => "proxy"
  | .envoy .. => "envoy"
  | .gateway .. => "virtual-gateway-envoy"
  | .xray .. => "xray"
  | .jaeger .. => "jaeger"
  | .datadog .. => "datadog"
  | .cloudMapGate .. => "cloudmap-readiness-gate"
  | .fsGroup .. => "iam-fs-group"
  | .pullSecret .. => "ecr-secret"
  | .gracePeriod .. => "termination-grace-period"

/-- The pod that a step yields. -/
def apply (step : Step) (pod : Pod) : Except Error Pod :=
  match step with
  | .interception config sizing node => Interception.apply config sizing node pod
  | .envoy config identity mesh node => Envoy.apply config identity mesh node pod
  | .gateway config identity mesh selected => Gateway.apply config identity mesh selected pod
  | .xray config sizing region => Xray.apply config sizing region pod
  | .jaeger config => (Tracer.jaeger config).apply pod
  | .datadog config => (Tracer.datadog config).apply pod
  | .cloudMapGate node => .ok (pod.withCloudMapGate node)
  | .fsGroup enabled => .ok (pod.withFsGroup enabled)
  | .pullSecret enabled => .ok (pod.withPullSecret enabled)
  | .gracePeriod preStopDelay => .ok (pod.withGracePeriod preStopDelay)

/-- What a step reports when it is applied to a pod. -/
def events (step : Step) (pod : Pod) : List Event :=
  let report (applies : Bool) (message : String) (fields : List (String × String)) :=
    if applies then [Event.debug pod.displayName message fields] else []
  match step with
  | .interception .. => Interception.events pod
  | .envoy config identity mesh node => Envoy.events config identity mesh node pod
  | .gateway config identity mesh selected => Gateway.events config identity mesh selected pod
  | .xray config sizing region => Xray.events config sizing region pod
  | .jaeger config => (Tracer.jaeger config).events pod
  | .datadog config => (Tracer.datadog config).events pod
  | .cloudMapGate node =>
    report (pod.needsCloudMapGate node) "adding cloud map readiness gate" []
  | .fsGroup enabled =>
    report (pod.needsFsGroup enabled) "setting fsGroup" [("fs_group", Text.ofNat proxyUid)]
  | .pullSecret enabled => report (pod.needsPullSecret enabled) "adding ecr pull secret" []
  | .gracePeriod preStopDelay =>
    report (Pod.outlastsGracePeriod preStopDelay) "setting termination grace period"
      [("grace_period", Text.ofNat preStopDelay.toNat)]

end Step

end MeshSidecar
