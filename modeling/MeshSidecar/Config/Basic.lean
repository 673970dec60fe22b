import MeshSidecar.Error

namespace MeshSidecar

/-!
# Injector configuration

One configuration serves a whole process.  It is read once and has to be
consistent before the first pod is touched; what a single pod wants otherwise it
says in its annotations.
-/

namespace Config

/-- Image and sizing of the injected sidecars. -/
structure Sidecar where
  image : String :=
    "840364872350.dkr.ecr.us-west-2.amazonaws.com/aws-appmesh-envoy:v1.29.6.1-prod"
  cpuRequests : Option String := some "10m"
  memoryRequests : Option String := some "32Mi"
  cpuLimits : Option String := none
  memoryLimits : Option String := none
  deriving DecidableEq

/-- How Envoy runs.  Delays and periods are in seconds. -/
structure Envoy where
  preview : Bool := false
  logLevel : String := "info"
  adminAccessPort : UInt16 := 9901
  adminAccessLogFile : Option String := some "/tmp/envoy_admin_access.log"
  adminAccessEnableIpv6 : Bool := false
  preStopDelay : UInt32 := 20
  readinessProbeInitialDelay : Int32 := 1
  readinessProbePeriod : Int32 := 10
  dualStackEndpoint : Bool := false
  fipsEndpoint : Bool := false
  enableSds : Bool := false
  sdsUdsPath : String := "/run/spire/sockets/agent.sock"
  deriving DecidableEq

/-- The init container that redirects traffic. -/
structure ProxyInit where
  image : String :=
    "840364872350.dkr.ecr.us-west-2.amazonaws.com/aws-appmesh-proxy-route-manager:v7-prod"
  ignoredIps : String := "169.254.169.254"
  enableIpv6 : Bool := true
  deriving DecidableEq

/-- The X-Ray daemon. -/
structure Xray where
  enabled : Bool := false
  image : String := "public.ecr.aws/xray/aws-xray-daemon"
  daemonPort : UInt16 := 2000
  samplingRate : Option String := none
  logLevel : String := "info"
  roleArn : Option String := none
  deriving DecidableEq

/-- The Jaeger collector. -/
structure Jaeger where
  enabled : Bool := false
  address : String := "appmesh-jaeger.appmesh-system"
  port : UInt16 := 9411
  deriving DecidableEq

/-- The Datadog agent. -/
structure Datadog where
  enabled : Bool := false
  address : String := "datadog.appmesh-system"
  port : UInt16 := 8126
  deriving DecidableEq

/-- The tracers, of which one at most may be enabled. -/
structure Tracing where
  xray : Xray := {}
  jaeger : Jaeger := {}
  datadog : Datadog := {}
  deriving DecidableEq

/-- The statistics that Envoy emits. -/
structure Stats where
  enableStatsTags : Bool := false
  enableStatsd : Bool := false
  statsdPort : UInt16 := 8125
  statsdAddress : String := "127.0.0.1"
  statsdSocketPath : Option String := none
  deriving DecidableEq

end Config

/-- The settings of a process.  `injectDefault` decides for pods that do not say
whether they want to be injected. -/
structure Config where
  injectDefault : Bool := true
  enableIamForServiceAccounts : Bool := true
  enableEcrSecret : Bool := false
  sidecar : Config.Sidecar := {}
  envoy : Config.Envoy := {}
  proxyInit : Config.ProxyInit := {}
  tracing : Config.Tracing := {}
  stats : Config.Stats := {}
  deriving DecidableEq

namespace Config

/-- How many tracers are enabled. -/
def Tracing.enabledCount (tracing : Tracing) : Nat :=
  [tracing.xray.enabled, tracing.jaeger.enabled, tracing.datadog.enabled].count true

/-- What makes a configuration inconsistent, if anything. -/
def fault? (config : Config) : Option ConfigFault :=
  if config.tracing.enabledCount > 1 then some .severalTracers
  else if config.envoy.readinessProbePeriod ≤ 0 then
    some (.probePeriod config.envoy.readinessProbePeriod.toInt)
  else none

/-- Whether pods may be processed with this configuration. -/
def Valid (config : Config) : Prop :=
  config.fault? = none

instance (config : Config) : Decidable config.Valid :=
  inferInstanceAs (Decidable (config.fault? = none))

theorem valid_iff (config : Config) :
    config.Valid ↔
      config.tracing.enabledCount ≤ 1 ∧ 0 < config.envoy.readinessProbePeriod := by
  unfold Valid fault?
  split
  · next several => simp; omega
  · next single =>
    split
    · next low => simp [Int32.not_lt.mpr low]
    · next positive => simp [Int32.not_le.mp positive]; omega

end Config

end MeshSidecar
