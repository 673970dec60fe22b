import MeshSidecar.Injection.Step

namespace MeshSidecar

/-!
# Injections

An injection applies a fixed sequence of steps to a pod, which depends on whether
a virtual node or a virtual gateway selects the pod.  The first step that fails
ends it; what earlier steps did to the pod stays.
-/

/-- What makes a pod a member of the mesh. -/
inductive Selector where
  | node (node : VirtualNode)
  | gateway (gateway : VirtualGateway)
  deriving DecidableEq

/-- What an injection ends with: the pod, and the error of the step that failed,
if one did. -/
structure Outcome where
  pod : Pod
  error : Option Error
  deriving DecidableEq

namespace Step

/-- Applies steps in order up to the first that fails. -/
def run : List Step → Pod → Outcome
  | [], pod => ⟨pod, none⟩
  | step :: steps, pod =>
    match step.apply pod with
    | .ok changed => run steps changed
    | .error error => ⟨pod, some error⟩

/-- What applying steps in order reports; `count` is how many steps there are in
all. -/
def runEvents (count : Nat) : List Step → Pod → List Event
  | [], pod => [.debug pod.displayName "pod injected" [("mutators", Text.ofNat count)]]
  | step :: steps, pod =>
    .debug pod.displayName "applying mutator" [("mutator", step.name)] :: step.events pod ++
      match step.apply pod with
      | .ok changed => runEvents count steps changed
      | .error _ => []

end Step

/-- The settings of a process, which have been found consistent. -/
structure Injector where
  config : Config
  identity : Identity
  valid : config.Valid

namespace Injector

/-- An injector with the given settings, or what is wrong with them. -/
def ofConfig (config : Config) (identity : Identity) : Except Error Injector :=
  match reason : config.fault? with
  | none => .ok ⟨config, identity, reason⟩
  | some fault => .error (.configuration fault)

/-- The steps for a pod of a virtual node. -/
def nodeSteps (injector : Injector) (mesh : Mesh) (node : VirtualNode) : List Step :=
  let config := injector.config
  [.interception config.proxyInit config.sidecar node,
    .envoy config injector.identity mesh node,
    .xray config.tracing.xray config.sidecar injector.identity.awsRegion,
    .jaeger config.tracing.jaeger,
    .datadog config.tracing.datadog,
    .cloudMapGate node,
    .fsGroup config.enableIamForServiceAccounts,
    .pullSecret config.enableEcrSecret,
    .gracePeriod config.envoy.preStopDelay]

/-- The steps for a pod of a virtual gateway. -/
def gatewaySteps (injector : Injector) (mesh : Mesh) (gateway : VirtualGateway) : List Step :=
  let config := injector.config
  [.gateway config injector.identity mesh gateway,
    .xray config.tracing.xray config.sidecar injector.identity.awsRegion,
    .jaeger config.tracing.jaeger,
    .datadog config.tracing.datadog]

/-- The steps for a pod. -/
def steps (injector : Injector) (mesh : Mesh) : Selector → List Step
  | .node node => injector.nodeSteps mesh node
  | .gateway gateway => injector.gatewaySteps mesh gateway

/-- Whether a pod is to be injected: the pod decides, and the configuration for
pods that say nothing. -/
def shouldInject (injector : Injector) (pod : Pod) : Bool :=
  (pod.switch? Annotations.inject).getD injector.config.injectDefault

/-- Injects a pod, unless it is not to be injected. -/
def inject (injector : Injector) (mesh : Mesh) (selector : Selector) (pod : Pod) : Outcome :=
  if injector.shouldInject pod then Step.run (injector.steps mesh selector) pod else ⟨pod, none⟩

/-- What injecting a pod reports. -/
def events (injector : Injector) (mesh : Mesh) (selector : Selector) (pod : Pod) : List Event :=
  if injector.shouldInject pod then
    let steps := injector.steps mesh selector
    Step.runEvents steps.length steps pod
  else [.debug pod.displayName "injection disabled for pod" []]

end Injector

end MeshSidecar
