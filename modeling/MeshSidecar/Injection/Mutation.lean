import MeshSidecar.Injection.Pipeline

namespace MeshSidecar

/-!
# Injecting a pod where it stands

A pod is injected without a copy of it.  A step writes its parts into the pod one
after the other, and where something fails, what was written before stays; so it
matters that whatever can fail is looked at before the first part is written.
-/

/-- Work on a pod where it stands.  An error leaves the pod as it was written until
then. -/
abbrev Mutation := EStateM Error Pod

/-- Works something out from the pod, which may fail, and writes nothing. -/
def Mutation.reading {α : Type} (work : Pod → Except Error α) : Mutation α := do
  match work (← get) with
  | .ok value => return value
  | .error error => throw error

open Mutation

/-! ## The steps with parts -/

/-- Sets up interception, by one annotation after the other or by an init
container. -/
def Interception.mutate (config : Config.ProxyInit) (sizing : Config.Sidecar)
    (node : VirtualNode) : Mutation Unit := do
  let settings := ofPod config node (← get)
  if (← get).usesNetworkPlugin then
    settings.annotations.forM fun entry => modify fun pod => pod.annotate entry.1 entry.2
  else
    unless (← get).hasInitContainer Artifact.proxyInit do
      let container ← reading (settings.container config.image sizing)
      modify fun pod => pod.addInitContainer container

/-- Adds Envoy and then its volumes. -/
def Envoy.mutate (config : Config) (identity : Identity) (mesh : Mesh) (node : VirtualNode) :
    Mutation Unit := do
  unless (← get).hasContainer Artifact.envoy do
    let (container, volumes) ← reading (additions config identity mesh node)
    modify fun pod => pod.addContainer container
    modify fun pod => pod.addVolumes volumes

namespace Gateway

/-- Changes the declared container. -/
def changeDeclared (change : Container → Container) (pod : Pod) : Pod :=
  pod.mapSpec fun spec =>
    { spec with containers :=
      changeFirst (fun container => container.name == Artifact.envoy) change spec.containers }

def setImage (image : Option String) (container : Container) : Container :=
  { container with image := image }

def setEnv (given : SortedMap String) (container : Container) : Container :=
  { container with env := some (overrideEnv given (container.env.getD [])) }

def addMount (mount : VolumeMount) (container : Container) : Container :=
  { container with volumeMounts := Pod.extend container.volumeMounts [mount] }

/-- Shows the socket to the declared container, where that is still to be done. -/
def showSocket (missing : Option String) : Mutation Unit :=
  match missing with
  | none => return
  | some path => do
    modify (changeDeclared (addMount (Sds.mount path)))
    modify fun pod => pod.addVolumes [Sds.volume path]

/-- Fills in the declared container part by part, the image first. -/
def mutate (config : Config) (identity : Identity) (mesh : Mesh) (gateway : VirtualGateway) :
    Mutation Unit := do
  let given ← reading fun pod => environment (.ofPod config identity mesh gateway pod)
  let pinned := pinsImage (← get)
  let missing := Sds.missingPath? config.envoy (← get)
  match declared? (← get) with
  | none => return
  | some declared =>
    unless pinned do
      let image ← reading fun _ => image config.sidecar pinned declared.image
      modify (changeDeclared (setImage image))
    modify (changeDeclared (setEnv given))
    showSocket missing

end Gateway

/-- Adds the daemon when it is enabled. -/
def Xray.mutate (xray : Config.Xray) (sizing : Config.Sidecar) (region : String) :
    Mutation Unit := do
  unless !xray.enabled || (← get).hasContainer Artifact.xrayDaemon do
    let container ← reading (container xray sizing region)
    modify fun pod => pod.addContainer container

/-- Adds the init container and then its volume when the tracer is enabled. -/
def Tracer.mutate (tracer : Tracer) : Mutation Unit := do
  unless !tracer.enabled || (← get).hasVolume Artifact.tracingVolume do
    let container ← reading fun _ => tracer.container
    modify fun pod => pod.addInitContainer container
    modify fun pod => pod.addVolumes [volume]

/-! ## Every step -/

namespace Step

/-- Applies a step to the pod where it stands. -/
def mutate : Step → Mutation Unit
  | .interception config sizing node => Interception.mutate config sizing node
  | .envoy config identity mesh node => Envoy.mutate config identity mesh node
  | .gateway config identity mesh selected => Gateway.mutate config identity mesh selected
  | .xray config sizing region => Xray.mutate config sizing region
  | .jaeger config => (Tracer.jaeger config).mutate
  | .datadog config => (Tracer.datadog config).mutate
  | .cloudMapGate node => modify fun pod => pod.withCloudMapGate node
  | .fsGroup enabled => modify fun pod => pod.withFsGroup enabled
  | .pullSecret enabled => modify fun pod => pod.withPullSecret enabled
  | .gracePeriod preStopDelay => modify fun pod => pod.withGracePeriod preStopDelay

/-- Applies steps in order up to the first that fails. -/
def mutateAll (steps : List Step) : Mutation Unit :=
  steps.forM mutate

/-- What a pod is after a step was tried on it, be it in vain. -/
def attempt (step : Step) (pod : Pod) : Pod :=
  match step.mutate.run pod with
  | .ok _ changed => changed
  | .error _ left => left

/-- What a pod is after steps were tried on it in order, of which some may have
failed. -/
def attemptAll (steps : List Step) (pod : Pod) : Pod :=
  steps.foldl (fun pod step => step.attempt pod) pod

end Step

/-- Injects the pod where it stands, unless it is not to be injected. -/
def Injector.mutate (injector : Injector) (mesh : Mesh) (selector : Selector) :
    Mutation Unit := do
  if injector.shouldInject (← get) then Step.mutateAll (injector.steps mesh selector)

end MeshSidecar
