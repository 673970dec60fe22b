import MeshSidecar.Injection.Pipeline
import MeshSidecar.Proofs.Injection.Defined
import MeshSidecar.Proofs.Injection.TracerFile
import MeshSidecar.Proofs.Pod.Changes

namespace MeshSidecar

/-!
# The effect of each step

Rendering and decoding never fail, so each step is given here by an equation
without templates: what is left of its errors are the checks of annotations and
settings.  Everything that is proved about injections rests on these equations.
-/

section

variable {ε α β : Type}

theorem ok_bind (value : α) (next : α → Except ε β) : (Except.ok value >>= next) = next value :=
  rfl

theorem of_bind_eq_ok {result : Except ε α} {next : α → Except ε β} {final : β}
    (succeeds : (result >>= next) = .ok final) :
    ∃ value, result = .ok value ∧ next value = .ok final := by
  cases result with
  | error error => cases succeeds
  | ok value => exact ⟨value, rfl, succeeds⟩

theorem of_map_eq_ok {result : Except ε α} {f : α → β} {final : β}
    (succeeds : result.map f = .ok final) : ∃ value, result = .ok value ∧ f value = final := by
  cases result with
  | error error => cases succeeds
  | ok value => exact ⟨value, rfl, Except.ok.inj succeeds⟩

end

/-! ## Interception -/

namespace Interception

/-- The init container with its resources. -/
def initContainer (settings : Interception) (image : String) (resources : Resources) : Container :=
  { (InitVariables.ofSettings settings image).container with resources := some resources }

theorem container_eq (settings : Interception) (image : String) (sizing : Config.Sidecar)
    (pod : Pod) : settings.container image sizing pod =
      (pod.sidecarResources sizing).map (settings.initContainer image) := by
  rw [Interception.container, InitVariables.container_definition]
  cases pod.sidecarResources sizing with
  | error error => rfl
  | ok resources => rfl

theorem apply_eq (config : Config.ProxyInit) (sizing : Config.Sidecar) (node : VirtualNode)
    (pod : Pod) : apply config sizing node pod =
      if pod.usesNetworkPlugin then .ok ((ofPod config node pod).delegate pod)
      else if pod.hasInitContainer Artifact.proxyInit then .ok pod
      else (pod.sidecarResources sizing).map fun resources =>
        pod.addInitContainer ((ofPod config node pod).initContainer config.image resources) := by
  simp only [apply, install, container_eq]
  split
  · rfl
  · split
    · rfl
    · cases pod.sidecarResources sizing with
      | error error => rfl
      | ok resources => rfl

/-- What the step can do: leave interception to the network plugin, find the init
container, or add it. -/
theorem of_apply {config : Config.ProxyInit} {sizing : Config.Sidecar} {node : VirtualNode}
    {pod changed : Pod} (applied : apply config sizing node pod = .ok changed) :
    (pod.usesNetworkPlugin ∧ changed = (ofPod config node pod).delegate pod) ∨
    (pod.usesNetworkPlugin = false ∧ pod.hasInitContainer Artifact.proxyInit ∧ changed = pod) ∨
    (pod.usesNetworkPlugin = false ∧ pod.hasInitContainer Artifact.proxyInit = false ∧
      ∃ resources, pod.sidecarResources sizing = .ok resources ∧
        changed = pod.addInitContainer
          ((ofPod config node pod).initContainer config.image resources)) := by
  rw [apply_eq] at applied
  cases plugin : pod.usesNetworkPlugin with
  | true =>
      simp only [plugin, if_true, Except.ok.injEq] at applied
      exact Or.inl ⟨rfl, applied.symm⟩
  | false =>
      simp only [plugin, Bool.false_eq_true, if_false] at applied
      cases present : pod.hasInitContainer Artifact.proxyInit with
      | true =>
          simp only [present, if_true, Except.ok.injEq] at applied
          exact Or.inr (Or.inl ⟨rfl, rfl, applied.symm⟩)
      | false =>
          simp only [present, Bool.false_eq_true, if_false] at applied
          rcases of_map_eq_ok applied with ⟨resources, sized, rfl⟩
          exact Or.inr (Or.inr ⟨rfl, rfl, resources, sized, rfl⟩)

end Interception

/-! ## Envoy of a virtual node -/

namespace Envoy

/-- The wishes of a pod are what it lists in three annotations. -/
theorem of_wishes {pod : Pod} {wished : Wishes} (wanted : wishes pod = .ok wished) :
    pod.pairs Annotations.secretMounts .secretMount = .ok wished.secrets ∧
    pod.pairs Annotations.volumeMounts .volumeMount = .ok wished.volumes ∧
    pod.pairs Annotations.sidecarEnv .assignment = .ok wished.env := by
  unfold wishes at wanted
  rcases of_bind_eq_ok wanted with ⟨secrets, listedSecrets, wanted⟩
  rcases of_bind_eq_ok wanted with ⟨volumes, listedVolumes, wanted⟩
  rcases of_bind_eq_ok wanted with ⟨env, listedEnv, wanted⟩
  cases wanted
  exact ⟨listedSecrets, listedVolumes, listedEnv⟩

/-- The container for a pod, with the resources and wishes of the pod. -/
def built (config : Config) (identity : Identity) (mesh : Mesh) (node : VirtualNode) (pod : Pod)
    (wishes : Wishes) (resources : Resources) : Container :=
  let container := (Variables.ofPod config identity mesh node pod).container
  { container with
    env := mergeEnv wishes.env container.env
    resources := some resources
    readinessProbe := some (probe config.envoy)
    volumeMounts := Pod.extend container.volumeMounts (mounts config.envoy pod wishes) }

theorem container_eq (config : Config) (identity : Identity) (mesh : Mesh) (node : VirtualNode)
    (pod : Pod) (wishes : Wishes) : container config identity mesh node pod wishes =
      (pod.sidecarResources config.sidecar).map (built config identity mesh node pod wishes) := by
  rw [Envoy.container, Variables.container_definition]
  cases pod.sidecarResources config.sidecar with
  | error error => rfl
  | ok resources => rfl

theorem apply_of_present {config : Config} {identity : Identity} {mesh : Mesh}
    {node : VirtualNode} {pod : Pod} (present : pod.hasContainer Artifact.envoy) :
    apply config identity mesh node pod = .ok pod := by
  rw [apply, if_pos present]

theorem apply_of_absent {config : Config} {identity : Identity} {mesh : Mesh}
    {node : VirtualNode} {pod : Pod} (absent : pod.hasContainer Artifact.envoy = false) :
    apply config identity mesh node pod = do
      let wishes ← wishes pod
      checkSamplingRate config.tracing.xray
      let resources ← pod.sidecarResources config.sidecar
      return (pod.addContainer (built config identity mesh node pod wishes resources)).addVolumes
        (volumes config.envoy pod wishes) := by
  simp only [apply, absent, Bool.false_eq_true, if_false, additions, container_eq]
  cases wishes pod with
  | error error => rfl
  | ok wishes =>
      cases checkSamplingRate config.tracing.xray with
      | error error => rfl
      | ok checked =>
          cases pod.sidecarResources config.sidecar with
          | error error => rfl
          | ok resources => rfl

/-- What the step can do: find the container, or add it with the volumes that it
needs. -/
theorem of_apply {config : Config} {identity : Identity} {mesh : Mesh} {node : VirtualNode}
    {pod changed : Pod} (applied : apply config identity mesh node pod = .ok changed) :
    (pod.hasContainer Artifact.envoy ∧ changed = pod) ∨
    (pod.hasContainer Artifact.envoy = false ∧ ∃ wished resources, wishes pod = .ok wished ∧
      pod.sidecarResources config.sidecar = .ok resources ∧
      changed = (pod.addContainer
        (built config identity mesh node pod wished resources)).addVolumes
          (volumes config.envoy pod wished)) := by
  cases present : pod.hasContainer Artifact.envoy with
  | true =>
      rw [apply_of_present present] at applied
      cases applied
      exact Or.inl ⟨rfl, rfl⟩
  | false =>
      rw [apply_of_absent present] at applied
      rcases of_bind_eq_ok applied with ⟨wanted, wished, applied⟩
      rcases of_bind_eq_ok applied with ⟨checked, rate, applied⟩
      rcases of_bind_eq_ok applied with ⟨resources, sized, applied⟩
      cases applied
      exact Or.inr ⟨rfl, wanted, resources, wished, sized, rfl⟩

end Envoy

/-! ## Envoy of a virtual gateway -/

namespace Gateway

/-- The declared container, filled in. -/
def fill (given : SortedMap String) (image : Option String) (missing : Option String)
    (container : Container) : Container :=
  { container with
    image := image
    env := some (overrideEnv given (container.env.getD []))
    volumeMounts := Pod.extend container.volumeMounts (missing.toList.map Sds.mount) }

/-- The containers with the declared one filled in. -/
def fillDeclared (given : SortedMap String) (image : Option String) (missing : Option String)
    (containers : List Container) : List Container :=
  changeFirst (fun container => container.name == Artifact.envoy) (fill given image missing)
    containers

/-- The pod with its declared container filled in and the volume that it needs. -/
def filled (given : SortedMap String) (image : Option String) (missing : Option String)
    (pod : Pod) : Pod :=
  (pod.mapSpec fun spec =>
    { spec with containers := fillDeclared given image missing spec.containers }).addVolumes
    (missing.toList.map Sds.volume)

theorem apply_eq (config : Config) (identity : Identity) (mesh : Mesh) (gateway : VirtualGateway)
    (pod : Pod) : apply config identity mesh gateway pod =
      match declared? pod with
      | none => .ok pod
      | some declared =>
        (image config.sidecar (pinsImage pod) declared.image).map fun image =>
          filled (.ofList (Variables.ofPod config identity mesh gateway pod).assignments) image
            (Sds.missingPath? config.envoy pod) pod := by
  rw [apply, Variables.environment_definition]
  cases declared? pod with
  | none => rfl
  | some declared =>
      simp only [bind, Except.bind]
      cases image config.sidecar (pinsImage pod) declared.image with
      | error error => rfl
      | ok image => rfl

/-- What the step can do: find no declared container, or fill it in. -/
theorem of_apply {config : Config} {identity : Identity} {mesh : Mesh} {gateway : VirtualGateway}
    {pod changed : Pod} (applied : apply config identity mesh gateway pod = .ok changed) :
    (declared? pod = none ∧ changed = pod) ∨
    ∃ declared filledImage, declared? pod = some declared ∧
      image config.sidecar (pinsImage pod) declared.image = .ok filledImage ∧
      changed = filled (.ofList (Variables.ofPod config identity mesh gateway pod).assignments)
        filledImage (Sds.missingPath? config.envoy pod) pod := by
  rw [apply_eq] at applied
  cases found : declared? pod with
  | none =>
      rw [found] at applied
      cases applied
      exact Or.inl ⟨rfl, rfl⟩
  | some declared =>
      rw [found] at applied
      rcases of_map_eq_ok applied with ⟨filledImage, allowed, rfl⟩
      exact Or.inr ⟨declared, filledImage, rfl, allowed, rfl⟩

end Gateway

/-! ## The X-Ray daemon -/

namespace Xray

/-- The daemon with its settings, before it is sized. -/
def configured (xray : Config.Xray) (region : String) (pod : Pod) : Except Error Container :=
  let container := (Variables.ofConfig xray region).container
  match pod.annotation? Annotations.xrayConfigMount with
  | some value => (ConfigMount.ofAnnotation value).map fun mount => withFile mount container
  | none => withArgs xray container

theorem container_eq (xray : Config.Xray) (sizing : Config.Sidecar) (region : String) (pod : Pod) :
    container xray sizing region pod =
      if missingParameters xray region = [] then do
        let container ← configured xray region pod
        let resources ← pod.sidecarResources sizing
        return { container with resources := some resources }
      else .error (.setting (.missingParameters (missingParameters xray region))) := by
  rw [Xray.container, Variables.container_definition]
  cases missing : missingParameters xray region with
  | nil =>
      cases said : pod.annotation? Annotations.xrayConfigMount with
      | none => simp [configured, said, bind, Except.bind]
      | some value => simp [configured, said, bind, Except.bind]
  | cons name names => rfl

/-- Settings come as a command with a mount, or as arguments. -/
theorem of_configured {xray : Config.Xray} {region : String} {pod : Pod} {container : Container}
    (settled : configured xray region pod = .ok container) :
    ∃ command args volumeMounts, container =
      { (Variables.ofConfig xray region).container with command, args, volumeMounts } := by
  unfold configured at settled
  cases said : pod.annotation? Annotations.xrayConfigMount with
  | some value =>
      rw [said] at settled
      rcases of_map_eq_ok settled with ⟨mount, named, rfl⟩
      exact ⟨_, _, _, rfl⟩
  | none =>
      rw [said] at settled
      rcases of_bind_eq_ok settled with ⟨level, known, settled⟩
      rcases of_bind_eq_ok settled with ⟨role, valid, settled⟩
      cases settled
      split
      · exact ⟨_, _, _, rfl⟩
      · exact ⟨_, _, _, rfl⟩

theorem configured_name {xray : Config.Xray} {region : String} {pod : Pod} {container : Container}
    (settled : configured xray region pod = .ok container) :
    container.name = Artifact.xrayDaemon := by
  rcases of_configured settled with ⟨command, args, volumeMounts, rfl⟩
  rfl

theorem of_container {xray : Config.Xray} {sizing : Config.Sidecar} {region : String} {pod : Pod}
    {daemon : Container} (built : container xray sizing region pod = .ok daemon) :
    ∃ settled resources, configured xray region pod = .ok settled ∧
      pod.sidecarResources sizing = .ok resources ∧
      daemon = { settled with resources := some resources } := by
  rw [container_eq] at built
  split at built
  · rcases of_bind_eq_ok built with ⟨settled, known, built⟩
    rcases of_bind_eq_ok built with ⟨resources, sized, built⟩
    cases built
    exact ⟨settled, resources, known, sized, rfl⟩
  · cases built

/-- What the step can do: nothing when it is disabled or finds the daemon, or add
the daemon. -/
theorem of_apply {xray : Config.Xray} {sizing : Config.Sidecar} {region : String}
    {pod changed : Pod} (applied : apply xray sizing region pod = .ok changed) :
    ((xray.enabled → pod.hasContainer Artifact.xrayDaemon) ∧ changed = pod) ∨
    (xray.enabled ∧ pod.hasContainer Artifact.xrayDaemon = false ∧ ∃ daemon resources,
      configured xray region pod = .ok daemon ∧ pod.sidecarResources sizing = .ok resources ∧
      changed = pod.addContainer { daemon with resources := some resources }) := by
  rw [apply] at applied
  cases enabled : xray.enabled with
  | false =>
      simp only [enabled, Bool.not_false, Bool.true_or, if_true, Except.ok.injEq] at applied
      exact Or.inl ⟨by simp, applied.symm⟩
  | true =>
      cases present : pod.hasContainer Artifact.xrayDaemon with
      | true =>
          simp only [present, Bool.or_true, if_true, Except.ok.injEq] at applied
          exact Or.inl ⟨fun _ => rfl, applied.symm⟩
      | false =>
          simp only [enabled, present, Bool.not_true, Bool.or_self, Bool.false_eq_true,
            if_false] at applied
          rcases of_map_eq_ok applied with ⟨container, built, rfl⟩
          rcases of_container built with ⟨daemon, resources, settled, sized, rfl⟩
          exact Or.inr ⟨rfl, rfl, daemon, resources, settled, sized, rfl⟩

end Xray

/-! ## Tracers that are configured by a file -/

namespace Tracer

/-- The resources of the init container. -/
def resources : Resources where
  requests := some (.ofList [("cpu", "10m"), ("memory", "32Mi")])
  limits := some (.ofList [("cpu", "100m"), ("memory", "64Mi")])
  claims := none

/-- The init container that writes the file of the tracer. -/
def initContainer (tracer : Tracer) : Container :=
  { (InitVariables.ofTracer tracer tracer.text).container with resources := some resources }

theorem apply_eq {tracer : Tracer} (written : tracer.content = .ok tracer.text) (pod : Pod) :
    tracer.apply pod = .ok (
      if !tracer.enabled || pod.hasVolume Artifact.tracingVolume then pod
      else (pod.addInitContainer tracer.initContainer).addVolumes [volume]) := by
  have sized : Resources.ofQuantities (some "10m") (some "32Mi") (some "100m") (some "64Mi") =
      .ok resources := by
    rfl
  have container : tracer.container = .ok tracer.initContainer := by
    rw [Tracer.container, written, ok_bind, InitVariables.container_definition, ok_bind, sized]
    rfl
  rw [apply, container]
  split
  · rfl
  · rfl

/-- What the step can do: nothing when it is disabled or finds the volume, or add
the init container with the volume. -/
theorem of_apply {tracer : Tracer} (written : tracer.content = .ok tracer.text)
    {pod changed : Pod} (applied : tracer.apply pod = .ok changed) :
    ((tracer.enabled → pod.hasVolume Artifact.tracingVolume) ∧ changed = pod) ∨
    (tracer.enabled ∧ pod.hasVolume Artifact.tracingVolume = false ∧
      changed = (pod.addInitContainer tracer.initContainer).addVolumes [volume]) := by
  rw [apply_eq written, Except.ok.injEq] at applied
  subst applied
  cases enabled : tracer.enabled with
  | false => exact Or.inl ⟨nofun, rfl⟩
  | true =>
      cases present : pod.hasVolume Artifact.tracingVolume with
      | true => exact Or.inl ⟨fun _ => rfl, rfl⟩
      | false => exact Or.inr ⟨rfl, rfl, rfl⟩

end Tracer

end MeshSidecar
