import MeshSidecar.Proofs.Injection.Mutation
import MeshSidecar.Proofs.Injection.Volumes

namespace MeshSidecar

/-!
# What a pod holds, by name

Whatever a step does to a pod, the names in the lists of the pod tell it from what
they were before: a step puts names behind them and does nothing else to them.
Which names these are is said once for each step.  Names of containers, pull
secrets and readiness gates are only added where they are missing, so trying steps
over and over never gives a second one.  Init containers of tracers are not looked
for by name; there the volume that comes with the first one holds off all others.
-/

/-- The names in the lists of a pod that steps add to. -/
@[ext]
structure Inventory where
  containers : List String := []
  initContainers : List String := []
  volumes : List String := []
  pullSecrets : List String := []
  readinessGates : List String := []

namespace Inventory

/-- Puts the names of each list behind those that were there. -/
instance : Append Inventory where
  append held added :=
    { containers := held.containers ++ added.containers
      initContainers := held.initContainers ++ added.initContainers
      volumes := held.volumes ++ added.volumes
      pullSecrets := held.pullSecrets ++ added.pullSecrets
      readinessGates := held.readinessGates ++ added.readinessGates }

section

variable (held added : Inventory)

@[simp]
theorem containers_append : (held ++ added).containers = held.containers ++ added.containers :=
  rfl

@[simp]
theorem initContainers_append :
    (held ++ added).initContainers = held.initContainers ++ added.initContainers :=
  rfl

@[simp]
theorem volumes_append : (held ++ added).volumes = held.volumes ++ added.volumes :=
  rfl

@[simp]
theorem pullSecrets_append :
    (held ++ added).pullSecrets = held.pullSecrets ++ added.pullSecrets :=
  rfl

@[simp]
theorem readinessGates_append :
    (held ++ added).readinessGates = held.readinessGates ++ added.readinessGates :=
  rfl

@[simp]
theorem append_empty : held ++ ({} : Inventory) = held := by
  ext1 <;> simp

end

end Inventory

namespace Pod

/-- What a pod holds. -/
def inventory (pod : Pod) : Inventory where
  containers := pod.containers.map Container.name
  initContainers := pod.initContainers.map Container.name
  volumes := pod.volumeNames
  pullSecrets := pod.pullSecrets
  readinessGates := pod.readinessGates

section

variable (pod : Pod)

theorem mem_containers (name : String) :
    name ∈ pod.inventory.containers ↔ pod.hasContainer name := by
  simp [inventory, hasContainer]

theorem mem_initContainers (name : String) :
    name ∈ pod.inventory.initContainers ↔ pod.hasInitContainer name := by
  simp [inventory, hasInitContainer]

theorem mem_volumes (name : String) : name ∈ pod.inventory.volumes ↔ pod.hasVolume name :=
  pod.mem_volumeNames name

/-- The inventory of a pod is that of its specification. -/
theorem inventory_eq : pod.inventory =
    { containers := pod.specOrEmpty.containers.map Container.name
      initContainers := (pod.specOrEmpty.initContainers.getD []).map Container.name
      volumes := (pod.specOrEmpty.volumes.getD []).map Volume.name
      pullSecrets := pod.specOrEmpty.imagePullSecrets.getD []
      readinessGates := pod.specOrEmpty.readinessGates.getD [] } := by
  rw [inventory, volumeNames, containers_eq, initContainers_eq, volumes_eq, pullSecrets_eq,
    readinessGates_eq]

theorem inventory_addContainer (container : Container) :
    (pod.addContainer container).inventory =
      pod.inventory ++ { containers := [container.name] } := by
  ext1 <;> simp [inventory_eq, addContainer]

theorem inventory_addInitContainer (container : Container) :
    (pod.addInitContainer container).inventory =
      pod.inventory ++ { initContainers := [container.name] } := by
  ext1 <;> simp [inventory_eq, addInitContainer]

theorem inventory_addVolumes (added : List Volume) :
    (pod.addVolumes added).inventory =
      pod.inventory ++ { volumes := added.map Volume.name } := by
  ext1 <;> simp [inventory_eq, addVolumes]

theorem inventory_addPullSecret (name : String) :
    (pod.addPullSecret name).inventory = pod.inventory ++ { pullSecrets := [name] } := by
  ext1 <;> simp [inventory_eq, addPullSecret]

theorem inventory_addReadinessGate (name : String) :
    (pod.addReadinessGate name).inventory = pod.inventory ++ { readinessGates := [name] } := by
  ext1 <;> simp [inventory_eq, addReadinessGate]

end

end Pod

/-- Filling in the declared container keeps its name. -/
theorem Gateway.names_fillDeclared (given : SortedMap String) (image missing : Option String)
    (containers : List Container) :
    (fillDeclared given image missing containers).map Container.name =
      containers.map Container.name := by
  unfold fillDeclared
  induction containers with
  | nil => rfl
  | cons head rest ih =>
      rw [changeFirst]
      split
      · rfl
      · rw [List.map_cons, ih, List.map_cons]

/-! ## What a step adds -/

/-- A name, where it is missing. -/
def lacking (name : String) (names : List String) : List String :=
  if name ∈ names then [] else [name]

theorem lacking_of_mem {name : String} {names : List String} (present : name ∈ names) :
    lacking name names = [] :=
  if_pos present

theorem lacking_of_not_mem {name : String} {names : List String} (missing : name ∉ names) :
    lacking name names = [name] :=
  if_neg missing

/-- The names that come with the init container of a tracer. -/
def Tracer.additions (tracer : Tracer) (pod : Pod) : Inventory :=
  let missing := tracer.enabled && !pod.hasVolume Artifact.tracingVolume
  { initContainers := if missing then [tracer.containerName] else []
    volumes := if missing then [Artifact.tracingVolume] else [] }

namespace Step

/-- The names that a step puts into a pod when it succeeds. -/
def additions (step : Step) (pod : Pod) : Inventory :=
  match step with
  | .interception .. =>
      { initContainers :=
          if pod.usesNetworkPlugin then []
          else lacking Artifact.proxyInit pod.inventory.initContainers }
  | .envoy config .. =>
      { containers := lacking Artifact.envoy pod.inventory.containers
        volumes :=
          if pod.hasContainer Artifact.envoy then []
          else pod.secretNames ++ Sds.missingName config.envoy pod }
  | .gateway config .. =>
      { volumes :=
          if (Gateway.declared? pod).isSome then Sds.missingName config.envoy pod else [] }
  | .xray config .. =>
      { containers :=
          if config.enabled then lacking Artifact.xrayDaemon pod.inventory.containers else [] }
  | .jaeger config => (Tracer.jaeger config).additions pod
  | .datadog config => (Tracer.datadog config).additions pod
  | .cloudMapGate node =>
      { readinessGates :=
          if node.usesCloudMap then lacking Artifact.cloudMapGate pod.readinessGates else [] }
  | .fsGroup _ => {}
  | .pullSecret enabled =>
      { pullSecrets := if enabled then lacking Artifact.pullSecret pod.pullSecrets else [] }
  | .gracePeriod _ => {}

theorem inventory_of_interception {config : Config.ProxyInit} {sizing : Config.Sidecar}
    {node : VirtualNode} {pod changed : Pod}
    (applied : (interception config sizing node).apply pod = .ok changed) :
    changed.inventory = pod.inventory ++ (interception config sizing node).additions pod := by
  rw [additions]
  rcases Interception.of_apply applied with ⟨plugin, rfl⟩ | ⟨noPlugin, present, rfl⟩ |
    ⟨noPlugin, absent, resources, sized, rfl⟩
  · rw [if_pos plugin, Inventory.append_empty]
    rfl
  · rw [lacking_of_mem ((changed.mem_initContainers _).mpr present)]
    simp
  · have missing : Artifact.proxyInit ∉ pod.inventory.initContainers := by
      rw [pod.mem_initContainers, absent]
      exact Bool.false_ne_true
    rw [lacking_of_not_mem missing, noPlugin]
    exact pod.inventory_addInitContainer _

theorem inventory_of_tracer {tracer : Tracer} (written : tracer.content = .ok tracer.text)
    {pod changed : Pod} (applied : tracer.apply pod = .ok changed) :
    changed.inventory = pod.inventory ++ tracer.additions pod := by
  rw [Tracer.additions]
  rcases Tracer.of_apply written applied with ⟨marked, rfl⟩ | ⟨enabled, absent, rfl⟩
  · cases enabled : tracer.enabled with
    | false => simp
    | true => simp [marked enabled]
  · have named : tracer.initContainer.name = tracer.containerName := rfl
    rw [Pod.inventory_addVolumes, Pod.inventory_addInitContainer, enabled, absent, named]
    ext1 <;> simp [Tracer.volume]

theorem inventory_of_envoy {config : Config} {identity : Identity} {mesh : Mesh}
    {node : VirtualNode} {pod changed : Pod}
    (applied : (envoy config identity mesh node).apply pod = .ok changed) :
    changed.inventory = pod.inventory ++ (envoy config identity mesh node).additions pod := by
  rw [additions]
  have member := pod.mem_containers Artifact.envoy
  cases present : pod.hasContainer Artifact.envoy with
  | true =>
      rw [apply, Envoy.apply_of_present present] at applied
      cases applied
      simp [lacking_of_mem (member.mpr present)]
  | false =>
      have volumes := Envoy.volumeNames_of_apply present applied
      have missing : Artifact.envoy ∉ pod.inventory.containers := by
        rw [member, present]
        exact Bool.false_ne_true
      rcases Envoy.of_apply applied with ⟨isPresent, -⟩ | ⟨-, wished, resources, -, -, rfl⟩
      · rw [present] at isPresent
        cases isPresent
      · have named : (Envoy.built config identity mesh node pod wished resources).name =
            Artifact.envoy := rfl
        ext1
        case volumes => exact volumes
        all_goals
          simp [Pod.inventory_addVolumes, Pod.inventory_addContainer, lacking_of_not_mem missing,
            named]

theorem inventory_of_gateway {config : Config} {identity : Identity} {mesh : Mesh}
    {selected : VirtualGateway} {pod changed : Pod}
    (applied : (gateway config identity mesh selected).apply pod = .ok changed) :
    changed.inventory = pod.inventory ++ (gateway config identity mesh selected).additions pod := by
  rw [additions]
  cases declared : (Gateway.declared? pod).isSome with
  | false =>
      rcases Gateway.of_apply applied with ⟨none, rfl⟩ | ⟨container, image, found, -, -⟩
      · simp
      · rw [found] at declared
        cases declared
  | true =>
      have volumes := Gateway.volumeNames_of_apply declared applied
      rcases Gateway.of_apply applied with ⟨none, -⟩ | ⟨container, image, found, allowed, rfl⟩
      · rw [none] at declared
        cases declared
      · ext1
        case containers =>
          rw [Pod.inventory, Gateway.containers_filled, Gateway.names_fillDeclared, if_pos rfl]
          simp [Pod.inventory]
        case volumes => exact volumes
        all_goals simp [Pod.inventory_eq, Gateway.filled, Pod.addVolumes]

theorem inventory_of_apply {step : Step} {pod changed : Pod}
    (applied : step.apply pod = .ok changed) :
    changed.inventory = pod.inventory ++ step.additions pod := by
  cases step with
  | interception config sizing node => exact inventory_of_interception applied
  | envoy config identity mesh node => exact inventory_of_envoy applied
  | gateway config identity mesh selected => exact inventory_of_gateway applied
  | xray config sizing region =>
      rw [additions]
      rcases Xray.of_apply applied with ⟨marked, rfl⟩ |
        ⟨enabled, absent, daemon, resources, settled, sized, rfl⟩
      · cases enabled : config.enabled with
        | false => simp
        | true => simp [lacking_of_mem ((changed.mem_containers _).mpr (marked enabled))]
      · have missing : Artifact.xrayDaemon ∉ pod.inventory.containers := by
          rw [pod.mem_containers, absent]
          exact Bool.false_ne_true
        rw [Pod.inventory_addContainer, Xray.configured_name settled, enabled,
          lacking_of_not_mem missing]
        rfl
  | jaeger config => exact inventory_of_tracer (Tracer.content_jaeger config) applied
  | datadog config => exact inventory_of_tracer (Tracer.content_datadog config) applied
  | cloudMapGate node =>
      cases applied
      rw [additions, Pod.withCloudMapGate, Pod.needsCloudMapGate]
      by_cases present : Artifact.cloudMapGate ∈ pod.readinessGates
      · simp [lacking_of_mem present, present]
      · cases node.usesCloudMap with
        | false => simp
        | true => simp [lacking_of_not_mem present, present, Pod.inventory_addReadinessGate]
  | fsGroup enabled =>
      cases applied
      rw [additions, Pod.withFsGroup, Inventory.append_empty]
      split
      · simp [Pod.inventory_eq, Pod.setFsGroup]
      · rfl
  | pullSecret enabled =>
      cases applied
      rw [additions, Pod.withPullSecret, Pod.needsPullSecret]
      by_cases present : Artifact.pullSecret ∈ pod.pullSecrets
      · simp [lacking_of_mem present, present]
      · cases enabled with
        | false => simp
        | true => simp [lacking_of_not_mem present, present, Pod.inventory_addPullSecret]
  | gracePeriod preStopDelay =>
      cases applied
      rw [additions, Pod.withGracePeriod, Inventory.append_empty]
      split
      · simp [Pod.inventory_eq]
      · rfl

/-- The volumes that a pod shows are those it showed and those that the step adds. -/
theorem hasVolume_iff_of_apply {step : Step} {pod changed : Pod}
    (applied : step.apply pod = .ok changed) (name : String) :
    changed.hasVolume name ↔ pod.hasVolume name ∨ name ∈ (step.additions pod).volumes := by
  rw [← Pod.mem_volumes, ← Pod.mem_volumes, inventory_of_apply applied,
    Inventory.volumes_append, List.mem_append]

end Step

end MeshSidecar
