import MeshSidecar.Injection.Auxiliary

namespace MeshSidecar

namespace Pod

/-!
# What a change leaves alone

Every change that an injection makes is a change of the specification or of the
annotations, and shows in one field of it.  Changes of the specification mostly
put something behind a list, and what was in the pod stays where it was: the pod
grows.
-/

/-! ## Reading a changed pod -/

section

variable (pod : Pod) (change : PodSpec → PodSpec)

@[simp]
theorem specOrEmpty_mapSpec : (pod.mapSpec change).specOrEmpty = change pod.specOrEmpty :=
  rfl

theorem containers_eq : pod.containers = pod.specOrEmpty.containers := by
  rcases pod with ⟨metadata, spec, status⟩
  cases spec <;> rfl

theorem initContainers_eq : pod.initContainers = pod.specOrEmpty.initContainers.getD [] := by
  rcases pod with ⟨metadata, spec, status⟩
  cases spec <;> rfl

theorem volumes_eq : pod.volumes = pod.specOrEmpty.volumes.getD [] := by
  rcases pod with ⟨metadata, spec, status⟩
  cases spec <;> rfl

theorem pullSecrets_eq : pod.pullSecrets = pod.specOrEmpty.imagePullSecrets.getD [] := by
  rcases pod with ⟨metadata, spec, status⟩
  cases spec <;> rfl

theorem readinessGates_eq : pod.readinessGates = pod.specOrEmpty.readinessGates.getD [] := by
  rcases pod with ⟨metadata, spec, status⟩
  cases spec <;> rfl

theorem fsGroup?_eq :
    pod.fsGroup? = pod.specOrEmpty.securityContext.bind PodSecurityContext.fsGroup := by
  rcases pod with ⟨metadata, spec, status⟩
  cases spec <;> rfl

end

/-- A change that leaves the specification as it is leaves the pod as it is. -/
theorem mapSpec_eq_self {pod : Pod} {spec : PodSpec} {change : PodSpec → PodSpec}
    (present : pod.spec = some spec) (same : change spec = spec) : pod.mapSpec change = pod := by
  rcases pod with ⟨metadata, stored, status⟩
  cases present
  simp [mapSpec, specOrEmpty, same]

theorem containers_mapSpec {pod : Pod} {change : PodSpec → PodSpec}
    (same : (change pod.specOrEmpty).containers = pod.specOrEmpty.containers) :
    (pod.mapSpec change).containers = pod.containers := by
  rw [containers_eq, specOrEmpty_mapSpec, same, containers_eq]

theorem volumes_mapSpec {pod : Pod} {change : PodSpec → PodSpec}
    (same : (change pod.specOrEmpty).volumes = pod.specOrEmpty.volumes) :
    (pod.mapSpec change).volumes = pod.volumes := by
  rw [volumes_eq, specOrEmpty_mapSpec, same, volumes_eq]

/-- A change that is made only on a condition leaves the volumes alone as well. -/
theorem volumes_ite {condition : Prop} [Decidable condition] {pod : Pod}
    {change : PodSpec → PodSpec}
    (same : (change pod.specOrEmpty).volumes = pod.specOrEmpty.volumes) :
    (if condition then pod.mapSpec change else pod).volumes = pod.volumes := by
  split
  · exact volumes_mapSpec same
  · rfl

@[simp]
theorem extend_nil {α : Type} (list : Option (List α)) : extend list [] = list :=
  rfl

@[simp]
theorem getD_extend {α : Type} (list : Option (List α)) (added : List α) :
    (extend list added).getD [] = list.getD [] ++ added := by
  cases added with
  | nil => simp
  | cons => rfl

/-! ## Finding what was added -/

/-- The second pod has the container behind those of the first, and nothing else about it has
changed. -/
structure GainsContainer (before after : Pod) (container : Container) : Prop where
  containers : after.containers = before.containers ++ [container]
  spec : { after.specOrEmpty with containers := before.containers } = before.specOrEmpty
  metadata : after.metadata = before.metadata
  status : after.status = before.status

theorem gainsContainer_addContainer (pod : Pod) (container : Container) :
    GainsContainer pod (pod.addContainer container) container where
  containers := by
    rw [containers_eq, containers_eq]
    rfl
  spec := by
    rw [containers_eq]
    rfl
  metadata := rfl
  status := rfl

theorem hasContainer_addContainer (pod : Pod) (container : Container) (name : String) :
    (pod.addContainer container).hasContainer name =
      (pod.hasContainer name || container.name == name) := by
  simp [hasContainer, containers_eq, addContainer]

theorem hasInitContainer_addInitContainer (pod : Pod) (container : Container) (name : String) :
    (pod.addInitContainer container).hasInitContainer name =
      (pod.hasInitContainer name || container.name == name) := by
  simp [hasInitContainer, initContainers_eq, addInitContainer]

theorem hasVolume_addVolumes (pod : Pod) (added : List Volume) (name : String) :
    (pod.addVolumes added).hasVolume name =
      (pod.hasVolume name || added.any fun volume => volume.name == name) := by
  simp [hasVolume, volumes_eq, addVolumes]

theorem readinessGates_addReadinessGate (pod : Pod) (conditionType : String) :
    (pod.addReadinessGate conditionType).readinessGates =
      pod.readinessGates ++ [conditionType] := by
  simp [readinessGates_eq, addReadinessGate]

theorem pullSecrets_addPullSecret (pod : Pod) (name : String) :
    (pod.addPullSecret name).pullSecrets = pod.pullSecrets ++ [name] := by
  simp [pullSecrets_eq, addPullSecret]

theorem fsGroup?_setFsGroup (pod : Pod) (group : Int) :
    (pod.setFsGroup group).fsGroup? = some group :=
  rfl

/-! ## Volumes of a prepared pod -/

section

variable (pod : Pod)

theorem volumes_withCloudMapGate (node : VirtualNode) :
    (pod.withCloudMapGate node).volumes = pod.volumes :=
  volumes_ite rfl

theorem volumes_withFsGroup (enabled : Bool) : (pod.withFsGroup enabled).volumes = pod.volumes :=
  volumes_ite rfl

theorem volumes_withPullSecret (enabled : Bool) :
    (pod.withPullSecret enabled).volumes = pod.volumes :=
  volumes_ite rfl

theorem volumes_withGracePeriod (preStopDelay : UInt32) :
    (pod.withGracePeriod preStopDelay).volumes = pod.volumes :=
  volumes_ite rfl

end

/-! ## Growth -/

end Pod

/-- Nothing in the lists of the first specification has moved, and a group of the
file system that was set is the same. -/
structure PodSpec.Grown (before after : PodSpec) : Prop where
  containers : before.containers <+: after.containers
  initContainers : before.initContainers.getD [] <+: after.initContainers.getD []
  volumes : before.volumes.getD [] <+: after.volumes.getD []
  pullSecrets : before.imagePullSecrets.getD [] <+: after.imagePullSecrets.getD []
  readinessGates : before.readinessGates.getD [] <+: after.readinessGates.getD []
  fsGroup : (before.securityContext.bind PodSecurityContext.fsGroup).isSome →
    after.securityContext.bind PodSecurityContext.fsGroup =
      before.securityContext.bind PodSecurityContext.fsGroup

namespace PodSpec.Grown

theorem refl (spec : PodSpec) : Grown spec spec where
  containers := List.prefix_refl _
  initContainers := List.prefix_refl _
  volumes := List.prefix_refl _
  pullSecrets := List.prefix_refl _
  readinessGates := List.prefix_refl _
  fsGroup := fun _ => rfl

theorem trans {first second third : PodSpec} (early : Grown first second)
    (late : Grown second third) : Grown first third where
  containers := early.containers.trans late.containers
  initContainers := early.initContainers.trans late.initContainers
  volumes := early.volumes.trans late.volumes
  pullSecrets := early.pullSecrets.trans late.pullSecrets
  readinessGates := early.readinessGates.trans late.readinessGates
  fsGroup := by
    intro isSet
    have same := early.fsGroup isSet
    have later := late.fsGroup (by rw [same]; exact isSet)
    exact later.trans same

end PodSpec.Grown

namespace Pod

/-- The specification has grown and the metadata is the same. -/
structure Grown (before after : Pod) : Prop where
  metadata : after.metadata = before.metadata
  spec : PodSpec.Grown before.specOrEmpty after.specOrEmpty

namespace Grown

theorem refl (pod : Pod) : Grown pod pod where
  metadata := rfl
  spec := PodSpec.Grown.refl _

theorem trans {first second third : Pod} (early : Grown first second) (late : Grown second third) :
    Grown first third where
  metadata := late.metadata.trans early.metadata
  spec := early.spec.trans late.spec

variable {before after : Pod}

theorem annotation? (grown : Grown before after) (key : String) :
    after.annotation? key = before.annotation? key := by
  rw [Pod.annotation?, Pod.annotation?, grown.metadata]

theorem hasContainer (grown : Grown before after) {name : String}
    (present : before.hasContainer name) : after.hasContainer name := by
  rw [Pod.hasContainer, containers_eq, List.any_eq_true] at present ⊢
  rcases present with ⟨container, member, named⟩
  exact ⟨container, grown.spec.containers.subset member, named⟩

theorem hasInitContainer (grown : Grown before after) {name : String}
    (present : before.hasInitContainer name) : after.hasInitContainer name := by
  rw [Pod.hasInitContainer, initContainers_eq, List.any_eq_true] at present ⊢
  rcases present with ⟨container, member, named⟩
  exact ⟨container, grown.spec.initContainers.subset member, named⟩

theorem hasVolume (grown : Grown before after) {name : String}
    (present : before.hasVolume name) : after.hasVolume name := by
  rw [Pod.hasVolume, volumes_eq, List.any_eq_true] at present ⊢
  rcases present with ⟨volume, member, named⟩
  exact ⟨volume, grown.spec.volumes.subset member, named⟩

theorem mountsHostPath (grown : Grown before after) {path : String}
    (present : before.mountsHostPath path) : after.mountsHostPath path := by
  rw [Pod.mountsHostPath, volumes_eq, List.any_eq_true] at present ⊢
  rcases present with ⟨volume, member, shown⟩
  exact ⟨volume, grown.spec.volumes.subset member, shown⟩

theorem pullSecret (grown : Grown before after) {name : String}
    (present : name ∈ before.pullSecrets) : name ∈ after.pullSecrets := by
  rw [pullSecrets_eq] at present ⊢
  exact grown.spec.pullSecrets.subset present

theorem readinessGate (grown : Grown before after) {name : String}
    (present : name ∈ before.readinessGates) : name ∈ after.readinessGates := by
  rw [readinessGates_eq] at present ⊢
  exact grown.spec.readinessGates.subset present

theorem fsGroup? (grown : Grown before after) (isSet : before.fsGroup?.isSome) :
    after.fsGroup? = before.fsGroup? := by
  rw [fsGroup?_eq] at isSet ⊢
  rw [fsGroup?_eq]
  exact grown.spec.fsGroup isSet

end Grown

/-! ## The changes that let a pod grow -/

theorem grown_mapSpec {pod : Pod} {change : PodSpec → PodSpec}
    (grown : PodSpec.Grown pod.specOrEmpty (change pod.specOrEmpty)) :
    Grown pod (pod.mapSpec change) where
  metadata := rfl
  spec := grown

theorem grown_addContainer (pod : Pod) (container : Container) :
    Grown pod (pod.addContainer container) :=
  grown_mapSpec (by constructor <;> simp)

theorem grown_addInitContainer (pod : Pod) (container : Container) :
    Grown pod (pod.addInitContainer container) :=
  grown_mapSpec (by constructor <;> simp)

theorem grown_addVolumes (pod : Pod) (added : List Volume) : Grown pod (pod.addVolumes added) :=
  grown_mapSpec (by constructor <;> simp)

theorem grown_addPullSecret (pod : Pod) (name : String) : Grown pod (pod.addPullSecret name) :=
  grown_mapSpec (by constructor <;> simp)

theorem grown_addReadinessGate (pod : Pod) (conditionType : String) :
    Grown pod (pod.addReadinessGate conditionType) :=
  grown_mapSpec (by constructor <;> simp)

/-- Setting a group lets a pod grow that has none. -/
theorem grown_setFsGroup {pod : Pod} (unset : pod.fsGroup? = none) (group : Int) :
    Grown pod (pod.setFsGroup group) := by
  apply grown_mapSpec
  constructor
  case fsGroup =>
    intro isSet
    rw [fsGroup?_eq] at unset
    rw [unset] at isSet
    cases isSet
  all_goals exact List.prefix_refl _

theorem grown_ite {condition : Prop} [Decidable condition] {pod changed : Pod}
    (grown : condition → Grown pod changed) : Grown pod (if condition then changed else pod) := by
  split
  · next holds => exact grown holds
  · exact Grown.refl pod

theorem grown_withCloudMapGate (pod : Pod) (node : VirtualNode) :
    Grown pod (pod.withCloudMapGate node) :=
  grown_ite fun _ => grown_addReadinessGate pod _

theorem grown_withFsGroup (pod : Pod) (enabled : Bool) : Grown pod (pod.withFsGroup enabled) := by
  apply grown_ite
  intro needed
  have unset : pod.fsGroup? = none := by
    simp only [needsFsGroup, Bool.and_eq_true, Option.isNone_iff_eq_none] at needed
    exact needed.2
  exact grown_setFsGroup unset _

theorem grown_withPullSecret (pod : Pod) (enabled : Bool) :
    Grown pod (pod.withPullSecret enabled) :=
  grown_ite fun _ => grown_addPullSecret pod _

/-- The grace period is no part of what grows. -/
theorem grown_withGracePeriod (pod : Pod) (preStopDelay : UInt32) :
    Grown pod (pod.withGracePeriod preStopDelay) :=
  grown_ite fun _ => grown_mapSpec (by constructor <;> simp)

end Pod

end MeshSidecar
