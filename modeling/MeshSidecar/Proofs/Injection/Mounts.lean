import MeshSidecar.Proofs.Injection.Inventory
import MeshSidecar.Proofs.Injection.Preservation

namespace MeshSidecar

/-!
# Volumes behind the mounts

A container that mounts a volume which the pod does not have keeps the pod from
starting.  So the mounts that containers gain have to be backed by volumes, with two
exceptions: a pod may ask in annotations for volumes that it has to show itself, and
Envoy mounts the file of a tracer, whose volume comes with the step of the tracer
later on.
-/

/-- The mounts of containers, each with the name of its container. -/
def mountsOf (containers : List Container) : List (String × VolumeMount) :=
  containers.flatMap fun container =>
    (container.volumeMounts.getD []).map fun mount => (container.name, mount)

namespace Pod

/-- The volumes that a pod asks to be mounted and has to show itself. -/
def ownVolumes (pod : Pod) : List String :=
  (match pod.pairs Annotations.volumeMounts .volumeMount with
    | .ok volumes => volumes.keys
    | .error _ => []) ++
  match pod.annotation? Annotations.xrayConfigMount with
  | some value =>
    match Xray.ConfigMount.ofAnnotation value with
    | .ok mount => [mount.volume]
    | .error _ => []
  | none => []

theorem SaysSame.ownVolumes {before after : Pod} (same : SaysSame before after) :
    after.ownVolumes = before.ownVolumes := by
  rw [Pod.ownVolumes, Pod.pairs, same _ (by decide), same _ (by decide), Pod.ownVolumes, Pod.pairs]

/-! ## Mounts that came in with their volumes -/

/-- What the second containers mount and the first do not is a volume of the pod or
one of those named. -/
def BacksMounts (others : List String) (pod : Pod) (first second : List Container) : Prop :=
  ∀ entry ∈ mountsOf second, entry ∈ mountsOf first ∨
    pod.hasVolume entry.2.name ∨ entry.2.name ∈ others

namespace BacksMounts

variable {others moreOthers : List String} {pod changed : Pod} {first second third : List Container}

theorem refl (others : List String) (pod : Pod) (containers : List Container) :
    BacksMounts others pod containers containers :=
  fun _ member => Or.inl member

theorem mono (backs : BacksMounts others pod first second) (included : others ⊆ moreOthers) :
    BacksMounts moreOthers pod first second := by
  intro entry member
  rcases backs entry member with before | shown | other
  · exact Or.inl before
  · exact Or.inr (Or.inl shown)
  · exact Or.inr (Or.inr (included other))

theorem of_shown {name : String} (backs : BacksMounts (others ++ [name]) pod first second)
    (shown : pod.hasVolume name) : BacksMounts others pod first second := by
  intro entry member
  rcases backs entry member with before | there | other
  · exact Or.inl before
  · exact Or.inr (Or.inl there)
  · rcases List.mem_append.mp other with known | single
    · exact Or.inr (Or.inr known)
    · rw [List.mem_singleton.mp single]
      exact Or.inr (Or.inl shown)

theorem trans (early : BacksMounts others pod first second)
    (kept : ∀ name, pod.hasVolume name → changed.hasVolume name)
    (late : BacksMounts others changed second third) : BacksMounts others changed first third := by
  intro entry member
  rcases late entry member with middle | shown
  · rcases early entry middle with before | shown | other
    · exact Or.inl before
    · exact Or.inr (Or.inl (kept _ shown))
    · exact Or.inr (Or.inr other)
  · exact Or.inr shown

end BacksMounts

/-- No volume is lost, and new mounts are backed. -/
structure Backed (others : List String) (before after : Pod) : Prop where
  volumes : ∀ name, before.hasVolume name → after.hasVolume name
  containers : BacksMounts others after before.containers after.containers
  initContainers : BacksMounts others after before.initContainers after.initContainers

namespace Backed

variable {others moreOthers : List String}

theorem refl (others : List String) (pod : Pod) : Backed others pod pod where
  volumes := fun _ present => present
  containers := .refl others pod _
  initContainers := .refl others pod _

theorem mono {before after : Pod} (backed : Backed others before after)
    (included : others ⊆ moreOthers) : Backed moreOthers before after where
  volumes := backed.volumes
  containers := backed.containers.mono included
  initContainers := backed.initContainers.mono included

/-- A volume that is there after all need not be excepted. -/
theorem of_shown {before after : Pod} {name : String}
    (backed : Backed (others ++ [name]) before after) (shown : after.hasVolume name) :
    Backed others before after where
  volumes := backed.volumes
  containers := backed.containers.of_shown shown
  initContainers := backed.initContainers.of_shown shown

theorem trans {first second third : Pod} (early : Backed others first second)
    (late : Backed others second third) : Backed others first third where
  volumes := fun name present => late.volumes name (early.volumes name present)
  containers := early.containers.trans late.volumes late.containers
  initContainers := early.initContainers.trans late.volumes late.initContainers

end Backed

end Pod

/-- The volume of a tracer, where Envoy reads the file in it. -/
def Envoy.awaits (tracing : Config.Tracing) : List String :=
  if readsTracingFile tracing then [Artifact.tracingVolume] else []

/-! ## Steps -/

namespace Step

/-- The volumes that a step leaves to later ones. -/
def awaits : Step → List String
  | .envoy config .. => Envoy.awaits config.tracing
  | _ => []

theorem hasVolume_of_apply {step : Step} {pod changed : Pod}
    (applied : step.apply pod = .ok changed) (name : String) (present : pod.hasVolume name) :
    changed.hasVolume name :=
  (hasVolume_iff_of_apply applied name).mpr (Or.inl present)

theorem saysSame_of_apply {step : Step} {pod changed : Pod}
    (applied : step.apply pod = .ok changed) : Pod.SaysSame pod changed := by
  cases grows : step.onlyGrows with
  | true => exact (grown_of_apply grows applied).saysSame
  | false =>
      cases step with
      | interception config sizing node => exact Interception.saysSame_of_apply applied
      | gateway config identity mesh selected =>
          rcases Gateway.of_apply applied with ⟨none, rfl⟩ | ⟨declared, image, found, allowed, rfl⟩
          · exact fun _ _ => rfl
          · exact fun _ _ => rfl
      | _ => cases grows

/-- What one step of a run that succeeds brings is there in the end. -/
theorem hasVolume_run {steps : List Step} {step : Step} (member : step ∈ steps) {name : String}
    (brings : ∀ before after, step.apply before = .ok after → after.hasVolume name) {pod : Pod}
    (succeeds : (run steps pod).error = none) : (run steps pod).pod.hasVolume name := by
  induction steps generalizing pod with
  | nil => cases member
  | cons first steps ih =>
      rcases run_cons_of_success succeeds with ⟨changed, applied, rest⟩
      rw [rest] at succeeds ⊢
      rcases List.mem_cons.mp member with rfl | later
      · have kept : ∀ other ∈ steps, ∀ before after, before.hasVolume name →
            other.apply before = .ok after → after.hasVolume name :=
          fun _ _ _ _ present applied => hasVolume_of_apply applied name present
        exact run_preserves kept (brings pod changed applied)
      · exact ih later succeeds

end Step

end MeshSidecar
