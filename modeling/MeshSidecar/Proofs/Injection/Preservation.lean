import MeshSidecar.Proofs.Injection.Marker

namespace MeshSidecar

/-!
# What a pod declared

An injection for a node is allowed to put something behind the lists of a pod, to
set two of its fields where that is asked for, and to tell the network plugin how to
intercept.  All else that the pod declared comes out as it went in, wherever the
injection stops.  A pod without a specification is looked at as one with an empty
specification here.
-/

namespace Pod

theorem extend_extend {α : Type} (list : Option (List α)) (first second : List α) :
    extend (extend list first) second = extend list (first ++ second) := by
  cases first with
  | nil => rfl
  | cons head rest =>
      cases second with
      | nil => simp
      | cons => simp [extend]

end Pod

/-- The list with some entries behind it.  It is absent still, where it was and
nothing was added. -/
def Extended {α : Type} (before after : Option (List α)) : Prop :=
  ∃ added, after = Pod.extend before added

namespace Extended

variable {α : Type} {first second third : Option (List α)}

theorem refl (list : Option (List α)) : Extended list list :=
  ⟨[], rfl⟩

theorem extend (list : Option (List α)) (added : List α) : Extended list (Pod.extend list added) :=
  ⟨added, rfl⟩

theorem trans (early : Extended first second) (late : Extended second third) :
    Extended first third := by
  rcases early with ⟨earlier, rfl⟩
  rcases late with ⟨later, rfl⟩
  exact ⟨earlier ++ later, Pod.extend_extend first earlier later⟩

end Extended

/-- The security settings, where the group of the file system may have been set that
was not. -/
def GroupOnly (before after : Option PodSecurityContext) : Prop :=
  after = before ∨ before.bind PodSecurityContext.fsGroup = none ∧
    after = some { before.getD .empty with fsGroup := some proxyUid }

namespace GroupOnly

variable {first second third : Option PodSecurityContext}

/-- A group that has been set is not set again. -/
theorem trans (early : GroupOnly first second) (late : GroupOnly second third) :
    GroupOnly first third := by
  rcases early with rfl | ⟨unset, rfl⟩
  · exact late
  · rcases late with rfl | ⟨stillUnset, -⟩
    · exact Or.inr ⟨unset, rfl⟩
    · cases stillUnset

end GroupOnly

/-! ## Specifications -/

/-- What an injection may do to a specification when the containers and the init
containers that it adds have names among those given, in this order, and draining
Envoy takes `delay` seconds. -/
structure PodSpec.Preserved (names initNames : List String) (delay : UInt32)
    (before after : PodSpec) : Prop where
  containers : ∃ added, after.containers = before.containers ++ added ∧
    (added.map Container.name).Sublist names
  initContainers : ∃ added, after.initContainers = Pod.extend before.initContainers added ∧
    (added.map Container.name).Sublist initNames
  volumes : Extended before.volumes after.volumes
  imagePullSecrets : Extended before.imagePullSecrets after.imagePullSecrets
  readinessGates : Extended before.readinessGates after.readinessGates
  securityContext : GroupOnly before.securityContext after.securityContext
  gracePeriod : after.terminationGracePeriodSeconds = before.terminationGracePeriodSeconds ∨
    30 < delay ∧ after.terminationGracePeriodSeconds = some ↑delay.toNat
  rest : after.rest = before.rest

namespace PodSpec.Preserved

variable {names laterNames initNames laterInitNames : List String} {delay : UInt32}

theorem refl (names initNames : List String) (delay : UInt32) (spec : PodSpec) :
    Preserved names initNames delay spec spec where
  containers := ⟨[], (List.append_nil _).symm, List.nil_sublist _⟩
  initContainers := ⟨[], rfl, List.nil_sublist _⟩
  volumes := Extended.refl _
  imagePullSecrets := Extended.refl _
  readinessGates := Extended.refl _
  securityContext := Or.inl rfl
  gracePeriod := Or.inl rfl
  rest := rfl

theorem trans {first second third : PodSpec} (early : Preserved names initNames delay first second)
    (late : Preserved laterNames laterInitNames delay second third) :
    Preserved (names ++ laterNames) (initNames ++ laterInitNames) delay first third where
  containers := by
    rcases early.containers with ⟨earlier, there, named⟩
    rcases late.containers with ⟨later, behind, alsoNamed⟩
    refine ⟨earlier ++ later, ?_, ?_⟩
    · rw [behind, there, List.append_assoc]
    · rw [List.map_append]
      exact named.append alsoNamed
  initContainers := by
    rcases early.initContainers with ⟨earlier, there, named⟩
    rcases late.initContainers with ⟨later, behind, alsoNamed⟩
    refine ⟨earlier ++ later, ?_, ?_⟩
    · rw [behind, there, Pod.extend_extend]
    · rw [List.map_append]
      exact named.append alsoNamed
  volumes := early.volumes.trans late.volumes
  imagePullSecrets := early.imagePullSecrets.trans late.imagePullSecrets
  readinessGates := early.readinessGates.trans late.readinessGates
  securityContext := early.securityContext.trans late.securityContext
  gracePeriod := by
    rcases late.gracePeriod with same | ⟨outlasts, given⟩
    · rw [same]
      exact early.gracePeriod
    · exact Or.inr ⟨outlasts, given⟩
  rest := late.rest.trans early.rest

end PodSpec.Preserved

/-! ## Pods -/

namespace Pod

/-- What an injection may do to a pod.  Annotations are for the network plugin and
only those that it is told with. -/
structure Preserved (names initNames : List String) (delay : UInt32) (before after : Pod) :
    Prop where
  spec : PodSpec.Preserved names initNames delay before.specOrEmpty after.specOrEmpty
  metadata : after.metadata =
    { before.metadata with annotations := after.metadata.annotations }
  annotations : before.usesNetworkPlugin = false →
    after.metadata.annotations = before.metadata.annotations
  saysSame : SaysSame before after
  status : after.status = before.status

namespace Preserved

variable {names laterNames initNames laterInitNames : List String} {delay : UInt32}

theorem refl (names initNames : List String) (delay : UInt32) (pod : Pod) :
    Preserved names initNames delay pod pod where
  spec := .refl names initNames delay _
  metadata := rfl
  annotations := fun _ => rfl
  saysSame := fun _ _ => rfl
  status := rfl

theorem usesNetworkPlugin {before after : Pod}
    (preserved : Preserved names initNames delay before after) :
    after.usesNetworkPlugin = before.usesNetworkPlugin := by
  have labels : after.label? fargateProfileLabel = before.label? fargateProfileLabel := by
    rw [Pod.label?, preserved.metadata, Pod.label?]
  rw [Pod.usesNetworkPlugin, Pod.switch?, preserved.saysSame _ (by decide), labels]
  rfl

theorem trans {first second third : Pod} (early : Preserved names initNames delay first second)
    (late : Preserved laterNames laterInitNames delay second third) :
    Preserved (names ++ laterNames) (initNames ++ laterInitNames) delay first third where
  spec := early.spec.trans late.spec
  metadata := by
    rw [late.metadata, early.metadata]
  annotations := by
    intro noPlugin
    rw [late.annotations (early.usesNetworkPlugin.trans noPlugin), early.annotations noPlugin]
  saysSame := fun key other => (late.saysSame key other).trans (early.saysSame key other)
  status := late.status.trans early.status

theorem containers_prefix {before after : Pod}
    (preserved : Preserved names initNames delay before after) :
    before.containers <+: after.containers := by
  rcases preserved.spec.containers with ⟨added, behind, -⟩
  rw [containers_eq, containers_eq, behind]
  exact List.prefix_append _ _

theorem initContainers_prefix {before after : Pod}
    (preserved : Preserved names initNames delay before after) :
    before.initContainers <+: after.initContainers := by
  rcases preserved.spec.initContainers with ⟨added, behind, -⟩
  rw [initContainers_eq, initContainers_eq, behind, getD_extend]
  exact List.prefix_append _ _

end Preserved

/-! ## The changes that an injection makes -/

section

variable (delay : UInt32)

theorem preserved_mapSpec {names initNames : List String} {pod : Pod} {change : PodSpec → PodSpec}
    (spec : PodSpec.Preserved names initNames delay pod.specOrEmpty (change pod.specOrEmpty)) :
    Preserved names initNames delay pod (pod.mapSpec change) where
  spec := spec
  metadata := rfl
  annotations := fun _ => rfl
  saysSame := fun _ _ => rfl
  status := rfl

variable (pod : Pod)

theorem preserved_addContainer (container : Container) :
    Preserved [container.name] [] delay pod (pod.addContainer container) :=
  preserved_mapSpec delay
    { PodSpec.Preserved.refl [container.name] [] delay pod.specOrEmpty with
      containers := ⟨[container], rfl, List.Sublist.refl _⟩ }

theorem preserved_addInitContainer (container : Container) :
    Preserved [] [container.name] delay pod (pod.addInitContainer container) :=
  preserved_mapSpec delay
    { PodSpec.Preserved.refl [] [container.name] delay pod.specOrEmpty with
      initContainers := ⟨[container], rfl, List.Sublist.refl _⟩ }

theorem preserved_addVolumes (added : List Volume) :
    Preserved [] [] delay pod (pod.addVolumes added) :=
  preserved_mapSpec delay
    { PodSpec.Preserved.refl [] [] delay pod.specOrEmpty with
      volumes := Extended.extend .. }

theorem preserved_withCloudMapGate (node : VirtualNode) :
    Preserved [] [] delay pod (pod.withCloudMapGate node) := by
  rw [withCloudMapGate]
  split
  · exact preserved_mapSpec delay
      { PodSpec.Preserved.refl [] [] delay pod.specOrEmpty with
        readinessGates := Extended.extend _ [Artifact.cloudMapGate] }
  · exact .refl [] [] delay pod

theorem preserved_withPullSecret (enabled : Bool) :
    Preserved [] [] delay pod (pod.withPullSecret enabled) := by
  rw [withPullSecret]
  split
  · exact preserved_mapSpec delay
      { PodSpec.Preserved.refl [] [] delay pod.specOrEmpty with
        imagePullSecrets := Extended.extend _ [Artifact.pullSecret] }
  · exact .refl [] [] delay pod

theorem preserved_withFsGroup (enabled : Bool) :
    Preserved [] [] delay pod (pod.withFsGroup enabled) := by
  rw [withFsGroup]
  split
  · next needed =>
      simp only [needsFsGroup, Bool.and_eq_true, Option.isNone_iff_eq_none, fsGroup?_eq] at needed
      exact preserved_mapSpec delay
        { PodSpec.Preserved.refl [] [] delay pod.specOrEmpty with
          securityContext := Or.inr ⟨needed.2, rfl⟩ }
  · exact .refl [] [] delay pod

theorem preserved_withGracePeriod : Preserved [] [] delay pod (pod.withGracePeriod delay) := by
  rw [withGracePeriod]
  split
  · next outlasts =>
      exact preserved_mapSpec delay
        { PodSpec.Preserved.refl [] [] delay pod.specOrEmpty with
          gracePeriod := Or.inr ⟨of_decide_eq_true outlasts, rfl⟩ }
  · exact .refl [] [] delay pod

/-- The network plugin is told by annotations alone. -/
theorem preserved_delegate (settings : Interception) (plugin : pod.usesNetworkPlugin) :
    Preserved [] [] delay pod (settings.delegate pod) where
  spec := .refl [] [] delay _
  metadata := rfl
  annotations := by
    intro noPlugin
    rw [plugin] at noPlugin
    cases noPlugin
  saysSame := fun _ other => settings.annotation?_delegate_of_not_mem pod other
  status := rfl

end

end Pod

/-! ## Steps -/

namespace Step

/-- The names of the containers that a step may add. -/
def containerNames : Step → List String
  | .envoy .. => [Artifact.envoy]
  | .xray .. => [Artifact.xrayDaemon]
  | _ => []

/-- The names of the init containers that a step may add. -/
def initContainerNames : Step → List String
  | .interception .. => [Artifact.proxyInit]
  | .jaeger config => if config.enabled then [Artifact.jaegerInit] else []
  | .datadog config => if config.enabled then [Artifact.datadogInit] else []
  | _ => []

/-- The steps of an injection for a node that drains Envoy for `delay` seconds. -/
def IsForNode (delay : UInt32) : Step → Prop
  | .gateway .. => False
  | .gracePeriod preStopDelay => preStopDelay = delay
  | _ => True

variable {delay : UInt32}

theorem preserved_of_tracer {tracer : Tracer} (written : tracer.content = .ok tracer.text)
    {pod changed : Pod} (applied : tracer.apply pod = .ok changed) :
    Pod.Preserved [] (if tracer.enabled then [tracer.containerName] else []) delay pod changed := by
  rcases Tracer.of_apply written applied with ⟨marked, rfl⟩ | ⟨enabled, absent, rfl⟩
  · exact .refl _ _ delay changed
  · rw [if_pos enabled]
    exact (pod.preserved_addInitContainer delay tracer.initContainer).trans
      (Pod.preserved_addVolumes delay _ _)

theorem preserved_of_apply {step : Step} (forNode : step.IsForNode delay) {pod changed : Pod}
    (applied : step.apply pod = .ok changed) :
    Pod.Preserved step.containerNames step.initContainerNames delay pod changed := by
  cases step with
  | gateway config identity mesh selected => cases forNode
  | interception config sizing node =>
      rcases Interception.of_apply applied with ⟨plugin, rfl⟩ | ⟨noPlugin, present, rfl⟩ |
        ⟨noPlugin, absent, resources, sized, rfl⟩
      · have told := pod.preserved_delegate delay (Interception.ofPod config node pod) plugin
        exact told.trans (.refl [] [Artifact.proxyInit] delay _)
      · exact .refl _ _ delay changed
      · exact pod.preserved_addInitContainer delay
          ((Interception.ofPod config node pod).initContainer config.image resources)
  | envoy config identity mesh node =>
      rcases Envoy.of_apply applied with ⟨present, rfl⟩ | ⟨absent, wished, resources, -, -, rfl⟩
      · exact .refl _ _ delay changed
      · have added := pod.preserved_addContainer delay
          (Envoy.built config identity mesh node pod wished resources)
        exact added.trans (Pod.preserved_addVolumes delay _ (Envoy.volumes config.envoy pod wished))
  | xray config sizing region =>
      rcases Xray.of_apply applied with ⟨marked, rfl⟩ |
        ⟨enabled, absent, daemon, resources, settled, sized, rfl⟩
      · exact .refl _ _ delay changed
      · have named : [daemon.name] = (xray config sizing region).containerNames := by
          rw [Xray.configured_name settled]
          rfl
        rw [← named]
        exact pod.preserved_addContainer delay { daemon with resources := some resources }
  | jaeger config => exact preserved_of_tracer (Tracer.content_jaeger config) applied
  | datadog config => exact preserved_of_tracer (Tracer.content_datadog config) applied
  | cloudMapGate node =>
      cases applied
      exact pod.preserved_withCloudMapGate delay node
  | fsGroup enabled =>
      cases applied
      exact pod.preserved_withFsGroup delay enabled
  | pullSecret enabled =>
      cases applied
      exact pod.preserved_withPullSecret delay enabled
  | gracePeriod preStopDelay =>
      cases applied
      cases forNode
      exact pod.preserved_withGracePeriod delay

/-- Wherever a run stops, it preserves what the pod declared. -/
theorem preserved_run {steps : List Step} (forNode : ∀ step ∈ steps, step.IsForNode delay)
    (pod : Pod) : Pod.Preserved (steps.flatMap containerNames) (steps.flatMap initContainerNames)
      delay pod (run steps pod).pod := by
  induction steps generalizing pod with
  | nil => exact .refl [] [] delay pod
  | cons step steps ih =>
      rw [run]
      cases applied : step.apply pod with
      | error error => exact .refl _ _ delay pod
      | ok changed =>
          have early := preserved_of_apply (forNode step List.mem_cons_self) applied
          have late := ih (fun other member => forNode other (List.mem_cons_of_mem step member))
            changed
          exact early.trans late

end Step

/-! ## Injections -/

/-- The names of the init containers of all tracers that are enabled. -/
def Tracer.names (tracing : Config.Tracing) : List String :=
  (if tracing.jaeger.enabled then [Artifact.jaegerInit] else []) ++
    if tracing.datadog.enabled then [Artifact.datadogInit] else []

/-- Of any two ways of tracing one is disabled. -/
theorem Config.Valid.exclusive {config : Config} (valid : config.Valid) :
    (config.tracing.jaeger.enabled = false ∨ config.tracing.datadog.enabled = false) ∧
    (config.tracing.xray.enabled = false ∨ config.tracing.jaeger.enabled = false) ∧
    (config.tracing.xray.enabled = false ∨ config.tracing.datadog.enabled = false) := by
  have single := (config.valid_iff.mp valid).1
  rw [Config.Tracing.enabledCount] at single
  revert single
  cases config.tracing.xray.enabled <;> cases config.tracing.jaeger.enabled <;>
    cases config.tracing.datadog.enabled <;> decide

/-- The init container of at most one tracer is added. -/
theorem Tracer.names_of_valid {config : Config} (valid : config.Valid) :
    names config.tracing = [] ∨
      ∃ tracer ∈ [Artifact.jaegerInit, Artifact.datadogInit], names config.tracing = [tracer] := by
  rcases valid.exclusive.1 with noJaeger | noDatadog
  · cases datadog : config.tracing.datadog.enabled <;> simp [names, noJaeger, datadog]
  · cases jaeger : config.tracing.jaeger.enabled <;> simp [names, jaeger, noDatadog]

namespace Injector

variable (injector : Injector) (mesh : Mesh)

theorem preserved_run_nodeSteps (node : VirtualNode) (pod : Pod) :
    Pod.Preserved [Artifact.envoy, Artifact.xrayDaemon]
      ([Artifact.proxyInit] ++ Tracer.names injector.config.tracing)
      injector.config.envoy.preStopDelay pod (Step.run (injector.nodeSteps mesh node) pod).pod := by
  have forNode : ∀ step ∈ injector.nodeSteps mesh node,
      step.IsForNode injector.config.envoy.preStopDelay := by
    simp [nodeSteps, Step.IsForNode]
  have run := Step.preserved_run forNode pod
  have initNames : (injector.nodeSteps mesh node).flatMap Step.initContainerNames =
      [Artifact.proxyInit] ++ Tracer.names injector.config.tracing := by
    simp [nodeSteps, Step.initContainerNames, Tracer.names]
  rw [initNames] at run
  exact run

/-- Whatever a pod of a node declared is there after an injection, be it one that
failed: its containers followed by at most Envoy and the daemon, its init containers
followed by at most the one for interception and that of one tracer, and all else as
far as `Pod.Preserved` says. -/
theorem inject_preserves (node : VirtualNode) (pod : Pod) :
    ∃ tracer ∈ [Artifact.jaegerInit, Artifact.datadogInit],
      Pod.Preserved [Artifact.envoy, Artifact.xrayDaemon] [Artifact.proxyInit, tracer]
        injector.config.envoy.preStopDelay pod (injector.inject mesh (.node node) pod).pod := by
  by_cases wanted : injector.shouldInject pod
  · rw [inject, if_pos wanted]
    have run := injector.preserved_run_nodeSteps mesh node pod
    rcases Tracer.names_of_valid injector.valid with none | ⟨tracer, known, single⟩
    · rw [none] at run
      exact ⟨Artifact.jaegerInit, List.mem_cons_self,
        run.trans (.refl [] [Artifact.jaegerInit] _ _)⟩
    · rw [single] at run
      exact ⟨tracer, known, run⟩
  · rw [inject, if_neg wanted]
    exact ⟨Artifact.jaegerInit, List.mem_cons_self, .refl _ _ _ pod⟩

end Injector

end MeshSidecar
