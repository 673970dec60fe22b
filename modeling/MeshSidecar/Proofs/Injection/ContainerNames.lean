import MeshSidecar.Proofs.Injection.Inventory
import MeshSidecar.Proofs.Injection.Preservation

namespace MeshSidecar

/-!
# Names of containers

Containers and init containers share their names: a pod in which two of them have
one name is refused by the cluster.  Each step looks for its own artifact, which is
a container, an init container or the volume of a tracer, and not for other uses of
the name.  So the names that an injection adds are known beforehand from the pod, and
names stay distinct exactly when those are free.
-/

theorem lacking_sublist (name : String) (names : List String) :
    (lacking name names).Sublist [name] := by
  unfold lacking
  split
  · exact List.nil_sublist _
  · exact List.Sublist.refl _

/-- Other names make no difference to what is lacking. -/
theorem lacking_append {name : String} {added : List String} (other : name ∉ added)
    (names : List String) : lacking name (names ++ added) = lacking name names := by
  simp [lacking, other]

/-- The names of the containers and behind them those of the init containers. -/
def Pod.containerNames (pod : Pod) : List String :=
  pod.inventory.containers ++ pod.inventory.initContainers

/-! ## What tracing adds -/

namespace Step

/-- Steps that only prepare the pod. -/
def addsNoContainer (step : Step) : Prop :=
  ∀ pod, (step.additions pod).containers = [] ∧ (step.additions pod).initContainers = []

theorem names_run {steps : List Step} (none : ∀ step ∈ steps, step.addsNoContainer) (pod : Pod) :
    (run steps pod).pod.inventory.containers = pod.inventory.containers ∧
    (run steps pod).pod.inventory.initContainers = pod.inventory.initContainers := by
  have preserved : ∀ step ∈ steps, ∀ before after,
      (before.inventory.containers = pod.inventory.containers ∧
        before.inventory.initContainers = pod.inventory.initContainers) →
      step.apply before = .ok after →
      (after.inventory.containers = pod.inventory.containers ∧
        after.inventory.initContainers = pod.inventory.initContainers) := by
    intro step member before after same applied
    have nothing := none step member before
    rw [inventory_of_apply applied]
    simp [nothing, same]
  exact run_preserves preserved ⟨rfl, rfl⟩

/-- Of the tracers at most one is enabled, and its init container is added where the
volume is not there. -/
theorem names_of_tracers {tracing : Config.Tracing} (single : tracing.jaeger.enabled = false ∨
    tracing.datadog.enabled = false) {pod served changed : Pod}
    (jaeger : (jaeger tracing.jaeger).apply pod = .ok served)
    (datadog : (datadog tracing.datadog).apply served = .ok changed) :
    changed.inventory.containers = pod.inventory.containers ∧
    changed.inventory.initContainers = pod.inventory.initContainers ++
      if pod.hasVolume Artifact.tracingVolume then [] else Tracer.names tracing := by
  have first := inventory_of_apply jaeger
  have shown : served.hasVolume Artifact.tracingVolume =
      (pod.hasVolume Artifact.tracingVolume || tracing.jaeger.enabled) := by
    rw [Bool.eq_iff_iff, hasVolume_iff_of_apply jaeger]
    cases marked : pod.hasVolume Artifact.tracingVolume with
    | true => simp
    | false => simp [additions, Tracer.additions, Tracer.jaeger, marked]
  rw [inventory_of_apply datadog, first]
  constructor
  · simp [additions, Tracer.additions]
  · cases marked : pod.hasVolume Artifact.tracingVolume with
    | true => simp [additions, Tracer.additions, shown, marked]
    | false =>
        rw [marked, Bool.false_or] at shown
        rcases single with off | off <;>
          simp [additions, Tracer.additions, Tracer.jaeger, Tracer.datadog, Tracer.names, shown,
            marked, off]

end Step

/-! ## What an injection adds -/

namespace Injector

variable (injector : Injector)

/-- Whether the pod shows a volume of the name for tracers once Envoy is in it. -/
def showsTracing (selector : Selector) (pod : Pod) : Bool :=
  pod.hasVolume Artifact.tracingVolume ||
    match selector with
    | .node _ =>
        !pod.hasContainer Artifact.envoy && pod.secretNames.contains Artifact.tracingVolume
    | .gateway _ => false

/-- The names of the containers that an injection adds when it succeeds. -/
def addedContainers (selector : Selector) (pod : Pod) : List String :=
  (match selector with
    | .node _ => lacking Artifact.envoy pod.inventory.containers
    | .gateway _ => []) ++
  if injector.config.tracing.xray.enabled then
    lacking Artifact.xrayDaemon pod.inventory.containers
  else []

/-- The names of the init containers that an injection adds when it succeeds. -/
def addedInitContainers (selector : Selector) (pod : Pod) : List String :=
  (match selector with
    | .node _ =>
        if pod.usesNetworkPlugin then []
        else lacking Artifact.proxyInit pod.inventory.initContainers
    | .gateway _ => []) ++
  if showsTracing selector pod then [] else Tracer.names injector.config.tracing

end Injector

/-- The pod has the names of the other and those behind them. -/
structure NamesAdded (containers initContainers : List String) (before after : Pod) : Prop where
  containers : after.inventory.containers = before.inventory.containers ++ containers
  initContainers :
    after.inventory.initContainers = before.inventory.initContainers ++ initContainers

namespace NamesAdded

theorem of_apply {step : Step} {pod changed : Pod} (applied : step.apply pod = .ok changed) :
    NamesAdded (step.additions pod).containers (step.additions pod).initContainers pod changed := by
  constructor
  · rw [Step.inventory_of_apply applied, Inventory.containers_append]
  · rw [Step.inventory_of_apply applied, Inventory.initContainers_append]

theorem trans {containers initContainers laterContainers laterInit : List String}
    {first second third : Pod} (early : NamesAdded containers initContainers first second)
    (late : NamesAdded laterContainers laterInit second third) :
    NamesAdded (containers ++ laterContainers) (initContainers ++ laterInit) first third where
  containers := by rw [late.containers, early.containers, List.append_assoc]
  initContainers := by rw [late.initContainers, early.initContainers, List.append_assoc]

/-- Names that are added to distinct ones leave them distinct exactly when they are
free. -/
theorem nodup_iff {containers initContainers : List String} {before after : Pod}
    (added : NamesAdded containers initContainers before after)
    (distinct : before.containerNames.Nodup)
    (addedDistinct : (containers ++ initContainers).Nodup) :
    after.containerNames.Nodup ↔
      ∀ name ∈ containers ++ initContainers, name ∉ before.containerNames := by
  have sorted : after.containerNames.Perm
      (before.containerNames ++ (containers ++ initContainers)) := by
    rw [Pod.containerNames, added.containers, added.initContainers, Pod.containerNames,
      List.append_assoc, List.append_assoc]
    apply List.Perm.append_left
    rw [← List.append_assoc, ← List.append_assoc]
    exact List.perm_append_comm.append_right initContainers
  rw [sorted.nodup_iff]
  exact nodup_append_iff distinct addedDistinct

end NamesAdded

namespace Injector

variable (injector : Injector)

/-- What the steps for tracing add, and those that only prepare the pod after them. -/
theorem namesAdded_tracing {prepare : List Step} (none : ∀ step ∈ prepare, step.addsNoContainer)
    {pod : Pod} {steps : List Step}
    (tracing : steps = .xray injector.config.tracing.xray injector.config.sidecar
      injector.identity.awsRegion :: .jaeger injector.config.tracing.jaeger ::
      .datadog injector.config.tracing.datadog :: prepare)
    (succeeds : (Step.run steps pod).error = .none) :
    NamesAdded
      (if injector.config.tracing.xray.enabled then
        lacking Artifact.xrayDaemon pod.inventory.containers else [])
      (if pod.hasVolume Artifact.tracingVolume then [] else Tracer.names injector.config.tracing)
      pod (Step.run steps pod).pod := by
  subst tracing
  rcases Step.run_cons_of_success succeeds with ⟨traced, xray, rest⟩
  rw [rest] at succeeds ⊢
  rcases Step.run_cons_of_success succeeds with ⟨served, jaeger, rest⟩
  rw [rest] at succeeds ⊢
  rcases Step.run_cons_of_success succeeds with ⟨ready, datadog, rest⟩
  rw [rest]
  have prepared := Step.names_run none ready
  have daemon := Step.inventory_of_apply xray
  have tracers := Step.names_of_tracers injector.valid.exclusive.1 jaeger datadog
  have volume : traced.hasVolume Artifact.tracingVolume = pod.hasVolume Artifact.tracingVolume := by
    rw [Bool.eq_iff_iff, Step.hasVolume_iff_of_apply xray]
    simp [Step.additions]
  constructor
  · rw [prepared.1, tracers.1, daemon]
    rfl
  · rw [prepared.2, tracers.2, daemon, volume]
    simp [Step.additions]

theorem tracingVolume_not_mem_missingName (envoy : Config.Envoy) (pod : Pod) :
    Artifact.tracingVolume ∉ Sds.missingName envoy pod := by
  intro member
  have isSocket := (Sds.mem_missingName.mp member).2
  revert isSocket
  decide

/-- Among the volumes that come with Envoy, only that of a secret can have the name. -/
theorem hasVolume_of_envoy {config : Config} {identity : Identity} {mesh : Mesh}
    {node : VirtualNode} {pod changed : Pod}
    (applied : (Step.envoy config identity mesh node).apply pod = .ok changed) :
    changed.hasVolume Artifact.tracingVolume = showsTracing (.node node) pod := by
  rw [Bool.eq_iff_iff, Step.hasVolume_iff_of_apply applied, showsTracing, Step.additions]
  cases pod.hasContainer Artifact.envoy with
  | true => simp
  | false => simp [tracingVolume_not_mem_missingName]

theorem hasVolume_of_gateway {config : Config} {identity : Identity} {mesh : Mesh}
    {gateway : VirtualGateway} {pod changed : Pod}
    (applied : (Step.gateway config identity mesh gateway).apply pod = .ok changed) :
    changed.hasVolume Artifact.tracingVolume = showsTracing (.gateway gateway) pod := by
  rw [Bool.eq_iff_iff, Step.hasVolume_iff_of_apply applied, showsTracing, Step.additions]
  cases (Gateway.declared? pod).isSome with
  | true => simp [tracingVolume_not_mem_missingName]
  | false => simp

variable (mesh : Mesh)

theorem namesAdded_nodeSteps (node : VirtualNode) {pod : Pod}
    (succeeds : (Step.run (injector.nodeSteps mesh node) pod).error = none) :
    NamesAdded (injector.addedContainers (.node node) pod)
      (injector.addedInitContainers (.node node) pod) pod
      (Step.run (injector.nodeSteps mesh node) pod).pod := by
  rcases Step.run_cons_of_success succeeds with ⟨intercepted, interception, rest⟩
  have first := NamesAdded.of_apply interception
  rw [nodeSteps, rest] at succeeds
  rw [nodeSteps, rest]
  rcases Step.run_cons_of_success succeeds with ⟨served, envoy, late⟩
  have second := NamesAdded.of_apply envoy
  rw [late] at succeeds
  have none : ∀ step ∈ (injector.nodeSteps mesh node).drop 5, step.addsNoContainer := by
    intro step member pod
    simp only [nodeSteps, List.drop, List.mem_cons, List.not_mem_nil, or_false] at member
    rcases member with rfl | rfl | rfl | rfl <;> exact ⟨rfl, rfl⟩
  have third := injector.namesAdded_tracing none rfl succeeds
  rw [late]
  -- What the later steps look at is given by the pod as it was first.
  have shown : served.hasVolume Artifact.tracingVolume = showsTracing (.node node) pod := by
    have same := Interception.saysSame_of_apply interception
    have volumes := Interception.volumes_of_apply interception
    have present := Interception.hasContainer_of_apply interception Artifact.envoy
    rw [hasVolume_of_envoy envoy, showsTracing, Pod.hasVolume, volumes, present, same.secretNames]
    rfl
  have containers : intercepted.inventory.containers = pod.inventory.containers :=
    first.containers.trans (List.append_nil _)
  have daemon : lacking Artifact.xrayDaemon served.inventory.containers =
      lacking Artifact.xrayDaemon pod.inventory.containers := by
    have other : Artifact.xrayDaemon ∉ lacking Artifact.envoy intercepted.inventory.containers := by
      intro member
      have isEnvoy := (lacking_sublist _ _).subset member
      revert isEnvoy
      decide
    rw [second.containers, containers]
    exact lacking_append other _
  have all := (first.trans second).trans third
  rw [shown, daemon] at all
  constructor
  · refine all.containers.trans ?_
    rw [addedContainers, ← containers]
    rfl
  · refine all.initContainers.trans ?_
    simp [addedInitContainers, Step.additions]

theorem namesAdded_gatewaySteps (gateway : VirtualGateway) {pod : Pod}
    (succeeds : (Step.run (injector.gatewaySteps mesh gateway) pod).error = none) :
    NamesAdded (injector.addedContainers (.gateway gateway) pod)
      (injector.addedInitContainers (.gateway gateway) pod) pod
      (Step.run (injector.gatewaySteps mesh gateway) pod).pod := by
  rcases Step.run_cons_of_success succeeds with ⟨filled, fill, rest⟩
  have first := NamesAdded.of_apply fill
  rw [gatewaySteps, rest] at succeeds
  have none : ∀ step ∈ ([] : List Step), step.addsNoContainer := by
    intro step member
    cases member
  have second := injector.namesAdded_tracing none rfl succeeds
  have containers : filled.inventory.containers = pod.inventory.containers :=
    first.containers.trans (List.append_nil _)
  have all := first.trans second
  rw [gatewaySteps, rest]
  rw [hasVolume_of_gateway fill, containers] at all
  exact all

theorem namesAdded_steps (selector : Selector) {pod : Pod}
    (succeeds : (Step.run (injector.steps mesh selector) pod).error = none) :
    NamesAdded (injector.addedContainers selector pod)
      (injector.addedInitContainers selector pod) pod
      (Step.run (injector.steps mesh selector) pod).pod := by
  cases selector with
  | node node => exact injector.namesAdded_nodeSteps mesh node succeeds
  | gateway gateway => exact injector.namesAdded_gatewaySteps mesh gateway succeeds

theorem addedContainers_sublist (selector : Selector) (pod : Pod) :
    (injector.addedContainers selector pod).Sublist [Artifact.envoy, Artifact.xrayDaemon] := by
  have daemon : (if injector.config.tracing.xray.enabled then
      lacking Artifact.xrayDaemon pod.inventory.containers else []).Sublist
        [Artifact.xrayDaemon] := by
    split
    · exact lacking_sublist _ _
    · exact List.nil_sublist _
  cases selector with
  | node node => exact (lacking_sublist Artifact.envoy _).append daemon
  | gateway gateway => exact (List.nil_sublist [Artifact.envoy]).append daemon

theorem addedInitContainers_sublist (selector : Selector) (pod : Pod) :
    (injector.addedInitContainers selector pod).Sublist
      ([Artifact.proxyInit] ++ Tracer.names injector.config.tracing) := by
  have tracers : (if showsTracing selector pod then [] else
      Tracer.names injector.config.tracing).Sublist (Tracer.names injector.config.tracing) := by
    split
    · exact List.nil_sublist _
    · exact List.Sublist.refl _
  cases selector with
  | gateway gateway => exact (List.nil_sublist [Artifact.proxyInit]).append tracers
  | node node =>
      have interception : (if pod.usesNetworkPlugin then [] else
          lacking Artifact.proxyInit pod.inventory.initContainers).Sublist
            [Artifact.proxyInit] := by
        split
        · exact List.nil_sublist _
        · exact lacking_sublist _ _
      exact interception.append tracers

/-- No two of the names that are added are the same. -/
theorem nodup_added (selector : Selector) (pod : Pod) :
    (injector.addedContainers selector pod ++
      injector.addedInitContainers selector pod).Nodup := by
  apply ((injector.addedContainers_sublist selector pod).append
    (injector.addedInitContainers_sublist selector pod)).nodup
  rcases Tracer.names_of_valid injector.valid with none | ⟨tracer, known, single⟩
  · rw [none]
    decide
  · rw [single]
    simp only [List.mem_cons, List.not_mem_nil, or_false] at known
    rcases known with rfl | rfl <;> decide

/-- The names that an injection adds when it succeeds. -/
def addedNames (selector : Selector) (pod : Pod) : List String :=
  injector.addedContainers selector pod ++ injector.addedInitContainers selector pod

theorem nodup_run_steps_iff (selector : Selector) {pod : Pod}
    (succeeds : (Step.run (injector.steps mesh selector) pod).error = none)
    (distinct : pod.containerNames.Nodup) :
    (Step.run (injector.steps mesh selector) pod).pod.containerNames.Nodup ↔
      ∀ name ∈ injector.addedNames selector pod, name ∉ pod.containerNames :=
  (injector.namesAdded_steps mesh selector succeeds).nodup_iff distinct
    (injector.nodup_added selector pod)

/-- An injection that succeeds puts just these names behind those of the pod, if it does
anything, and the names of all containers are distinct then exactly when none of the
names that it adds was one of theirs. -/
theorem containers_distinct_iff (selector : Selector) {pod : Pod}
    (succeeds : (injector.inject mesh selector pod).error = none)
    (distinct : pod.containerNames.Nodup) :
    (injector.shouldInject pod →
      NamesAdded (injector.addedContainers selector pod)
        (injector.addedInitContainers selector pod) pod
        (injector.inject mesh selector pod).pod) ∧
    ((injector.inject mesh selector pod).pod.containerNames.Nodup ↔
      (injector.shouldInject pod →
        ∀ name ∈ injector.addedNames selector pod, name ∉ pod.containerNames)) := by
  by_cases wanted : injector.shouldInject pod
  · rw [inject, if_pos wanted] at succeeds ⊢
    constructor
    · exact fun _ => injector.namesAdded_steps mesh selector succeeds
    · exact (injector.nodup_run_steps_iff mesh selector succeeds distinct).trans
        (imp_iff_right wanted).symm
  · rw [inject, if_neg wanted]
    constructor
    · exact fun isWanted => absurd isWanted wanted
    · exact iff_of_true distinct fun isWanted => absurd isWanted wanted

/-- A pod with one init container. -/
def initializing (name : String) : Pod :=
  Pod.empty.addInitContainer
    { name, image := none, command := none, args := none, env := none, volumeMounts := none
      resources := none, readinessProbe := none, rest := [] }

/-- An init container of another name is no obstacle. -/
theorem containers_distinct_of_initializing :
    let injector : Injector := ⟨{}, {}, by decide⟩
    let selector := Selector.node { name := "node", namespaceName := "default" }
    let pod := initializing "setup"
    (injector.inject ⟨"mesh", "mesh", none⟩ selector pod).error = none ∧
    pod.containerNames.Nodup ∧
    (injector.inject ⟨"mesh", "mesh", none⟩ selector pod).pod.containerNames.Nodup := by
  intro injector selector pod
  have succeeds : (injector.inject ⟨"mesh", "mesh", none⟩ selector pod).error = none := by
    rw [inject, if_pos (by decide)]
    refine (injector.error_run_nodeSteps _ _ (by decide) (by decide) (by decide)).trans ?_
    decide
  have distinct : pod.containerNames.Nodup := by
    decide
  refine ⟨succeeds, distinct, ?_⟩
  exact (injector.containers_distinct_iff _ selector succeeds distinct).2.mpr (by decide)

/-- An init container that is called as Envoy does not keep Envoy out. -/
theorem containers_repeated_of_initializing :
    let injector : Injector := ⟨{}, {}, by decide⟩
    let selector := Selector.node { name := "node", namespaceName := "default" }
    let pod := initializing "envoy"
    (injector.inject ⟨"mesh", "mesh", none⟩ selector pod).error = none ∧
    pod.containerNames.Nodup ∧
    ¬ (injector.inject ⟨"mesh", "mesh", none⟩ selector pod).pod.containerNames.Nodup := by
  intro injector selector pod
  have wanted : injector.shouldInject pod := by
    decide
  have succeeds : (Step.run (injector.steps ⟨"mesh", "mesh", none⟩ selector) pod).error = none := by
    refine (injector.error_run_nodeSteps _ _ (by decide) (by decide) (by decide)).trans ?_
    decide
  have distinct : pod.containerNames.Nodup := by
    decide
  have occupied : ¬ ∀ name ∈ injector.addedNames selector pod, name ∉ pod.containerNames := by
    decide
  simp only [inject, wanted, if_true]
  refine ⟨succeeds, distinct, ?_⟩
  rw [injector.nodup_run_steps_iff _ selector succeeds distinct]
  exact occupied

end Injector

end MeshSidecar
