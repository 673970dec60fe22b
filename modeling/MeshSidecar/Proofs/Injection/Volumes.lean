import MeshSidecar.Proofs.Injection.Acceptance

namespace MeshSidecar

/-!
# Names of volumes

A pod with two volumes of one name is refused by the cluster.  The volume of a
tracer is added only where its name is free.  The volumes of secrets and of the
socket are added without looking for their names, so names stay distinct exactly
when those happen to be free.
-/

namespace Pod

/-- The names of the volumes in order. -/
def volumeNames (pod : Pod) : List String :=
  pod.volumes.map Volume.name

theorem mem_volumeNames (pod : Pod) (name : String) :
    name ∈ pod.volumeNames ↔ pod.hasVolume name := by
  simp [volumeNames, hasVolume]

theorem volumeNames_addVolumes (pod : Pod) (added : List Volume) :
    (pod.addVolumes added).volumeNames = pod.volumeNames ++ added.map Volume.name := by
  simp [volumeNames, volumes_eq, addVolumes]

/-- The names of the secrets that the pod asks to mount. -/
def secretNames (pod : Pod) : List String :=
  match pod.pairs Annotations.secretMounts .secretMount with
  | .ok secrets => secrets.keys
  | .error _ => []

theorem nodup_secretNames (pod : Pod) : pod.secretNames.Nodup := by
  unfold secretNames
  split
  · next secrets _ => exact secrets.nodup_keys
  · exact List.nodup_nil

end Pod

/-- The name of the volume for the socket, where it has to be shown. -/
def Sds.missingName (envoy : Config.Envoy) (pod : Pod) : List String :=
  (Sds.missingPath? envoy pod).toList.map fun _ => Artifact.sdsVolume

namespace Pod.SaysSame

variable {before after : Pod}

theorem secretNames (same : SaysSame before after) : after.secretNames = before.secretNames := by
  rw [Pod.secretNames, same.asksSame.pairs (by decide), Pod.secretNames]

theorem missingName (same : SaysSame before after) (volumes : after.volumes = before.volumes)
    (envoy : Config.Envoy) : Sds.missingName envoy after = Sds.missingName envoy before := by
  have shown : ∀ path, after.mountsHostPath path = before.mountsHostPath path := by
    intro path
    rw [Pod.mountsHostPath, volumes, Pod.mountsHostPath]
  rw [Sds.missingName, same.asksSame.missingPath shown, Sds.missingName]

end Pod.SaysSame

/-! ## Steps that look for names -/

namespace Step

/-- All steps but those that add Envoy or fill it in. -/
def asksForNames : Step → Bool
  | .envoy .. => false
  | .gateway .. => false
  | _ => true

theorem nodup_of_tracer {tracer : Tracer} (written : tracer.content = .ok tracer.text)
    {pod changed : Pod} (applied : tracer.apply pod = .ok changed) :
    changed.volumeNames.Nodup ↔ pod.volumeNames.Nodup := by
  rcases Tracer.of_apply written applied with ⟨marked, rfl⟩ | ⟨enabled, absent, rfl⟩
  · rfl
  · have free : Artifact.tracingVolume ∉ pod.volumeNames := by
      rw [Pod.mem_volumeNames, Bool.not_eq_true]
      exact absent
    have added : ([Tracer.volume].map Volume.name) = [Artifact.tracingVolume] := rfl
    have before : (pod.addInitContainer tracer.initContainer).volumeNames = pod.volumeNames :=
      congrArg (List.map Volume.name) (Pod.volumes_mapSpec rfl)
    rw [Pod.volumeNames_addVolumes, before, added, List.nodup_append]
    constructor
    · exact fun distinct => distinct.1
    · intro distinct
      refine ⟨distinct, by simp, ?_⟩
      intro name member other single same
      rw [List.mem_singleton] at single
      rw [same, single] at member
      exact free member

theorem nodup_of_apply {step : Step} (asks : step.asksForNames) {pod changed : Pod}
    (applied : step.apply pod = .ok changed) :
    changed.volumeNames.Nodup ↔ pod.volumeNames.Nodup := by
  have unchanged : changed.volumes = pod.volumes →
      (changed.volumeNames.Nodup ↔ pod.volumeNames.Nodup) := by
    intro same
    rw [Pod.volumeNames, same, Pod.volumeNames]
  cases step with
  | envoy config identity mesh node => cases asks
  | gateway config identity mesh selected => cases asks
  | interception config sizing node => exact unchanged (Interception.volumes_of_apply applied)
  | xray config sizing region =>
      rcases Xray.of_apply applied with ⟨marked, rfl⟩ |
        ⟨enabled, absent, daemon, resources, settled, sized, rfl⟩
      · rfl
      · exact unchanged (Pod.volumes_mapSpec rfl)
  | jaeger config => exact nodup_of_tracer (Tracer.content_jaeger config) applied
  | datadog config => exact nodup_of_tracer (Tracer.content_datadog config) applied
  | cloudMapGate node =>
      cases applied
      exact unchanged (pod.volumes_withCloudMapGate node)
  | fsGroup enabled =>
      cases applied
      exact unchanged (pod.volumes_withFsGroup enabled)
  | pullSecret enabled =>
      cases applied
      exact unchanged (pod.volumes_withPullSecret enabled)
  | gracePeriod preStopDelay =>
      cases applied
      exact unchanged (pod.volumes_withGracePeriod preStopDelay)

/-- Steps that look for names neither lose nor restore their distinctness. -/
theorem nodup_run {steps : List Step} (asks : ∀ step ∈ steps, step.asksForNames) (pod : Pod) :
    (run steps pod).pod.volumeNames.Nodup ↔ pod.volumeNames.Nodup := by
  have preserved : ∀ step ∈ steps, ∀ before after,
      (before.volumeNames.Nodup ↔ pod.volumeNames.Nodup) → step.apply before = .ok after →
      (after.volumeNames.Nodup ↔ pod.volumeNames.Nodup) := by
    intro step member before after same applied
    exact (nodup_of_apply (asks step member) applied).trans same
  exact run_preserves preserved Iff.rfl

end Step

/-! ## Steps that do not -/

namespace Envoy

theorem secretNames_of_wishes {pod : Pod} {wished : Wishes} (wanted : wishes pod = .ok wished) :
    pod.secretNames = wished.secrets.keys := by
  rw [Pod.secretNames, (of_wishes wanted).1]

/-- The volumes that come with Envoy stand behind those of the pod. -/
theorem volumeNames_of_apply {config : Config} {identity : Identity} {mesh : Mesh}
    {node : VirtualNode} {pod changed : Pod} (absent : pod.hasContainer Artifact.envoy = false)
    (applied : apply config identity mesh node pod = .ok changed) :
    changed.volumeNames =
      pod.volumeNames ++ (pod.secretNames ++ Sds.missingName config.envoy pod) := by
  rcases of_apply applied with ⟨present, -⟩ | ⟨-, wished, resources, wanted, -, rfl⟩
  · rw [present] at absent
    cases absent
  · have before : ∀ container, (pod.addContainer container).volumeNames = pod.volumeNames :=
      fun _ => congrArg (List.map Volume.name) (Pod.volumes_mapSpec rfl)
    have added : (volumes config.envoy pod wished).map Volume.name =
        pod.secretNames ++ Sds.missingName config.envoy pod := by
      rw [secretNames_of_wishes wanted, volumes, List.map_append, List.map_map, List.map_map]
      have secrets : Volume.name ∘ secretVolume = id := rfl
      rw [secrets, List.map_id]
      rfl
    rw [Pod.volumeNames_addVolumes, before, added]

end Envoy

namespace Gateway

theorem volumeNames_of_apply {config : Config} {identity : Identity} {mesh : Mesh}
    {gateway : VirtualGateway} {pod changed : Pod} (declared : (declared? pod).isSome)
    (applied : apply config identity mesh gateway pod = .ok changed) :
    changed.volumeNames = pod.volumeNames ++ Sds.missingName config.envoy pod := by
  rcases of_apply applied with ⟨none, rfl⟩ | ⟨container, image, found, allowed, rfl⟩
  · rw [none] at declared
    cases declared
  · rw [Pod.volumeNames, volumes_filled, List.map_append, List.map_map]
    rfl

end Gateway

/-- Names that are put behind distinct ones leave them distinct when they are
distinct themselves and free. -/
theorem nodup_append_iff {names added : List String} (distinct : names.Nodup)
    (addedDistinct : added.Nodup) :
    (names ++ added).Nodup ↔ ∀ name ∈ added, name ∉ names := by
  rw [List.nodup_append]
  constructor
  · rintro ⟨_, _, apart⟩ name member present
    exact apart name present name member rfl
  · intro free
    refine ⟨distinct, addedDistinct, ?_⟩
    intro name present other member same
    rw [same] at present
    exact free other member present

namespace Sds

theorem nodup_missingName (envoy : Config.Envoy) (pod : Pod) : (missingName envoy pod).Nodup := by
  unfold missingName
  cases missingPath? envoy pod with
  | none => simp
  | some path => simp

theorem mem_missingName {envoy : Config.Envoy} {pod : Pod} {name : String} :
    name ∈ missingName envoy pod ↔
      (missingPath? envoy pod).isSome ∧ name = Artifact.sdsVolume := by
  unfold missingName
  cases missingPath? envoy pod with
  | none => simp
  | some path => simp

end Sds

/-! ## Whole injections -/

namespace Step

/-- A run that succeeds is its first step and a run that succeeds. -/
theorem run_cons_of_success {step : Step} {steps : List Step} {pod : Pod}
    (succeeds : (run (step :: steps) pod).error = none) :
    ∃ changed, step.apply pod = .ok changed ∧ run (step :: steps) pod = run steps changed := by
  rw [run] at succeeds
  cases applied : step.apply pod with
  | error error =>
      rw [applied] at succeeds
      cases succeeds
  | ok changed =>
      refine ⟨changed, rfl, ?_⟩
      rw [run, applied]

end Step

namespace Injector

variable (injector : Injector)

/-- The names of all volumes that Envoy comes with are free, and no two of them
are the same. -/
structure NamesFree (pod : Pod) : Prop where
  secrets : ∀ name ∈ pod.secretNames, pod.hasVolume name = false
  socket : (Sds.missingPath? injector.config.envoy pod).isSome →
    pod.hasVolume Artifact.sdsVolume = false ∧ Artifact.sdsVolume ∉ pod.secretNames

/-- What has to hold of a pod for the names of its volumes to stay distinct. -/
def KeepsNames (selector : Selector) (pod : Pod) : Prop :=
  injector.shouldInject pod →
    match selector with
    | .node _ => pod.hasContainer Artifact.envoy = false → injector.NamesFree pod
    | .gateway _ =>
        (Gateway.declared? pod).isSome → (Sds.missingPath? injector.config.envoy pod).isSome →
          pod.hasVolume Artifact.sdsVolume = false

/-- The names of secrets and of the socket stand behind those of the pod without
repetition exactly when they are free. -/
theorem nodup_with_envoy_iff {pod : Pod} (distinct : pod.volumeNames.Nodup) :
    (pod.volumeNames ++ (pod.secretNames ++ Sds.missingName injector.config.envoy pod)).Nodup ↔
      injector.NamesFree pod := by
  have missing := Sds.nodup_missingName injector.config.envoy pod
  rw [← List.append_assoc]
  constructor
  · intro all
    have early := (List.nodup_append.mp all).1
    have secretsFree := (nodup_append_iff distinct pod.nodup_secretNames).mp early
    have socketFree := (nodup_append_iff early missing).mp all
    constructor
    · intro name member
      rw [← Bool.not_eq_true, ← Pod.mem_volumeNames]
      exact secretsFree name member
    · intro isMissing
      have free := socketFree _ (Sds.mem_missingName.mpr ⟨isMissing, rfl⟩)
      rw [List.mem_append, not_or, Pod.mem_volumeNames, Bool.not_eq_true] at free
      exact free
  · intro free
    have early : (pod.volumeNames ++ pod.secretNames).Nodup := by
      apply (nodup_append_iff distinct pod.nodup_secretNames).mpr
      intro name member
      rw [Pod.mem_volumeNames, Bool.not_eq_true]
      exact free.secrets name member
    apply (nodup_append_iff early missing).mpr
    intro name member
    rcases Sds.mem_missingName.mp member with ⟨isMissing, rfl⟩
    rw [List.mem_append, not_or, Pod.mem_volumeNames, Bool.not_eq_true]
    exact free.socket isMissing

variable (mesh : Mesh)

/-- In a pod of a node, names can collide only where Envoy is added. -/
theorem nodup_run_nodeSteps_iff (node : VirtualNode) {pod : Pod}
    (succeeds : (Step.run (injector.nodeSteps mesh node) pod).error = none)
    (distinct : pod.volumeNames.Nodup) :
    (Step.run (injector.nodeSteps mesh node) pod).pod.volumeNames.Nodup ↔
      (pod.hasContainer Artifact.envoy = false → injector.NamesFree pod) := by
  rcases Step.run_cons_of_success succeeds with ⟨intercepted, interception, rest⟩
  have same := Interception.saysSame_of_apply interception
  have volumes := Interception.volumes_of_apply interception
  have names : intercepted.volumeNames = pod.volumeNames := congrArg (List.map Volume.name) volumes
  have containers := Interception.hasContainer_of_apply interception Artifact.envoy
  have secrets := same.secretNames
  have missing := same.missingName volumes injector.config.envoy
  rw [nodeSteps, rest] at succeeds
  rw [nodeSteps, rest]
  rcases Step.run_cons_of_success succeeds with ⟨served, envoy, late⟩
  have asks : ∀ step ∈ (injector.nodeSteps mesh node).drop 2, step.asksForNames := by
    intro step member
    simp only [nodeSteps, List.drop, List.mem_cons, List.not_mem_nil, or_false] at member
    rcases member with rfl | rfl | rfl | rfl | rfl | rfl | rfl <;> rfl
  rw [late]
  refine (Step.nodup_run asks served).trans ?_
  cases present : pod.hasContainer Artifact.envoy with
  | true =>
      rw [present] at containers
      have unchanged : served = intercepted := by
        rw [Step.apply, Envoy.apply_of_present containers] at envoy
        cases envoy
        rfl
      simp [unchanged, names, distinct]
  | false =>
      rw [present] at containers
      rw [Envoy.volumeNames_of_apply containers envoy, names, secrets, missing,
        injector.nodup_with_envoy_iff distinct]
      simp

/-- In a pod of a gateway, names can collide only where the container is filled in. -/
theorem nodup_run_gatewaySteps_iff (gateway : VirtualGateway) {pod : Pod}
    (succeeds : (Step.run (injector.gatewaySteps mesh gateway) pod).error = none)
    (distinct : pod.volumeNames.Nodup) :
    (Step.run (injector.gatewaySteps mesh gateway) pod).pod.volumeNames.Nodup ↔
      ((Gateway.declared? pod).isSome → (Sds.missingPath? injector.config.envoy pod).isSome →
        pod.hasVolume Artifact.sdsVolume = false) := by
  rcases Step.run_cons_of_success succeeds with ⟨filled, fill, late⟩
  have asks : ∀ step ∈ (injector.gatewaySteps mesh gateway).drop 1, step.asksForNames := by
    intro step member
    simp only [gatewaySteps, List.drop, List.mem_cons, List.not_mem_nil, or_false] at member
    rcases member with rfl | rfl | rfl <;> rfl
  rw [gatewaySteps, late]
  refine (Step.nodup_run asks filled).trans ?_
  cases declared : Gateway.declared? pod with
  | none =>
      have unchanged : filled = pod := by
        rw [Step.apply, Gateway.apply_eq, declared] at fill
        cases fill
        rfl
      simp [unchanged, distinct]
  | some container =>
      have isDeclared : (Gateway.declared? pod).isSome := by
        rw [declared]
        rfl
      rw [Gateway.volumeNames_of_apply isDeclared fill,
        nodup_append_iff distinct (Sds.nodup_missingName _ _)]
      simp only [Sds.mem_missingName, Pod.mem_volumeNames, Bool.not_eq_true]
      simp

/-- After an injection that succeeds, the names of the volumes are distinct exactly
when those that are added without a look at the pod were free. -/
theorem volumes_distinct_iff (selector : Selector) {pod : Pod}
    (succeeds : (injector.inject mesh selector pod).error = none)
    (distinct : pod.volumeNames.Nodup) :
    (injector.inject mesh selector pod).pod.volumeNames.Nodup ↔
      injector.KeepsNames selector pod := by
  by_cases wanted : injector.shouldInject pod
  · rw [inject, if_pos wanted] at succeeds ⊢
    refine Iff.trans ?_ (imp_iff_right wanted).symm
    cases selector with
    | node node => exact injector.nodup_run_nodeSteps_iff mesh node succeeds distinct
    | gateway gateway => exact injector.nodup_run_gatewaySteps_iff mesh gateway succeeds distinct
  · rw [inject, if_neg wanted]
    exact iff_of_true distinct fun isWanted => absurd isWanted wanted

/-- A pod that shows one secret itself and asks for one to be mounted. -/
def mounting (shown asked : String) : Pod :=
  { Pod.empty with spec := some { PodSpec.empty with
    volumes := some [Envoy.secretVolume shown] } }.annotate
      Annotations.secretMounts (asked ++ ":/certs")

/-- A volume for another secret stays the only one of its name. -/
theorem volumes_distinct_of_mounting :
    let injector : Injector := ⟨{}, {}, by decide⟩
    let selector := Selector.node { name := "node", namespaceName := "default" }
    let pod := mounting "data" "tls"
    (injector.inject ⟨"mesh", "mesh", none⟩ selector pod).error = none ∧
    pod.volumeNames.Nodup ∧
    (injector.inject ⟨"mesh", "mesh", none⟩ selector pod).pod.volumeNames.Nodup := by
  intro injector selector pod
  have succeeds : (injector.inject ⟨"mesh", "mesh", none⟩ selector pod).error = none := by
    rw [inject, if_pos (by decide)]
    refine (injector.error_run_nodeSteps _ _ (by decide) (by decide) (by decide)).trans ?_
    decide
  have distinct : pod.volumeNames.Nodup := by
    decide
  refine ⟨succeeds, distinct, (injector.volumes_distinct_iff _ selector succeeds distinct).mpr ?_⟩
  intro _ _
  constructor
  · decide
  · decide

/-- A volume for the same secret gets a second one of its name. -/
theorem volumes_repeated_of_mounting :
    let injector : Injector := ⟨{}, {}, by decide⟩
    let selector := Selector.node { name := "node", namespaceName := "default" }
    let pod := mounting "tls" "tls"
    (injector.inject ⟨"mesh", "mesh", none⟩ selector pod).error = none ∧
    pod.volumeNames.Nodup ∧
    ¬ (injector.inject ⟨"mesh", "mesh", none⟩ selector pod).pod.volumeNames.Nodup := by
  intro injector selector pod
  have wanted : injector.shouldInject pod := by
    decide
  have succeeds : (Step.run (injector.nodeSteps ⟨"mesh", "mesh", none⟩
      { name := "node", namespaceName := "default" }) pod).error = none := by
    refine (injector.error_run_nodeSteps _ _ (by decide) (by decide) (by decide)).trans ?_
    decide
  have distinct : pod.volumeNames.Nodup := by
    decide
  have occupied : ¬ injector.NamesFree pod := by
    intro free
    have absent := free.secrets "tls" (by decide)
    revert absent
    decide
  simp only [inject, wanted, if_true]
  refine ⟨succeeds, distinct, ?_⟩
  intro stays
  exact occupied ((injector.nodup_run_nodeSteps_iff _ _ succeeds distinct).mp stays (by decide))

end Injector

end MeshSidecar
