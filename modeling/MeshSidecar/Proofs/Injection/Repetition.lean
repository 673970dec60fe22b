import MeshSidecar.Proofs.Injection.Marker

namespace MeshSidecar

/-!
# Repeated injections

A pod may pass the injector several times.  Every step leaves a marker and is
settled exactly when the pod bears it.  What later steps do lets the pod grow,
which keeps the markers of earlier ones, so an injection that is repeated does
nothing more, and one that failed fails in the same way again.
-/

namespace Step

/-- What a step leaves in the pod by which it recognises its work. -/
def Marked (step : Step) (pod : Pod) : Prop :=
  match step with
  | .interception config _ node =>
      if pod.usesNetworkPlugin then
        ∀ entry ∈ (Interception.ofPod config node pod).annotations,
          pod.annotation? entry.1 = some entry.2
      else pod.hasInitContainer Artifact.proxyInit
  | .envoy .. => pod.hasContainer Artifact.envoy
  | .gateway config identity mesh selected =>
      ∀ declared, Gateway.declared? pod = some declared →
        Gateway.Filled config identity mesh selected pod declared
  | .xray config .. => config.enabled → pod.hasContainer Artifact.xrayDaemon
  | .jaeger config => config.enabled → pod.hasVolume Artifact.tracingVolume
  | .datadog config => config.enabled → pod.hasVolume Artifact.tracingVolume
  | .cloudMapGate node => node.usesCloudMap → Artifact.cloudMapGate ∈ pod.readinessGates
  | .fsGroup enabled => enabled → pod.fsGroup?.isSome
  | .pullSecret enabled => enabled → Artifact.pullSecret ∈ pod.pullSecrets
  | .gracePeriod preStopDelay =>
      Pod.outlastsGracePeriod preStopDelay →
        pod.spec.bind PodSpec.terminationGracePeriodSeconds = some ↑preStopDelay.toNat

/-! ## A step that finds its marker -/

theorem settled_interception {config : Config.ProxyInit} {sizing : Config.Sidecar}
    {node : VirtualNode} {pod : Pod} (marked : (interception config sizing node).Marked pod) :
    (interception config sizing node).Settled pod := by
  rw [Settled, apply, Interception.apply_eq]
  rw [Marked] at marked
  by_cases plugin : pod.usesNetworkPlugin
  · rw [if_pos plugin] at marked ⊢
    exact congrArg Except.ok (Pod.foldl_annotate_of_annotation? marked)
  · rw [if_neg plugin] at marked ⊢
    rw [if_pos marked]

theorem settled_tracer {tracer : Tracer} {pod : Pod}
    (marked : tracer.enabled → pod.hasVolume Artifact.tracingVolume) :
    tracer.apply pod = .ok pod := by
  unfold Tracer.apply
  cases enabled : tracer.enabled with
  | false => rfl
  | true => simp [marked enabled]

theorem settled_gracePeriod {preStopDelay : UInt32} {pod : Pod}
    (marked : (gracePeriod preStopDelay).Marked pod) : (gracePeriod preStopDelay).Settled pod := by
  rw [Settled, apply, Pod.withGracePeriod]
  split
  · next outlasts =>
      have given := marked outlasts
      cases present : pod.spec with
      | none =>
          rw [present] at given
          cases given
      | some spec =>
          have same : spec.terminationGracePeriodSeconds = some ↑preStopDelay.toNat := by
            rw [present] at given
            exact given
          apply congrArg Except.ok
          apply Pod.mapSpec_eq_self present
          rw [← same]
  · rfl

theorem settled_of_marked {step : Step} {pod : Pod} (marked : step.Marked pod) :
    step.Settled pod := by
  cases step with
  | interception config sizing node => exact settled_interception marked
  | envoy config identity mesh node => exact Envoy.apply_of_present marked
  | gateway config identity mesh selected => exact Gateway.apply_of_filled marked
  | xray config sizing region =>
      rw [Settled, apply, Xray.apply]
      cases enabled : config.enabled with
      | false => rfl
      | true =>
          have present : pod.hasContainer Artifact.xrayDaemon := marked enabled
          simp [present]
  | jaeger config => exact settled_tracer marked
  | datadog config => exact settled_tracer marked
  | cloudMapGate node =>
      rw [Settled, apply, Pod.withCloudMapGate, Pod.needsCloudMapGate]
      cases used : node.usesCloudMap with
      | false => rfl
      | true =>
          have present : Artifact.cloudMapGate ∈ pod.readinessGates := marked used
          simp [present]
  | fsGroup enabled =>
      rw [Settled, apply, Pod.withFsGroup, Pod.needsFsGroup]
      cases enabled with
      | false => rfl
      | true =>
          have present : pod.fsGroup?.isSome := marked rfl
          rw [Option.isSome_iff_ne_none] at present
          simp [present]
  | pullSecret enabled =>
      rw [Settled, apply, Pod.withPullSecret, Pod.needsPullSecret]
      cases enabled with
      | false => rfl
      | true =>
          have present : Artifact.pullSecret ∈ pod.pullSecrets := marked rfl
          simp [present]
  | gracePeriod preStopDelay => exact settled_gracePeriod marked

/-! ## A step that was applied -/

theorem marked_interception {config : Config.ProxyInit} {sizing : Config.Sidecar}
    {node : VirtualNode} {pod changed : Pod}
    (applied : (interception config sizing node).apply pod = .ok changed) :
    (interception config sizing node).Marked changed := by
  rcases Interception.of_apply applied with ⟨plugin, rfl⟩ | ⟨noPlugin, present, rfl⟩ |
    ⟨noPlugin, absent, resources, sized, rfl⟩
  · -- The annotations that were written are read back.
    have still : ((Interception.ofPod config node pod).delegate pod).usesNetworkPlugin := by
      rw [Interception.usesNetworkPlugin_delegate]
      exact plugin
    rw [Marked, if_pos still, Interception.ofPod_delegate]
    exact Interception.annotation?_delegate (Interception.ofPod config node pod) pod
  · simp [Marked, noPlugin, present]
  · have still : ∀ container, (pod.addInitContainer container).usesNetworkPlugin = false :=
      fun _ => noPlugin
    have named : ((Interception.ofPod config node pod).initContainer config.image
        resources).name = Artifact.proxyInit := rfl
    simp [Marked, still, Pod.hasInitContainer_addInitContainer, named]

theorem marked_tracer {tracer : Tracer} (written : tracer.content = .ok tracer.text)
    {pod changed : Pod} (applied : tracer.apply pod = .ok changed) :
    tracer.enabled → changed.hasVolume Artifact.tracingVolume := by
  rcases Tracer.of_apply written applied with ⟨marked, rfl⟩ | ⟨enabled, absent, rfl⟩
  · exact marked
  · intro _
    rw [Pod.hasVolume_addVolumes]
    simp [Tracer.volume]

/-- Applying a step leaves its marker. -/
theorem marked_of_apply {step : Step} {pod changed : Pod} (applied : step.apply pod = .ok changed) :
    step.Marked changed := by
  cases step with
  | interception config sizing node => exact marked_interception applied
  | envoy config identity mesh node =>
      rcases Envoy.of_apply applied with ⟨present, rfl⟩ | ⟨absent, wished, resources, -, -, rfl⟩
      · exact present
      · apply (Pod.grown_addVolumes _ _).hasContainer
        rw [Pod.hasContainer_addContainer]
        simp [Envoy.built, Envoy.Variables.container, Envoy.Variables.ofPod]
  | gateway config identity mesh selected => exact Gateway.filled_of_apply applied
  | xray config sizing region =>
      rcases Xray.of_apply applied with ⟨marked, rfl⟩ |
        ⟨enabled, absent, daemon, resources, settled, sized, rfl⟩
      · exact marked
      · intro _
        have named := Xray.configured_name settled
        rw [Pod.hasContainer_addContainer]
        simp [named]
  | jaeger config => exact marked_tracer (Tracer.content_jaeger config) applied
  | datadog config => exact marked_tracer (Tracer.content_datadog config) applied
  | cloudMapGate node =>
      intro used
      cases applied
      by_cases present : Artifact.cloudMapGate ∈ pod.readinessGates
      · simp [Pod.withCloudMapGate, Pod.needsCloudMapGate, present]
      · simp [Pod.withCloudMapGate, Pod.needsCloudMapGate, present, used,
          Pod.readinessGates_addReadinessGate]
  | fsGroup enabled =>
      intro isEnabled
      cases applied
      cases present : pod.fsGroup? with
      | some group => simp [Pod.withFsGroup, Pod.needsFsGroup, present]
      | none =>
          simp [Pod.withFsGroup, Pod.needsFsGroup, present, isEnabled, Pod.fsGroup?_setFsGroup]
  | pullSecret enabled =>
      intro isEnabled
      cases applied
      by_cases present : Artifact.pullSecret ∈ pod.pullSecrets
      · simp [Pod.withPullSecret, Pod.needsPullSecret, present]
      · simp [Pod.withPullSecret, Pod.needsPullSecret, present, isEnabled,
          Pod.pullSecrets_addPullSecret]
  | gracePeriod preStopDelay =>
      intro outlasts
      cases applied
      rw [Pod.withGracePeriod, if_pos outlasts]
      rfl

theorem settles (step : Step) : step.Settles :=
  fun _ _ applied => settled_of_marked (marked_of_apply applied)

/-! ## Steps that only let the pod grow -/

/-- All steps but those that rewrite what the pod says of itself. -/
def onlyGrows : Step → Bool
  | .interception .. => false
  | .gateway .. => false
  | _ => true

theorem grown_of_tracer {tracer : Tracer} (written : tracer.content = .ok tracer.text)
    {pod changed : Pod} (applied : tracer.apply pod = .ok changed) : Pod.Grown pod changed := by
  rcases Tracer.of_apply written applied with ⟨marked, rfl⟩ | ⟨enabled, absent, rfl⟩
  · exact Pod.Grown.refl changed
  · exact (Pod.grown_addInitContainer pod _).trans (Pod.grown_addVolumes _ _)

theorem grown_of_apply {step : Step} (grows : step.onlyGrows) {pod changed : Pod}
    (applied : step.apply pod = .ok changed) : Pod.Grown pod changed := by
  cases step with
  | interception config sizing node => cases grows
  | gateway config identity mesh selected => cases grows
  | envoy config identity mesh node =>
      rcases Envoy.of_apply applied with ⟨present, rfl⟩ | ⟨absent, wished, resources, -, -, rfl⟩
      · exact Pod.Grown.refl changed
      · exact (Pod.grown_addContainer pod _).trans (Pod.grown_addVolumes _ _)
  | xray config sizing region =>
      rcases Xray.of_apply applied with ⟨marked, rfl⟩ |
        ⟨enabled, absent, daemon, resources, settled, sized, rfl⟩
      · exact Pod.Grown.refl changed
      · exact Pod.grown_addContainer pod _
  | jaeger config => exact grown_of_tracer (Tracer.content_jaeger config) applied
  | datadog config => exact grown_of_tracer (Tracer.content_datadog config) applied
  | cloudMapGate node =>
      cases applied
      exact pod.grown_withCloudMapGate node
  | fsGroup enabled =>
      cases applied
      exact pod.grown_withFsGroup enabled
  | pullSecret enabled =>
      cases applied
      exact pod.grown_withPullSecret enabled
  | gracePeriod preStopDelay =>
      cases applied
      exact pod.grown_withGracePeriod preStopDelay

/-! ## Markers that last -/

/-- The steps whose marker is found in what only grows.  The grace period is no
part of that, and a gateway's container may come to be declared. -/
def marksGrowth : Step → Bool
  | .gateway .. => false
  | .gracePeriod .. => false
  | _ => true

theorem usesNetworkPlugin_of_grown {before after : Pod} (grown : Pod.Grown before after) :
    after.usesNetworkPlugin = before.usesNetworkPlugin := by
  rw [Pod.usesNetworkPlugin, Pod.switch?, grown.annotation?, Pod.label?, grown.metadata]
  rfl

theorem ofPod_of_grown {before after : Pod} (grown : Pod.Grown before after)
    (config : Config.ProxyInit) (node : VirtualNode) :
    Interception.ofPod config node after = Interception.ofPod config node before := by
  simp only [Interception.ofPod, Pod.ipv6?, grown.annotation?]

theorem marked_of_grown {step : Step} (lasts : step.marksGrowth) {before after : Pod}
    (grown : Pod.Grown before after) (marked : step.Marked before) : step.Marked after := by
  cases step with
  | gateway config identity mesh selected => cases lasts
  | gracePeriod preStopDelay => cases lasts
  | interception config sizing node =>
      rw [Marked, usesNetworkPlugin_of_grown grown, ofPod_of_grown grown]
      rw [Marked] at marked
      by_cases plugin : before.usesNetworkPlugin
      · rw [if_pos plugin] at marked ⊢
        intro entry member
        rw [grown.annotation?]
        exact marked entry member
      · rw [if_neg plugin] at marked ⊢
        exact grown.hasInitContainer marked
  | envoy config identity mesh node => exact grown.hasContainer marked
  | xray config sizing region => exact fun enabled => grown.hasContainer (marked enabled)
  | jaeger config => exact fun enabled => grown.hasVolume (marked enabled)
  | datadog config => exact fun enabled => grown.hasVolume (marked enabled)
  | cloudMapGate node => exact fun used => grown.readinessGate (marked used)
  | fsGroup enabled =>
      intro isEnabled
      have isSet := marked isEnabled
      rw [grown.fsGroup? isSet]
      exact isSet
  | pullSecret enabled => exact fun isEnabled => grown.pullSecret (marked isEnabled)

theorem settled_of_grown {step : Step} (lasts : step.marksGrowth) {before after : Pod}
    (grown : Pod.Grown before after) (settled : step.Settled before) : step.Settled after :=
  settled_of_marked (marked_of_grown lasts grown (marked_of_apply settled))

end Step

/-! ## The marker of a gateway -/

namespace Gateway

/-- The pod has grown and declares the same container. -/
structure GrownBeside (before after : Pod) : Prop where
  grown : Pod.Grown before after
  declared : declared? after = declared? before

theorem declared?_addContainer {container : Container} (pod : Pod)
    (other : container.name ≠ Artifact.envoy) :
    declared? (pod.addContainer container) = declared? pod := by
  simp [declared?, Pod.containers_eq, Pod.addContainer, other]

theorem ofPod_of_grown {before after : Pod} (grown : Pod.Grown before after) (config : Config)
    (identity : Identity) (mesh : Mesh) (gateway : VirtualGateway) :
    Variables.ofPod config identity mesh gateway after =
      Variables.ofPod config identity mesh gateway before := by
  have asks := grown.saysSame.asksSame
  rw [Variables.ofPod, asks.usesPreview, asks.sdsPath, Variables.ofPod]

theorem missingPath?_of_grown {before after : Pod} (grown : Pod.Grown before after)
    {envoy : Config.Envoy} (shown : Sds.missingPath? envoy before = none) :
    Sds.missingPath? envoy after = none := by
  rw [Sds.missingPath?, Option.filter_eq_none_iff] at shown ⊢
  intro used same
  have mounted := shown used (by rw [← grown.saysSame.asksSame.sdsPath]; exact same)
  simp only [Bool.not_eq_true, Bool.not_eq_false'] at mounted ⊢
  exact grown.mountsHostPath mounted

theorem Filled.grown {config : Config} {identity : Identity} {mesh : Mesh}
    {gateway : VirtualGateway} {before after : Pod} (grown : Pod.Grown before after)
    {declared : Container} (filled : Filled config identity mesh gateway before declared) :
    Filled config identity mesh gateway after declared where
  image := by
    rw [pinsImage, Pod.switch?, grown.annotation?]
    exact filled.image
  env := by
    rw [ofPod_of_grown grown]
    exact filled.env
  shown := missingPath?_of_grown grown filled.shown

theorem settled_of_grownBeside {config : Config} {identity : Identity} {mesh : Mesh}
    {gateway : VirtualGateway} {before after : Pod} (beside : GrownBeside before after)
    (settled : (Step.gateway config identity mesh gateway).Settled before) :
    (Step.gateway config identity mesh gateway).Settled after := by
  have marked := Step.marked_of_apply settled
  apply Step.settled_of_marked
  intro declared found
  rw [beside.declared] at found
  exact (marked declared found).grown beside.grown

theorem declared?_of_xray {xray : Config.Xray} {sizing : Config.Sidecar} {region : String}
    {pod changed : Pod} (applied : Xray.apply xray sizing region pod = .ok changed) :
    declared? changed = declared? pod := by
  rcases Xray.of_apply applied with ⟨marked, rfl⟩ |
    ⟨enabled, absent, daemon, resources, settled, sized, rfl⟩
  · rfl
  · have named := Xray.configured_name settled
    apply declared?_addContainer
    rw [named]
    decide

theorem declared?_of_tracer {tracer : Tracer} (written : tracer.content = .ok tracer.text)
    {pod changed : Pod} (applied : tracer.apply pod = .ok changed) :
    declared? changed = declared? pod := by
  rcases Tracer.of_apply written applied with ⟨marked, rfl⟩ | ⟨enabled, absent, rfl⟩
  · rfl
  · rw [declared?, Pod.addVolumes, Pod.containers_mapSpec rfl, Pod.addInitContainer,
      Pod.containers_mapSpec rfl, declared?]

end Gateway

/-! ## Whole injections -/

namespace Injector

variable (injector : Injector) (mesh : Mesh)

theorem keeps_nodeSteps (node : VirtualNode) :
    (injector.nodeSteps mesh node).Pairwise Step.Keeps := by
  have stable : ∀ step ∈ (injector.nodeSteps mesh node).dropLast, ∀ before after,
      step.Settled before → Pod.Grown before after → step.Settled after := by
    intro step member before after settled grown
    have lasts : step.marksGrowth := by
      simp only [nodeSteps, List.dropLast, List.mem_cons, List.not_mem_nil, or_false] at member
      rcases member with rfl | rfl | rfl | rfl | rfl | rfl | rfl | rfl <;> rfl
    exact Step.settled_of_grown lasts grown settled
  have changes : ∀ step ∈ (injector.nodeSteps mesh node).tail, ∀ before after,
      step.apply before = .ok after → Pod.Grown before after := by
    intro step member before after applied
    have grows : step.onlyGrows := by
      simp only [nodeSteps, List.tail_cons, List.mem_cons, List.not_mem_nil, or_false] at member
      rcases member with rfl | rfl | rfl | rfl | rfl | rfl | rfl | rfl <;> rfl
    exact Step.grown_of_apply grows applied
  exact Step.pairwise_keeps stable changes

theorem keeps_gatewaySteps (gateway : VirtualGateway) :
    (injector.gatewaySteps mesh gateway).Pairwise Step.Keeps := by
  have stable : ∀ step ∈ (injector.gatewaySteps mesh gateway).dropLast, ∀ before after,
      step.Settled before → Gateway.GrownBeside before after → step.Settled after := by
    intro step member before after settled beside
    simp only [gatewaySteps, List.dropLast, List.mem_cons, List.not_mem_nil, or_false] at member
    rcases member with rfl | rfl | rfl
    · exact Gateway.settled_of_grownBeside beside settled
    · exact Step.settled_of_grown rfl beside.grown settled
    · exact Step.settled_of_grown rfl beside.grown settled
  have changes : ∀ step ∈ (injector.gatewaySteps mesh gateway).tail, ∀ before after,
      step.apply before = .ok after → Gateway.GrownBeside before after := by
    intro step member before after applied
    simp only [gatewaySteps, List.tail_cons, List.mem_cons, List.not_mem_nil, or_false] at member
    rcases member with rfl | rfl | rfl
    · exact ⟨Step.grown_of_apply rfl applied, Gateway.declared?_of_xray applied⟩
    · exact ⟨Step.grown_of_apply rfl applied,
        Gateway.declared?_of_tracer (Tracer.content_jaeger _) applied⟩
    · exact ⟨Step.grown_of_apply rfl applied,
        Gateway.declared?_of_tracer (Tracer.content_datadog _) applied⟩
  exact Step.pairwise_keeps stable changes

theorem keeps_steps (selector : Selector) : (injector.steps mesh selector).Pairwise Step.Keeps := by
  cases selector with
  | node node => exact injector.keeps_nodeSteps mesh node
  | gateway gateway => exact injector.keeps_gatewaySteps mesh gateway

/-- No step makes the pod one that is not to be injected. -/
theorem shouldInject_of_apply {step : Step} {pod changed : Pod} (wanted : injector.shouldInject pod)
    (applied : step.apply pod = .ok changed) : injector.shouldInject changed := by
  have unchanged : changed.annotation? Annotations.inject = pod.annotation? Annotations.inject →
      injector.shouldInject changed := by
    intro same
    rw [shouldInject, Pod.switch?, same]
    exact wanted
  cases grows : step.onlyGrows with
  | true => exact unchanged ((Step.grown_of_apply grows applied).annotation? _)
  | false =>
      cases step with
      | interception config sizing node =>
          rcases Interception.of_apply applied with ⟨plugin, rfl⟩ | ⟨noPlugin, present, rfl⟩ |
            ⟨noPlugin, absent, resources, sized, rfl⟩
          · -- The network plugin is told that the pod is injected.
            have told := Interception.annotation?_delegate (Interception.ofPod config node pod) pod
              (Annotations.inject, Annotations.enabled) (by simp [Interception.annotations])
            rw [shouldInject, Pod.switch?, told]
            rfl
          · exact wanted
          · exact unchanged rfl
      | gateway config identity mesh selected =>
          rcases Gateway.of_apply applied with ⟨none, rfl⟩ | ⟨declared, image, found, allowed, rfl⟩
          · exact wanted
          · exact unchanged rfl
      | _ => cases grows

theorem shouldInject_run {steps : List Step} {pod : Pod} (wanted : injector.shouldInject pod) :
    injector.shouldInject (Step.run steps pod).pod :=
  Step.run_preserves (fun _ _ _ _ wanted applied => injector.shouldInject_of_apply wanted applied)
    wanted

/-- Injecting the pod that an injection left gives the same pod and the same
error. -/
theorem inject_inject (selector : Selector) (pod : Pod) :
    injector.inject mesh selector (injector.inject mesh selector pod).pod =
      injector.inject mesh selector pod := by
  by_cases wanted : injector.shouldInject pod
  · have once : injector.inject mesh selector pod = Step.run (injector.steps mesh selector) pod :=
      if_pos wanted
    have again : injector.inject mesh selector (Step.run (injector.steps mesh selector) pod).pod =
        Step.run (injector.steps mesh selector)
          (Step.run (injector.steps mesh selector) pod).pod :=
      if_pos (injector.shouldInject_run wanted)
    rw [once, again]
    exact Step.run_run (fun step _ => step.settles) (injector.keeps_steps mesh selector) pod
  · have once : injector.inject mesh selector pod = ⟨pod, none⟩ := if_neg wanted
    rw [once]
    exact once

/-- What a pod ends with that is injected once and then `more` times again. -/
def injectAgain (selector : Selector) : Nat → Pod → Outcome
  | 0, pod => injector.inject mesh selector pod
  | more + 1, pod => injectAgain selector more (injector.inject mesh selector pod).pod

/-- Injecting what an injection left changes nothing and ends in the same way, so
any number of injections has the result of one, be it an error or not. -/
theorem inject_idempotent (selector : Selector) (pod : Pod) :
    injector.inject mesh selector (injector.inject mesh selector pod).pod =
      injector.inject mesh selector pod ∧
    ∀ more, injector.injectAgain mesh selector more pod = injector.inject mesh selector pod := by
  have twice := injector.inject_inject mesh selector
  refine ⟨twice pod, ?_⟩
  intro more
  induction more generalizing pod with
  | zero => rfl
  | succ more ih =>
      rw [injectAgain, ih]
      exact twice pod

end Injector

end MeshSidecar
