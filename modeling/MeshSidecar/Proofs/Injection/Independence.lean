import MeshSidecar.Proofs.Injection.Contribution

namespace MeshSidecar

/-!
# Steps that do not see each other

A step looks at a pod before it contributes to it: at annotations, and at what could be
there already.  What another step has contributed makes no difference to that, since the
steps look for different things.  The one exception are the tracers: they look for a
volume by a name, which Envoy may bring for a secret of that name.
-/

/-! ## What is built for a pod -/

namespace Pod.AsksSame

variable {before after : Pod}

/-- Envoy is the same for pods that say the same and show the same paths of the host. -/
theorem envoyVariables (same : AsksSame before after) (config : Config) (identity : Identity)
    (mesh : Mesh) (node : VirtualNode) : Envoy.Variables.ofPod config identity mesh node after =
      Envoy.Variables.ofPod config identity mesh node before := by
  rw [Envoy.Variables.ofPod, same.usesPreview, same.sdsPath, Envoy.Variables.ofPod]

theorem built (same : AsksSame before after)
    (shown : ∀ path, after.mountsHostPath path = before.mountsHostPath path) (config : Config)
    (identity : Identity) (mesh : Mesh) (node : VirtualNode) (wished : Envoy.Wishes)
    (resources : Resources) : Envoy.built config identity mesh node after wished resources =
      Envoy.built config identity mesh node before wished resources := by
  rw [Envoy.built, same.envoyVariables, Envoy.mounts, same.missingPath shown, Envoy.built,
    Envoy.mounts]

theorem daemon (same : AsksSame before after) (xray : Config.Xray) (sizing : Config.Sidecar)
    (region : String) :
    Xray.container xray sizing region after = Xray.container xray sizing region before := by
  rw [Xray.container, same _ (by decide), same.sidecarResources, Xray.container]

end Pod.AsksSame

/-! ## What a step looks at -/

namespace Step

/-- The pods show a step the same of all that it looks at. -/
def SeesSame (before after : Pod) : Step → Prop
  | .interception .. =>
      (∀ key ∈ Annotations.all, after.annotation? key = before.annotation? key) ∧
      after.label? fargateProfileLabel = before.label? fargateProfileLabel ∧
      after.hasInitContainer Artifact.proxyInit = before.hasInitContainer Artifact.proxyInit
  | .envoy .. =>
      Pod.AsksSame before after ∧
      after.hasContainer Artifact.envoy = before.hasContainer Artifact.envoy ∧
      ∀ path, after.mountsHostPath path = before.mountsHostPath path
  | .gateway .. => after = before
  | .xray .. =>
      Pod.AsksSame before after ∧
      after.hasContainer Artifact.xrayDaemon = before.hasContainer Artifact.xrayDaemon
  | .jaeger config =>
      config.enabled →
        after.hasVolume Artifact.tracingVolume = before.hasVolume Artifact.tracingVolume
  | .datadog config =>
      config.enabled →
        after.hasVolume Artifact.tracingVolume = before.hasVolume Artifact.tracingVolume
  | .cloudMapGate _ => after.readinessGates = before.readinessGates
  | .fsGroup _ => after.fsGroup? = before.fsGroup?
  | .pullSecret _ => after.pullSecrets = before.pullSecrets
  | .gracePeriod _ => True

section

variable {before after : Pod}

theorem contribution_interception {config : Config.ProxyInit} {sizing : Config.Sidecar}
    {node : VirtualNode} (same : (interception config sizing node).SeesSame before after) :
    (interception config sizing node).contribution after =
      (interception config sizing node).contribution before := by
  rcases same with ⟨said, labelled, there⟩
  have asks : Pod.AsksSame before after := fun key asked => said key (List.mem_filter.mp asked).1
  have settings : Interception.ofPod config node after = Interception.ofPod config node before := by
    rw [Interception.ofPod, Pod.ipv6?, said _ (by decide), said _ (by decide), said _ (by decide),
      said _ (by decide), Interception.ofPod, Pod.ipv6?]
  have plugin : after.usesNetworkPlugin = before.usesNetworkPlugin := by
    rw [Pod.usesNetworkPlugin, Pod.switch?, said _ (by decide), labelled, Pod.usesNetworkPlugin,
      Pod.switch?]
  rw [contribution, settings, plugin, there, asks.sidecarResources, contribution]

theorem contribution_envoy {config : Config} {identity : Identity} {mesh : Mesh}
    {node : VirtualNode} (same : (envoy config identity mesh node).SeesSame before after) :
    (envoy config identity mesh node).contribution after =
      (envoy config identity mesh node).contribution before := by
  rcases same with ⟨asks, there, shown⟩
  have volumes : ∀ wished, Envoy.volumes config.envoy after wished =
      Envoy.volumes config.envoy before wished := by
    intro wished
    rw [Envoy.volumes, asks.missingPath shown, Envoy.volumes]
  rw [contribution, there, asks.wishes, asks.sidecarResources]
  simp only [asks.built shown, volumes]
  rfl

theorem contribution_tracer {tracer : Tracer}
    (shown : tracer.enabled →
      after.hasVolume Artifact.tracingVolume = before.hasVolume Artifact.tracingVolume) :
    tracer.contribution after = tracer.contribution before := by
  rw [Tracer.contribution, Tracer.contribution]
  cases enabled : tracer.enabled with
  | false => rfl
  | true => rw [shown enabled]

/-- What a step contributes rests on what it looks at. -/
theorem contribution_of_seesSame {step : Step} (same : step.SeesSame before after) :
    step.contribution after = step.contribution before := by
  cases step with
  | interception config sizing node => exact contribution_interception same
  | envoy config identity mesh node => exact contribution_envoy same
  | gateway config identity mesh selected => rfl
  | xray config sizing region => rw [contribution, same.2, same.1.daemon, contribution]
  | jaeger config => exact congrArg Except.ok (contribution_tracer same)
  | datadog config => exact congrArg Except.ok (contribution_tracer same)
  | cloudMapGate node =>
      rw [contribution, Pod.needsCloudMapGate, same, contribution, Pod.needsCloudMapGate]
  | fsGroup enabled => rw [contribution, Pod.needsFsGroup, same, contribution, Pod.needsFsGroup]
  | pullSecret enabled =>
      rw [contribution, Pod.needsPullSecret, same, contribution, Pod.needsPullSecret]
  | gracePeriod preStopDelay => rfl

end

end Step

/-! ## What is seen in a pod with a contribution -/

namespace Contribution

variable {added : Contribution} (pod : Pod)

theorem saysSame_addTo (told : ∀ entry ∈ added.annotations, entry.1 ∈ Interception.keys) :
    Pod.SaysSame pod (added.addTo pod) := by
  intro key other
  have absent : ∀ entry ∈ added.annotations, entry.1 ≠ key := by
    intro entry member same
    rw [← same] at other
    exact other (told entry member)
  rw [annotation?_addTo, (Document.find?_eq_none_iff _ _).mpr absent]
  rfl

theorem hasContainer_addTo {name : String}
    (other : ∀ container ∈ added.containers, container.name ≠ name) :
    (added.addTo pod).hasContainer name = pod.hasContainer name := by
  rw [Pod.hasContainer, containers_addTo, List.any_append, Pod.hasContainer]
  have none : (added.containers.any fun container => container.name == name) = false := by
    simpa using other
  rw [none, Bool.or_false]

theorem hasInitContainer_addTo {name : String}
    (other : ∀ container ∈ added.initContainers, container.name ≠ name) :
    (added.addTo pod).hasInitContainer name = pod.hasInitContainer name := by
  rw [Pod.hasInitContainer, initContainers_addTo, List.any_append, Pod.hasInitContainer]
  have none : (added.initContainers.any fun container => container.name == name) = false := by
    simpa using other
  rw [none, Bool.or_false]

theorem hasVolume_addTo {name : String} (other : ∀ volume ∈ added.volumes, volume.name ≠ name) :
    (added.addTo pod).hasVolume name = pod.hasVolume name := by
  rw [Pod.hasVolume, volumes_addTo, List.any_append, Pod.hasVolume]
  have none : (added.volumes.any fun volume => volume.name == name) = false := by
    simpa using other
  rw [none, Bool.or_false]

theorem mountsHostPath_addTo (hidden : ∀ volume ∈ added.volumes, volume.hostPath = none)
    (path : String) : (added.addTo pod).mountsHostPath path = pod.mountsHostPath path := by
  rw [Pod.mountsHostPath, volumes_addTo, List.any_append, Pod.mountsHostPath]
  have none : (added.volumes.any fun volume =>
      (volume.hostPath.map HostPath.path) == some path) = false := by
    rw [List.any_eq_false]
    intro volume member
    simp [hidden volume member]
  rw [none, Bool.or_false]

end Contribution

/-! ## What a step can contribute -/

theorem Xray.name_of_container {xray : Config.Xray} {sizing : Config.Sidecar} {region : String}
    {pod : Pod} {daemon : Container} (built : container xray sizing region pod = .ok daemon) :
    daemon.name = Artifact.xrayDaemon := by
  rcases of_container built with ⟨settled, resources, known, -, rfl⟩
  have named := configured_name known
  exact named

namespace Step

/-- The names of the volumes that a step may add to a pod that asks for these secrets. -/
def volumeNames (secrets : List String) : Step → List String
  | .envoy .. => secrets ++ [Artifact.sdsVolume]
  | .jaeger config => if config.enabled then [Artifact.tracingVolume] else []
  | .datadog config => if config.enabled then [Artifact.tracingVolume] else []
  | _ => []

/-- What a step can contribute to a pod that asks for these secrets: each field is filled
by one step only, but for the lists of containers, init containers and volumes, where the
names tell the steps apart. -/
structure Offers (secrets : List String) (step : Step) (added : Contribution) : Prop where
  annotations : added.annotations ≠ [] → step.name = "proxy"
  told : ∀ entry ∈ added.annotations, entry.1 ∈ Interception.keys
  containers : ∀ container ∈ added.containers, container.name ∈ step.containerNames
  initContainers : ∀ container ∈ added.initContainers, container.name ∈ step.initContainerNames
  volumes : ∀ volume ∈ added.volumes, volume.name ∈ step.volumeNames secrets
  hostPaths : (∃ volume ∈ added.volumes, volume.hostPath ≠ none) → step.name = "envoy"
  readinessGates : added.readinessGates ≠ [] → step.name = "cloudmap-readiness-gate"
  fsGroup : added.fsGroup ≠ none → step.name = "iam-fs-group"
  pullSecrets : added.pullSecrets ≠ [] → step.name = "ecr-secret"
  gracePeriod : added.gracePeriod ≠ none → step.name = "termination-grace-period"

theorem offers_empty (secrets : List String) (step : Step) : step.Offers secrets {} := by
  constructor <;> simp

theorem offers_of_tracer {tracer : Tracer} {step : Step} (secrets : List String) (pod : Pod)
    (named : tracer.enabled → tracer.containerName ∈ step.initContainerNames)
    (shown : tracer.enabled → Artifact.tracingVolume ∈ step.volumeNames secrets) :
    step.Offers secrets (tracer.contribution pod) := by
  rw [Tracer.contribution]
  cases enabled : tracer.enabled with
  | false => exact offers_empty secrets step
  | true =>
      split
      · exact offers_empty secrets step
      · exact { offers_empty secrets step with
          initContainers := by
            intro container member
            rw [List.mem_singleton.mp member]
            exact named enabled
          volumes := by
            intro volume member
            rw [List.mem_singleton.mp member]
            exact shown enabled
          hostPaths := by
            rintro ⟨volume, member, shows⟩
            rw [List.mem_singleton.mp member] at shows
            exact absurd rfl shows }

theorem offers_of_envoy {config : Config} {identity : Identity} {mesh : Mesh}
    {node : VirtualNode} {pod : Pod} {added : Contribution}
    (contributes : (envoy config identity mesh node).contribution pod = .ok added) :
    (envoy config identity mesh node).Offers pod.secretNames added := by
  rcases of_contribution_envoy contributes with ⟨-, rfl⟩ | ⟨-, wished, resources, wanted, rfl⟩
  · exact offers_empty ..
  · exact { offers_empty pod.secretNames (envoy config identity mesh node) with
      containers := by
        intro container member
        rw [List.mem_singleton.mp member]
        exact List.mem_cons_self
      volumes := by
        intro volume member
        rw [volumeNames, Envoy.secretNames_of_wishes wanted]
        rcases List.mem_append.mp member with secret | socket
        · rcases List.mem_map.mp secret with ⟨name, isSecret, rfl⟩
          exact List.mem_append_left _ isSecret
        · rcases List.mem_map.mp socket with ⟨path, missing, rfl⟩
          exact List.mem_append_right _ List.mem_cons_self
      hostPaths := fun _ => rfl }

theorem offers_of_contribution {step : Step} {pod : Pod} {added : Contribution}
    (contributes : step.contribution pod = .ok added) : step.Offers pod.secretNames added := by
  cases step with
  | gateway config identity mesh selected =>
      cases contributes
      exact offers_empty ..
  | interception config sizing node =>
      rw [contribution] at contributes
      split at contributes
      · cases contributes
        exact { offers_empty pod.secretNames (interception config sizing node) with
          annotations := fun _ => rfl
          told := by
            intro entry member
            have key : entry.1 ∈ (Interception.ofPod config node pod).annotations.map Prod.fst :=
              List.mem_map_of_mem member
            exact key }
      · split at contributes
        · cases contributes
          exact offers_empty ..
        · rcases of_map_eq_ok contributes with ⟨resources, sized, rfl⟩
          exact { offers_empty pod.secretNames (interception config sizing node) with
            initContainers := by
              intro container member
              rw [List.mem_singleton.mp member]
              exact List.mem_cons_self }
  | envoy config identity mesh node => exact offers_of_envoy contributes
  | xray config sizing region =>
      rw [contribution] at contributes
      split at contributes
      · cases contributes
        exact offers_empty ..
      · rcases of_map_eq_ok contributes with ⟨daemon, built, rfl⟩
        exact { offers_empty pod.secretNames (xray config sizing region) with
          containers := by
            intro container member
            rw [List.mem_singleton.mp member, Xray.name_of_container built]
            exact List.mem_cons_self }
  | jaeger config =>
      cases contributes
      apply offers_of_tracer
      · exact fun enabled => List.mem_ite_nil_right.mpr ⟨enabled, List.mem_cons_self⟩
      · exact fun enabled => List.mem_ite_nil_right.mpr ⟨enabled, List.mem_cons_self⟩
  | datadog config =>
      cases contributes
      apply offers_of_tracer
      · exact fun enabled => List.mem_ite_nil_right.mpr ⟨enabled, List.mem_cons_self⟩
      · exact fun enabled => List.mem_ite_nil_right.mpr ⟨enabled, List.mem_cons_self⟩
  | cloudMapGate node =>
      cases contributes
      exact { offers_empty pod.secretNames (cloudMapGate node) with
        readinessGates := fun _ => rfl }
  | fsGroup enabled =>
      cases contributes
      exact { offers_empty pod.secretNames (fsGroup enabled) with fsGroup := fun _ => rfl }
  | pullSecret enabled =>
      cases contributes
      exact { offers_empty pod.secretNames (pullSecret enabled) with pullSecrets := fun _ => rfl }
  | gracePeriod preStopDelay =>
      cases contributes
      exact { offers_empty pod.secretNames (gracePeriod preStopDelay) with
        gracePeriod := fun _ => rfl }

/-! ## Steps apart -/

section

variable {step : Step}

theorem name_of_proxyInit (adds : Artifact.proxyInit ∈ step.initContainerNames) :
    step.name = "proxy" := by
  have noJaeger : Artifact.proxyInit ∉ [Artifact.jaegerInit] := by decide
  have noDatadog : Artifact.proxyInit ∉ [Artifact.datadogInit] := by decide
  cases step with
  | interception config sizing node => rfl
  | jaeger config => exact absurd (List.mem_ite_nil_right.mp adds).2 noJaeger
  | datadog config => exact absurd (List.mem_ite_nil_right.mp adds).2 noDatadog
  | _ => cases adds

theorem name_of_envoy (adds : Artifact.envoy ∈ step.containerNames) : step.name = "envoy" := by
  have noDaemon : Artifact.envoy ∉ [Artifact.xrayDaemon] := by decide
  cases step with
  | envoy config identity mesh node => rfl
  | xray config sizing region => exact absurd adds noDaemon
  | _ => cases adds

theorem name_of_daemon (adds : Artifact.xrayDaemon ∈ step.containerNames) : step.name = "xray" := by
  have noEnvoy : Artifact.xrayDaemon ∉ [Artifact.envoy] := by decide
  cases step with
  | envoy config identity mesh node => exact absurd adds noEnvoy
  | xray config sizing region => rfl
  | _ => cases adds

end

/-- Whether a step looks for the volume of a tracer. -/
def looksForTracing : Step → Bool
  | .jaeger config => config.enabled
  | .datadog config => config.enabled
  | _ => false

/-- Only a tracer brings a volume of the name for tracers, but for a secret of that name. -/
theorem looks_of_tracingVolume {secrets : List String} (free : Artifact.tracingVolume ∉ secrets)
    {step : Step} (shows : Artifact.tracingVolume ∈ step.volumeNames secrets) :
    step.looksForTracing := by
  cases step with
  | envoy config identity mesh node =>
      rcases List.mem_append.mp shows with secret | socket
      · exact absurd secret free
      · exact absurd (List.mem_singleton.mp socket) (by decide)
  | jaeger config => exact (List.mem_ite_nil_right.mp shows).1
  | datadog config => exact (List.mem_ite_nil_right.mp shows).1
  | _ => cases shows

/-- The other step does not matter to the step in a pod that asks for these secrets. -/
structure Apart (secrets : List String) (step other : Step) : Prop where
  distinct : step.name ≠ other.name
  tracing : step.looksForTracing → Artifact.tracingVolume ∉ other.volumeNames secrets

section

variable {secrets : List String} {step other : Step} {added : Contribution}

/-- A step contributes the same to a pod when it comes after a step that does not matter
to it. -/
theorem contribution_addTo (apart : step.Apart secrets other) (offers : other.Offers secrets added)
    (pod : Pod) : step.contribution (added.addTo pod) = step.contribution pod := by
  have same := Contribution.saysSame_addTo pod offers.told
  have hidden : step.looksForTracing →
      ∀ volume ∈ added.volumes, volume.name ≠ Artifact.tracingVolume := by
    intro looks volume member named
    have offered := offers.volumes volume member
    rw [named] at offered
    exact apart.tracing looks offered
  -- What only one step fills is not filled by the other.
  have unfilled : ∀ {filled : Prop}, (filled → other.name = step.name) → ¬ filled :=
    fun single filled => apart.distinct (single filled).symm
  cases step with
  | gateway config identity mesh selected => rfl
  | interception config sizing node =>
      have silent : added.annotations = [] :=
        Decidable.of_not_not (unfilled offers.annotations)
      apply contribution_of_seesSame
      refine ⟨?_, Contribution.label?_addTo added pod _, ?_⟩
      · intro key known
        rw [Contribution.annotation?_addTo, silent]
        rfl
      · apply Contribution.hasInitContainer_addTo
        intro container member named
        have offered := offers.initContainers container member
        rw [named] at offered
        exact apart.distinct (name_of_proxyInit offered).symm
  | envoy config identity mesh node =>
      apply contribution_of_seesSame
      refine ⟨same.asksSame, ?_, ?_⟩
      · apply Contribution.hasContainer_addTo
        intro container member named
        have offered := offers.containers container member
        rw [named] at offered
        exact apart.distinct (name_of_envoy offered).symm
      · apply Contribution.mountsHostPath_addTo
        intro volume member
        exact Decidable.of_not_not fun shows =>
          unfilled offers.hostPaths ⟨volume, member, shows⟩
  | xray config sizing region =>
      apply contribution_of_seesSame
      refine ⟨same.asksSame, ?_⟩
      apply Contribution.hasContainer_addTo
      intro container member named
      have offered := offers.containers container member
      rw [named] at offered
      exact apart.distinct (name_of_daemon offered).symm
  | jaeger config =>
      apply contribution_of_seesSame
      exact fun enabled => Contribution.hasVolume_addTo pod (hidden enabled)
  | datadog config =>
      apply contribution_of_seesSame
      exact fun enabled => Contribution.hasVolume_addTo pod (hidden enabled)
  | cloudMapGate node =>
      have none : added.readinessGates = [] :=
        Decidable.of_not_not (unfilled offers.readinessGates)
      apply contribution_of_seesSame
      rw [SeesSame, Contribution.readinessGates_addTo, none, List.append_nil]
  | fsGroup enabled =>
      have none : added.fsGroup = none := Decidable.of_not_not (unfilled offers.fsGroup)
      apply contribution_of_seesSame
      rw [SeesSame, Contribution.fsGroup?_addTo, none, Option.none_or]
  | pullSecret enabled =>
      have none : added.pullSecrets = [] := Decidable.of_not_not (unfilled offers.pullSecrets)
      apply contribution_of_seesSame
      rw [SeesSame, Contribution.pullSecrets_addTo, none, List.append_nil]
  | gracePeriod preStopDelay => rfl

end

/-! ## Runs of steps that only add -/

/-- What holds of all that steps add to pods that say the same, and of any two such
contributions together, holds of what a run adds. -/
theorem run_adds {Adds : Contribution → Prop} (nothing : Adds {})
    (both : ∀ early late, Adds early → Adds late → Adds (early ++ late)) {steps : List Step}
    (adds : ∀ step ∈ steps, step.onlyAdds) {pod : Pod}
    (each : ∀ step ∈ steps, ∀ met added, Pod.SaysSame pod met →
      step.contribution met = .ok added → Adds added)
    {met : Pod} (same : Pod.SaysSame pod met) :
    ∃ added : Contribution, (run steps met).pod = added.addTo met ∧ Adds added := by
  induction steps generalizing met with
  | nil => exact ⟨{}, rfl, nothing⟩
  | cons step steps ih =>
      rcases List.forall_mem_cons.mp adds with ⟨adding, othersAdd⟩
      rcases List.forall_mem_cons.mp each with ⟨first, others⟩
      cases applied : step.apply met with
      | error error =>
          rw [run, applied]
          exact ⟨{}, rfl, nothing⟩
      | ok changed =>
          rw [run, applied]
          rcases contributes_of_apply adding applied with ⟨early, contributes, rfl⟩
          have told := (offers_of_contribution contributes).told
          have still : Pod.SaysSame pod (early.addTo met) := fun key other =>
            (Contribution.saysSame_addTo met told key other).trans (same key other)
          rcases ih othersAdd others still with ⟨late, added, holds⟩
          refine ⟨early ++ late, ?_, both _ _ (first met early same contributes) holds⟩
          rw [added, Contribution.addTo_append]

end Step

end MeshSidecar
