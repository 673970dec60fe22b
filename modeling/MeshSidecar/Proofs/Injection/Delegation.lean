import MeshSidecar.Proofs.Injection.Modes

namespace MeshSidecar

/-!
# Interception that stays delegated

The network plugin is told the settings in the annotations in which a pod may choose them
itself.  So the first step makes what it worked out the choice of the pod: whoever works
out the settings again, from whatever configuration and node, finds them chosen, and the
pod is one that is to be injected.  No step of any later injection changes this.
-/

namespace Interception

/-- The settings that the network plugin is told are the same. -/
structure Agrees (first second : Interception) : Prop where
  appPorts : second.appPorts = first.appPorts
  egressIgnoredIps : second.egressIgnoredIps = first.egressIgnoredIps
  egressIgnoredPorts : second.egressIgnoredPorts = first.egressIgnoredPorts
  egressPort : second.egressPort = first.egressPort
  ingressPort : second.ingressPort = first.ingressPort
  uid : second.uid = first.uid

theorem Agrees.annotations_eq {first second : Interception} (agrees : Agrees first second) :
    second.annotations = first.annotations := by
  simp only [annotations, agrees.appPorts, agrees.egressIgnoredIps, agrees.egressIgnoredPorts,
    agrees.egressPort, agrees.ingressPort, agrees.uid]

/-- The annotations in which a pod may choose a setting. -/
def chosenKeys : List String :=
  [Annotations.ports, Annotations.egressIgnoredIps, Annotations.egressIgnoredPorts]

/-- The pod leaves interception to the network plugin and tells it these settings. -/
structure Delegated (settings : Interception) (pod : Pod) : Prop where
  plugin : pod.usesNetworkPlugin
  told : ∀ entry ∈ settings.annotations, pod.annotation? entry.1 = some entry.2

/-! ## Telling the network plugin -/

theorem delegated_delegate (settings : Interception) {pod : Pod} (plugin : pod.usesNetworkPlugin) :
    Delegated settings (settings.delegate pod) where
  plugin := by
    rw [usesNetworkPlugin_delegate]
    exact plugin
  told := settings.annotation?_delegate pod

/-- What the pod chose it is told, so it stays as it was. -/
theorem annotation?_delegate_of_chosen (config : Config.ProxyInit) (node : VirtualNode)
    (pod : Pod) : ∀ key ∈ chosenKeys, ∀ value, pod.annotation? key = some value →
      ((ofPod config node pod).delegate pod).annotation? key = some value := by
  intro key member value chosen
  have listed : (key, value) ∈ (ofPod config node pod).annotations := by
    simp only [chosenKeys, List.mem_cons, List.not_mem_nil, or_false] at member
    rcases member with rfl | rfl | rfl
    · simp [annotations, ofPod, chosen]
    · simp [annotations, ofPod, chosen]
    · simp [annotations, ofPod, chosen]
  exact annotation?_delegate _ pod _ listed

/-! ## A pod that has told the network plugin -/

namespace Delegated

section

variable {settings : Interception} {pod : Pod}

theorem shouldInject (delegated : Delegated settings pod) (injector : Injector) :
    injector.shouldInject pod := by
  have told := delegated.told (Annotations.inject, Annotations.enabled) (by simp [annotations])
  have wanted : pod.switch? Annotations.inject = some true := by
    rw [Pod.switch?, told]
    rfl
  rw [Injector.shouldInject, wanted]
  rfl

end

variable {config : Config.ProxyInit} {node : VirtualNode} {origin pod : Pod}

/-- Whoever works out the settings again finds what was worked out first. -/
theorem agrees (delegated : Delegated (ofPod config node origin) pod) (other : Config.ProxyInit)
    (otherNode : VirtualNode) : Agrees (ofPod config node origin) (ofPod other otherNode pod) := by
  rw [ofPod_of_told delegated.told other otherNode]
  exact ⟨rfl, rfl, rfl, rfl, rfl, rfl⟩

theorem settled (delegated : Delegated (ofPod config node origin) pod) (other : Config.ProxyInit)
    (sizing : Config.Sidecar) (otherNode : VirtualNode) :
    (Step.interception other sizing otherNode).Settled pod := by
  apply Step.settled_of_marked
  rw [Step.Marked, if_pos delegated.plugin, (delegated.agrees other otherNode).annotations_eq]
  exact delegated.told

/-- A change that keeps the labels and what the pod says keeps this. -/
theorem of_same {after : Pod} (delegated : Delegated (ofPod config node origin) pod)
    (plugin : after.usesNetworkPlugin = pod.usesNetworkPlugin)
    (said : ∀ key, after.annotation? key = pod.annotation? key) :
    Delegated (ofPod config node origin) after where
  plugin := by
    rw [plugin]
    exact delegated.plugin
  told := by
    intro entry member
    rw [said]
    exact delegated.told entry member

/-- No step changes what the network plugin is told, be it a step for another node. -/
theorem of_apply {step : Step} {changed : Pod}
    (delegated : Delegated (ofPod config node origin) pod)
    (applied : step.apply pod = .ok changed) : Delegated (ofPod config node origin) changed := by
  cases grows : step.onlyGrows with
  | true =>
      have grown := Step.grown_of_apply grows applied
      exact delegated.of_same (Step.usesNetworkPlugin_of_grown grown) grown.annotation?
  | false =>
      cases step with
      | interception other sizing otherNode =>
          have settled := delegated.settled other sizing otherNode
          rw [settled, Except.ok.injEq] at applied
          exact applied ▸ delegated
      | gateway config identity mesh selected =>
          rcases Gateway.of_apply applied with ⟨none, rfl⟩ | ⟨declared, image, found, allowed, rfl⟩
          · exact delegated
          · exact delegated.of_same rfl fun _ => rfl
      | _ => cases grows

theorem of_run {steps : List Step} (delegated : Delegated (ofPod config node origin) pod) :
    Delegated (ofPod config node origin) (Step.run steps pod).pod :=
  Step.run_preserves (fun _ _ _ _ holds applied => holds.of_apply applied) delegated

end Delegated

end Interception

/-! ## The first step and all later ones -/

namespace Step

/-- Where interception is left to the network plugin, the step changes the annotations that
the plugin is told with and nothing else.  What the pod chose stays, the pod still leaves
interception to the plugin, and every injector is to inject it.  From then on the settings
are worked out alike from any configuration and node, and the step for them changes nothing;
so it is after any steps of later injections. -/
theorem delegation_lasts (config : Config.ProxyInit) (sizing : Config.Sidecar) (node : VirtualNode)
    {pod : Pod} (plugin : pod.usesNetworkPlugin) :
    ∃ delegated, (interception config sizing node).apply pod = .ok delegated ∧
      (delegated.spec = pod.spec ∧ delegated.status = pod.status ∧
        delegated.metadata =
          { pod.metadata with annotations := delegated.metadata.annotations } ∧
        ∀ key ∉ Interception.keys, delegated.annotation? key = pod.annotation? key) ∧
      (∀ key ∈ Interception.chosenKeys, ∀ value, pod.annotation? key = some value →
        delegated.annotation? key = some value) ∧
      ∀ later, let reached := (run later delegated).pod
        reached.usesNetworkPlugin ∧
        (∀ injector : Injector, injector.shouldInject reached) ∧
        ∀ otherConfig otherSizing otherNode,
          Interception.Agrees (Interception.ofPod config node pod)
            (Interception.ofPod otherConfig otherNode reached) ∧
          (interception otherConfig otherSizing otherNode).apply reached = .ok reached := by
  have delegated := (Interception.ofPod config node pod).delegated_delegate plugin
  refine ⟨_, apply_interception_of_plugin plugin, ⟨?_, rfl, rfl, ?_⟩, ?_, ?_⟩
  · exact Contribution.spec_annotate _ _
  · intro key other
    exact Interception.annotation?_delegate_of_not_mem _ pod other
  · exact Interception.annotation?_delegate_of_chosen config node pod
  · intro later reached
    have still : Interception.Delegated (Interception.ofPod config node pod) reached :=
      delegated.of_run
    refine ⟨still.plugin, still.shouldInject, ?_⟩
    intro otherConfig otherSizing otherNode
    exact ⟨still.agrees otherConfig otherNode, still.settled otherConfig otherSizing otherNode⟩

/-- A pod that chose a port and would not be injected keeps the port, and is to be injected
from then on.  Neither the port nor the addresses that another node and configuration would
ask for come in any more. -/
theorem delegation_lasts_of_choosing :
    let pod := (Pod.empty.withNetworkPlugin.annotate Annotations.ports "9090").annotate
      Annotations.inject Annotations.disabled
    let node : VirtualNode := { name := "node", namespaceName := "default" }
    let otherNode : VirtualNode := { node with listeners := [⟨8080, .http⟩] }
    let otherConfig : Config.ProxyInit := { ignoredIps := "10.0.0.1" }
    let injector : Injector := ⟨{ injectDefault := false }, {}, by decide⟩
    pod.usesNetworkPlugin ∧ injector.shouldInject pod = false ∧
    ∃ delegated, (interception {} {} node).apply pod = .ok delegated ∧
      delegated.annotation? Annotations.ports = some "9090" ∧ injector.shouldInject delegated ∧
      (Interception.ofPod otherConfig otherNode delegated).appPorts = "9090" ∧
      (Interception.ofPod otherConfig otherNode delegated).egressIgnoredIps = "169.254.169.254" ∧
      (interception otherConfig {} otherNode).apply delegated = .ok delegated := by
  intro pod node otherNode otherConfig injector
  have plugin : pod.usesNetworkPlugin := by
    decide
  rcases delegation_lasts {} {} node plugin with ⟨delegated, applied, -, chosen, lasts⟩
  rcases lasts [] with ⟨-, wanted, later⟩
  rcases later otherConfig {} otherNode with ⟨agrees, settled⟩
  have port : pod.annotation? Annotations.ports = some "9090" := by
    decide
  refine ⟨plugin, by decide, delegated, applied, chosen _ (by decide) _ port, wanted injector, ?_,
    ?_, settled⟩
  · refine agrees.appPorts.trans ?_
    decide
  · refine agrees.egressIgnoredIps.trans ?_
    decide

end Step

end MeshSidecar
