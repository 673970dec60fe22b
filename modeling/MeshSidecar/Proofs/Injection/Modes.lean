import MeshSidecar.Proofs.Injection.Acceptance
import MeshSidecar.Proofs.Injection.Contribution
import MeshSidecar.Proofs.Injection.Environment
import MeshSidecar.Proofs.Text.Decimal

namespace MeshSidecar

/-!
# The two modes of interception

An init container redirects the traffic of a pod as its environment says, and the
network plugin as the annotations say.  A pod that changes from one mode to the other is
intercepted in the same way: each setting that both are told stands in the environment
with the value that it has in the annotations.
-/

/-! ## The same settings in both modes -/

/-- The pod, if it had been set to leave interception to the network plugin. -/
def Pod.withNetworkPlugin (pod : Pod) : Pod :=
  pod.annotate Annotations.cni Annotations.enabled

theorem Pod.usesNetworkPlugin_withNetworkPlugin (pod : Pod) :
    pod.withNetworkPlugin.usesNetworkPlugin := by
  have said : pod.withNetworkPlugin.switch? Annotations.cni = some true := by
    rw [switch?, withNetworkPlugin, annotation?_annotate, if_pos rfl]
    decide
  rw [usesNetworkPlugin, said]
  rfl

namespace Interception

/-- The variables of the init container beside the annotations that tell the network
plugin the same. -/
def correspondence : List (String × String) := [
  ("APPMESH_APP_PORTS", Annotations.ports),
  ("APPMESH_EGRESS_IGNORED_IP", Annotations.egressIgnoredIps),
  ("APPMESH_EGRESS_IGNORED_PORTS", Annotations.egressIgnoredPorts),
  ("APPMESH_ENVOY_EGRESS_PORT", Annotations.proxyEgressPort),
  ("APPMESH_ENVOY_INGRESS_PORT", Annotations.proxyIngressPort),
  ("APPMESH_IGNORE_UID", Annotations.ignoredUid)]

theorem ofPod_withNetworkPlugin (config : Config.ProxyInit) (node : VirtualNode) (pod : Pod) :
    ofPod config node pod.withNetworkPlugin = ofPod config node pod := by
  have same : ∀ key, Annotations.cni ≠ key →
      pod.withNetworkPlugin.annotation? key = pod.annotation? key := by
    intro key other
    rw [Pod.withNetworkPlugin, Pod.annotation?_annotate, if_neg other]
  rw [ofPod, Pod.ipv6?, same _ (by decide), same _ (by decide), same _ (by decide),
    same _ (by decide), ofPod, Pod.ipv6?]

/-- Both are told from the same settings. -/
theorem told_of_settings (settings : Interception) (image : String) (resources : Resources) :
    ∀ entry ∈ correspondence, ∃ value,
      (settings.initContainer image resources).variables entry.1 = [.given entry.1 value] ∧
      (entry.2, value) ∈ settings.annotations := by
  intro entry member
  simp only [correspondence, List.mem_cons, List.not_mem_nil, or_false] at member
  rcases member with rfl | rfl | rfl | rfl | rfl | rfl
  · exact ⟨settings.appPorts, rfl, by simp [annotations]⟩
  · exact ⟨settings.egressIgnoredIps, rfl, by simp [annotations]⟩
  · exact ⟨settings.egressIgnoredPorts, rfl, by simp [annotations]⟩
  · exact ⟨Text.ofNat settings.egressPort.toNat, rfl, by simp [annotations]⟩
  · exact ⟨Text.ofNat settings.ingressPort.toNat, rfl, by simp [annotations]⟩
  · exact ⟨Text.ofNat settings.uid, rfl, by simp [annotations]⟩

end Interception

/-! ## Ports in a list -/

/-- The port that decimal text stands for. -/
def Text.port? (text : List Char) : Option UInt16 :=
  (valueInBase? 10 text).bind fun value =>
    if value < UInt16.size then some (.ofNat value) else none

theorem Text.port?_digits (port : UInt16) : port? (digits port.toNat) = some port := by
  rw [port?, valueInBase?_digits, Option.bind_some, if_pos port.toNat_lt, UInt16.ofNat_toNat]

/-- The list of ports is read as the ports of the listeners, where there are any. -/
theorem VirtualNode.ports_of_portList {node : VirtualNode} (listens : node.listeners ≠ []) :
    (Text.splitOn ',' node.portList.toList).mapM Text.port? = some node.ports := by
  have some : node.ports ≠ [] := by
    rw [ports]
    simpa using listens
  have listed : node.portList.toList =
      [','].intercalate (node.ports.map fun port => Text.digits port.toNat) := by
    rw [portList, if_neg (by simpa using some), String.toList_intercalate, List.map_map]
    simp [Function.comp_def, Text.ofNat]
  have free : ∀ piece ∈ node.ports.map fun port => Text.digits port.toNat, ',' ∉ piece := by
    intro piece member
    rcases List.mem_map.mp member with ⟨port, -, rfl⟩
    exact Text.not_mem_digits (by decide) _
  have read : (Text.port? ∘ fun port : UInt16 => Text.digits port.toNat) = fun port => pure port :=
    funext Text.port?_digits
  rw [listed, Text.splitOn_intercalate (by simpa using some) free, List.mapM_map, read,
    List.mapM_pure]
  exact congrArg Option.some (List.map_id _)

/-! ## The step in both modes -/

namespace Step

variable {config : Config.ProxyInit} {sizing : Config.Sidecar} {node : VirtualNode} {pod : Pod}

theorem apply_interception_of_sized (byInit : pod.usesNetworkPlugin = false)
    (absent : pod.hasInitContainer Artifact.proxyInit = false)
    (sized : ∀ quantity ∈ pod.quantities sizing, Quantity.Usable quantity) :
    ∃ resources, (interception config sizing node).apply pod = .ok (pod.addInitContainer
      ((Interception.ofPod config node pod).initContainer config.image resources)) := by
  rcases Pod.sidecarResources_of_usable sized with ⟨resources, resourced⟩
  refine ⟨resources, ?_⟩
  rw [apply, Interception.apply_eq, byInit, absent, resourced]
  rfl

theorem apply_interception_of_plugin (plugin : pod.usesNetworkPlugin) :
    (interception config sizing node).apply pod =
      .ok ((Interception.ofPod config node pod).delegate pod) := by
  rw [apply, Interception.apply_eq, if_pos plugin]

/-- A pod that is intercepted by an init container gets one, and its annotations stay.  Were
it to leave interception to the network plugin, it would get no init container, but
annotations that say what the init container is told.  What the pod says itself stands,
and otherwise the ports of the node, the configured addresses and the port for SSH. -/
theorem interception_same_in_both_modes (byInit : pod.usesNetworkPlugin = false)
    (absent : pod.hasInitContainer Artifact.proxyInit = false)
    (sized : ∀ quantity ∈ pod.quantities sizing, Quantity.Usable quantity) :
    ∃ init intercepted delegated,
      (interception config sizing node).apply pod = .ok intercepted ∧
      intercepted.initContainers = pod.initContainers ++ [init] ∧
      init.name = Artifact.proxyInit ∧ intercepted.metadata = pod.metadata ∧
      (interception config sizing node).apply pod.withNetworkPlugin = .ok delegated ∧
      delegated.spec = pod.spec ∧
      (∀ entry ∈ Interception.correspondence, ∃ value,
        init.variables entry.1 = [.given entry.1 value] ∧
        delegated.annotation? entry.2 = some value) ∧
      delegated.annotation? Annotations.ports =
        some ((pod.annotation? Annotations.ports).getD node.portList) ∧
      delegated.annotation? Annotations.egressIgnoredIps =
        some ((pod.annotation? Annotations.egressIgnoredIps).getD config.ignoredIps) ∧
      delegated.annotation? Annotations.egressIgnoredPorts =
        some ((pod.annotation? Annotations.egressIgnoredPorts).getD "22") ∧
      (node.listeners ≠ [] →
        (Text.splitOn ',' node.portList.toList).mapM Text.port? = some node.ports) := by
  rcases apply_interception_of_sized byInit absent sized with ⟨resources, intercepts⟩
  have delegates : (interception config sizing node).apply pod.withNetworkPlugin =
      .ok ((Interception.ofPod config node pod).delegate pod.withNetworkPlugin) := by
    rw [apply_interception_of_plugin pod.usesNetworkPlugin_withNetworkPlugin,
      Interception.ofPod_withNetworkPlugin]
  have stored := (Interception.ofPod config node pod).annotation?_delegate pod.withNetworkPlugin
  refine ⟨(Interception.ofPod config node pod).initContainer config.image resources, _, _,
    intercepts, ?_, rfl, rfl, delegates, ?_, ?_, ?_, ?_, ?_, VirtualNode.ports_of_portList⟩
  · simp [Pod.initContainers_eq, Pod.addInitContainer]
  · exact Contribution.spec_annotate _ _
  · intro entry member
    rcases Interception.told_of_settings _ config.image resources entry member with
      ⟨value, inEnvironment, told⟩
    exact ⟨value, inEnvironment, stored _ told⟩
  · exact stored (Annotations.ports, _) List.mem_cons_self
  · exact stored (Annotations.egressIgnoredIps, _) (List.mem_cons_of_mem _ List.mem_cons_self)
  · exact stored (Annotations.egressIgnoredPorts, _)
      (List.mem_cons_of_mem _ (List.mem_cons_of_mem _ List.mem_cons_self))

/-- A node that listens on one port twice, and a pod that has no port ignored. -/
theorem interception_same_of_listeners :
    let node : VirtualNode := {
      name := "node"
      namespaceName := "default"
      listeners := [⟨8080, .http⟩, ⟨443, .tcp⟩, ⟨8080, .grpc⟩] }
    let pod := Pod.empty.annotate Annotations.egressIgnoredPorts ""
    pod.usesNetworkPlugin = false ∧ pod.hasInitContainer Artifact.proxyInit = false ∧
    (∀ quantity ∈ pod.quantities {}, Quantity.Usable quantity) ∧
    ∃ init intercepted delegated,
      (interception {} {} node).apply pod = .ok intercepted ∧
      intercepted.initContainers = pod.initContainers ++ [init] ∧
      (interception {} {} node).apply pod.withNetworkPlugin = .ok delegated ∧
      init.variables "APPMESH_EGRESS_IGNORED_PORTS" =
        [.given "APPMESH_EGRESS_IGNORED_PORTS" ""] ∧
      delegated.annotation? Annotations.egressIgnoredPorts = some "" ∧
      (Text.splitOn ',' node.portList.toList).mapM Text.port? = some [8080, 443, 8080] := by
  intro node pod
  have sized : ∀ quantity ∈ pod.quantities {}, Quantity.Usable quantity := by
    simp only [← Quantity.bad?_eq_none]
    decide
  have same := @interception_same_in_both_modes {} {} node pod (by decide) (by decide) sized
  rcases same with ⟨init, intercepted, delegated, intercepts, added, -, -, delegates, -, settings,
    -, -, ignored, ports⟩
  have listed : ("APPMESH_EGRESS_IGNORED_PORTS", Annotations.egressIgnoredPorts) ∈
      Interception.correspondence := by
    decide
  rcases settings _ listed with ⟨value, inEnvironment, told⟩
  have said : (pod.annotation? Annotations.egressIgnoredPorts).getD "22" = "" := by
    decide
  rw [said] at ignored
  rw [ignored] at told
  cases told
  exact ⟨by decide, by decide, sized, init, intercepted, delegated, intercepts, added, delegates,
    inEnvironment, ignored, ports (by simp [node])⟩

end Step

end MeshSidecar
