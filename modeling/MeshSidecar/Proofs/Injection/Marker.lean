import MeshSidecar.Proofs.Injection.Effect
import MeshSidecar.Proofs.Injection.Run

namespace MeshSidecar

/-!
# How steps recognise what they did

Each step leaves something in the pod by which it recognises its own work: a
container, a volume, an entry of a list, or just the values that it would write
again.  A step changes nothing exactly when it finds its marker, and it finds it
wherever the pod has only grown since.
-/

/-! ## Annotations of interception -/

namespace Pod

theorem annotation?_annotate (pod : Pod) (key value name : String) :
    (pod.annotate key value).annotation? name =
      if key = name then some value else pod.annotation? name := by
  have stored : (pod.annotate key value).annotation? name =
      ((pod.metadata.annotations.getD .empty).insert key value).get? name := rfl
  rw [stored]
  by_cases same : key = name
  · rw [if_pos same, same]
    exact SortedMap.get?_insert_self _ name value
  · rw [if_neg same, SortedMap.get?_insert_of_ne _ same]
    rw [annotation?]
    cases pod.metadata.annotations with
    | none => rfl
    | some annotations => rfl

theorem annotate_of_annotation? {pod : Pod} {key value : String}
    (stored : pod.annotation? key = some value) : pod.annotate key value = pod := by
  rcases pod with ⟨⟨name, generateName, annotations, labels, rest⟩, spec, status⟩
  cases annotations with
  | none => cases stored
  | some annotations =>
      have same : annotations.insert key value = annotations := SortedMap.insert_of_get? stored
      simp [annotate, mapAnnotations, same]

end Pod

namespace Pod

/-- Of several annotations with one key the last stands. -/
theorem annotation?_foldl (entries : List (String × String)) (pod : Pod) (name : String) :
    (entries.foldl (fun pod entry => pod.annotate entry.1 entry.2) pod).annotation? name =
      (Document.find? name entries).or (pod.annotation? name) := by
  induction entries generalizing pod with
  | nil => rfl
  | cons entry entries ih =>
      rw [List.foldl_cons, ih, annotation?_annotate, Document.find?, Option.or_assoc]
      by_cases same : entry.1 = name
      · simp [same]
      · simp [same]

theorem foldl_annotate_of_annotation? {entries : List (String × String)} {pod : Pod}
    (stored : ∀ entry ∈ entries, pod.annotation? entry.1 = some entry.2) :
    entries.foldl (fun pod entry => pod.annotate entry.1 entry.2) pod = pod := by
  induction entries with
  | nil => rfl
  | cons entry entries ih =>
      have first := annotate_of_annotation? (stored entry List.mem_cons_self)
      rw [List.foldl_cons, first]
      exact ih fun other member => stored other (List.mem_cons_of_mem entry member)

end Pod

namespace Interception

/-- The seven annotations that the network plugin is told with. -/
def keys : List String :=
  [Annotations.ports, Annotations.egressIgnoredIps, Annotations.egressIgnoredPorts,
    Annotations.proxyEgressPort, Annotations.proxyIngressPort, Annotations.ignoredUid,
    Annotations.inject]

theorem annotation?_delegate_of_not_mem (settings : Interception) (pod : Pod) {name : String}
    (other : name ∉ keys) : (settings.delegate pod).annotation? name = pod.annotation? name := by
  have absent : ∀ entry ∈ settings.annotations, entry.1 ≠ name := by
    intro entry member same
    have isKey : entry.1 ∈ keys := List.mem_map_of_mem member
    rw [same] at isKey
    exact other isKey
  rw [delegate, Pod.annotation?_foldl, (Document.find?_eq_none_iff _ _).mpr absent]
  rfl

/-- The keys are distinct, so each annotation ends up with its own value. -/
theorem annotation?_delegate (settings : Interception) (pod : Pod) :
    ∀ entry ∈ settings.annotations,
      (settings.delegate pod).annotation? entry.1 = some entry.2 := by
  intro entry member
  rw [delegate, Pod.annotation?_foldl]
  have found : Document.find? entry.1 settings.annotations = some entry.2 := by
    simp only [annotations, List.mem_cons, List.not_mem_nil, or_false] at member
    rcases member with rfl | rfl | rfl | rfl | rfl | rfl | rfl <;>
      simp [annotations, Document.find?, Annotations.ports, Annotations.egressIgnoredIps,
        Annotations.egressIgnoredPorts, Annotations.proxyEgressPort, Annotations.proxyIngressPort,
        Annotations.ignoredUid, Annotations.inject]
  rw [found]
  rfl

theorem usesNetworkPlugin_delegate (settings : Interception) (pod : Pod) :
    (settings.delegate pod).usesNetworkPlugin = pod.usesNetworkPlugin := by
  have switch : (settings.delegate pod).switch? Annotations.cni = pod.switch? Annotations.cni := by
    rw [Pod.switch?, annotation?_delegate_of_not_mem settings pod (by decide), Pod.switch?]
  rw [Pod.usesNetworkPlugin, switch, Pod.usesNetworkPlugin]
  rfl

theorem ipv6?_delegate (settings : Interception) (pod : Pod) :
    (settings.delegate pod).ipv6? = pod.ipv6? := by
  rw [Pod.ipv6?, annotation?_delegate_of_not_mem settings pod (by decide), Pod.ipv6?]

/-- What a pod says about the settings that the network plugin was told is what they are. -/
theorem ofPod_of_told {settings : Interception} {pod : Pod}
    (told : ∀ entry ∈ settings.annotations, pod.annotation? entry.1 = some entry.2)
    (config : Config.ProxyInit) (node : VirtualNode) :
    ofPod config node pod = { ofPod config node pod with
      appPorts := settings.appPorts
      egressIgnoredIps := settings.egressIgnoredIps
      egressIgnoredPorts := settings.egressIgnoredPorts } := by
  have ports := told (Annotations.ports, settings.appPorts) (by simp [annotations])
  have ips := told (Annotations.egressIgnoredIps, settings.egressIgnoredIps)
    (by simp [annotations])
  have ignored := told (Annotations.egressIgnoredPorts, settings.egressIgnoredPorts)
    (by simp [annotations])
  rw [ofPod, ports, ips, ignored]
  rfl

/-- A pod derives the settings again that it was given by annotations. -/
theorem ofPod_delegate (config : Config.ProxyInit) (node : VirtualNode) (pod : Pod) :
    ofPod config node ((ofPod config node pod).delegate pod) = ofPod config node pod := by
  rw [ofPod_of_told (annotation?_delegate _ pod)]
  simp only [ofPod, ipv6?_delegate]

end Interception

/-! ## What a pod says -/

namespace Pod

/-- The pods say the same beyond what the network plugin is told. -/
def SaysSame (before after : Pod) : Prop :=
  ∀ key ∉ Interception.keys, after.annotation? key = before.annotation? key

theorem Grown.saysSame {before after : Pod} (grown : Grown before after) : SaysSame before after :=
  fun key _ => grown.annotation? key

/-- The annotations that the injector looks for and the network plugin is not told with. -/
def askedKeys : List String :=
  Annotations.all.filter fun key => key ∉ Interception.keys

/-- The pods say the same under these. -/
def AsksSame (before after : Pod) : Prop :=
  ∀ key ∈ askedKeys, after.annotation? key = before.annotation? key

theorem SaysSame.asksSame {before after : Pod} (same : SaysSame before after) :
    AsksSame before after := by
  intro key asked
  have other := (List.mem_filter.mp asked).2
  exact same key (of_decide_eq_true other)

namespace AsksSame

variable {before after : Pod}

theorem override (same : AsksSame before after) {key : String} (asked : key ∈ askedKeys)
    (configured : Option String) :
    after.override key configured = before.override key configured := by
  rw [Pod.override, same key asked, Pod.override]

theorem sidecarResources (same : AsksSame before after) (sizing : Config.Sidecar) :
    after.sidecarResources sizing = before.sidecarResources sizing := by
  rw [Pod.sidecarResources, same.override (by decide), same.override (by decide),
    same.override (by decide), same.override (by decide), Pod.sidecarResources]

theorem pairs (same : AsksSame before after) {key : String} (asked : key ∈ askedKeys)
    (form : PairForm) : after.pairs key form = before.pairs key form := by
  rw [Pod.pairs, same key asked, Pod.pairs]

theorem wishes (same : AsksSame before after) : Envoy.wishes after = Envoy.wishes before := by
  rw [Envoy.wishes, same.pairs (by decide), same.pairs (by decide), same.pairs (by decide),
    Envoy.wishes]

theorem sdsPath (same : AsksSame before after) (envoy : Config.Envoy) :
    Sds.path? envoy after = Sds.path? envoy before := by
  rw [Sds.path?, Sds.isUsed, same _ (by decide), Sds.path?, Sds.isUsed]

theorem missingPath (same : AsksSame before after)
    (shown : ∀ path, after.mountsHostPath path = before.mountsHostPath path)
    (envoy : Config.Envoy) : Sds.missingPath? envoy after = Sds.missingPath? envoy before := by
  rw [Sds.missingPath?, same.sdsPath, Sds.missingPath?]
  simp only [shown]

theorem usesPreview (same : AsksSame before after) (envoy : Config.Envoy) :
    Envoy.usesPreview envoy after = Envoy.usesPreview envoy before := by
  rw [Envoy.usesPreview, Pod.switch?, same _ (by decide), Envoy.usesPreview, Pod.switch?]

end AsksSame

end Pod

namespace Interception

variable {config : Config.ProxyInit} {sizing : Config.Sidecar} {node : VirtualNode}
  {pod changed : Pod}

theorem saysSame_of_apply (applied : apply config sizing node pod = .ok changed) :
    Pod.SaysSame pod changed := by
  intro key other
  rcases of_apply applied with ⟨plugin, rfl⟩ | ⟨noPlugin, present, rfl⟩ |
    ⟨noPlugin, absent, resources, sized, rfl⟩
  · exact annotation?_delegate_of_not_mem _ pod other
  · rfl
  · rfl

theorem containers_of_apply (applied : apply config sizing node pod = .ok changed) :
    changed.containers = pod.containers := by
  rcases of_apply applied with ⟨plugin, rfl⟩ | ⟨noPlugin, present, rfl⟩ |
    ⟨noPlugin, absent, resources, sized, rfl⟩
  · rfl
  · rfl
  · exact Pod.containers_mapSpec rfl

theorem hasContainer_of_apply (applied : apply config sizing node pod = .ok changed)
    (name : String) : changed.hasContainer name = pod.hasContainer name := by
  rw [Pod.hasContainer, containers_of_apply applied, Pod.hasContainer]

theorem volumes_of_apply (applied : apply config sizing node pod = .ok changed) :
    changed.volumes = pod.volumes := by
  rcases of_apply applied with ⟨plugin, rfl⟩ | ⟨noPlugin, present, rfl⟩ |
    ⟨noPlugin, absent, resources, sized, rfl⟩
  · rfl
  · rfl
  · exact Pod.volumes_mapSpec rfl

end Interception

/-! ## The container of a gateway -/

namespace Gateway

/-- The variables that an override appends. -/
def appended (entry : String × String) : EnvVar where
  name := entry.1
  value := some entry.2
  valueFrom := none

/-- Overriding just what an override appends changes nothing. -/
theorem overrideEnv_appended (given : SortedMap String) :
    overrideEnv given (given.entries.map appended) = given.entries.map appended := by
  rcases given with ⟨entries, ascending⟩
  induction entries with
  | nil => rfl
  | cons entry entries ih =>
      rcases List.pairwise_cons.mp ascending with ⟨below, restAscending⟩
      have found : (SortedMap.mk (entry :: entries) ascending).get? entry.1 = some entry.2 := by
        simp [SortedMap.get?, SortedMap.lookup]
      have distinct : ∀ other ∈ entries, other.1 ≠ entry.1 := by
        intro other member same
        have less := below other member
        rw [same] at less
        exact String.lt_irrefl _ less
      have erased : (SortedMap.mk (entry :: entries) ascending).erase entry.1 =
          ⟨entries, restAscending⟩ := by
        apply SortedMap.ext
        simp only [SortedMap.erase, ne_eq, not_true_eq_false, decide_false, Bool.false_eq_true,
          not_false_eq_true, List.filter_cons_of_neg]
        exact List.filter_eq_self.mpr fun other member => by simpa using distinct other member
      have later := ih restAscending
      rw [List.map_cons, overrideEnv]
      simp only [appended] at found later ⊢
      rw [found]
      simp only [erased]
      rw [later]

/-- An environment that was overridden is overridden to itself. -/
theorem overrideEnv_overrideEnv (given : SortedMap String) (env : List EnvVar) :
    overrideEnv given (overrideEnv given env) = overrideEnv given env := by
  induction env generalizing given with
  | nil => exact overrideEnv_appended given
  | cons var env ih =>
      cases found : given.get? var.name with
      | none => simp [overrideEnv, found, ih]
      | some value => simp [overrideEnv, found, ih]

theorem image_image {sidecar : Config.Sidecar} {pinned : Bool} {declared filled : Option String}
    (allowed : image sidecar pinned declared = .ok filled) :
    image sidecar pinned filled = .ok filled := by
  unfold image at allowed ⊢
  cases pinned with
  | true => rfl
  | false =>
      simp only [Bool.false_eq_true, if_false] at allowed ⊢
      split at allowed
      · cases allowed
        simp
      · cases allowed

theorem find?_changeFirst {α : Type} {p : α → Bool} {change : α → α} {list : List α} {first : α}
    (found : list.find? p = some first) (kept : p (change first)) :
    (changeFirst p change list).find? p = some (change first) := by
  induction list with
  | nil => cases found
  | cons head rest ih =>
      by_cases holds : p head
      · rw [List.find?_cons_of_pos holds, Option.some_inj] at found
        subst found
        simp [changeFirst, holds, kept]
      · rw [List.find?_cons_of_neg holds] at found
        simp [changeFirst, holds, ih found]

theorem length_changeFirst {α : Type} (p : α → Bool) (change : α → α) (list : List α) :
    (changeFirst p change list).length = list.length := by
  induction list with
  | nil => rfl
  | cons head rest ih =>
      rw [changeFirst]
      split
      · rfl
      · rw [List.length_cons, List.length_cons, ih]

theorem changeFirst_eq_self {α : Type} {p : α → Bool} {change : α → α} {list : List α}
    (kept : ∀ first, list.find? p = some first → change first = first) :
    changeFirst p change list = list := by
  induction list with
  | nil => rfl
  | cons head rest ih =>
      by_cases holds : p head
      · have same := kept head (List.find?_cons_of_pos holds)
        simp [changeFirst, holds, same]
      · have later := ih fun first found => kept first (by rw [List.find?_cons_of_neg holds, found])
        simp [changeFirst, holds, later]

/-- What the gateway step leaves in a pod with a declared container. -/
structure Filled (config : Config) (identity : Identity) (mesh : Mesh) (gateway : VirtualGateway)
    (pod : Pod) (declared : Container) : Prop where
  image : image config.sidecar (pinsImage pod) declared.image = .ok declared.image
  env : declared.env = some (overrideEnv
    (.ofList (Variables.ofPod config identity mesh gateway pod).assignments)
    (declared.env.getD []))
  shown : Sds.missingPath? config.envoy pod = none

theorem fill_of_filled {config : Config} {identity : Identity} {mesh : Mesh}
    {gateway : VirtualGateway} {pod : Pod} {declared : Container}
    (filled : Filled config identity mesh gateway pod declared) :
    fill (.ofList (Variables.ofPod config identity mesh gateway pod).assignments) declared.image
      none declared = declared := by
  rcases declared with ⟨name, image, command, args, env, volumeMounts, resources, probe, rest⟩
  have same := filled.env
  simp only at same
  simp [fill, ← same]

theorem containers_filled (given : SortedMap String) (image : Option String)
    (missing : Option String) (pod : Pod) : (filled given image missing pod).containers =
      fillDeclared given image missing pod.containers := by
  rw [Pod.containers_eq, Pod.containers_eq]
  rfl

theorem initContainers_filled (given : SortedMap String) (image : Option String)
    (missing : Option String) (pod : Pod) :
    (filled given image missing pod).initContainers = pod.initContainers := by
  simp [Pod.initContainers_eq, filled, Pod.addVolumes]

/-- The declared container is filled in where it is. -/
theorem declared?_filled {pod : Pod} {declared : Container} (found : declared? pod = some declared)
    (given : SortedMap String) (image missing : Option String) :
    declared? (filled given image missing pod) = some (fill given image missing declared) := by
  have search : pod.containers.find? (fun container => container.name == Artifact.envoy) =
      some declared := found
  have isEnvoy := List.find?_some search
  rw [declared?, containers_filled, fillDeclared, find?_changeFirst search isEnvoy]

theorem volumes_filled (given : SortedMap String) (image : Option String)
    (missing : Option String) (pod : Pod) : (filled given image missing pod).volumes =
      pod.volumes ++ missing.toList.map Sds.volume := by
  simp [Pod.volumes_eq, filled, Pod.addVolumes]

theorem filled_eq_self {config : Config} {identity : Identity} {mesh : Mesh}
    {gateway : VirtualGateway} {pod : Pod} {declared : Container}
    (found : declared? pod = some declared)
    (isFilled : Filled config identity mesh gateway pod declared) :
    filled (.ofList (Variables.ofPod config identity mesh gateway pod).assignments) declared.image
      none pod = pod := by
  have same : fillDeclared (.ofList (Variables.ofPod config identity mesh gateway pod).assignments)
      declared.image none pod.containers = pod.containers := by
    apply changeFirst_eq_self
    intro first firstFound
    rw [declared?, firstFound, Option.some_inj] at found
    subst found
    exact fill_of_filled isFilled
  cases present : pod.spec with
  | none =>
      rw [declared?, Pod.containers, present] at found
      cases found
  | some spec =>
      have containers : pod.containers = spec.containers := by
        rw [Pod.containers, present]
        rfl
      rw [containers] at same
      rw [filled, Pod.mapSpec_eq_self present (by rw [same])]
      exact Pod.mapSpec_eq_self present rfl

/-- The step changes nothing in a pod whose declared container is filled in. -/
theorem apply_of_filled {config : Config} {identity : Identity} {mesh : Mesh}
    {gateway : VirtualGateway} {pod : Pod} (isFilled : ∀ declared, declared? pod = some declared →
      Filled config identity mesh gateway pod declared) :
    apply config identity mesh gateway pod = .ok pod := by
  rw [apply_eq]
  cases found : declared? pod with
  | none => rfl
  | some declared =>
      have marker := isFilled declared found
      have same := filled_eq_self found marker
      simp only [marker.image, marker.shown, Except.map, same]

theorem missingPath?_filled (envoy : Config.Envoy) (given : SortedMap String)
    (image : Option String) (pod : Pod) :
    Sds.missingPath? envoy (filled given image (Sds.missingPath? envoy pod) pod) = none := by
  have path : Sds.path? envoy (filled given image (Sds.missingPath? envoy pod) pod) =
      Sds.path? envoy pod := rfl
  rw [Sds.missingPath?, path]
  cases used : Sds.path? envoy pod with
  | none => rfl
  | some path =>
      rw [Option.filter_eq_none_iff]
      intro other same
      cases same
      rw [Pod.mountsHostPath, volumes_filled, Sds.missingPath?, used]
      cases shown : pod.mountsHostPath path with
      | true =>
          rw [Pod.mountsHostPath] at shown
          simp [shown]
      | false => simp [Option.filter, shown, Sds.volume]

/-- The step fills in the declared container for good. -/
theorem filled_of_apply {config : Config} {identity : Identity} {mesh : Mesh}
    {gateway : VirtualGateway} {pod changed : Pod}
    (applied : apply config identity mesh gateway pod = .ok changed) :
    ∀ declared, declared? changed = some declared →
      Filled config identity mesh gateway changed declared := by
  intro declared found
  rcases of_apply applied with ⟨absent, rfl⟩ | ⟨original, filledImage, present, allowed, rfl⟩
  · rw [absent] at found
    cases found
  · rw [declared?_filled present, Option.some_inj] at found
    subst found
    refine ⟨image_image allowed, ?_, missingPath?_filled ..⟩
    exact congrArg some (overrideEnv_overrideEnv _ _).symm

end Gateway

end MeshSidecar
