import MeshSidecar.Proofs.Injection.Environment
import MeshSidecar.Proofs.Injection.Order

namespace MeshSidecar

/-!
# How Envoy comes by its tracing configuration

Envoy is told to read a file before it is known who writes it.  The init container of a
tracer writes the file into a volume that is shown to both, and the volume's name is all
that the tracer looks at.  So the file is there for Envoy exactly when no other step
brings a volume of that name, and the only one that could is Envoy, for a secret.
-/

/-- Where a container has a volume mounted. -/
def Container.mountPaths (container : Container) (volume : String) : List String :=
  ((container.volumeMounts.getD []).filter fun mount => mount.name == volume).map
    VolumeMount.mountPath

/-- The volumes of one name. -/
def Volume.named (name : String) (volumes : List Volume) : List Volume :=
  volumes.filter fun volume => volume.name == name

theorem Volume.named_append (name : String) (early late : List Volume) :
    named name (early ++ late) = named name early ++ named name late :=
  List.filter_append ..

theorem Volume.named_flatMap {α : Type} (name : String) (list : List α) (f : α → List Volume) :
    named name (list.flatMap f) = list.flatMap fun entry => named name (f entry) :=
  List.filter_flatMap ..

/-- The tracers that are configured by a file. -/
def Config.Tracing.fileTracers (tracing : Config.Tracing) : List Tracer :=
  [.jaeger tracing.jaeger, .datadog tracing.datadog]

theorem Config.Tracing.mem_fileTracers {tracing : Config.Tracing} {tracer : Tracer} :
    tracer ∈ tracing.fileTracers ↔
      tracer = .jaeger tracing.jaeger ∨ tracer = .datadog tracing.datadog := by
  simp [fileTracers]

theorem Config.Tracing.exists_heads {tracing : Config.Tracing} {tracer : Tracer}
    (listed : tracer ∈ tracing.fileTracers) : ∃ rest, tracer.Heads rest := by
  rcases mem_fileTracers.mp listed with rfl | rfl
  · exact ⟨_, Tracer.heads_jaeger _⟩
  · exact ⟨_, Tracer.heads_datadog _⟩

/-- The init container of the tracer writes the configuration to the file that Envoy is
told to read, below the path at which both have the volume. -/
structure Tracer.Feeds (tracer : Tracer) (init envoy : Container) (path file : String) : Prop where
  writer : init.name = tracer.containerName
  reader : envoy.name = Artifact.envoy
  mounted : init.mountPaths Artifact.tracingVolume = [path]
  shared : path ∈ envoy.mountPaths Artifact.tracingVolume
  below : ∃ leaf, leaf ≠ "" ∧ '/' ∉ leaf.toList ∧ file = path ++ "/" ++ leaf
  script : init.command = some ["sh", "-c",
    "cat <<EOF >> " ++ file ++ "\n" ++ tracer.body ++ "EOF\n\ncat " ++ file ++ "\n"]
  told : envoy.variables "ENVOY_TRACING_CFG_FILE" = [.given "ENVOY_TRACING_CFG_FILE" file]

/-- The pod has come by one volume for tracers, which is empty at first, and by an Envoy
and the init container of an enabled tracer that share a file in it. -/
structure TracingReaches (tracing : Config.Tracing) (before after : Pod) : Prop where
  volume : Volume.named Artifact.tracingVolume after.volumes =
    [{ name := "envoy-tracing-config", hostPath := none, rest := [("emptyDir", .obj [])] }]
  file : ∃ tracer ∈ tracing.fileTracers, tracer.enabled ∧
    ∃ init ∈ after.initContainers.drop before.initContainers.length,
    ∃ envoy ∈ after.containers.drop before.containers.length,
    ∃ path file, tracer.Feeds init envoy path file

/-! ## Envoy and the tracer -/

section

variable {config : Config} {identity : Identity} {mesh : Mesh} {node : VirtualNode} {pod : Pod}

/-- An Envoy that is built for a tracer has its volume at the path for it. -/
theorem Envoy.tracingMount_built (reads : readsTracingFile config.tracing) (wished : Wishes)
    (resources : Resources) : Artifact.tracingMountPath ∈
      (built config identity mesh node pod wished resources).mountPaths
        Artifact.tracingVolume := by
  have isMounted : .plain Artifact.tracingVolume Artifact.tracingMountPath ∈
      (built config identity mesh node pod wished resources).volumeMounts.getD [] := by
    rw [mounts_built, askedMounts_eq, if_pos reads]
    simp
  exact List.mem_map_of_mem (List.mem_filter.mpr ⟨isMounted, by decide⟩)

/-- It is told where the file is, whatever the pod says about it. -/
theorem Envoy.tracingFile_built (reads : readsTracingFile config.tracing) (wished : Wishes)
    (resources : Resources) :
    (built config identity mesh node pod wished resources).variables "ENVOY_TRACING_CFG_FILE" =
      [.given "ENVOY_TRACING_CFG_FILE" Artifact.tracingFile] := by
  have defined : EnvVar.named "ENVOY_TRACING_CFG_FILE"
      (Variables.ofPod config identity mesh node pod).environment =
        [.given "ENVOY_TRACING_CFG_FILE" Artifact.tracingFile] :=
    (Variables.named_tracingFile _).trans (if_pos reads)
  rw [variables_built, defined, if_neg (List.cons_ne_nil _ _)]

/-- The init container of any tracer writes the file that Envoy reads. -/
theorem Tracer.feeds_built {tracer : Tracer} {rest : List String} (heads : tracer.Heads rest)
    (reads : Envoy.readsTracingFile config.tracing) (wished : Envoy.Wishes)
    (resources : Resources) :
    tracer.Feeds tracer.initContainer (Envoy.built config identity mesh node pod wished resources)
      Artifact.tracingMountPath Artifact.tracingFile where
  writer := rfl
  reader := rfl
  mounted := rfl
  shared := Envoy.tracingMount_built reads wished resources
  below := ⟨"envoyconf.yaml", by decide, by decide, rfl⟩
  script := by
    have written : tracer.initContainer.command = some ["sh", "-c", Tracer.script tracer.text] :=
      rfl
    rw [written, script_text heads]
  told := Envoy.tracingFile_built reads wished resources

end

/-! ## What the steps bring -/

namespace Step

variable {pod : Pod}

theorem brings_envoy {config : Config} {identity : Identity} {mesh : Mesh} {node : VirtualNode}
    (absent : pod.hasContainer Artifact.envoy = false)
    (ends : (envoy config identity mesh node).failure? pod = none) :
    ∃ wished resources, ((envoy config identity mesh node).brings pod).containers =
      [Envoy.built config identity mesh node pod wished resources] := by
  rw [failure?_eq_contribution rfl] at ends
  rw [brings]
  cases contributes : (envoy config identity mesh node).contribution pod with
  | error error =>
      rw [contributes] at ends
      cases ends
  | ok added =>
      rcases of_contribution_envoy contributes with ⟨present, -⟩ |
        ⟨-, wished, resources, wanted, rfl⟩
      · rw [absent] at present
        cases present
      · exact ⟨wished, resources, rfl⟩

/-- A tracer brings its init container and its volume as soon as it is enabled. -/
theorem contribution_of_hidden {tracer : Tracer}
    (hidden : pod.hasVolume Artifact.tracingVolume = false) : tracer.contribution pod =
      if tracer.enabled then
        { initContainers := [tracer.initContainer], volumes := [Tracer.volume] }
      else {} := by
  rw [Tracer.contribution, hidden, Bool.or_false]
  cases tracer.enabled with
  | true => rfl
  | false => rfl

/-- Of all steps only the tracers that are enabled bring the volume. -/
theorem tracingVolumes_brings (free : Artifact.tracingVolume ∉ pod.secretNames)
    (hidden : pod.hasVolume Artifact.tracingVolume = false) (step : Step) :
    Volume.named Artifact.tracingVolume (step.brings pod).volumes =
      if step.looksForTracing then [Tracer.volume] else [] := by
  have ofTracer : ∀ tracer : Tracer,
      Volume.named Artifact.tracingVolume (tracer.contribution pod).volumes =
        if tracer.enabled then [Tracer.volume] else [] := by
    intro tracer
    rw [contribution_of_hidden hidden]
    cases tracer.enabled with
    | true => rfl
    | false => rfl
  cases looks : step.looksForTracing with
  | true =>
      cases step with
      | jaeger config => exact (ofTracer _).trans (if_pos looks)
      | datadog config => exact (ofTracer _).trans (if_pos looks)
      | _ => cases looks
  | false =>
      refine List.filter_eq_nil_iff.mpr ?_
      intro volume member named
      have offered := (step.offers_brings pod).volumes volume member
      rw [eq_of_beq named] at offered
      rw [looks_of_tracingVolume free offered] at looks
      cases looks

/-- Steps that only add take no volume away. -/
theorem mem_volumes_run {steps : List Step} (adds : ∀ step ∈ steps, step.onlyAdds)
    {volume : Volume} (shown : volume ∈ pod.volumes) : volume ∈ (run steps pod).pod.volumes := by
  have preserved : ∀ step ∈ steps, ∀ before after, volume ∈ before.volumes →
      step.apply before = .ok after → volume ∈ after.volumes := by
    intro step member before after there applied
    rcases contributes_of_apply (adds step member) applied with ⟨added, contributes, rfl⟩
    rw [Contribution.volumes_addTo]
    exact List.mem_append_left _ there
  exact run_preserves preserved shown

end Step

namespace Injector

theorem envoy_mem_nodeSteps (injector : Injector) (mesh : Mesh) (node : VirtualNode) :
    Step.envoy injector.config injector.identity mesh node ∈ injector.nodeSteps mesh node :=
  List.mem_cons_of_mem _ List.mem_cons_self

variable {injector : Injector}

section

variable (mesh : Mesh) (node : VirtualNode)

/-- Among the steps there is one for each tracer. -/
theorem brings_of_fileTracer {tracer : Tracer}
    (listed : tracer ∈ injector.config.tracing.fileTracers) :
    ∃ step ∈ injector.nodeSteps mesh node, ∀ pod, step.brings pod = tracer.contribution pod := by
  rcases Config.Tracing.mem_fileTracers.mp listed with rfl | rfl
  · exact ⟨.jaeger injector.config.tracing.jaeger, by simp [nodeSteps], fun _ => rfl⟩
  · exact ⟨.datadog injector.config.tracing.datadog, by simp [nodeSteps], fun _ => rfl⟩

/-- Exactly one tracer is enabled where Envoy reads a file. -/
theorem enabled_of_reads (reads : Envoy.readsTracingFile injector.config.tracing) :
    (∃ tracer ∈ injector.config.tracing.fileTracers, tracer.enabled) ∧
    ((injector.nodeSteps mesh node).flatMap fun step =>
      if step.looksForTracing then [Tracer.volume] else []) = [Tracer.volume] := by
  have looking : ((injector.nodeSteps mesh node).flatMap fun step =>
      if step.looksForTracing then [Tracer.volume] else []) =
        (if injector.config.tracing.jaeger.enabled then [Tracer.volume] else []) ++
        if injector.config.tracing.datadog.enabled then [Tracer.volume] else [] := by
    simp only [nodeSteps, Step.looksForTracing, List.flatMap_cons, List.flatMap_nil,
      Bool.false_eq_true, if_false, List.nil_append, List.append_nil]
    rfl
  rw [looking]
  rcases injector.valid.exclusive.1 with off | off
  · have datadog : injector.config.tracing.datadog.enabled := by
      simpa [Envoy.readsTracingFile, off] using reads
    exact ⟨⟨_, List.mem_cons_of_mem _ List.mem_cons_self, datadog⟩, by simp [datadog, off]⟩
  · have jaeger : injector.config.tracing.jaeger.enabled := by
      simpa [Envoy.readsTracingFile, off] using reads
    exact ⟨⟨_, List.mem_cons_self, jaeger⟩, by simp [jaeger, off]⟩

variable {pod : Pod}

/-- Together the steps bring the volume once. -/
theorem tracingVolumes_gather (reads : Envoy.readsTracingFile injector.config.tracing)
    (hidden : pod.hasVolume Artifact.tracingVolume = false)
    (free : Artifact.tracingVolume ∉ pod.secretNames) :
    Volume.named Artifact.tracingVolume
      (Step.gather (injector.nodeSteps mesh node) pod).volumes = [Tracer.volume] := by
  rw [Step.volumes_gather, Volume.named_flatMap]
  simp only [Step.tracingVolumes_brings free hidden]
  exact (enabled_of_reads mesh node reads).2

/-- What the tracer that is enabled brings fits the Envoy that is brought. -/
theorem feeds_gather (reads : Envoy.readsTracingFile injector.config.tracing)
    (absent : pod.hasContainer Artifact.envoy = false)
    (hidden : pod.hasVolume Artifact.tracingVolume = false)
    (ends : (Step.envoy injector.config injector.identity mesh node).failure? pod = none) :
    ∃ tracer ∈ injector.config.tracing.fileTracers, tracer.enabled ∧
      ∃ init ∈ (Step.gather (injector.nodeSteps mesh node) pod).initContainers,
      ∃ envoy ∈ (Step.gather (injector.nodeSteps mesh node) pod).containers,
      ∃ path file, tracer.Feeds init envoy path file := by
  rw [Step.initContainers_gather, Step.containers_gather]
  rcases (enabled_of_reads mesh node reads).1 with ⟨tracer, listed, enabled⟩
  rcases brings_of_fileTracer mesh node listed with ⟨step, member, brings⟩
  have writer : tracer.initContainer ∈ (step.brings pod).initContainers := by
    rw [brings, Step.contribution_of_hidden hidden, if_pos enabled]
    exact List.mem_cons_self
  rcases Config.Tracing.exists_heads listed with ⟨rest, heads⟩
  have isStep := envoy_mem_nodeSteps injector mesh node
  rcases Step.brings_envoy absent ends with ⟨wished, resources, built⟩
  have reader : Envoy.built injector.config injector.identity mesh node pod wished resources ∈
      ((Step.envoy injector.config injector.identity mesh node).brings pod).containers := by
    rw [built]
    exact List.mem_cons_self
  exact ⟨tracer, listed, enabled, _, List.mem_flatMap_of_mem member writer, _,
    List.mem_flatMap_of_mem isStep reader, _, _, Tracer.feeds_built heads reads wished resources⟩

end

/-! ## The whole injection -/

variable {mesh : Mesh} {node : VirtualNode} {pod : Pod}

/-- Where no secret has the name of the volume, the steps do not notice each other, and what
they bring fits together. -/
theorem tracingReaches_of_free (reads : Envoy.readsTracingFile injector.config.tracing)
    (absent : pod.hasContainer Artifact.envoy = false)
    (hidden : pod.hasVolume Artifact.tracingVolume = false)
    (succeeds : (Step.run (injector.nodeSteps mesh node) pod).error = none)
    (free : Artifact.tracingVolume ∉ pod.secretNames) :
    TracingReaches injector.config.tracing pod
      (Step.run (injector.nodeSteps mesh node) pod).pod := by
  rcases Step.attemptAll_of_success succeeds with ⟨attempted, ends⟩
  rcases attemptAll_gathered (List.Perm.refl (injector.nodeSteps mesh node)) free with
    ⟨gathered, results⟩
  rw [← attempted, gathered]
  constructor
  case volume =>
    have none : Volume.named Artifact.tracingVolume pod.volumes = [] :=
      List.filter_eq_nil_iff.mpr (List.any_eq_false.mp hidden)
    rw [Contribution.volumes_addTo, Volume.named_append, none, List.nil_append]
    exact tracingVolumes_gather mesh node reads hidden free
  case file =>
    have isStep := envoy_mem_nodeSteps injector mesh node
    rw [results] at ends
    rw [Contribution.initContainers_addTo, Contribution.containers_addTo, List.drop_left,
      List.drop_left]
    exact feeds_gather mesh node reads absent hidden (ends _ (List.mem_map_of_mem isStep))

/-- The volume of a secret stays in the pod, whatever is done after Envoy was added. -/
theorem secretVolume_mem_run {name : String} (absent : pod.hasContainer Artifact.envoy = false)
    (succeeds : (Step.run (injector.nodeSteps mesh node) pod).error = none)
    (asked : name ∈ pod.secretNames) :
    Envoy.secretVolume name ∈ (Step.run (injector.nodeSteps mesh node) pod).pod.volumes := by
  have adds := injector.onlyAdds_nodeSteps mesh node
  rcases Step.run_cons_of_success succeeds with ⟨intercepted, interception, rest⟩
  have containers := Interception.hasContainer_of_apply interception Artifact.envoy
  rw [← (Interception.saysSame_of_apply interception).secretNames] at asked
  rw [nodeSteps, rest] at succeeds
  rw [nodeSteps, rest]
  rcases Step.run_cons_of_success succeeds with ⟨served, envoy, late⟩
  rw [late]
  rcases Envoy.of_apply envoy with ⟨present, -⟩ | ⟨-, wished, resources, wanted, -, rfl⟩
  · rw [containers, absent] at present
    cases present
  · apply Step.mem_volumes_run
    · exact fun step member => adds step (List.mem_of_mem_drop (i := 2) member)
    · rw [Envoy.secretNames_of_wishes wanted] at asked
      rw [← Contribution.addTo_container, Contribution.volumes_addTo]
      exact List.mem_append_right _ (List.mem_append_left _ (List.mem_map_of_mem asked))

/-- The volume of a secret is not empty at first. -/
theorem not_tracingReaches_of_secret (absent : pod.hasContainer Artifact.envoy = false)
    (succeeds : (Step.run (injector.nodeSteps mesh node) pod).error = none)
    (asked : Artifact.tracingVolume ∈ pod.secretNames) :
    ¬ TracingReaches injector.config.tracing pod
      (Step.run (injector.nodeSteps mesh node) pod).pod := by
  intro reaches
  have shown := secretVolume_mem_run absent succeeds asked
  have single : Envoy.secretVolume Artifact.tracingVolume ∈ Volume.named Artifact.tracingVolume
      (Step.run (injector.nodeSteps mesh node) pod).pod.volumes :=
    List.mem_filter.mpr ⟨shown, by decide⟩
  rw [reaches.volume] at single
  revert single
  decide

/-- After an injection that succeeds Envoy finds the configuration of the tracer in the file
that it reads, exactly when the pod asks for no secret that is called as the volume for
it. -/
theorem tracingReaches_iff (reads : Envoy.readsTracingFile injector.config.tracing)
    (wanted : injector.shouldInject pod) (absent : pod.hasContainer Artifact.envoy = false)
    (hidden : pod.hasVolume Artifact.tracingVolume = false)
    (succeeds : (injector.inject mesh (.node node) pod).error = none) :
    TracingReaches injector.config.tracing pod (injector.inject mesh (.node node) pod).pod ↔
      Artifact.tracingVolume ∉ pod.secretNames := by
  rw [inject, if_pos wanted] at succeeds ⊢
  constructor
  · intro reaches asked
    exact not_tracingReaches_of_secret absent succeeds asked reaches
  · intro free
    exact tracingReaches_of_free reads absent hidden succeeds free

/-- The configuration for Jaeger reaches Envoy beside a secret of another name. -/
theorem tracingReaches_of_mounting :
    let injector : Injector := ⟨{ tracing := { jaeger := { enabled := true } } }, {}, by decide⟩
    let node : VirtualNode := { name := "node", namespaceName := "default" }
    let pod := mounting "data" "tls"
    Envoy.readsTracingFile injector.config.tracing ∧
    injector.shouldInject pod ∧
    pod.hasContainer Artifact.envoy = false ∧
    pod.hasVolume Artifact.tracingVolume = false ∧
    (injector.inject ⟨"mesh", "mesh", none⟩ (.node node) pod).error = none ∧
    TracingReaches injector.config.tracing pod
      (injector.inject ⟨"mesh", "mesh", none⟩ (.node node) pod).pod := by
  intro injector node pod
  have reads : Envoy.readsTracingFile injector.config.tracing := by
    decide
  have wanted : injector.shouldInject pod := by
    decide
  have absent : pod.hasContainer Artifact.envoy = false := by
    decide
  have hidden : pod.hasVolume Artifact.tracingVolume = false := by
    decide
  have succeeds : (injector.inject ⟨"mesh", "mesh", none⟩ (.node node) pod).error = none := by
    rw [inject, if_pos wanted]
    refine (injector.error_run_nodeSteps _ _ (by decide) (by decide) (by decide)).trans ?_
    decide
  refine ⟨reads, wanted, absent, hidden, succeeds, ?_⟩
  exact (tracingReaches_iff reads wanted absent hidden succeeds).mpr (by decide)

/-- A secret that is called as the volume keeps the configuration from Envoy. -/
theorem not_tracingReaches_of_mounting :
    let injector : Injector := ⟨{ tracing := { jaeger := { enabled := true } } }, {}, by decide⟩
    let node : VirtualNode := { name := "node", namespaceName := "default" }
    let pod := mounting "data" "envoy-tracing-config"
    Envoy.readsTracingFile injector.config.tracing ∧
    injector.shouldInject pod ∧
    pod.hasContainer Artifact.envoy = false ∧
    pod.hasVolume Artifact.tracingVolume = false ∧
    (injector.inject ⟨"mesh", "mesh", none⟩ (.node node) pod).error = none ∧
    ¬ TracingReaches injector.config.tracing pod
      (injector.inject ⟨"mesh", "mesh", none⟩ (.node node) pod).pod := by
  intro injector node pod
  have wanted : injector.shouldInject pod := by
    decide
  have absent : pod.hasContainer Artifact.envoy = false := by
    decide
  have succeeds : (Step.run (injector.nodeSteps ⟨"mesh", "mesh", none⟩ node) pod).error = none := by
    refine (injector.error_run_nodeSteps _ _ (by decide) (by decide) (by decide)).trans ?_
    decide
  simp only [inject, wanted, if_true]
  refine ⟨by decide, trivial, absent, by decide, succeeds, ?_⟩
  exact not_tracingReaches_of_secret absent succeeds (by decide)

end Injector

end MeshSidecar
