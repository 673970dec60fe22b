import MeshSidecar.Proofs.Injection.ContainerNames
import MeshSidecar.Proofs.Injection.Tracing

namespace MeshSidecar

/-!
# One way of tracing

Envoy sends its traces to the X-Ray daemon, or to where the file of Jaeger or of Datadog
says, and a configuration with more than one of these is not accepted.  What serves
tracing in a pod comes from several steps, each of which looks at its own part of the
configuration.  All that a run puts into a pod serves the way that is enabled, wherever
the run stops.  After a run that succeeds Envoy and the daemon fit each other: either
both are set up for X-Ray or neither is, and they agree in the port and in the user.
-/

open EnvVar

/-! ## Ways and their parts -/

/-- The ways in which Envoy can trace. -/
inductive TracingWay where
  | xray
  | jaeger
  | datadog

/-- Something that can serve tracing: a container or an init container by its name, an
entry in the environment of Envoy by its name, a mount of Envoy, or a volume. -/
inductive TracingPart where
  | container (name : String)
  | initContainer (name : String)
  | entry (name : String)
  | mount (mount : VolumeMount)
  | volume (volume : Volume)

namespace TracingWay

def isEnabled (tracing : Config.Tracing) : TracingWay → Bool
  | .xray => tracing.xray.enabled
  | .jaeger => tracing.jaeger.enabled
  | .datadog => tracing.datadog.enabled

/-- What serves each way.  A file is handed to Envoy alike for two of them. -/
def Serves (way : TracingWay) : TracingPart → Prop
  | .container name => way = .xray ∧ name = Artifact.xrayDaemon
  | .initContainer name =>
    way = .jaeger ∧ name = Artifact.jaegerInit ∨ way = .datadog ∧ name = Artifact.datadogInit
  | .entry name =>
    way = .xray ∧ name ∈ Envoy.Variables.xrayNames ∨
      way = .datadog ∧ name ∈ Envoy.Variables.datadogNames ∨
      way ≠ .xray ∧ name = "ENVOY_TRACING_CFG_FILE"
  | .mount mount =>
    way ≠ .xray ∧ mount = .plain Artifact.tracingVolume Artifact.tracingMountPath
  | .volume volume => way ≠ .xray ∧ volume = Tracer.volume

theorem eq_of_enabled {config : Config} (valid : config.Valid) {way other : TracingWay}
    (enabled : way.isEnabled config.tracing) (otherEnabled : other.isEnabled config.tracing) :
    way = other := by
  have exclusive := valid.exclusive
  cases way <;> cases other <;> simp_all [isEnabled]

/-- Some way with a file is enabled where Envoy reads one. -/
theorem enabled_of_reads {tracing : Config.Tracing} (reads : Envoy.readsTracingFile tracing) :
    ∃ way : TracingWay, way.isEnabled tracing ∧ way ≠ .xray := by
  rcases Bool.or_eq_true_iff.mp reads with jaeger | datadog
  · exact ⟨.jaeger, jaeger, nofun⟩
  · exact ⟨.datadog, datadog, nofun⟩

end TracingWay

namespace Config.Tracing

/-- The part serves no tracing, or a way that is enabled. -/
def Allows (tracing : Config.Tracing) (part : TracingPart) : Prop :=
  ∀ other : TracingWay, other.Serves part →
    ∃ way : TracingWay, way.isEnabled tracing ∧ way.Serves part

/-- Since at most one way is enabled, parts that are allowed serve one way. -/
theorem one_way_of_allowed {config : Config} (valid : config.Valid) {parts : List TracingPart}
    (allowed : ∀ part ∈ parts, config.tracing.Allows part) :
    ∃ way : TracingWay, ∀ part ∈ parts, ∀ other : TracingWay, other.Serves part →
      way.Serves part ∧ way.isEnabled config.tracing := by
  by_cases some : ∃ way : TracingWay, way.isEnabled config.tracing
  · rcases some with ⟨way, enabled⟩
    refine ⟨way, ?_⟩
    intro part member other serves
    rcases allowed part member other serves with ⟨served, isEnabled, serves⟩
    rw [TracingWay.eq_of_enabled valid enabled isEnabled]
    exact ⟨serves, isEnabled⟩
  · refine ⟨.xray, ?_⟩
    intro part member other serves
    rcases allowed part member other serves with ⟨served, isEnabled, serves⟩
    exact absurd ⟨served, isEnabled⟩ some

end Config.Tracing

/-! ## The parts of a contribution -/

/-- What a container is to tracing, where `own` is what Envoy is defined with. -/
def Container.tracingParts (own : List EnvVar) (container : Container) : List TracingPart :=
  .container container.name ::
    if container.name = Artifact.envoy then
      own.map (fun var => .entry var.name) ++
        (container.volumeMounts.getD []).map .mount
    else []

/-- What a contribution is to tracing. -/
def Contribution.tracingParts (own : List EnvVar) (added : Contribution) : List TracingPart :=
  added.containers.flatMap (Container.tracingParts own) ++
    added.initContainers.map (fun container => .initContainer container.name) ++
    added.volumes.map .volume

/-! ## Envoy -/

namespace Envoy

/-- The variables of an environment, and among them those of the pod under other names. -/
def Supplements (custom : SortedMap String) (own env : List EnvVar) : Prop :=
  ∃ early late, own = early ++ late ∧ env = early ++ (unclaimed custom own ++ late)

theorem supplements_mergeEnv (custom : SortedMap String) (own : List EnvVar) :
    Supplements custom own ((mergeEnv custom (some own)).getD []) := by
  rw [mergeEnv]
  by_cases isEmpty : custom.isEmpty
  · have nothing : unclaimed custom own = [] := by
      rw [unclaimed, List.isEmpty_iff.mp isEmpty]
      rfl
    rw [if_pos isEmpty]
    exact ⟨own, [], (List.append_nil own).symm, by rw [nothing]; exact (List.append_nil own).symm⟩
  · rw [if_neg isEmpty]
    exact insertAfter_split adminPortVariable (unclaimed custom own) own

/-- The container has an environment of its own, and beside it what the pod asks for. -/
def SuppliedBy (pod : Pod) (own : List EnvVar) (container : Container) : Prop :=
  ∃ wished, wishes pod = .ok wished ∧ Supplements wished.env own (container.env.getD [])

section

variable {config : Config} {identity : Identity} {mesh : Mesh} {node : VirtualNode} {pod : Pod}

/-- What Envoy is told about tracing is told for a way that is enabled. -/
theorem allows_entry : ∀ var ∈ (Variables.ofPod config identity mesh node pod).environment,
    config.tracing.Allows (.entry var.name) := by
  intro var member other serves
  have isNamed : var ∈ named var.name (Variables.ofPod config identity mesh node pod).environment :=
    List.mem_filter.mpr ⟨member, beq_self_eq_true var.name⟩
  rcases serves with ⟨-, xray⟩ | ⟨-, datadog⟩ | ⟨-, file⟩
  · rw [Variables.named_xray _ _ xray] at isNamed
    exact ⟨.xray, (List.mem_ite_nil_right.mp isNamed).1, Or.inl ⟨rfl, xray⟩⟩
  · rw [Variables.named_datadog _ _ datadog] at isNamed
    exact ⟨.datadog, (List.mem_ite_nil_right.mp isNamed).1, Or.inr (Or.inl ⟨rfl, datadog⟩)⟩
  · rw [file, Variables.named_tracingFile] at isNamed
    rcases TracingWay.enabled_of_reads (List.mem_ite_nil_right.mp isNamed).1 with
      ⟨way, enabled, byFile⟩
    exact ⟨way, enabled, Or.inr (Or.inr ⟨byFile, file⟩)⟩

/-- What Envoy mounts for a tracer it mounts for a file that it reads. -/
theorem allows_mount (wished : Wishes) (resources : Resources) :
    ∀ mount ∈ (built config identity mesh node pod wished resources).volumeMounts.getD [],
      config.tracing.Allows (.mount mount) := by
  intro mount member other serves
  rw [mounts_built, askedMounts_eq, serves.2] at member
  have readOnly : ∀ entries : List (String × String),
      .plain Artifact.tracingVolume Artifact.tracingMountPath ∉ entries.map readOnlyMount := by
    intro entries member
    rcases List.mem_map.mp member with ⟨entry, -, same⟩
    have writable : some true = none := congrArg VolumeMount.readOnly same
    cases writable
  have socket : .plain Artifact.tracingVolume Artifact.tracingMountPath ∉
      (Sds.missingPath? config.envoy pod).toList.map Sds.mount := by
    intro member
    rcases List.mem_map.mp member with ⟨path, -, same⟩
    have named : Artifact.sdsVolume = Artifact.tracingVolume := congrArg VolumeMount.name same
    exact absurd named (by decide)
  simp only [List.mem_append, readOnly, socket, or_false] at member
  rcases TracingWay.enabled_of_reads (List.mem_ite_nil_right.mp member).1 with
    ⟨way, enabled, byFile⟩
  exact ⟨way, enabled, byFile, serves.2⟩

theorem allows_volume (wished : Wishes) :
    ∀ volume ∈ volumes config.envoy pod wished, config.tracing.Allows (.volume volume) := by
  intro volume member other serves
  rw [volumes, serves.2, List.mem_append] at member
  rcases member with secret | socket
  · rcases List.mem_map.mp secret with ⟨name, -, same⟩
    have kind : ["secret"] = ["emptyDir"] :=
      congrArg (fun volume : Volume => volume.rest.map Prod.fst) same
    exact absurd kind (by decide)
  · rcases List.mem_map.mp socket with ⟨path, -, same⟩
    have named : Artifact.sdsVolume = Artifact.tracingVolume := congrArg Volume.name same
    exact absurd named (by decide)

end

end Envoy

/-! ## Where the parts come from -/

namespace Injector

variable (injector : Injector) (mesh : Mesh) (node : VirtualNode) (pod : Pod)

/-- The container is built as Envoy, for a pod that says the same. -/
def BuildsEnvoy (container : Container) : Prop :=
  ∃ met wished resources, Pod.SaysSame pod met ∧ Envoy.wishes pod = .ok wished ∧
    container = Envoy.built injector.config injector.identity mesh node met wished resources

/-- The container is built as the daemon, which is enabled. -/
def BuildsDaemon (container : Container) : Prop :=
  injector.config.tracing.xray.enabled ∧ ∃ met settled resources,
    Xray.configured injector.config.tracing.xray injector.identity.awsRegion met = .ok settled ∧
    container = { settled with resources := some resources }

/-- The init container is built to redirect the traffic of a pod. -/
def BuildsRedirector (container : Container) : Prop :=
  ∃ met resources, container = (Interception.ofPod injector.config.proxyInit node met).initContainer
    injector.config.proxyInit.image resources

/-- The init container is that of a tracer, which is enabled. -/
def BuildsTracer (container : Container) : Prop :=
  ∃ tracer ∈ injector.config.tracing.fileTracers, tracer.enabled ∧
    container = tracer.initContainer

/-- All that could serve tracing comes from one of these. -/
structure Sources (added : Contribution) : Prop where
  containers : ∀ container ∈ added.containers,
    injector.BuildsEnvoy mesh node pod container ∨ injector.BuildsDaemon container
  initContainers : ∀ container ∈ added.initContainers,
    injector.BuildsRedirector node container ∨ injector.BuildsTracer container
  volumes : ∀ volume ∈ added.volumes, injector.config.tracing.Allows (.volume volume)

variable {injector mesh node pod}

theorem sources_empty : injector.Sources mesh node pod {} := by
  constructor <;> simp

theorem Sources.append (early late : Contribution) (first : injector.Sources mesh node pod early)
    (second : injector.Sources mesh node pod late) :
    injector.Sources mesh node pod (early ++ late) where
  containers := by
    intro container member
    rcases List.mem_append.mp member with before | behind
    · exact first.containers container before
    · exact second.containers container behind
  initContainers := by
    intro container member
    rcases List.mem_append.mp member with before | behind
    · exact first.initContainers container before
    · exact second.initContainers container behind
  volumes := by
    intro volume member
    rcases List.mem_append.mp member with before | behind
    · exact first.volumes volume before
    · exact second.volumes volume behind

theorem sources_of_tracer {tracer : Tracer}
    (listed : tracer ∈ injector.config.tracing.fileTracers)
    (reads : tracer.enabled → Envoy.readsTracingFile injector.config.tracing) (met : Pod) :
    injector.Sources mesh node pod (tracer.contribution met) := by
  rw [Tracer.contribution]
  cases enabled : tracer.enabled with
  | false => exact sources_empty
  | true =>
      split
      · exact sources_empty
      · exact { sources_empty with
          initContainers := by
            intro container member
            rw [List.mem_singleton.mp member]
            exact Or.inr ⟨tracer, listed, enabled, rfl⟩
          volumes := by
            intro volume member other serves
            rcases TracingWay.enabled_of_reads (reads enabled) with ⟨way, isEnabled, byFile⟩
            exact ⟨way, isEnabled, byFile, serves.2⟩ }

theorem sources_of_contribution {step : Step} (member : step ∈ injector.nodeSteps mesh node)
    {met : Pod} (same : Pod.SaysSame pod met) {added : Contribution}
    (contributes : step.contribution met = .ok added) :
    injector.Sources mesh node pod added := by
  have nothing : injector.Sources mesh node pod {} := sources_empty
  simp only [nodeSteps, List.mem_cons, List.not_mem_nil, or_false] at member
  rcases member with rfl | rfl | rfl | rfl | rfl | rfl | rfl | rfl | rfl
  · rw [Step.contribution] at contributes
    split at contributes
    · cases contributes
      exact { nothing with }
    · split at contributes
      · cases contributes
        exact nothing
      · rcases of_map_eq_ok contributes with ⟨resources, sized, rfl⟩
        exact { nothing with
          initContainers := by
            intro container member
            rw [List.mem_singleton.mp member]
            exact Or.inl ⟨met, resources, rfl⟩ }
  · rcases Step.of_contribution_envoy contributes with ⟨-, rfl⟩ |
      ⟨-, wished, resources, wanted, rfl⟩
    · exact nothing
    · rw [same.asksSame.wishes] at wanted
      exact { nothing with
        containers := by
          intro container member
          rw [List.mem_singleton.mp member]
          exact Or.inl ⟨met, wished, resources, same, wanted, rfl⟩
        volumes := Envoy.allows_volume wished }
  · rw [Step.contribution] at contributes
    split at contributes
    · cases contributes
      exact nothing
    · next needed =>
        rcases of_map_eq_ok contributes with ⟨daemon, built, rfl⟩
        rcases Xray.of_container built with ⟨settled, resources, known, -, rfl⟩
        exact { nothing with
          containers := by
            intro container member
            rw [List.mem_singleton.mp member]
            have enabled : injector.config.tracing.xray.enabled := by
              simp only [Bool.or_eq_true, Bool.not_eq_true', not_or] at needed
              simpa using needed.1
            exact Or.inr ⟨enabled, met, settled, resources, known, rfl⟩ }
  · cases contributes
    exact sources_of_tracer List.mem_cons_self
      (fun enabled => Bool.or_eq_true_iff.mpr (Or.inl enabled)) met
  · cases contributes
    exact sources_of_tracer (List.mem_cons_of_mem _ List.mem_cons_self)
      (fun enabled => Bool.or_eq_true_iff.mpr (Or.inr enabled)) met
  all_goals
    cases contributes
    exact { nothing with }

theorem sources_run (injector : Injector) (mesh : Mesh) (node : VirtualNode) (pod : Pod) :
    ∃ added : Contribution,
      (Step.run (injector.nodeSteps mesh node) pod).pod = added.addTo pod ∧
      injector.Sources mesh node pod added :=
  Step.run_adds sources_empty Sources.append (injector.onlyAdds_nodeSteps mesh node)
    (fun _ member _ _ same contributes => sources_of_contribution member same contributes)
    fun _ _ => rfl

/-- What Envoy is defined with for a pod, before the pod adds to it. -/
def ownEnvironment (injector : Injector) (mesh : Mesh) (node : VirtualNode) (pod : Pod) :
    List EnvVar :=
  (Envoy.Variables.ofPod injector.config injector.identity mesh node pod).environment

theorem BuildsEnvoy.suppliedBy {container : Container}
    (built : injector.BuildsEnvoy mesh node pod container) :
    Envoy.SuppliedBy pod (injector.ownEnvironment mesh node pod) container := by
  rcases built with ⟨met, wished, resources, same, wanted, rfl⟩
  refine ⟨wished, wanted, ?_⟩
  rw [ownEnvironment, ← same.asksSame.envoyVariables]
  exact Envoy.supplements_mergeEnv wished.env _

theorem BuildsEnvoy.allowed {container : Container}
    (built : injector.BuildsEnvoy mesh node pod container) :
    ∀ part ∈ container.tracingParts (injector.ownEnvironment mesh node pod),
      injector.config.tracing.Allows part := by
  rcases built with ⟨met, wished, resources, same, wanted, rfl⟩
  intro part member
  have isEnvoy : (Envoy.built injector.config injector.identity mesh node met wished
      resources).name = Artifact.envoy := rfl
  rw [Container.tracingParts, isEnvoy, if_pos rfl, List.mem_cons, List.mem_append] at member
  rcases member with rfl | entry | mounted
  · intro other serves
    exact absurd serves.2 (by decide)
  · rcases List.mem_map.mp entry with ⟨var, defined, rfl⟩
    exact Envoy.allows_entry var defined
  · rcases List.mem_map.mp mounted with ⟨mount, isMounted, rfl⟩
    exact Envoy.allows_mount wished resources mount isMounted

theorem BuildsDaemon.allowed {container : Container} (built : injector.BuildsDaemon container)
    (own : List EnvVar) :
    ∀ part ∈ container.tracingParts own, injector.config.tracing.Allows part := by
  rcases built with ⟨enabled, met, settled, resources, known, rfl⟩
  intro part member
  have named := Xray.configured_name known
  rw [Container.tracingParts, if_neg (by rw [named]; decide), List.mem_singleton] at member
  subst member
  intro other serves
  exact ⟨.xray, enabled, rfl, serves.2⟩

theorem BuildsRedirector.allowed {container : Container}
    (built : injector.BuildsRedirector node container) :
    injector.config.tracing.Allows (.initContainer container.name) := by
  rcases built with ⟨met, resources, rfl⟩
  intro other serves
  rcases serves with ⟨-, named⟩ | ⟨-, named⟩
  · exact absurd (show Artifact.proxyInit = Artifact.jaegerInit from named) (by decide)
  · exact absurd (show Artifact.proxyInit = Artifact.datadogInit from named) (by decide)

theorem BuildsTracer.allowed {container : Container} (built : injector.BuildsTracer container) :
    injector.config.tracing.Allows (.initContainer container.name) := by
  rcases built with ⟨tracer, listed, enabled, rfl⟩
  intro other serves
  rw [Config.Tracing.mem_fileTracers] at listed
  rcases listed with rfl | rfl
  · exact ⟨.jaeger, enabled, Or.inl ⟨rfl, rfl⟩⟩
  · exact ⟨.datadog, enabled, Or.inr ⟨rfl, rfl⟩⟩

section

variable {added : Contribution}

/-- Only what is built as Envoy has the name of Envoy. -/
theorem Sources.buildsEnvoy (sources : injector.Sources mesh node pod added) :
    ∀ container ∈ added.containers, container.name = Artifact.envoy →
      injector.BuildsEnvoy mesh node pod container := by
  intro container member named
  rcases sources.containers container member with envoy | ⟨-, met, settled, resources, known, rfl⟩
  · exact envoy
  · have daemon := Xray.configured_name known
    exact absurd (daemon.symm.trans named) (by decide)

theorem Sources.buildsDaemon (sources : injector.Sources mesh node pod added) :
    ∀ container ∈ added.containers, container.name = Artifact.xrayDaemon →
      injector.BuildsDaemon container := by
  intro container member named
  rcases sources.containers container member with
    ⟨met, wished, resources, same, wanted, rfl⟩ | daemon
  · exact absurd (show Artifact.envoy = Artifact.xrayDaemon from named) (by decide)
  · exact daemon

theorem Sources.buildsRedirector (sources : injector.Sources mesh node pod added) :
    ∀ container ∈ added.initContainers, container.name = Artifact.proxyInit →
      injector.BuildsRedirector node container := by
  intro container member named
  rcases sources.initContainers container member with redirector | ⟨tracer, listed, -, rfl⟩
  · exact redirector
  · rw [Config.Tracing.mem_fileTracers] at listed
    rcases listed with rfl | rfl
    · exact absurd (show Artifact.jaegerInit = Artifact.proxyInit from named) (by decide)
    · exact absurd (show Artifact.datadogInit = Artifact.proxyInit from named) (by decide)

/-- What comes from these serves no tracing, or a way that is enabled. -/
theorem Sources.allowed (sources : injector.Sources mesh node pod added) :
    ∀ part ∈ added.tracingParts (injector.ownEnvironment mesh node pod),
      injector.config.tracing.Allows part := by
  intro part member
  rw [Contribution.tracingParts, List.mem_append, List.mem_append] at member
  rcases member with (ofContainer | ofInit) | ofVolume
  · rcases List.mem_flatMap.mp ofContainer with ⟨container, isAdded, isPart⟩
    rcases sources.containers container isAdded with envoy | daemon
    · exact envoy.allowed part isPart
    · exact daemon.allowed _ part isPart
  · rcases List.mem_map.mp ofInit with ⟨container, isAdded, rfl⟩
    rcases sources.initContainers container isAdded with redirector | tracer
    · exact redirector.allowed
    · exact tracer.allowed
  · rcases List.mem_map.mp ofVolume with ⟨volume, isAdded, rfl⟩
    exact sources.volumes volume isAdded

/-- After a run that succeeds the names are known of all containers that came. -/
theorem names_of_success (whole : (Step.run (injector.nodeSteps mesh node) pod).pod =
      added.addTo pod)
    (succeeds : (Step.run (injector.nodeSteps mesh node) pod).error = none) :
    added.containers.map Container.name = injector.addedContainers (.node node) pod ∧
    added.initContainers.map Container.name = injector.addedInitContainers (.node node) pod := by
  have names := injector.namesAdded_nodeSteps mesh node succeeds
  rw [whole] at names
  constructor
  · have containers := names.containers
    rw [Pod.inventory, Pod.inventory, Contribution.containers_addTo, List.map_append] at containers
    exact List.append_cancel_left containers
  · have initContainers := names.initContainers
    rw [Pod.inventory, Pod.inventory, Contribution.initContainers_addTo,
      List.map_append] at initContainers
    exact List.append_cancel_left initContainers

end

end Injector

/-! ## What X-Ray needs -/

/-- The user that a container runs as. -/
def Container.runAsUser? (container : Container) : Option Int := do
  let context ← Document.find? "securityContext" container.rest
  let user ← context.get? "runAsUser"
  Document.integer? user

/-- The ports that a container declares. -/
def Container.containerPorts (container : Container) : List Int :=
  match Document.find? "ports" container.rest with
  | some (.arr ports) =>
    ports.filterMap fun port => (port.get? "containerPort").bind Document.integer?
  | _ => []

namespace Envoy.Variables

variable (vars : Variables)

theorem told_xray_iff :
    (∃ var ∈ vars.environment, var.name = "ENABLE_ENVOY_XRAY_TRACING") ↔ vars.xray := by
  have some : (∃ var ∈ vars.environment, var.name = "ENABLE_ENVOY_XRAY_TRACING") ↔
      named "ENABLE_ENVOY_XRAY_TRACING" vars.environment ≠ [] := by
    simp [named]
  rw [some, vars.named_xray _ (by decide)]
  cases vars.xray with
  | true => exact iff_of_true (List.cons_ne_nil _ _) rfl
  | false => exact iff_of_false (fun told => told rfl) Bool.false_ne_true

theorem named_daemonPort (enabled : vars.xray) : named "XRAY_DAEMON_PORT" vars.environment =
    [.given "XRAY_DAEMON_PORT" (Text.ofNat vars.xrayPort.toNat)] := by
  have isPort : (EnvVar.given "XRAY_DAEMON_PORT" (Text.ofNat vars.xrayPort.toNat)).name =
      "XRAY_DAEMON_PORT" := rfl
  rw [vars.named_xray _ (by decide), if_pos enabled, xrayEnvironment,
    named_cons_of_ne (by decide), named_cons_of_eq isPort, named_optional_of_ne (by decide)]

end Envoy.Variables

namespace Injector

variable {injector : Injector} {mesh : Mesh} {node : VirtualNode} {pod : Pod}

theorem BuildsEnvoy.runAsUser? {container : Container}
    (built : injector.BuildsEnvoy mesh node pod container) :
    container.runAsUser? = some (proxyUid : Int) := by
  rcases built with ⟨met, wished, resources, same, wanted, rfl⟩
  rfl

theorem BuildsDaemon.runAsUser? {container : Container}
    (built : injector.BuildsDaemon container) :
    container.runAsUser? = some (proxyUid : Int) := by
  rcases built with ⟨enabled, met, settled, resources, known, rfl⟩
  rcases Xray.of_configured known with ⟨command, args, volumeMounts, rfl⟩
  rfl

theorem BuildsDaemon.containerPorts {container : Container}
    (built : injector.BuildsDaemon container) :
    container.containerPorts = [(injector.config.tracing.xray.daemonPort.toNat : Int)] := by
  rcases built with ⟨enabled, met, settled, resources, known, rfl⟩
  rcases Xray.of_configured known with ⟨command, args, volumeMounts, rfl⟩
  rfl

theorem BuildsRedirector.variables {container : Container}
    (built : injector.BuildsRedirector node container) :
    container.variables "APPMESH_IGNORE_UID" =
      [.given "APPMESH_IGNORE_UID" (Text.ofNat proxyUid)] := by
  rcases built with ⟨met, resources, rfl⟩
  rfl

end Injector

/-- Only interception tells the pod something by annotations. -/
theorem Step.annotation?_of_apply {step : Step} (adds : step.onlyAdds) (other : step.name ≠ "proxy")
    {pod changed : Pod} (applied : step.apply pod = .ok changed) (key : String) :
    changed.annotation? key = pod.annotation? key := by
  rcases contributes_of_apply adds applied with ⟨added, contributes, rfl⟩
  have none : added.annotations = [] := by
    apply Decidable.of_not_not
    exact fun some => other ((offers_of_contribution contributes).annotations some)
  rw [Contribution.annotation?_addTo, none]
  rfl

/-- The user is ignored by interception in the mode of the pod: the network plugin is told
so, or the init container that came, which is the only one. -/
structure Interception.IgnoresUser (uid : Nat) (before after : Pod) (added : Contribution) :
    Prop where
  byPlugin : before.usesNetworkPlugin → added.initContainers = [] ∧
    after.annotation? Annotations.ignoredUid = some (Text.ofNat uid)
  byInit : before.usesNetworkPlugin = false → ∃ init, added.initContainers = [init] ∧
    init.name = Artifact.proxyInit ∧
    init.variables "APPMESH_IGNORE_UID" = [.given "APPMESH_IGNORE_UID" (Text.ofNat uid)]

/-- Envoy, with an environment of its own, and the daemon are what came, and they fit each
other. -/
structure Xray.Wired (own : List EnvVar) (before after : Pod) (envoy daemon : Container)
    (added : Contribution) : Prop where
  containers : added.containers = [envoy, daemon]
  envoyName : envoy.name = Artifact.envoy
  daemonName : daemon.name = Artifact.xrayDaemon
  port : ∃ port : Nat, daemon.containerPorts = [(port : Int)] ∧
    named "XRAY_DAEMON_PORT" own = [.given "XRAY_DAEMON_PORT" (Text.ofNat port)]
  user : ∃ uid : Nat, envoy.runAsUser? = some (uid : Int) ∧ daemon.runAsUser? = some (uid : Int) ∧
    Interception.IgnoresUser uid before after added
  noDatadog : ∀ name ∈ Envoy.Variables.datadogNames, named name own = []
  noFile : named "ENVOY_TRACING_CFG_FILE" own = []

/-- Envoy has come with an environment of its own.  It traces to the daemon exactly where
the daemon has come as well, which is where X-Ray is enabled, and then they fit each
other. -/
structure Xray.Agreed (xray : Config.Xray) (own : List EnvVar) (before after : Pod)
    (added : Contribution) : Prop where
  envoy : ∃ envoy ∈ added.containers, envoy.name = Artifact.envoy
  told : (∃ var ∈ own, var.name = "ENABLE_ENVOY_XRAY_TRACING") ↔
    ∃ daemon ∈ added.containers, daemon.name = Artifact.xrayDaemon
  came : (∃ daemon ∈ added.containers, daemon.name = Artifact.xrayDaemon) ↔ xray.enabled
  wired : xray.enabled → ∃ envoy daemon, Wired own before after envoy daemon added

namespace Injector

variable {injector : Injector} {mesh : Mesh} {node : VirtualNode} {pod : Pod}
  {added : Contribution}

theorem told_of_plugin (plugin : pod.usesNetworkPlugin)
    (succeeds : (Step.run (injector.nodeSteps mesh node) pod).error = none) :
    (Step.run (injector.nodeSteps mesh node) pod).pod.annotation? Annotations.ignoredUid =
      some (Text.ofNat proxyUid) := by
  rcases Step.run_cons_of_success succeeds with ⟨intercepted, interception, rest⟩
  have told : intercepted.annotation? Annotations.ignoredUid = some (Text.ofNat proxyUid) := by
    rcases Interception.of_apply interception with ⟨-, rfl⟩ | ⟨noPlugin, -⟩ | ⟨noPlugin, -⟩
    · exact Interception.annotation?_delegate _ pod
        (Annotations.ignoredUid,
          Text.ofNat (Interception.ofPod injector.config.proxyInit node pod).uid)
        (by simp [Interception.annotations])
    · rw [plugin] at noPlugin
      cases noPlugin
    · rw [plugin] at noPlugin
      cases noPlugin
  have stays : ∀ step ∈ (injector.nodeSteps mesh node).drop 1, ∀ met changed : Pod,
      met.annotation? Annotations.ignoredUid = some (Text.ofNat proxyUid) →
      step.apply met = .ok changed →
      changed.annotation? Annotations.ignoredUid = some (Text.ofNat proxyUid) := by
    intro step member met changed still applied
    have adds := injector.onlyAdds_nodeSteps mesh node step (List.mem_of_mem_drop member)
    have names : ((injector.nodeSteps mesh node).drop 1).map Step.name =
        ["envoy", "xray", "jaeger", "datadog", "cloudmap-readiness-gate", "iam-fs-group",
          "ecr-secret", "termination-grace-period"] := rfl
    have other : step.name ≠ "proxy" := by
      intro same
      have listed : step.name ∈ ((injector.nodeSteps mesh node).drop 1).map Step.name :=
        List.mem_map_of_mem member
      rw [names, same] at listed
      exact absurd listed (by decide)
    rw [Step.annotation?_of_apply adds other applied, still]
  rw [nodeSteps, rest]
  exact Step.run_preserves stays told

theorem ignoresUser (noInit : pod.hasInitContainer Artifact.proxyInit = false)
    (off : Tracer.names injector.config.tracing = [])
    (whole : (Step.run (injector.nodeSteps mesh node) pod).pod = added.addTo pod)
    (sources : injector.Sources mesh node pod added)
    (succeeds : (Step.run (injector.nodeSteps mesh node) pod).error = none) :
    Interception.IgnoresUser proxyUid pod (added.addTo pod) added := by
  have names := (names_of_success whole succeeds).2
  rw [addedInitContainers, off, ite_self, List.append_nil] at names
  constructor
  · intro plugin
    rw [if_pos plugin, List.map_eq_nil_iff] at names
    rw [← whole]
    exact ⟨names, told_of_plugin plugin succeeds⟩
  · intro noPlugin
    have missing : Artifact.proxyInit ∉ pod.inventory.initContainers := by
      rw [Pod.mem_initContainers, noInit]
      exact Bool.false_ne_true
    rw [if_neg (by rw [noPlugin]; exact Bool.false_ne_true), lacking_of_not_mem missing,
      List.map_eq_singleton_iff] at names
    rcases names with ⟨init, single, named⟩
    have isAdded : init ∈ added.initContainers := by
      rw [single]
      exact List.mem_cons_self
    exact ⟨init, single, named, (sources.buildsRedirector init isAdded named).variables⟩

theorem names_of_absent (noEnvoy : pod.hasContainer Artifact.envoy = false)
    (noDaemon : pod.hasContainer Artifact.xrayDaemon = false)
    (whole : (Step.run (injector.nodeSteps mesh node) pod).pod = added.addTo pod)
    (succeeds : (Step.run (injector.nodeSteps mesh node) pod).error = none) :
    added.containers.map Container.name = Artifact.envoy ::
      if injector.config.tracing.xray.enabled then [Artifact.xrayDaemon] else [] := by
  have missing : ∀ name, pod.hasContainer name = false → name ∉ pod.inventory.containers := by
    intro name absent
    rw [Pod.mem_containers, absent]
    exact Bool.false_ne_true
  rw [(names_of_success whole succeeds).1, addedContainers,
    lacking_of_not_mem (missing _ noEnvoy), lacking_of_not_mem (missing _ noDaemon)]
  rfl

/-- Where X-Ray is enabled and the run succeeds, Envoy and the daemon fit each other. -/
theorem wired_of_enabled (enabled : injector.config.tracing.xray.enabled)
    (noEnvoy : pod.hasContainer Artifact.envoy = false)
    (noDaemon : pod.hasContainer Artifact.xrayDaemon = false)
    (noInit : pod.hasInitContainer Artifact.proxyInit = false)
    (whole : (Step.run (injector.nodeSteps mesh node) pod).pod = added.addTo pod)
    (sources : injector.Sources mesh node pod added)
    (succeeds : (Step.run (injector.nodeSteps mesh node) pod).error = none) :
    ∃ envoy daemon, Xray.Wired (injector.ownEnvironment mesh node pod) pod (added.addTo pod) envoy
      daemon added := by
  have exclusive := injector.valid.exclusive
  have noJaeger : injector.config.tracing.jaeger.enabled = false := by
    simpa [enabled] using exclusive.2.1
  have noDatadog : injector.config.tracing.datadog.enabled = false := by
    simpa [enabled] using exclusive.2.2
  have noFile : Envoy.readsTracingFile injector.config.tracing = false := by
    rw [Envoy.readsTracingFile, noJaeger, noDatadog]
    rfl
  have off : Tracer.names injector.config.tracing = [] := by
    simp [Tracer.names, noJaeger, noDatadog]
  have names := names_of_absent noEnvoy noDaemon whole succeeds
  rw [if_pos enabled] at names
  rcases List.map_eq_cons_iff.mp names with ⟨envoy, rest, split, envoyName, restNames⟩
  rcases List.map_eq_singleton_iff.mp restNames with ⟨daemon, rfl, daemonName⟩
  have isEnvoy := sources.buildsEnvoy envoy (by simp [split]) envoyName
  have isDaemon := sources.buildsDaemon daemon (by simp [split]) daemonName
  refine ⟨envoy, daemon, ?_⟩
  constructor
  case containers => exact split
  case envoyName => exact envoyName
  case daemonName => exact daemonName
  case port => exact ⟨_, isDaemon.containerPorts, Envoy.Variables.named_daemonPort _ enabled⟩
  case user =>
    exact ⟨proxyUid, isEnvoy.runAsUser?, isDaemon.runAsUser?,
      ignoresUser noInit off whole sources succeeds⟩
  case noDatadog =>
    intro name member
    refine (Envoy.Variables.named_datadog _ name member).trans (if_neg ?_)
    exact Bool.eq_false_iff.mp noDatadog
  case noFile =>
    refine (Envoy.Variables.named_tracingFile _).trans (if_neg ?_)
    exact Bool.eq_false_iff.mp noFile

theorem agreed_of_success (noEnvoy : pod.hasContainer Artifact.envoy = false)
    (noDaemon : pod.hasContainer Artifact.xrayDaemon = false)
    (noInit : pod.hasInitContainer Artifact.proxyInit = false)
    (whole : (Step.run (injector.nodeSteps mesh node) pod).pod = added.addTo pod)
    (sources : injector.Sources mesh node pod added)
    (succeeds : (Step.run (injector.nodeSteps mesh node) pod).error = none) :
    Xray.Agreed injector.config.tracing.xray (injector.ownEnvironment mesh node pod) pod
      (added.addTo pod) added := by
  have names := names_of_absent noEnvoy noDaemon whole succeeds
  have came : ∀ name, (∃ container ∈ added.containers, container.name = name) ↔
      name ∈ Artifact.envoy ::
        if injector.config.tracing.xray.enabled then [Artifact.xrayDaemon] else [] := by
    intro name
    rw [← names, List.mem_map]
  have daemon : (∃ daemon ∈ added.containers, daemon.name = Artifact.xrayDaemon) ↔
      injector.config.tracing.xray.enabled := by
    rw [came]
    cases injector.config.tracing.xray.enabled with
    | true => decide
    | false => decide
  exact {
    envoy := (came _).mpr List.mem_cons_self
    told := (Envoy.Variables.told_xray_iff _).trans daemon.symm
    came := daemon
    wired := fun enabled =>
      wired_of_enabled enabled noEnvoy noDaemon noInit whole sources succeeds }

/-- All that an injection puts into a pod for tracing serves one way, which is enabled, be
the injection one that failed.  After one that succeeds with a pod that had no part in it
Envoy and the daemon for X-Ray agree. -/
theorem one_way_of_tracing (injector : Injector) (mesh : Mesh) (node : VirtualNode) (pod : Pod) :
    let outcome := injector.inject mesh (.node node) pod
    let own := injector.ownEnvironment mesh node pod
    ∃ added : Contribution, outcome.pod = added.addTo pod ∧
      (∀ container ∈ added.containers, container.name = Artifact.envoy →
        Envoy.SuppliedBy pod own container) ∧
      (∃ way : TracingWay, ∀ part ∈ added.tracingParts own, ∀ other : TracingWay,
        other.Serves part → way.Serves part ∧ way.isEnabled injector.config.tracing) ∧
      (injector.shouldInject pod → pod.hasContainer Artifact.envoy = false →
        pod.hasContainer Artifact.xrayDaemon = false →
        pod.hasInitContainer Artifact.proxyInit = false → outcome.error = none →
        Xray.Agreed injector.config.tracing.xray own pod outcome.pod added) := by
  intro outcome own
  by_cases wanted : injector.shouldInject pod
  · have ran : outcome = Step.run (injector.nodeSteps mesh node) pod := if_pos wanted
    rcases sources_run injector mesh node pod with ⟨added, whole, sources⟩
    refine ⟨added, ?_, ?_, ?_, ?_⟩
    · rw [ran, whole]
    · exact fun container member named => (sources.buildsEnvoy container member named).suppliedBy
    · exact Config.Tracing.one_way_of_allowed injector.valid sources.allowed
    · intro _ noEnvoy noDaemon noInit succeeds
      rw [ran] at succeeds
      rw [ran, whole]
      exact agreed_of_success noEnvoy noDaemon noInit whole sources succeeds
  · have left : outcome = ⟨pod, none⟩ := if_neg wanted
    refine ⟨{}, ?_, nofun, ⟨.xray, nofun⟩, fun isWanted => absurd isWanted wanted⟩
    rw [left]
    rfl

/-- With X-Ray the daemon comes with Envoy, also to a pod that supplies Envoy with a variable
for Datadog. -/
theorem one_way_of_xray :
    let config : Config := { tracing := { xray := { enabled := true } } }
    let injector : Injector := ⟨config, { awsRegion := "us-west-2" }, by decide⟩
    let mesh : Mesh := ⟨"mesh", "mesh", none⟩
    let node : VirtualNode := { name := "node", namespaceName := "default" }
    let pod := Pod.empty.annotate Annotations.sidecarEnv "DATADOG_TRACER_PORT=8126"
    let outcome := injector.inject mesh (.node node) pod
    let own := injector.ownEnvironment mesh node pod
    injector.shouldInject pod ∧ pod.hasContainer Artifact.envoy = false ∧
    pod.hasContainer Artifact.xrayDaemon = false ∧
    pod.hasInitContainer Artifact.proxyInit = false ∧ outcome.error = none ∧
    ∃ (added : Contribution) (envoy daemon : Container),
      outcome.pod = added.addTo pod ∧ Envoy.SuppliedBy pod own envoy ∧
      Xray.Wired own pod outcome.pod envoy daemon added := by
  intro config injector mesh node pod outcome own
  have wanted : injector.shouldInject pod := by
    decide
  have succeeds : outcome.error = none := by
    simp only [outcome, inject, if_pos wanted]
    refine (injector.error_run_nodeSteps _ _ (by decide) (by decide) (by decide)).trans ?_
    decide
  rcases one_way_of_tracing injector mesh node pod with ⟨added, whole, supplied, -, agrees⟩
  have agreed := agrees wanted (by decide) (by decide) (by decide) succeeds
  rcases agreed.wired rfl with ⟨envoy, daemon, wired⟩
  have isAdded : envoy ∈ added.containers := by
    rw [wired.containers]
    exact List.mem_cons_self
  exact ⟨wanted, by decide, by decide, by decide, succeeds, added, envoy, daemon, whole,
    supplied envoy isAdded wired.envoyName, wired⟩

end Injector

end MeshSidecar
