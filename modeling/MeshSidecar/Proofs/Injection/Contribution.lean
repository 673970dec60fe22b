import MeshSidecar.Proofs.Injection.Inventory
import MeshSidecar.Proofs.Injection.Preservation

namespace MeshSidecar

/-!
# What a step contributes

A step of an injection for a node looks at the pod, decides what is still missing, and
puts that into the pod.  Here the two are taken apart: what a step contributes is worked
out from the pod, and adding it is the same for all steps.  Contributions can be put one
behind the other before they are added, so what several steps do to a pod can be told
without the pods in between.
-/

/-- Something to be added to a pod: entries to be put behind those of its lists, and
settings that replace those it has. -/
@[ext]
structure Contribution where
  annotations : List (String × String) := []
  containers : List Container := []
  initContainers : List Container := []
  volumes : List Volume := []
  pullSecrets : List String := []
  readinessGates : List String := []
  fsGroup : Option Int := none
  gracePeriod : Option Int := none
  deriving DecidableEq

namespace Contribution

/-- Of two settings the later stands. -/
instance : Append Contribution where
  append early late :=
    { annotations := early.annotations ++ late.annotations
      containers := early.containers ++ late.containers
      initContainers := early.initContainers ++ late.initContainers
      volumes := early.volumes ++ late.volumes
      pullSecrets := early.pullSecrets ++ late.pullSecrets
      readinessGates := early.readinessGates ++ late.readinessGates
      fsGroup := late.fsGroup.or early.fsGroup
      gracePeriod := late.gracePeriod.or early.gracePeriod }

section

variable (early late : Contribution)

@[simp]
theorem annotations_append : (early ++ late).annotations = early.annotations ++ late.annotations :=
  rfl

@[simp]
theorem containers_append : (early ++ late).containers = early.containers ++ late.containers :=
  rfl

@[simp]
theorem initContainers_append :
    (early ++ late).initContainers = early.initContainers ++ late.initContainers :=
  rfl

@[simp]
theorem volumes_append : (early ++ late).volumes = early.volumes ++ late.volumes :=
  rfl

@[simp]
theorem pullSecrets_append : (early ++ late).pullSecrets = early.pullSecrets ++ late.pullSecrets :=
  rfl

@[simp]
theorem readinessGates_append :
    (early ++ late).readinessGates = early.readinessGates ++ late.readinessGates :=
  rfl

@[simp]
theorem fsGroup_append : (early ++ late).fsGroup = late.fsGroup.or early.fsGroup :=
  rfl

@[simp]
theorem gracePeriod_append : (early ++ late).gracePeriod = late.gracePeriod.or early.gracePeriod :=
  rfl

end

/-! ## Adding to a pod -/

/-- The security settings with the group of the file system. -/
def setGroup (group : Option Int) (context : Option PodSecurityContext) :
    Option PodSecurityContext :=
  match group with
  | none => context
  | some group => some { context.getD .empty with fsGroup := some group }

def extendSpec (added : Contribution) (spec : PodSpec) : PodSpec :=
  { spec with
    containers := spec.containers ++ added.containers
    initContainers := Pod.extend spec.initContainers added.initContainers
    volumes := Pod.extend spec.volumes added.volumes
    imagePullSecrets := Pod.extend spec.imagePullSecrets added.pullSecrets
    readinessGates := Pod.extend spec.readinessGates added.readinessGates
    securityContext := setGroup added.fsGroup spec.securityContext
    terminationGracePeriodSeconds := added.gracePeriod.or spec.terminationGracePeriodSeconds }

/-- Nothing of the contribution belongs to the specification. -/
def SparesSpec (added : Contribution) : Prop :=
  added = { annotations := added.annotations }

instance (added : Contribution) : Decidable added.SparesSpec :=
  inferInstanceAs (Decidable (added = _))

/-- Sets annotations one after the other. -/
def annotate (entries : List (String × String)) (pod : Pod) : Pod :=
  entries.foldl (fun pod entry => pod.annotate entry.1 entry.2) pod

/-- The pod with the contribution.  A specification is created only for what belongs
there. -/
def addTo (added : Contribution) (pod : Pod) : Pod :=
  if added.SparesSpec then annotate added.annotations pod
  else (annotate added.annotations pod).mapSpec added.extendSpec

theorem annotate_append (early late : List (String × String)) (pod : Pod) :
    annotate (early ++ late) pod = annotate late (annotate early pod) :=
  List.foldl_append

theorem annotate_mapSpec (entries : List (String × String)) (pod : Pod)
    (change : PodSpec → PodSpec) :
    annotate entries (pod.mapSpec change) = (annotate entries pod).mapSpec change := by
  induction entries generalizing pod with
  | nil => rfl
  | cons entry entries ih => exact ih (pod.annotate entry.1 entry.2)

theorem spec_annotate (entries : List (String × String)) (pod : Pod) :
    (annotate entries pod).spec = pod.spec := by
  induction entries generalizing pod with
  | nil => rfl
  | cons entry entries ih => exact ih (pod.annotate entry.1 entry.2)

theorem specOrEmpty_annotate (entries : List (String × String)) (pod : Pod) :
    (annotate entries pod).specOrEmpty = pod.specOrEmpty := by
  rw [Pod.specOrEmpty, spec_annotate, Pod.specOrEmpty]

theorem extendSpec_of_spares {added : Contribution} (spares : added.SparesSpec) (spec : PodSpec) :
    added.extendSpec spec = spec := by
  rw [spares]
  simp [extendSpec, setGroup]

theorem setGroup_or (late early : Option Int) (context : Option PodSecurityContext) :
    setGroup (late.or early) context = setGroup late (setGroup early context) := by
  cases late <;> cases early <;> rfl

theorem extendSpec_append (early late : Contribution) (spec : PodSpec) :
    (early ++ late).extendSpec spec = late.extendSpec (early.extendSpec spec) := by
  simp [extendSpec, Pod.extend_extend, setGroup_or, Option.or_assoc]

theorem sparesSpec_append (early late : Contribution) :
    (early ++ late).SparesSpec ↔ early.SparesSpec ∧ late.SparesSpec := by
  simp only [SparesSpec, Contribution.ext_iff, annotations_append, containers_append,
    initContainers_append, volumes_append, pullSecrets_append, readinessGates_append,
    fsGroup_append, gracePeriod_append, List.append_eq_nil_iff, Option.or_eq_none_iff]
  grind

/-- Adding one contribution behind another is adding them one after the other. -/
theorem addTo_append (early late : Contribution) (pod : Pod) :
    (early ++ late).addTo pod = late.addTo (early.addTo pod) := by
  have both := sparesSpec_append early late
  have change : (early ++ late).extendSpec = fun spec => late.extendSpec (early.extendSpec spec) :=
    funext (extendSpec_append early late)
  by_cases earlySpares : early.SparesSpec
  · by_cases lateSpares : late.SparesSpec
    · simp only [addTo, both, earlySpares, lateSpares, and_self, if_true]
      exact annotate_append _ _ pod
    · simp only [addTo, both, earlySpares, lateSpares, and_false, if_true, if_false, change,
        extendSpec_of_spares earlySpares, annotations_append, annotate_append]
  · by_cases lateSpares : late.SparesSpec
    · simp only [addTo, both, earlySpares, lateSpares, and_true, if_true, if_false, change,
        extendSpec_of_spares lateSpares, annotations_append, annotate_append, annotate_mapSpec]
    · simp only [addTo, both, earlySpares, lateSpares, and_self, if_false, change,
        annotations_append, annotate_append, annotate_mapSpec]
      rfl

section

variable (pod : Pod)

theorem addTo_annotations (entries : List (String × String)) :
    ({ annotations := entries } : Contribution).addTo pod = annotate entries pod :=
  if_pos rfl

/-- What belongs to the specification changes nothing else. -/
theorem addTo_eq_mapSpec {added : Contribution} {change : PodSpec → PodSpec}
    (belongs : ¬ added.SparesSpec) (told : added.annotations = [])
    (same : added.extendSpec pod.specOrEmpty = change pod.specOrEmpty) :
    added.addTo pod = pod.mapSpec change := by
  rw [addTo, if_neg belongs, told]
  exact congrArg (fun spec => { pod with spec := some spec }) same

theorem addTo_container (container : Container) (volumes : List Volume) :
    ({ containers := [container], volumes := volumes } : Contribution).addTo pod =
      (pod.addContainer container).addVolumes volumes :=
  addTo_eq_mapSpec pod (by simp [SparesSpec]) rfl rfl

theorem addTo_initContainer (container : Container) (volumes : List Volume) :
    ({ initContainers := [container], volumes := volumes } : Contribution).addTo pod =
      (pod.addInitContainer container).addVolumes volumes := by
  have together : (pod.addInitContainer container).addVolumes volumes = pod.mapSpec fun spec =>
      { spec with
        initContainers := Pod.extend spec.initContainers [container]
        volumes := Pod.extend spec.volumes volumes } := rfl
  rw [together]
  refine addTo_eq_mapSpec pod (by simp [SparesSpec]) rfl ?_
  simp [extendSpec, setGroup]

theorem addTo_readinessGate (conditionType : String) :
    ({ readinessGates := [conditionType] } : Contribution).addTo pod =
      pod.addReadinessGate conditionType := by
  refine addTo_eq_mapSpec pod (by simp [SparesSpec]) rfl ?_
  simp [extendSpec, setGroup]

theorem addTo_pullSecret (name : String) :
    ({ pullSecrets := [name] } : Contribution).addTo pod = pod.addPullSecret name := by
  refine addTo_eq_mapSpec pod (by simp [SparesSpec]) rfl ?_
  simp [extendSpec, setGroup]

theorem addTo_fsGroup (group : Int) :
    ({ fsGroup := some group } : Contribution).addTo pod = pod.setFsGroup group := by
  refine addTo_eq_mapSpec pod (by simp [SparesSpec]) rfl ?_
  simp [extendSpec, setGroup]

theorem addTo_gracePeriod (seconds : Int) :
    ({ gracePeriod := some seconds } : Contribution).addTo pod =
      pod.mapSpec fun spec => { spec with terminationGracePeriodSeconds := some seconds } := by
  refine addTo_eq_mapSpec pod (by simp [SparesSpec]) rfl ?_
  simp [extendSpec, setGroup]

end

/-! ## Reading the pod -/

section

variable (added : Contribution) (pod : Pod)

theorem specOrEmpty_addTo : (added.addTo pod).specOrEmpty = added.extendSpec pod.specOrEmpty := by
  by_cases spares : added.SparesSpec
  · rw [addTo, if_pos spares, specOrEmpty_annotate, extendSpec_of_spares spares]
  · rw [addTo, if_neg spares, Pod.specOrEmpty_mapSpec, specOrEmpty_annotate]

theorem containers_addTo : (added.addTo pod).containers = pod.containers ++ added.containers := by
  rw [Pod.containers_eq, specOrEmpty_addTo, Pod.containers_eq]
  rfl

theorem initContainers_addTo :
    (added.addTo pod).initContainers = pod.initContainers ++ added.initContainers := by
  rw [Pod.initContainers_eq, specOrEmpty_addTo, Pod.initContainers_eq]
  exact Pod.getD_extend _ _

theorem volumes_addTo : (added.addTo pod).volumes = pod.volumes ++ added.volumes := by
  rw [Pod.volumes_eq, specOrEmpty_addTo, Pod.volumes_eq]
  exact Pod.getD_extend _ _

theorem pullSecrets_addTo :
    (added.addTo pod).pullSecrets = pod.pullSecrets ++ added.pullSecrets := by
  rw [Pod.pullSecrets_eq, specOrEmpty_addTo, Pod.pullSecrets_eq]
  exact Pod.getD_extend _ _

theorem readinessGates_addTo :
    (added.addTo pod).readinessGates = pod.readinessGates ++ added.readinessGates := by
  rw [Pod.readinessGates_eq, specOrEmpty_addTo, Pod.readinessGates_eq]
  exact Pod.getD_extend _ _

theorem fsGroup?_addTo : (added.addTo pod).fsGroup? = added.fsGroup.or pod.fsGroup? := by
  rw [Pod.fsGroup?_eq, specOrEmpty_addTo, Pod.fsGroup?_eq, extendSpec]
  cases added.fsGroup <;> rfl

theorem metadata_addTo :
    (added.addTo pod).metadata = (annotate added.annotations pod).metadata := by
  rw [addTo]
  split <;> rfl

theorem label?_addTo (key : String) : (added.addTo pod).label? key = pod.label? key := by
  have kept : ∀ (entries : List (String × String)) (pod : Pod),
      (annotate entries pod).label? key = pod.label? key := by
    intro entries
    induction entries with
    | nil => exact fun _ => rfl
    | cons entry entries ih => exact fun pod => ih (pod.annotate entry.1 entry.2)
  rw [Pod.label?, metadata_addTo]
  exact kept added.annotations pod

theorem annotation?_addTo (key : String) : (added.addTo pod).annotation? key =
    (Document.find? key added.annotations).or (pod.annotation? key) := by
  rw [Pod.annotation?, metadata_addTo]
  exact Pod.annotation?_foldl added.annotations pod key

end

end Contribution

/-! ## What each step contributes -/

/-- The init container and its volume, where the tracer is enabled and the volume is
missing. -/
def Tracer.contribution (tracer : Tracer) (pod : Pod) : Contribution :=
  if !tracer.enabled || pod.hasVolume Artifact.tracingVolume then {}
  else { initContainers := [tracer.initContainer], volumes := [volume] }

namespace Step

/-- The step puts something into a pod and changes nothing that is there. -/
def onlyAdds : Step → Bool
  | .gateway .. => false
  | _ => true

/-- What the step has to add to a pod, as far as it only adds. -/
def contribution (step : Step) (pod : Pod) : Except Error Contribution :=
  match step with
  | .interception config sizing node =>
      let settings := Interception.ofPod config node pod
      if pod.usesNetworkPlugin then .ok { annotations := settings.annotations }
      else if pod.hasInitContainer Artifact.proxyInit then .ok {}
      else (pod.sidecarResources sizing).map fun resources =>
        { initContainers := [settings.initContainer config.image resources] }
  | .envoy config identity mesh node =>
      if pod.hasContainer Artifact.envoy then .ok {}
      else do
        let wishes ← Envoy.wishes pod
        Envoy.checkSamplingRate config.tracing.xray
        let resources ← pod.sidecarResources config.sidecar
        return {
          containers := [Envoy.built config identity mesh node pod wishes resources]
          volumes := Envoy.volumes config.envoy pod wishes }
  | .gateway .. => .ok {}
  | .xray config sizing region =>
      if !config.enabled || pod.hasContainer Artifact.xrayDaemon then .ok {}
      else (Xray.container config sizing region pod).map fun container =>
        { containers := [container] }
  | .jaeger config => .ok ((Tracer.jaeger config).contribution pod)
  | .datadog config => .ok ((Tracer.datadog config).contribution pod)
  | .cloudMapGate node =>
      .ok { readinessGates :=
        if pod.needsCloudMapGate node then [Artifact.cloudMapGate] else [] }
  | .fsGroup enabled =>
      .ok { fsGroup := if pod.needsFsGroup enabled then some proxyUid else none }
  | .pullSecret enabled =>
      .ok { pullSecrets := if pod.needsPullSecret enabled then [Artifact.pullSecret] else [] }
  | .gracePeriod preStopDelay =>
      .ok { gracePeriod :=
        if Pod.outlastsGracePeriod preStopDelay then some preStopDelay.toNat else none }

theorem apply_tracer {tracer : Tracer} (written : tracer.content = .ok tracer.text) (pod : Pod) :
    tracer.apply pod = .ok ((tracer.contribution pod).addTo pod) := by
  rw [Tracer.apply_eq written, Tracer.contribution]
  split
  · rfl
  · rw [Contribution.addTo_initContainer]

/-- A step that only adds is carried out by adding its contribution. -/
theorem apply_eq_contribution {step : Step} (adds : step.onlyAdds) (pod : Pod) :
    step.apply pod = (step.contribution pod).map fun added => added.addTo pod := by
  cases step with
  | gateway config identity mesh selected => cases adds
  | interception config sizing node =>
      rw [apply, Interception.apply_eq, contribution]
      split
      · exact congrArg Except.ok (Contribution.addTo_annotations pod _).symm
      · split
        · rfl
        · cases pod.sidecarResources sizing with
          | error error => rfl
          | ok resources =>
              exact congrArg Except.ok (Contribution.addTo_initContainer pod _ []).symm
  | envoy config identity mesh node =>
      rw [contribution]
      cases present : pod.hasContainer Artifact.envoy with
      | true =>
          rw [apply, Envoy.apply_of_present present]
          rfl
      | false =>
          rw [apply, Envoy.apply_of_absent present]
          cases Envoy.wishes pod with
          | error error => rfl
          | ok wishes =>
              cases Envoy.checkSamplingRate config.tracing.xray with
              | error error => rfl
              | ok checked =>
                  cases pod.sidecarResources config.sidecar with
                  | error error => rfl
                  | ok resources =>
                      exact congrArg Except.ok (Contribution.addTo_container pod _ _).symm
  | xray config sizing region =>
      rw [apply, Xray.apply, contribution]
      split
      · rfl
      · cases Xray.container config sizing region pod with
        | error error => rfl
        | ok container => exact congrArg Except.ok (Contribution.addTo_container pod _ []).symm
  | jaeger config => exact apply_tracer (Tracer.content_jaeger config) pod
  | datadog config => exact apply_tracer (Tracer.content_datadog config) pod
  | cloudMapGate node =>
      rw [apply, Pod.withCloudMapGate, contribution]
      split
      · exact congrArg Except.ok (Contribution.addTo_readinessGate pod _).symm
      · rfl
  | fsGroup enabled =>
      rw [apply, Pod.withFsGroup, contribution]
      split
      · exact congrArg Except.ok (Contribution.addTo_fsGroup pod _).symm
      · rfl
  | pullSecret enabled =>
      rw [apply, Pod.withPullSecret, contribution]
      split
      · exact congrArg Except.ok (Contribution.addTo_pullSecret pod _).symm
      · rfl
  | gracePeriod preStopDelay =>
      rw [apply, Pod.withGracePeriod, contribution]
      split
      · exact congrArg Except.ok (Contribution.addTo_gracePeriod pod _).symm
      · rfl

/-- A step that only adds yields the pod with its contribution. -/
theorem contributes_of_apply {step : Step} (adds : step.onlyAdds) {pod changed : Pod}
    (applied : step.apply pod = .ok changed) :
    ∃ added, step.contribution pod = .ok added ∧ changed = added.addTo pod := by
  rw [apply_eq_contribution adds] at applied
  rcases of_map_eq_ok applied with ⟨added, contributes, rfl⟩
  exact ⟨added, contributes, rfl⟩

/-- Envoy comes with its volumes, or nothing comes. -/
theorem of_contribution_envoy {config : Config} {identity : Identity} {mesh : Mesh}
    {node : VirtualNode} {pod : Pod} {added : Contribution}
    (contributes : (envoy config identity mesh node).contribution pod = .ok added) :
    (pod.hasContainer Artifact.envoy ∧ added = {}) ∨
    (pod.hasContainer Artifact.envoy = false ∧ ∃ wished resources,
      Envoy.wishes pod = .ok wished ∧ added = {
        containers := [Envoy.built config identity mesh node pod wished resources]
        volumes := Envoy.volumes config.envoy pod wished }) := by
  rw [contribution] at contributes
  cases present : pod.hasContainer Artifact.envoy with
  | true =>
      rw [present, if_pos rfl] at contributes
      cases contributes
      exact Or.inl ⟨rfl, rfl⟩
  | false =>
      rw [present, if_neg Bool.false_ne_true] at contributes
      rcases of_bind_eq_ok contributes with ⟨wished, wanted, contributes⟩
      rcases of_bind_eq_ok contributes with ⟨checked, rate, contributes⟩
      rcases of_bind_eq_ok contributes with ⟨resources, sized, contributes⟩
      cases contributes
      exact Or.inr ⟨rfl, wished, resources, wanted, rfl⟩

/-! ## Steps that are tried -/

/-- The error with which a step fails when it is tried on a pod, if it fails. -/
def failure? (step : Step) (pod : Pod) : Option Error :=
  match step.mutate.run pod with
  | .ok _ _ => none
  | .error error _ => some error

/-- What a step adds to a pod when it is tried; nothing when it fails. -/
def brings (step : Step) (pod : Pod) : Contribution :=
  match step.contribution pod with
  | .ok added => added
  | .error _ => {}

theorem failure?_eq (step : Step) (pod : Pod) : step.failure? pod = errorOf (step.apply pod) := by
  rw [failure?, step.carriesOut_mutate]
  cases step.apply pod with
  | ok changed => rfl
  | error error => rfl

theorem failure?_eq_contribution {step : Step} (adds : step.onlyAdds) (pod : Pod) :
    step.failure? pod = errorOf (step.contribution pod) := by
  rw [failure?_eq, apply_eq_contribution adds, errorOf_map]

theorem attempt_eq_addTo {step : Step} (adds : step.onlyAdds) (pod : Pod) :
    step.attempt pod = (step.brings pod).addTo pod := by
  have applied := apply_eq_contribution adds pod
  rw [brings]
  cases contributed : step.contribution pod with
  | ok added =>
      rw [contributed] at applied
      exact attempt_of_ok applied
  | error error =>
      rw [contributed] at applied
      exact attempt_of_error applied

end Step

end MeshSidecar
