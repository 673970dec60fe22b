import MeshSidecar.Proofs.Injection.Complaints
import MeshSidecar.Proofs.Injection.Repetition
import MeshSidecar.Proofs.SamplingRate

namespace MeshSidecar

/-!
# Which pods of a node are accepted

The first two steps can fail, and so can the third when the X-Ray daemon is
enabled; all others always succeed.  What they complain about they read from
annotations that no step writes, so it is the same for the pod as it came in.
-/

/-! ## Errors of runs -/

namespace Step

/-- Where the error of the steps that follow is known, it comes after that of the
first. -/
theorem error_run_cons {step : Step} {steps : List Step} {pod : Pod} (later : Option Error)
    (follows : ∀ changed, step.apply pod = .ok changed → (run steps changed).error = later) :
    (run (step :: steps) pod).error = (errorOf (step.apply pod)).or later := by
  rw [run]
  cases applied : step.apply pod with
  | error error => rfl
  | ok changed => exact follows changed applied

theorem error_run_of_infallible {steps : List Step}
    (infallible : ∀ step ∈ steps, ∀ pod, errorOf (step.apply pod) = none) (pod : Pod) :
    (run steps pod).error = none := by
  induction steps generalizing pod with
  | nil => rfl
  | cons step steps ih =>
      rcases List.forall_mem_cons.mp infallible with ⟨first, others⟩
      rw [error_run_cons none fun changed _ => ih others changed, first]
      rfl

theorem errorOf_tracer {tracer : Tracer} (written : tracer.content = .ok tracer.text) (pod : Pod) :
    errorOf (tracer.apply pod) = none := by
  rw [Tracer.apply_eq written]
  rfl

end Step

/-! ## Complaints are the same after interception -/

namespace Pod

theorem AsksSame.quantityFor {before after : Pod} (same : AsksSame before after) {key : String}
    (asked : key ∈ askedKeys) (configured : Option String) :
    after.quantityFor key configured = before.quantityFor key configured := by
  rw [Pod.quantityFor, same key asked, Pod.quantityFor]

namespace SaysSame

variable {before after : Pod}

theorem sizingComplaints (same : SaysSame before after) (sizing : Config.Sidecar) :
    after.sizingComplaints sizing = before.sizingComplaints sizing := by
  have asks := same.asksSame
  rw [Pod.sizingComplaints, quantities, asks.quantityFor (by decide), asks.quantityFor (by decide),
    asks.quantityFor (by decide), asks.quantityFor (by decide)]
  rfl

theorem wishComplaints (same : SaysSame before after) :
    Envoy.wishComplaints after = Envoy.wishComplaints before := by
  have complaint : ∀ (form : PairForm), ∀ key ∉ Interception.keys,
      form.complaint? after key = form.complaint? before key := by
    intro form key other
    rw [PairForm.complaint?, same key other, PairForm.complaint?]
  rw [Envoy.wishComplaints, complaint _ _ (by decide), complaint _ _ (by decide),
    complaint _ _ (by decide), Envoy.wishComplaints]

theorem daemonComplaints (same : SaysSame before after) (xray : Config.Xray) (region : String) :
    Xray.daemonComplaints xray region after = Xray.daemonComplaints xray region before := by
  have settings : Xray.settingComplaints xray after = Xray.settingComplaints xray before := by
    rw [Xray.settingComplaints, same _ (by decide), Xray.settingComplaints]
  rw [Xray.daemonComplaints, settings, Xray.daemonComplaints]

end SaysSame

end Pod

namespace Interception

variable {config : Config.ProxyInit} {sizing : Config.Sidecar} {node : VirtualNode}
  {pod changed : Pod}

/-- The errors of the step in a pod without the init container. -/
theorem errorOf_apply (absent : pod.hasInitContainer Artifact.proxyInit = false) :
    errorOf (apply config sizing node pod) =
      if pod.usesNetworkPlugin then none else firstOf (pod.sizingComplaints sizing) := by
  rw [apply_eq, absent]
  split
  · rfl
  · rw [← Pod.errorOf_sidecarResources]
    exact errorOf_map _ _

end Interception

namespace Envoy

variable {config : Config} {identity : Identity} {mesh : Mesh} {node : VirtualNode}
  {pod changed : Pod}

/-- The errors of the step in a pod without Envoy. -/
theorem errorOf_apply (absent : pod.hasContainer Artifact.envoy = false) :
    errorOf (apply config identity mesh node pod) =
      firstOf (wishComplaints pod ++ Xray.rateComplaints config.tracing.xray ++
        pod.sizingComplaints config.sidecar) := by
  rw [apply_of_absent absent, firstOf_append, firstOf_append, ← errorOf_wishes,
    ← Xray.errorOf_checkSamplingRate, ← Pod.errorOf_sidecarResources, Option.or_assoc]
  refine errorOf_bind _ ?_
  intro wished _
  refine errorOf_bind _ ?_
  intro checked _
  exact errorOf_bind_of_ok fun _ => rfl

/-- The step adds no other container than Envoy. -/
theorem hasContainer_of_apply (applied : apply config identity mesh node pod = .ok changed)
    {name : String} (other : Artifact.envoy ≠ name) :
    changed.hasContainer name = pod.hasContainer name := by
  rcases of_apply applied with ⟨present, rfl⟩ | ⟨absent, wished, resources, -, -, rfl⟩
  · rfl
  · have volumes : ∀ (pod : Pod) added, (pod.addVolumes added).hasContainer name =
        pod.hasContainer name := by
      intro pod added
      simp [Pod.hasContainer, Pod.containers_eq, Pod.addVolumes]
    have named : (built config identity mesh node pod wished resources).name = Artifact.envoy := rfl
    rw [volumes, Pod.hasContainer_addContainer, named]
    simp [other]

end Envoy

/-! ## The whole injection -/

namespace Xray

/-- The daemon can be set up for the pod. -/
structure Accepts (xray : Config.Xray) (region : String) (pod : Pod) : Prop where
  rate : ∀ rate, xray.samplingRate = some rate → SamplingRate.IsRate rate
  region : region ≠ ""
  image : xray.image ≠ ""
  port : xray.daemonPort ≠ 0
  /-- Either the pod names a file, or the configured arguments are fine. -/
  settings :
    (∃ text, pod.annotation? Annotations.xrayConfigMount = some text ∧
      ',' ∉ text.toList ∧ IsMount text) ∨
    (pod.annotation? Annotations.xrayConfigMount = none ∧
      (xray.logLevel = "" ∨ xray.logLevel ∈ logLevels) ∧
      ∀ role, xray.roleArn = some role → role = "" ∨ isArn role)

theorem missingParameters_eq_nil (xray : Config.Xray) (region : String) :
    missingParameters xray region = [] ↔ region ≠ "" ∧ xray.image ≠ "" ∧ xray.daemonPort ≠ 0 := by
  unfold missingParameters
  by_cases noRegion : region = ""
  · simp [noRegion]
  · by_cases noImage : xray.image = ""
    · simp [noRegion, noImage]
    · simp [noRegion, noImage]

theorem rateComplaints_eq_none {xray : Config.Xray} (enabled : xray.enabled) :
    firstOf (rateComplaints xray) = none ↔
      ∀ rate, xray.samplingRate = some rate → SamplingRate.IsRate rate := by
  rw [rateComplaints, if_pos enabled]
  simp [SamplingRate.fault?_eq_none_iff]

theorem mountComplaint?_eq_none (text : String) :
    mountComplaint? text = none ↔ ',' ∉ text.toList ∧ IsMount text := by
  unfold mountComplaint?
  by_cases comma : ',' ∈ text.toList
  · simp [comma]
  · by_cases isMount : IsMount text
    · simp [comma, isMount]
    · simp [comma, isMount]

theorem levelComplaint?_eq_none (xray : Config.Xray) :
    levelComplaint? xray = none ↔ xray.logLevel = "" ∨ xray.logLevel ∈ logLevels := by
  rw [levelComplaint?, ite_eq_left_iff]
  simp only [reduceCtorEq, imp_false, Decidable.not_not]

theorem roleComplaint?_eq_none (xray : Config.Xray) :
    roleComplaint? xray = none ↔ ∀ role, xray.roleArn = some role → role = "" ∨ isArn role := by
  rw [roleComplaint?, Option.bind_eq_none_iff]
  refine forall₂_congr fun role _ => ?_
  rw [ite_eq_left_iff]
  simp only [reduceCtorEq, imp_false, Decidable.not_not]

theorem settingComplaints_eq_none (xray : Config.Xray) (pod : Pod) :
    firstOf (settingComplaints xray pod) = none ↔
      (∃ text, pod.annotation? Annotations.xrayConfigMount = some text ∧
        ',' ∉ text.toList ∧ IsMount text) ∨
      (pod.annotation? Annotations.xrayConfigMount = none ∧
        (xray.logLevel = "" ∨ xray.logLevel ∈ logLevels) ∧
        ∀ role, xray.roleArn = some role → role = "" ∨ isArn role) := by
  unfold settingComplaints
  cases pod.annotation? Annotations.xrayConfigMount with
  | some text => simp [mountComplaint?_eq_none]
  | none => simp [levelComplaint?_eq_none, roleComplaint?_eq_none]

theorem accepts_iff {xray : Config.Xray} (enabled : xray.enabled) (region : String) (pod : Pod) :
    Accepts xray region pod ↔
      firstOf (rateComplaints xray) = none ∧ firstOf (daemonComplaints xray region pod) = none := by
  have parameters : parameterComplaint? xray region = none ↔
      region ≠ "" ∧ xray.image ≠ "" ∧ xray.daemonPort ≠ 0 := by
    rw [← missingParameters_eq_nil, parameterComplaint?]
    simp
  rw [rateComplaints_eq_none enabled, daemonComplaints, if_pos enabled, firstOf_cons,
    Option.or_eq_none_iff, parameters, settingComplaints_eq_none]
  constructor
  · intro accepts
    exact ⟨accepts.rate, ⟨accepts.region, accepts.image, accepts.port⟩, accepts.settings⟩
  · rintro ⟨rate, ⟨region, image, port⟩, settings⟩
    exact ⟨rate, region, image, port, settings⟩

end Xray

namespace Injector

variable (injector : Injector)

/-- Nothing stands against injecting the pod. -/
structure Accepts (pod : Pod) : Prop where
  sizing : ∀ quantity ∈ pod.quantities injector.config.sidecar, Quantity.Usable quantity
  secretMounts : ∀ text, pod.annotation? Annotations.secretMounts = some text →
    PairForm.secretMount.Lists text
  volumeMounts : ∀ text, pod.annotation? Annotations.volumeMounts = some text →
    PairForm.volumeMount.Lists text
  sidecarEnv : ∀ text, pod.annotation? Annotations.sidecarEnv = some text →
    PairForm.assignment.Lists text
  daemon : injector.config.tracing.xray.enabled →
    Xray.Accepts injector.config.tracing.xray injector.identity.awsRegion pod

/-- All complaints in the order in which they come up.  An init container is sized
before Envoy is looked at; the network plugin needs no size. -/
def complaints (pod : Pod) : List (Option Error) :=
  let sizing := pod.sizingComplaints injector.config.sidecar
  let envoy := Envoy.wishComplaints pod ++ Xray.rateComplaints injector.config.tracing.xray
  (if pod.usesNetworkPlugin then envoy ++ sizing else sizing ++ envoy) ++
    Xray.daemonComplaints injector.config.tracing.xray injector.identity.awsRegion pod

theorem accepts_iff (pod : Pod) :
    injector.Accepts pod ↔ firstOf (injector.complaints pod) = none := by
  have all : firstOf (injector.complaints pod) = none ↔
      firstOf (pod.sizingComplaints injector.config.sidecar) = none ∧
      firstOf (Envoy.wishComplaints pod) = none ∧
      firstOf (Xray.rateComplaints injector.config.tracing.xray) = none ∧
      firstOf (Xray.daemonComplaints injector.config.tracing.xray injector.identity.awsRegion pod) =
        none := by
    unfold complaints
    cases pod.usesNetworkPlugin with
    | true =>
        simp only [if_true, firstOf_append, Option.or_eq_none_iff]
        constructor
        · rintro ⟨⟨⟨wishes, rate⟩, sizing⟩, daemon⟩
          exact ⟨sizing, wishes, rate, daemon⟩
        · rintro ⟨sizing, wishes, rate, daemon⟩
          exact ⟨⟨⟨wishes, rate⟩, sizing⟩, daemon⟩
    | false =>
        simp only [Bool.false_eq_true, if_false, firstOf_append, Option.or_eq_none_iff, and_assoc]
  have sizing := pod.sizingComplaints_eq_none injector.config.sidecar
  have wishes : firstOf (Envoy.wishComplaints pod) = none ↔
      (∀ text, pod.annotation? Annotations.secretMounts = some text →
        PairForm.secretMount.Lists text) ∧
      (∀ text, pod.annotation? Annotations.volumeMounts = some text →
        PairForm.volumeMount.Lists text) ∧
      ∀ text, pod.annotation? Annotations.sidecarEnv = some text →
        PairForm.assignment.Lists text := by
    simp only [Envoy.wishComplaints, firstOf_cons, firstOf_nil, Option.or_none,
      Option.or_eq_none_iff, PairForm.complaint?_eq_none]
  rw [all, sizing, wishes]
  constructor
  · intro accepts
    refine ⟨accepts.sizing, ⟨accepts.secretMounts, accepts.volumeMounts, accepts.sidecarEnv⟩, ?_⟩
    cases enabled : injector.config.tracing.xray.enabled with
    | true => exact (Xray.accepts_iff enabled _ _).mp (accepts.daemon enabled)
    | false => simp [Xray.rateComplaints, Xray.daemonComplaints, enabled]
  · rintro ⟨sizing, ⟨secretMounts, volumeMounts, sidecarEnv⟩, daemon⟩
    refine ⟨sizing, secretMounts, volumeMounts, sidecarEnv, ?_⟩
    intro enabled
    exact (Xray.accepts_iff enabled _ _).mpr daemon

variable (mesh : Mesh) (node : VirtualNode)

/-- Behind the X-Ray daemon no step can fail. -/
theorem infallible_nodeSteps :
    ∀ step ∈ (injector.nodeSteps mesh node).drop 3, ∀ pod, errorOf (step.apply pod) = none := by
  intro step member pod
  simp only [nodeSteps, List.drop, List.mem_cons, List.not_mem_nil, or_false] at member
  rcases member with rfl | rfl | rfl | rfl | rfl | rfl
  · exact Step.errorOf_tracer (Tracer.content_jaeger _) pod
  · exact Step.errorOf_tracer (Tracer.content_datadog _) pod
  all_goals rfl

/-- The errors of the steps from Envoy on. -/
theorem error_run_tail {pod : Pod} (noEnvoy : pod.hasContainer Artifact.envoy = false)
    (noDaemon : pod.hasContainer Artifact.xrayDaemon = false) :
    (Step.run (injector.nodeSteps mesh node).tail pod).error =
      firstOf (Envoy.wishComplaints pod ++ Xray.rateComplaints injector.config.tracing.xray ++
        pod.sizingComplaints injector.config.sidecar ++
        Xray.daemonComplaints injector.config.tracing.xray injector.identity.awsRegion pod) := by
  rw [firstOf_append, ← Envoy.errorOf_apply noEnvoy]
  refine Step.error_run_cons _ ?_
  intro changed applied
  have same := (Step.grown_of_apply rfl applied).saysSame
  have sized : firstOf (changed.sizingComplaints injector.config.sidecar) = none := by
    rw [same.sizingComplaints]
    rcases Envoy.of_apply applied with ⟨present, -⟩ | ⟨-, wished, resources, -, sized, -⟩
    · rw [present] at noEnvoy
      cases noEnvoy
    · rw [← Pod.errorOf_sidecarResources, sized]
      rfl
  have stillNoDaemon : changed.hasContainer Artifact.xrayDaemon = false := by
    rw [Envoy.hasContainer_of_apply applied (by decide)]
    exact noDaemon
  refine (Step.error_run_cons none ?_).trans ?_
  · intro later _
    exact Step.error_run_of_infallible (injector.infallible_nodeSteps mesh node) later
  · rw [Option.or_none, ← same.daemonComplaints]
    exact Xray.errorOf_apply stillNoDaemon sized

/-- The error of an injection is its first complaint. -/
theorem error_run_nodeSteps {pod : Pod} (noEnvoy : pod.hasContainer Artifact.envoy = false)
    (noDaemon : pod.hasContainer Artifact.xrayDaemon = false)
    (noInit : pod.hasInitContainer Artifact.proxyInit = false) :
    (Step.run (injector.nodeSteps mesh node) pod).error = firstOf (injector.complaints pod) := by
  have tail : ∀ changed,
      (Step.interception injector.config.proxyInit injector.config.sidecar node).apply pod =
        .ok changed →
      (Step.run (injector.nodeSteps mesh node).tail changed).error =
        firstOf (Envoy.wishComplaints pod ++ Xray.rateComplaints injector.config.tracing.xray ++
          pod.sizingComplaints injector.config.sidecar ++ Xray.daemonComplaints
            injector.config.tracing.xray injector.identity.awsRegion pod) := by
    intro changed applied
    have same := Interception.saysSame_of_apply applied
    have containers := Interception.hasContainer_of_apply applied
    have ends := @error_run_tail injector mesh node changed
    rw [same.wishComplaints, same.sizingComplaints, same.daemonComplaints] at ends
    apply ends
    · rw [containers]
      exact noEnvoy
    · rw [containers]
      exact noDaemon
  have first : errorOf ((Step.interception injector.config.proxyInit injector.config.sidecar
      node).apply pod) = if pod.usesNetworkPlugin then none
        else firstOf (pod.sizingComplaints injector.config.sidecar) :=
    Interception.errorOf_apply noInit
  unfold complaints
  cases plugin : pod.usesNetworkPlugin with
  | true =>
      rw [plugin, if_pos rfl] at first
      refine (Step.error_run_cons _ tail).trans ?_
      rw [first]
      rfl
  | false =>
      simp only [plugin, Bool.false_eq_true, if_false] at first
      simp only [Bool.false_eq_true, if_false]
      rw [List.append_assoc, firstOf_append, ← first]
      refine Step.error_run_cons _ ?_
      intro changed applied
      have sized : firstOf (pod.sizingComplaints injector.config.sidecar) = none := by
        rw [← first, applied]
        rfl
      refine (tail changed applied).trans ?_
      simp only [firstOf_append, sized, Option.or_none]

/-- A pod without sidecars that is to be injected gets them exactly when nothing
stands against it, and otherwise the first complaint is the error. -/
theorem inject_first_complaint {pod : Pod} (wanted : injector.shouldInject pod)
    (noEnvoy : pod.hasContainer Artifact.envoy = false)
    (noDaemon : pod.hasContainer Artifact.xrayDaemon = false)
    (noInit : pod.hasInitContainer Artifact.proxyInit = false) :
    ((injector.inject mesh (.node node) pod).error = none ↔ injector.Accepts pod) ∧
    (injector.inject mesh (.node node) pod).error = firstOf (injector.complaints pod) := by
  have error : (injector.inject mesh (.node node) pod).error =
      firstOf (injector.complaints pod) := by
    rw [inject, if_pos wanted]
    exact injector.error_run_nodeSteps mesh node noEnvoy noDaemon noInit
  refine ⟨?_, error⟩
  rw [error]
  exact (injector.accepts_iff pod).symm

/-- A pod with a list of variables that gives one of them no value. -/
def Example.unassigned : Pod :=
  { Pod.empty with spec := some .empty }.annotate Annotations.sidecarEnv "LEVEL=2,TRACE"

/-- It is refused for that list, although its size is fine. -/
theorem inject_first_complaint_unassigned :
    let injector : Injector := ⟨{}, {}, by decide⟩
    injector.shouldInject Example.unassigned ∧
    Example.unassigned.hasContainer Artifact.envoy = false ∧
    Example.unassigned.hasContainer Artifact.xrayDaemon = false ∧
    Example.unassigned.hasInitContainer Artifact.proxyInit = false ∧
    (injector.inject ⟨"mesh", "mesh", none⟩ (.node { name := "node", namespaceName := "default" })
      Example.unassigned).error =
      some (.malformed Annotations.sidecarEnv PairForm.assignment.shown) := by
  refine ⟨by decide, by decide, by decide, by decide, ?_⟩
  refine (inject_first_complaint _ _ _ (by decide) (by decide) (by decide) (by decide)).2.trans ?_
  decide

end Injector

end MeshSidecar
