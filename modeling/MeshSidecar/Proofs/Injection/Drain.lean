import MeshSidecar.Proofs.Injection.Order
import MeshSidecar.Proofs.Text.Decimal

namespace MeshSidecar

/-!
# Time to drain Envoy

Before Envoy is stopped its hook waits for connections to end, and the pod is killed
when the grace period is over, be the hook done or not.  The last step of an injection
sets the grace period when the hook takes longer than a pod is given by default.  It
does not look at what the pod declared, so the hook has the time that it takes, and the
pod the time that it had, only where these fit the default.
-/

/-! ## How long the hook waits -/

/-- The command that is run in a container before it is stopped. -/
def Container.preStop? (container : Container) : Option Json := do
  let hooks ← Document.find? "lifecycle" container.rest
  let hook ← hooks.get? "preStop"
  let action ← hook.get? "exec"
  action.get? "command"

/-- For how many seconds a script does nothing but sleep. -/
def Text.sleepSeconds? (script : String) : Option Nat :=
  match splitOn ' ' script.toList with
  | [['s', 'l', 'e', 'e', 'p'], seconds] => valueInBase? 10 seconds
  | _ => none

/-- For how many seconds a container sleeps before it is stopped. -/
def Container.drainSeconds? (container : Container) : Option Nat :=
  match container.preStop? with
  | some (.arr [.str "sh", .str "-c", .str script]) => Text.sleepSeconds? script
  | _ => none

namespace Envoy

theorem sleepSeconds?_preStopCommand (preStopDelay : UInt32) :
    Text.sleepSeconds? (preStopCommand preStopDelay) = some preStopDelay.toNat := by
  have cut : Text.splitOn ' ' (preStopCommand preStopDelay).toList =
      [['s', 'l', 'e', 'e', 'p'], Text.digits preStopDelay.toNat] := by
    have text : (preStopCommand preStopDelay).toList =
        ['s', 'l', 'e', 'e', 'p'] ++ ' ' :: Text.digits preStopDelay.toNat := by
      simp [preStopCommand, Text.ofNat]
    rw [text, Text.splitOn_append, Text.splitOn_of_not_mem (by decide),
      Text.splitOn_of_not_mem (Text.not_mem_digits (by decide) _), List.singleton_append]
  rw [Text.sleepSeconds?, cut]
  exact Text.valueInBase?_digits _

theorem drainSeconds?_built (config : Config) (identity : Identity) (mesh : Mesh)
    (node : VirtualNode) (pod : Pod) (wished : Wishes) (resources : Resources) :
    (built config identity mesh node pod wished resources).drainSeconds? =
      some config.envoy.preStopDelay.toNat :=
  sleepSeconds?_preStopCommand config.envoy.preStopDelay

end Envoy

/-! ## How long the pod is given -/

/-- The seconds that a pod is given to terminate. -/
def Pod.gracePeriod (pod : Pod) : Int :=
  (pod.spec.bind PodSpec.terminationGracePeriodSeconds).getD Pod.defaultGracePeriod.toNat

theorem Pod.gracePeriod_eq (pod : Pod) : pod.gracePeriod =
    pod.specOrEmpty.terminationGracePeriodSeconds.getD Pod.defaultGracePeriod.toNat := by
  rw [gracePeriod, specOrEmpty]
  cases pod.spec with
  | none => rfl
  | some spec => rfl

theorem Contribution.gracePeriod_addTo (added : Contribution) (pod : Pod) :
    (added.addTo pod).gracePeriod = added.gracePeriod.getD pod.gracePeriod := by
  rw [Pod.gracePeriod_eq, specOrEmpty_addTo, Pod.gracePeriod_eq, extendSpec]
  cases added.gracePeriod with
  | none => rfl
  | some seconds => rfl

namespace Step

/-- The grace period that a step sets, if it sets one. -/
def gracePeriod? : Step → Option Int
  | .gracePeriod preStopDelay =>
    if Pod.outlastsGracePeriod preStopDelay then some preStopDelay.toNat else none
  | _ => none

theorem gracePeriod_of_contribution {step : Step} {pod : Pod} {added : Contribution}
    (contributes : step.contribution pod = .ok added) :
    added.gracePeriod = step.gracePeriod? := by
  have offers := offers_of_contribution contributes
  cases step with
  | gracePeriod preStopDelay =>
      cases contributes
      rfl
  | _ =>
      apply Decidable.of_not_not
      intro given
      have named := offers.gracePeriod given
      simp [name] at named

theorem gracePeriod_of_apply {step : Step} (adds : step.onlyAdds) {pod changed : Pod}
    (applied : step.apply pod = .ok changed) :
    changed.gracePeriod = step.gracePeriod?.getD pod.gracePeriod := by
  rcases contributes_of_apply adds applied with ⟨added, contributes, rfl⟩
  rw [Contribution.gracePeriod_addTo, gracePeriod_of_contribution contributes]

/-- The last step that sets the grace period decides, whatever the pod declared. -/
theorem gracePeriod_run {steps : List Step} (adds : ∀ step ∈ steps, step.onlyAdds) {pod : Pod}
    (succeeds : (run steps pod).error = none) : (run steps pod).pod.gracePeriod =
      steps.foldl (fun seconds step => step.gracePeriod?.getD seconds) pod.gracePeriod := by
  induction steps generalizing pod with
  | nil => rfl
  | cons step steps ih =>
      have addsLater := fun other member => adds other (List.mem_cons_of_mem step member)
      rcases run_cons_of_success succeeds with ⟨changed, applied, rest⟩
      rw [rest] at succeeds ⊢
      rw [ih addsLater succeeds, gracePeriod_of_apply (adds step List.mem_cons_self) applied,
        List.foldl_cons]

end Step

/-! ## Injections -/

namespace Injector

variable {injector : Injector} {mesh : Mesh} {node : VirtualNode} {pod : Pod}

/-- The pod gets the container that Envoy is added as. -/
theorem envoy_of_run (absent : pod.hasContainer Artifact.envoy = false)
    (succeeds : (Step.run (injector.nodeSteps mesh node) pod).error = none) :
    ∃ intercepted wished resources added,
      (Step.run (injector.nodeSteps mesh node) pod).pod.containers = pod.containers ++
        Envoy.built injector.config injector.identity mesh node intercepted wished resources ::
          added := by
  rcases Step.run_cons_of_success succeeds with ⟨intercepted, interception, rest⟩
  rw [nodeSteps, rest] at succeeds
  rcases Step.run_cons_of_success succeeds with ⟨served, envoy, late⟩
  rw [nodeSteps, rest, late]
  have containers := Interception.containers_of_apply interception
  have stillAbsent : intercepted.hasContainer Artifact.envoy = false := by
    rw [Interception.hasContainer_of_apply interception, absent]
  have forNode : ∀ step ∈ (injector.nodeSteps mesh node).drop 2,
      step.IsForNode injector.config.envoy.preStopDelay := by
    simp [nodeSteps, Step.IsForNode]
  rcases (Step.preserved_run forNode served).spec.containers with ⟨added, behind, named⟩
  rcases Envoy.of_apply envoy with ⟨present, -⟩ | ⟨-, wished, resources, wanted, -, rfl⟩
  · rw [stillAbsent] at present
    cases present
  · refine ⟨intercepted, wished, resources, added, ?_⟩
    rw [Pod.containers_eq]
    refine behind.trans ?_
    rw [← Pod.containers_eq, ← Contribution.addTo_container, Contribution.containers_addTo,
      containers, List.append_assoc]
    rfl

theorem gracePeriod_run_nodeSteps
    (succeeds : (Step.run (injector.nodeSteps mesh node) pod).error = none) :
    (Step.run (injector.nodeSteps mesh node) pod).pod.gracePeriod =
      if 30 < injector.config.envoy.preStopDelay.toNat then
        (injector.config.envoy.preStopDelay.toNat : Int)
      else pod.gracePeriod := by
  rw [Step.gracePeriod_run (injector.onlyAdds_nodeSteps mesh node) succeeds]
  simp only [nodeSteps, List.foldl_cons, List.foldl_nil, Step.gracePeriod?, Option.getD_none]
  have outlasts : Pod.outlastsGracePeriod injector.config.envoy.preStopDelay =
      decide (30 < injector.config.envoy.preStopDelay.toNat) := rfl
  rw [outlasts]
  split
  · next long => rw [if_pos (of_decide_eq_true long), Option.getD_some]
  · next short => rw [if_neg (by simpa using short), Option.getD_none]

/-- After an injection that succeeds Envoy is given the time that its hook takes, unless
the pod declared less and the default would do; and the pod is given no less time than
before, unless it declared more than the hook takes and the default would not do. -/
theorem drain_inject_iff (wanted : injector.shouldInject pod)
    (absent : pod.hasContainer Artifact.envoy = false)
    (succeeds : (injector.inject mesh (.node node) pod).error = none) :
    let after := (injector.inject mesh (.node node) pod).pod
    ∃ envoy added, after.containers = pod.containers ++ envoy :: added ∧
      envoy.name = Artifact.envoy ∧ ∃ seconds : Nat, envoy.drainSeconds? = some seconds ∧
      (seconds ≤ after.gracePeriod ↔ 30 < seconds ∨ seconds ≤ pod.gracePeriod) ∧
      (pod.gracePeriod ≤ after.gracePeriod ↔ seconds ≤ 30 ∨ pod.gracePeriod ≤ seconds) := by
  rw [inject, if_pos wanted] at succeeds ⊢
  rcases envoy_of_run absent succeeds with ⟨intercepted, wished, resources, added, containers⟩
  refine ⟨_, added, containers, rfl, _, Envoy.drainSeconds?_built .., ?_⟩
  rw [steps, gracePeriod_run_nodeSteps succeeds]
  split
  · omega
  · omega

/-- A pod that declares how long it is given to terminate. -/
def terminating (seconds : Int) : Pod :=
  { Pod.empty with spec := some { PodSpec.empty with
    terminationGracePeriodSeconds := some seconds } }

/-- A minute is more than the hook takes by default, and stays a minute. -/
theorem drained_of_terminating :
    let injector : Injector := ⟨{}, {}, by decide⟩
    let node : VirtualNode := { name := "node", namespaceName := "default" }
    let after := (injector.inject ⟨"mesh", "mesh", none⟩ (.node node) (terminating 60)).pod
    injector.shouldInject (terminating 60) ∧
    (terminating 60).hasContainer Artifact.envoy = false ∧
    (injector.inject ⟨"mesh", "mesh", none⟩ (.node node) (terminating 60)).error = none ∧
    ∃ envoy added, after.containers = (terminating 60).containers ++ envoy :: added ∧
      envoy.name = Artifact.envoy ∧ ∃ seconds : Nat, envoy.drainSeconds? = some seconds ∧
      (seconds ≤ after.gracePeriod ↔ 30 < seconds ∨ seconds ≤ (terminating 60).gracePeriod) ∧
      ((terminating 60).gracePeriod ≤ after.gracePeriod ↔
        seconds ≤ 30 ∨ (terminating 60).gracePeriod ≤ seconds) := by
  intro injector node after
  have wanted : injector.shouldInject (terminating 60) := by
    decide
  have succeeds :
      (injector.inject ⟨"mesh", "mesh", none⟩ (.node node) (terminating 60)).error = none := by
    rw [inject, if_pos wanted]
    refine (injector.error_run_nodeSteps _ _ (by decide) (by decide) (by decide)).trans ?_
    decide
  exact ⟨wanted, by decide, succeeds, drain_inject_iff wanted (by decide) succeeds⟩

/-- Two minutes become less when the hook takes longer than the default, and five seconds
stay too few when it does not. -/
theorem not_drained_of_terminating :
    let node : VirtualNode := { name := "node", namespaceName := "default" }
    (let injector : Injector := ⟨{ envoy := { preStopDelay := 45 } }, {}, by decide⟩
      let pod := terminating 120
      let outcome := injector.inject ⟨"mesh", "mesh", none⟩ (.node node) pod
      injector.shouldInject pod ∧ pod.hasContainer Artifact.envoy = false ∧
      outcome.error = none ∧ ¬ pod.gracePeriod ≤ outcome.pod.gracePeriod) ∧
    (let injector : Injector := ⟨{ envoy := { preStopDelay := 20 } }, {}, by decide⟩
      let pod := terminating 5
      let outcome := injector.inject ⟨"mesh", "mesh", none⟩ (.node node) pod
      injector.shouldInject pod ∧ pod.hasContainer Artifact.envoy = false ∧
      outcome.error = none ∧
      ¬ injector.config.envoy.preStopDelay.toNat ≤ outcome.pod.gracePeriod) := by
  intro node
  constructor
  · intro injector pod
    have succeeds : (Step.run (injector.nodeSteps ⟨"mesh", "mesh", none⟩ node) pod).error =
        none := by
      refine (injector.error_run_nodeSteps _ _ (by decide) (by decide) (by decide)).trans ?_
      decide
    simp only [inject, if_pos (show injector.shouldInject pod by decide)]
    refine ⟨by decide, by decide, succeeds, ?_⟩
    rw [steps, gracePeriod_run_nodeSteps succeeds]
    decide
  · intro injector pod
    have succeeds : (Step.run (injector.nodeSteps ⟨"mesh", "mesh", none⟩ node) pod).error =
        none := by
      refine (injector.error_run_nodeSteps _ _ (by decide) (by decide) (by decide)).trans ?_
      decide
    simp only [inject, if_pos (show injector.shouldInject pod by decide)]
    refine ⟨by decide, by decide, succeeds, ?_⟩
    rw [steps, gracePeriod_run_nodeSteps succeeds]
    decide

end Injector

end MeshSidecar
