import MeshSidecar.Injection.Mutation
import MeshSidecar.Proofs.Injection.Marker

namespace MeshSidecar

/-!
# Injecting in place and injecting as a whole

Work on a pod where it stands could stop halfway.  Here every step is shown to be
carried out as a whole: all its parts are written, or it fails and none is.  Then
what it does in place is just what it yields when it is applied to a copy, and
the same holds of the steps of an injection in a row.
-/

/-- How a change ends that is carried out as a whole: an error leaves the pod as it
was. -/
def ending (pod : Pod) : Except Error Pod → EStateM.Result Error Pod Unit
  | .ok changed => .ok () changed
  | .error error => .error error pod

theorem ending_eq_error {pod left : Pod} {result : Except Error Pod} {error : Error} :
    ending pod result = .error error left ↔ result = .error error ∧ left = pod := by
  cases result with
  | ok changed => simp [ending]
  | error reason => simp [ending, eq_comm]

namespace Mutation

/-- The work carries out the change as a whole. -/
def CarriesOut (work : Mutation Unit) (change : Pod → Except Error Pod) : Prop :=
  ∀ pod, work.run pod = ending pod (change pod)

variable {α β : Type}

theorem run_get_bind (next : Pod → Mutation α) (pod : Pod) :
    (get >>= next).run pod = (next pod).run pod :=
  rfl

theorem run_bind_of_ok {work : Mutation α} {next : α → Mutation β} {pod changed : Pod}
    {value : α} (result : work.run pod = .ok value changed) :
    (work >>= next).run pod = (next value).run changed := by
  rw [EStateM.run_bind, result]

theorem run_bind_of_error {work : Mutation α} {next : α → Mutation β} {pod left : Pod}
    {error : Error} (result : work.run pod = .error error left) :
    (work >>= next).run pod = .error error left := by
  rw [EStateM.run_bind, result]

theorem run_reading_of_ok {work : Pod → Except Error α} {pod : Pod} {value : α}
    (result : work pod = .ok value) : (reading work).run pod = .ok value pod := by
  rw [reading, run_get_bind, result]
  rfl

theorem run_reading_of_error {work : Pod → Except Error α} {pod : Pod} {error : Error}
    (result : work pod = .error error) : (reading work).run pod = .error error pod := by
  rw [reading, run_get_bind, result]
  rfl

/-- Everything that can fail comes before everything that is written. -/
theorem carriesOut_reading {work : Pod → Except Error α} {next : α → Mutation Unit}
    {write : α → Pod → Pod}
    (writes : ∀ value pod, (next value).run pod = .ok () (write value pod)) :
    (reading work >>= next).CarriesOut fun pod => (work pod).map fun value => write value pod := by
  intro pod
  change _ = ending pod ((work pod).map _)
  cases result : work pod with
  | ok value =>
      rw [run_bind_of_ok (run_reading_of_ok result)]
      exact writes value pod
  | error error => exact run_bind_of_error (run_reading_of_error result)

/-- Work that is left out where the pod bears a mark. -/
theorem CarriesOut.unless {work : Mutation Unit} {change : Pod → Except Error Pod}
    (carriesOut : work.CarriesOut change) (marked : Pod → Bool) :
    CarriesOut (do unless marked (← get) do work)
      fun pod => if marked pod then .ok pod else change pod := by
  intro pod
  rw [run_get_bind]
  change _ = ending pod (if marked pod then _ else _)
  cases marked pod with
  | true => rfl
  | false => exact carriesOut pod

theorem run_forM_modify (entries : List α) (write : α → Pod → Pod) (pod : Pod) :
    (entries.forM fun entry => modify (write entry) : Mutation Unit).run pod =
      .ok () (entries.foldl (fun pod entry => write entry pod) pod) := by
  induction entries generalizing pod with
  | nil => rfl
  | cons entry entries ih => exact ih (write entry pod)

end Mutation

open Mutation

/-! ## Steps that add something -/

theorem Interception.carriesOut_mutate (config : Config.ProxyInit) (sizing : Config.Sidecar)
    (node : VirtualNode) :
    (mutate config sizing node).CarriesOut (apply config sizing node) := by
  intro pod
  rw [mutate, run_get_bind, run_get_bind, apply]
  cases plugin : pod.usesNetworkPlugin with
  | true =>
      simp only [if_true]
      exact run_forM_modify _ _ pod
  | false =>
      simp only [Bool.false_eq_true, if_false]
      have adds : ∀ container changed, (modify fun pod => pod.addInitContainer container :
          Mutation Unit).run changed = .ok () (changed.addInitContainer container) :=
        fun _ _ => rfl
      rw [install]
      exact (carriesOut_reading adds).unless _ pod

theorem Envoy.carriesOut_mutate (config : Config) (identity : Identity) (mesh : Mesh)
    (node : VirtualNode) :
    (mutate config identity mesh node).CarriesOut (apply config identity mesh node) :=
  (carriesOut_reading fun _ _ => rfl).unless _

theorem Xray.carriesOut_mutate (xray : Config.Xray) (sizing : Config.Sidecar) (region : String) :
    (mutate xray sizing region).CarriesOut (apply xray sizing region) :=
  (carriesOut_reading fun _ _ => rfl).unless _

theorem Tracer.carriesOut_mutate (tracer : Tracer) : tracer.mutate.CarriesOut tracer.apply :=
  (carriesOut_reading fun _ _ => rfl).unless _

/-! ## The container of a gateway -/

namespace Gateway

theorem changeFirst_changeFirst {α : Type} {p : α → Bool} {first second : α → α}
    (kept : ∀ a, p a → p (first a)) (list : List α) :
    changeFirst p second (changeFirst p first list) = changeFirst p (second ∘ first) list := by
  induction list with
  | nil => rfl
  | cons head rest ih =>
      by_cases holds : p head
      · simp [changeFirst, holds, kept head holds]
      · simp [changeFirst, holds, ih]

/-- A container that keeps its name is still the declared one for the next change. -/
theorem changeDeclared_changeDeclared (first second : Container → Container)
    (named : ∀ container, (first container).name = container.name) (pod : Pod) :
    changeDeclared second (changeDeclared first pod) = changeDeclared (second ∘ first) pod := by
  have kept : ∀ container : Container, container.name == Artifact.envoy →
      (first container).name == Artifact.envoy := by
    intro container isEnvoy
    rw [named]
    exact isEnvoy
  exact congrArg (fun filled => pod.mapSpec fun spec => { spec with containers := filled })
    (changeFirst_changeFirst kept pod.specOrEmpty.containers)

/-- The declared container is not changed by the image that it declares. -/
theorem changeDeclared_setImage {pod : Pod} {declared : Container}
    (found : declared? pod = some declared) :
    changeDeclared (setImage declared.image) pod = pod := by
  have kept : ∀ first, pod.containers.find? (fun container => container.name == Artifact.envoy) =
      some first → setImage declared.image first = first := by
    intro first isFirst
    rw [declared?, isFirst, Option.some_inj] at found
    rw [found]
    rfl
  have same := changeFirst_eq_self kept
  cases present : pod.spec with
  | none =>
      rw [declared?, Pod.containers, present] at found
      cases found
  | some spec =>
      rw [Pod.containers, present] at same
      apply Pod.mapSpec_eq_self present
      exact congrArg (fun filled => { spec with containers := filled }) same

/-- What follows the image completes the container. -/
theorem run_afterImage (given : SortedMap String) (image : Option String)
    (missing : Option String) (pod : Pod) :
    (do modify (changeDeclared (setEnv given)); showSocket missing : Mutation Unit).run
      (changeDeclared (setImage image) pod) = .ok () (filled given image missing pod) := by
  have withEnv := changeDeclared_changeDeclared (setImage image) (setEnv given) (fun _ => rfl) pod
  rw [run_bind_of_ok (EStateM.run_modify _ _), withEnv]
  cases missing with
  | none => rfl
  | some path =>
      have withMount := changeDeclared_changeDeclared (setEnv given ∘ setImage image)
        (addMount (Sds.mount path)) (fun _ => rfl) pod
      rw [showSocket, run_bind_of_ok (EStateM.run_modify _ _), withMount]
      rfl

theorem carriesOut_mutate (config : Config) (identity : Identity) (mesh : Mesh)
    (gateway : VirtualGateway) :
    (mutate config identity mesh gateway).CarriesOut (apply config identity mesh gateway) := by
  intro pod
  have rendered : (reading fun pod =>
      environment (.ofPod config identity mesh gateway pod)).run pod =
        .ok (.ofList (Variables.ofPod config identity mesh gateway pod).assignments) pod :=
    run_reading_of_ok (Variables.environment_definition _)
  rw [mutate, run_bind_of_ok rendered, run_get_bind, run_get_bind, run_get_bind, apply_eq]
  cases found : declared? pod with
  | none => rfl
  | some declared =>
      cases pinned : pinsImage pod with
      | true =>
          have settled := run_afterImage
            (.ofList (Variables.ofPod config identity mesh gateway pod).assignments)
            declared.image (Sds.missingPath? config.envoy pod) pod
          rw [changeDeclared_setImage found] at settled
          exact settled
      | false =>
          simp only [Bool.false_eq_true, if_false]
          cases image config.sidecar false declared.image with
          | error error => exact run_bind_of_error (run_reading_of_error rfl)
          | ok image =>
              refine (run_bind_of_ok (run_reading_of_ok rfl)).trans ?_
              exact (run_bind_of_ok (EStateM.run_modify _ _)).trans (run_afterImage ..)

end Gateway

/-! ## Steps in a row -/

/-- What an injection ends with where it was carried out in place. -/
def Outcome.ending (outcome : Outcome) : EStateM.Result Error Pod Unit :=
  match outcome.error with
  | none => .ok () outcome.pod
  | some error => .error error outcome.pod

theorem Outcome.ending_eq_error {outcome : Outcome} {error : Error} {left : Pod} :
    outcome.ending = .error error left ↔ outcome.error = some error ∧ outcome.pod = left := by
  rcases outcome with ⟨pod, failed⟩
  cases failed <;> simp [Outcome.ending]

namespace Step

theorem carriesOut_mutate (step : Step) : step.mutate.CarriesOut step.apply := by
  cases step with
  | interception config sizing node => exact Interception.carriesOut_mutate config sizing node
  | envoy config identity mesh node => exact Envoy.carriesOut_mutate config identity mesh node
  | gateway config identity mesh selected =>
      exact Gateway.carriesOut_mutate config identity mesh selected
  | xray config sizing region => exact Xray.carriesOut_mutate config sizing region
  | jaeger config => exact Tracer.carriesOut_mutate _
  | datadog config => exact Tracer.carriesOut_mutate _
  | cloudMapGate node => exact fun _ => rfl
  | fsGroup enabled => exact fun _ => rfl
  | pullSecret enabled => exact fun _ => rfl
  | gracePeriod preStopDelay => exact fun _ => rfl

theorem mutateAll_cons (step : Step) (steps : List Step) :
    mutateAll (step :: steps) = step.mutate >>= fun _ => mutateAll steps :=
  rfl

theorem run_mutateAll (steps : List Step) (pod : Pod) :
    (mutateAll steps).run pod = (run steps pod).ending := by
  induction steps generalizing pod with
  | nil => rfl
  | cons step steps ih =>
      have first := step.carriesOut_mutate pod
      rw [run, mutateAll_cons]
      cases applied : step.apply pod with
      | ok changed =>
          rw [applied] at first
          rw [run_bind_of_ok first]
          exact ih changed
      | error error =>
          rw [applied] at first
          exact run_bind_of_error first

theorem attempt_of_ok {step : Step} {pod changed : Pod} (applied : step.apply pod = .ok changed) :
    step.attempt pod = changed := by
  rw [attempt, step.carriesOut_mutate, applied]
  rfl

theorem attempt_of_error {step : Step} {pod : Pod} {error : Error}
    (fails : step.apply pod = .error error) : step.attempt pod = pod := by
  rw [attempt, step.carriesOut_mutate, fails]
  rfl

end Step

theorem Injector.run_mutate (injector : Injector) (mesh : Mesh) (selector : Selector) (pod : Pod) :
    (injector.mutate mesh selector).run pod = (injector.inject mesh selector pod).ending := by
  rw [mutate, run_get_bind, inject]
  by_cases wanted : injector.shouldInject pod
  · rw [if_pos wanted, if_pos wanted]
    exact Step.run_mutateAll (injector.steps mesh selector) pod
  · rw [if_neg wanted, if_neg wanted]
    rfl

end MeshSidecar
