import MeshSidecar.Proofs.Injection.Mounting
import MeshSidecar.Proofs.Injection.Mutation

namespace MeshSidecar

/-!
# Injections that fail

An injection that fails leaves the pod with what the steps before the failing one did
to it.  Since no step is done in part, no artifact is: containers that were added have
the volumes that they mount, and the container of a gateway is filled in altogether or
not at all.
-/

/-! ## Where an injection stops -/

namespace Step

/-- A step that fails leaves the pod as it was. -/
theorem left_of_error {step : Step} {pod left : Pod} {error : Error}
    (fails : step.mutate.run pod = .error error left) : left = pod := by
  rw [step.carriesOut_mutate, ending_eq_error] at fails
  exact fails.2

/-- Steps that fail did all that comes before one of them, which fails. -/
theorem stops_of_error {steps : List Step} {pod left : Pod} {error : Error}
    (fails : (mutateAll steps).run pod = .error error left) :
    ∃ early step late, steps = early ++ step :: late ∧
      (mutateAll early).run pod = .ok () left ∧ step.mutate.run left = .error error left := by
  induction steps generalizing pod with
  | nil => cases fails
  | cons first steps ih =>
      cases tried : first.mutate.run pod with
      | error reason same =>
          cases left_of_error tried
          rw [mutateAll_cons, Mutation.run_bind_of_error tried] at fails
          cases fails
          exact ⟨[], first, steps, rfl, rfl, tried⟩
      | ok done changed =>
          rw [mutateAll_cons, Mutation.run_bind_of_ok tried] at fails
          rcases ih fails with ⟨early, step, late, split, went, stopped⟩
          refine ⟨first :: early, step, late, ?_, ?_, stopped⟩
          · rw [split, List.cons_append]
          · rw [mutateAll_cons, Mutation.run_bind_of_ok tried]
            exact went

end Step

/-! ## The container of a gateway -/

namespace Gateway

variable {config : Config} {identity : Identity} {mesh : Mesh} {gateway : VirtualGateway}
  {pod changed : Pod}

/-- The declared container is as it was, or it was filled in altogether after its image
had been found to be allowed. -/
def FilledWhole (config : Config) (identity : Identity) (mesh : Mesh) (gateway : VirtualGateway)
    (before after : Pod) : Prop :=
  declared? after = declared? before ∨
  ∃ declared filledImage, declared? before = some declared ∧
    image config.sidecar (pinsImage before) declared.image = .ok filledImage ∧
    declared? after = some (fill
      (.ofList (Variables.ofPod config identity mesh gateway before).assignments) filledImage
      (Sds.missingPath? config.envoy before) declared)

theorem filledWhole_of_apply (applied : apply config identity mesh gateway pod = .ok changed) :
    FilledWhole config identity mesh gateway pod changed := by
  rcases of_apply applied with ⟨none, rfl⟩ | ⟨declared, filledImage, found, allowed, rfl⟩
  · exact Or.inl rfl
  · have search : pod.containers.find? (fun container => container.name == Artifact.envoy) =
        some declared := found
    have isEnvoy := List.find?_some search
    refine Or.inr ⟨declared, filledImage, found, allowed, ?_⟩
    rw [declared?, containers_filled, fillDeclared, find?_changeFirst search isEnvoy]

end Gateway

/-! ## Whole artifacts -/

theorem Config.Valid.xray_disabled {config : Config} (valid : config.Valid)
    (reads : Envoy.readsTracingFile config.tracing) : config.tracing.xray.enabled = false := by
  rw [Envoy.readsTracingFile, Bool.or_eq_true] at reads
  rcases valid.exclusive with ⟨-, jaeger, datadog⟩
  rcases reads with isJaeger | isDatadog
  · rw [isJaeger] at jaeger
    simpa using jaeger
  · rw [isDatadog] at datadog
    simpa using datadog

namespace Injector

variable (injector : Injector) (mesh : Mesh)

theorem filledWhole_run_gatewaySteps (gateway : VirtualGateway) (pod : Pod) :
    Gateway.FilledWhole injector.config injector.identity mesh gateway pod
      (Step.run (injector.gatewaySteps mesh gateway) pod).pod := by
  rw [gatewaySteps, Step.run]
  cases filled : (Step.gateway injector.config injector.identity mesh gateway).apply pod with
  | error error => exact Or.inl rfl
  | ok changed =>
      have kept : ∀ step ∈ (injector.gatewaySteps mesh gateway).tail, ∀ before after,
          Gateway.declared? before = Gateway.declared? changed → step.apply before = .ok after →
          Gateway.declared? after = Gateway.declared? changed := by
        intro step member before after same applied
        simp only [gatewaySteps, List.tail_cons, List.mem_cons, List.not_mem_nil,
          or_false] at member
        rcases member with rfl | rfl | rfl
        · exact (Gateway.declared?_of_xray applied).trans same
        · exact (Gateway.declared?_of_tracer (Tracer.content_jaeger _) applied).trans same
        · exact (Gateway.declared?_of_tracer (Tracer.content_datadog _) applied).trans same
      have declared := Step.run_preserves kept rfl
      have whole := Gateway.filledWhole_of_apply filled
      rw [Gateway.FilledWhole, ← declared] at whole
      exact whole

/-- Where Envoy reads the file of a tracer, the steps after Envoy cannot fail. -/
theorem infallible_of_reads (node : VirtualNode)
    (reads : Envoy.readsTracingFile injector.config.tracing) :
    ∀ step ∈ (injector.nodeSteps mesh node).drop 2, ∀ pod, errorOf (step.apply pod) = none := by
  intro step member pod
  rcases List.mem_cons.mp member with rfl | later
  · rw [Step.apply, Xray.apply, injector.valid.xray_disabled reads]
    rfl
  · exact injector.infallible_nodeSteps mesh node step later pod

/-- These steps cannot fail, so they leave the volume of the tracer. -/
theorem hasVolume_of_reads (node : VirtualNode)
    (reads : Envoy.readsTracingFile injector.config.tracing) (pod : Pod) :
    (Step.run ((injector.nodeSteps mesh node).drop 2) pod).pod.hasVolume
      Artifact.tracingVolume := by
  have succeeds := Step.error_run_of_infallible (injector.infallible_of_reads mesh node reads) pod
  rcases injector.brings_of_reads mesh node reads with ⟨tracer, member, brings⟩
  exact Step.hasVolume_run member brings succeeds

theorem backed_run_nodeSteps (node : VirtualNode) (pod : Pod) :
    Pod.Backed pod.ownVolumes pod (Step.run (injector.nodeSteps mesh node) pod).pod := by
  have run := Step.backed_run (injector.nodeSteps mesh node) pod
  rw [awaits_nodeSteps, Envoy.awaits] at run
  cases reads : Envoy.readsTracingFile injector.config.tracing with
  | false =>
      rw [reads, if_neg Bool.false_ne_true, List.append_nil] at run
      exact run
  | true =>
      rw [reads, if_pos rfl] at run
      rw [nodeSteps, Step.run] at run ⊢
      cases intercepts : (Step.interception injector.config.proxyInit injector.config.sidecar
          node).apply pod with
      | error error => exact .refl _ pod
      | ok intercepted =>
          rw [intercepts] at run
          simp only [Step.run] at run ⊢
          cases serves : (Step.envoy injector.config injector.identity mesh node).apply
              intercepted with
          | error error =>
              simpa only [Step.awaits, List.append_nil] using Step.backed_of_apply intercepts
          | ok served =>
              rw [serves] at run
              exact run.of_shown (injector.hasVolume_of_reads mesh node reads served)

/-- What an injection adds to a pod is there with all that belongs to it. -/
structure WholeArtifacts (selector : Selector) (before after : Pod) : Prop where
  backed : Pod.Backed before.ownVolumes before after
  filled : ∀ gateway, selector = .gateway gateway →
    Gateway.FilledWhole injector.config injector.identity mesh gateway before after

theorem wholeArtifacts_inject (selector : Selector) (pod : Pod) :
    injector.WholeArtifacts mesh selector pod (injector.inject mesh selector pod).pod := by
  by_cases wanted : injector.shouldInject pod
  · rw [inject, if_pos wanted]
    cases selector with
    | node node =>
        refine ⟨injector.backed_run_nodeSteps mesh node pod, ?_⟩
        intro gateway same
        cases same
    | gateway gateway =>
        constructor
        · have run := Step.backed_run (injector.gatewaySteps mesh gateway) pod
          rw [awaits_gatewaySteps, List.append_nil] at run
          exact run
        · intro other same
          cases same
          exact injector.filledWhole_run_gatewaySteps mesh gateway pod
  · rw [inject, if_neg wanted]
    exact ⟨.refl _ pod, fun _ _ => Or.inl rfl⟩

/-- A step that fails leaves the pod as it was.  So an injection that fails leaves what
the steps before the failing one made of the pod, and no artifact by halves. -/
theorem mutate_atomic (selector : Selector) :
    (∀ step ∈ injector.steps mesh selector, ∀ pod error left,
      step.mutate.run pod = .error error left → left = pod) ∧
    ∀ pod error left, (injector.mutate mesh selector).run pod = .error error left →
      (∃ early step late, injector.steps mesh selector = early ++ step :: late ∧
        (Step.mutateAll early).run pod = .ok () left ∧
        step.mutate.run left = .error error left) ∧
      injector.WholeArtifacts mesh selector pod left := by
  refine ⟨fun step _ pod error left fails => Step.left_of_error fails, ?_⟩
  intro pod error left fails
  constructor
  · rw [mutate, Mutation.run_get_bind] at fails
    by_cases wanted : injector.shouldInject pod
    · rw [if_pos wanted] at fails
      exact Step.stops_of_error fails
    · rw [if_neg wanted] at fails
      cases fails
  · rw [injector.run_mutate, Outcome.ending_eq_error] at fails
    rw [← fails.2]
    exact injector.wholeArtifacts_inject mesh selector pod

/-- An injection of a pod whose list of variables is malformed fails. -/
theorem mutate_atomic_unassigned :
    let injector : Injector := ⟨{}, {}, by decide⟩
    let selector := Selector.node { name := "node", namespaceName := "default" }
    ∃ left, (injector.mutate ⟨"mesh", "mesh", none⟩ selector).run Example.unassigned =
        .error (.malformed Annotations.sidecarEnv PairForm.assignment.shown) left ∧
      (∃ early step late, injector.steps ⟨"mesh", "mesh", none⟩ selector = early ++ step :: late ∧
        (Step.mutateAll early).run Example.unassigned = .ok () left ∧
        step.mutate.run left =
          .error (.malformed Annotations.sidecarEnv PairForm.assignment.shown) left) ∧
      injector.WholeArtifacts ⟨"mesh", "mesh", none⟩ selector Example.unassigned left := by
  intro injector selector
  have error : (injector.inject ⟨"mesh", "mesh", none⟩ selector Example.unassigned).error =
      some (.malformed Annotations.sidecarEnv PairForm.assignment.shown) := by
    rw [inject, if_pos (by decide)]
    refine (injector.error_run_nodeSteps _ _ (by decide) (by decide) (by decide)).trans ?_
    decide
  have fails := (injector.run_mutate ⟨"mesh", "mesh", none⟩ selector Example.unassigned).trans
    (Outcome.ending_eq_error.mpr ⟨error, rfl⟩)
  exact ⟨_, fails, (injector.mutate_atomic _ selector).2 _ _ _ fails⟩

end Injector

end MeshSidecar
