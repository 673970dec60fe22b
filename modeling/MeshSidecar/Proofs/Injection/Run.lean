import MeshSidecar.Injection.Pipeline

namespace MeshSidecar.Step

/-!
# Runs of steps

A run is understood from its steps: what every step preserves the run preserves,
failed or not.  A run that is repeated finds each step settled as soon as a step
settles what it yields and no later step unsettles it, so it comes to the same
end.
-/

/-- The step yields the pod as it is. -/
def Settled (step : Step) (pod : Pod) : Prop :=
  step.apply pod = .ok pod

/-- Applying the step to what it yields changes nothing more. -/
def Settles (step : Step) : Prop :=
  ∀ pod changed, step.apply pod = .ok changed → step.Settled changed

/-- The later step leaves the earlier one settled. -/
def Keeps (earlier later : Step) : Prop :=
  ∀ pod changed, earlier.Settled pod → later.apply pod = .ok changed → earlier.Settled changed

/-- What every step preserves holds of the pod that a run ends with. -/
theorem run_preserves {property : Pod → Prop} {steps : List Step}
    (preserved : ∀ step ∈ steps, ∀ pod changed,
      property pod → step.apply pod = .ok changed → property changed)
    {pod : Pod} (initially : property pod) : property (run steps pod).pod := by
  induction steps generalizing pod with
  | nil => exact initially
  | cons step steps ih =>
      have later := fun other member => preserved other (List.mem_cons_of_mem step member)
      cases applied : step.apply pod with
      | error error =>
          rw [run, applied]
          exact initially
      | ok changed =>
          rw [run, applied]
          have holds := preserved step List.mem_cons_self pod changed initially applied
          exact ih later holds

/-- Running steps again on what they left gives the same pod and the same error. -/
theorem run_run {steps : List Step} (settles : ∀ step ∈ steps, step.Settles)
    (keeps : steps.Pairwise Keeps) (pod : Pod) :
    run steps (run steps pod).pod = run steps pod := by
  induction steps generalizing pod with
  | nil => rfl
  | cons step steps ih =>
      rcases List.pairwise_cons.mp keeps with ⟨keepsFirst, keepsLater⟩
      have settlesLater := fun other member => settles other (List.mem_cons_of_mem step member)
      cases applied : step.apply pod with
      | error error =>
          -- The run stopped before it changed anything.
          have stopped : run (step :: steps) pod = ⟨pod, some error⟩ := by
            rw [run, applied]
          rw [stopped]
          exact stopped
      | ok changed =>
          have went : run (step :: steps) pod = run steps changed := by
            rw [run, applied]
          have settled : step.Settled changed := settles step List.mem_cons_self pod changed applied
          have stillSettled : step.Settled (run steps changed).pod := by
            apply run_preserves _ settled
            intro other member before after isSettled otherApplied
            exact keepsFirst other member before after isSettled otherApplied
          have again : run (step :: steps) (run steps changed).pod =
              run steps (run steps changed).pod := by
            rw [run, stillSettled]
          rw [went, again]
          exact ih settlesLater keepsLater changed

/-- Steps keep each other settled when each but the last stays settled under a
relation by which each but the first changes the pod. -/
theorem pairwise_keeps {relation : Pod → Pod → Prop} {steps : List Step}
    (stable : ∀ step ∈ steps.dropLast, ∀ before after,
      step.Settled before → relation before after → step.Settled after)
    (changes : ∀ step ∈ steps.tail, ∀ before after,
      step.apply before = .ok after → relation before after) :
    steps.Pairwise Keeps := by
  induction steps with
  | nil => exact List.Pairwise.nil
  | cons step steps ih =>
      refine List.Pairwise.cons ?_ (ih ?_ ?_)
      · intro later member pod changed settled applied
        have notLast : step ∈ (step :: steps).dropLast := by
          cases steps with
          | nil => cases member
          | cons next rest => exact List.mem_cons_self
        exact stable step notLast pod changed settled (changes later member pod changed applied)
      · intro other member
        cases steps with
        | nil => cases member
        | cons next rest => exact stable other (List.mem_cons_of_mem step member)
      · intro other member
        exact changes other (List.mem_of_mem_tail member)

end MeshSidecar.Step
