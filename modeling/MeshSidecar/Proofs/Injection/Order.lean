import MeshSidecar.Proofs.Injection.Independence

namespace MeshSidecar

/-!
# The order of steps

Steps are applied in a fixed order, and here each of them is tried even when an earlier one
failed.  It is shown how far that order matters.  A step that is apart from all others
contributes what it would contribute to the pod as it came in, wherever it stands, and
ends in the same way; so only the order of entries in three lists can tell one order of
steps from another.
-/

/-! ## Contributions in another order -/

namespace Contribution

/-- All of a contribution but what it puts into the lists of containers, init containers
and volumes. -/
def settings (added : Contribution) : Contribution :=
  { added with containers := [], initContainers := [], volumes := [] }

theorem settings_append (early late : Contribution) :
    (early ++ late).settings = early.settings ++ late.settings :=
  rfl

theorem append_assoc (first second third : Contribution) :
    first ++ second ++ third = first ++ (second ++ third) := by
  ext1 <;> simp [Option.or_assoc]

/-- The settings are the same in either order. -/
def Exclusive (first second : Contribution) : Prop :=
  first.settings ++ second.settings = second.settings ++ first.settings

/-- The contributions are the same up to the order in the three lists. -/
structure Rearranged (first second : Contribution) : Prop where
  containers : first.containers.Perm second.containers
  initContainers : first.initContainers.Perm second.initContainers
  volumes : first.volumes.Perm second.volumes
  settings : first.settings = second.settings

namespace Rearranged

variable {first second third : Contribution}

theorem refl (added : Contribution) : Rearranged added added :=
  ⟨List.Perm.refl _, List.Perm.refl _, List.Perm.refl _, rfl⟩

theorem trans (early : Rearranged first second) (late : Rearranged second third) :
    Rearranged first third where
  containers := early.containers.trans late.containers
  initContainers := early.initContainers.trans late.initContainers
  volumes := early.volumes.trans late.volumes
  settings := early.settings.trans late.settings

theorem append_left (added : Contribution) (rearranged : Rearranged first second) :
    Rearranged (added ++ first) (added ++ second) where
  containers := rearranged.containers.append_left _
  initContainers := rearranged.initContainers.append_left _
  volumes := rearranged.volumes.append_left _
  settings := by rw [settings_append, rearranged.settings, settings_append]

/-- Two contributions may change places in front of others. -/
theorem swap (exclusive : first.Exclusive second) (rest : Contribution) :
    Rearranged (first ++ (second ++ rest)) (second ++ (first ++ rest)) := by
  rw [← append_assoc, ← append_assoc]
  exact {
    containers := List.perm_append_comm.append_right _
    initContainers := List.perm_append_comm.append_right _
    volumes := List.perm_append_comm.append_right _
    settings := congrArg (fun settings => settings ++ rest.settings) exclusive }

end Rearranged

theorem eq_of_settings {first second : Contribution} (settings : first.settings = second.settings)
    (containers : first.containers = second.containers)
    (initContainers : first.initContainers = second.initContainers)
    (volumes : first.volumes = second.volumes) : first = second := by
  have same := Contribution.ext_iff.mp settings
  exact Contribution.ext same.1 containers initContainers volumes same.2.2.2.2.1 same.2.2.2.2.2.1
    same.2.2.2.2.2.2.1 same.2.2.2.2.2.2.2

/-- A contribution of settings only can be put before or behind another. -/
theorem append_comm_of_settings {added other : Contribution} (only : added.settings = added)
    (exclusive : added.Exclusive other) : added ++ other = other ++ added := by
  have containers : [] = added.containers := congrArg Contribution.containers only
  have initContainers : [] = added.initContainers := congrArg Contribution.initContainers only
  have volumes : [] = added.volumes := congrArg Contribution.volumes only
  have settings : (added ++ other).settings = (other ++ added).settings := exclusive
  apply eq_of_settings settings
  · rw [containers_append, containers_append, ← containers, List.append_nil, List.nil_append]
  · rw [initContainers_append, initContainers_append, ← initContainers, List.append_nil,
      List.nil_append]
  · rw [volumes_append, volumes_append, ← volumes, List.append_nil, List.nil_append]

/-- Contributions of settings only are the same once they are rearranged. -/
theorem Rearranged.eq {first second : Contribution} (rearranged : Rearranged first second)
    (only : first.settings = first) (alsoOnly : second.settings = second) : first = second := by
  rw [← only, rearranged.settings, alsoOnly]

end Contribution

namespace Step

theorem exclusive_of_offers {secrets : List String} {step other : Step}
    {first second : Contribution} (distinct : step.name ≠ other.name)
    (offers : step.Offers secrets first) (otherOffers : other.Offers secrets second) :
    first.Exclusive second := by
  have comm : ∀ {α : Type} {name : String} {list more : List α},
      (list ≠ [] → step.name = name) → (more ≠ [] → other.name = name) →
      list ++ more = more ++ list := by
    intro α name list more own others
    by_cases filled : list = []
    · rw [filled, List.append_nil, List.nil_append]
    · by_cases alsoFilled : more = []
      · rw [alsoFilled, List.append_nil, List.nil_append]
      · exact absurd ((own filled).trans (others alsoFilled).symm) distinct
  have orComm : ∀ {α : Type} {name : String} {value more : Option α},
      (value ≠ none → step.name = name) → (more ≠ none → other.name = name) →
      more.or value = value.or more := by
    intro α name value more own others
    cases value with
    | none => rw [Option.or_none, Option.none_or]
    | some set =>
        cases more with
        | none => rfl
        | some alsoSet => exact absurd ((own nofun).trans (others nofun).symm) distinct
  ext1
  case annotations => exact comm offers.annotations otherOffers.annotations
  case pullSecrets => exact comm offers.pullSecrets otherOffers.pullSecrets
  case readinessGates => exact comm offers.readinessGates otherOffers.readinessGates
  case fsGroup => exact orComm offers.fsGroup otherOffers.fsGroup
  case gracePeriod => exact orComm offers.gracePeriod otherOffers.gracePeriod
  all_goals rfl

/-! ## Steps that are tried in order -/

/-- How steps end that are tried in order: each with its error, if it fails. -/
def results : List Step → Pod → List (Step × Option Error)
  | [], _ => []
  | step :: steps, pod => (step, step.failure? pod) :: results steps (step.attempt pod)

/-- What steps contribute that all look at the same pod, one behind the other. -/
def gather : List Step → Pod → Contribution
  | [], _ => {}
  | step :: steps, pod => step.brings pod ++ gather steps pod

theorem containers_gather (steps : List Step) (pod : Pod) :
    (gather steps pod).containers = steps.flatMap fun step => (step.brings pod).containers := by
  induction steps with
  | nil => rfl
  | cons step steps ih =>
      rw [gather, Contribution.containers_append, ih, List.flatMap_cons]

theorem initContainers_gather (steps : List Step) (pod : Pod) :
    (gather steps pod).initContainers =
      steps.flatMap fun step => (step.brings pod).initContainers := by
  induction steps with
  | nil => rfl
  | cons step steps ih =>
      rw [gather, Contribution.initContainers_append, ih, List.flatMap_cons]

theorem volumes_gather (steps : List Step) (pod : Pod) :
    (gather steps pod).volumes = steps.flatMap fun step => (step.brings pod).volumes := by
  induction steps with
  | nil => rfl
  | cons step steps ih =>
      rw [gather, Contribution.volumes_append, ih, List.flatMap_cons]

theorem attemptAll_cons (step : Step) (steps : List Step) (pod : Pod) :
    attemptAll (step :: steps) pod = attemptAll steps (step.attempt pod) :=
  rfl

/-- Where no step fails, trying steps is running them. -/
theorem attemptAll_of_success {steps : List Step} {pod : Pod}
    (succeeds : (run steps pod).error = none) :
    attemptAll steps pod = (run steps pod).pod ∧ ∀ ends ∈ results steps pod, ends.2 = none := by
  induction steps generalizing pod with
  | nil => exact ⟨rfl, fun _ member => by cases member⟩
  | cons step steps ih =>
      rcases run_cons_of_success succeeds with ⟨changed, applied, rest⟩
      have attempted : step.attempt pod = changed := attempt_of_ok applied
      rw [rest] at succeeds
      rcases ih succeeds with ⟨later, ends⟩
      constructor
      · rw [attemptAll_cons, attempted, later, rest]
      · rw [results, attempted]
        refine List.forall_mem_cons.mpr ⟨?_, ends⟩
        rw [failure?_eq, applied]
        rfl

theorem offers_brings (step : Step) (pod : Pod) :
    step.Offers pod.secretNames (step.brings pod) := by
  rw [brings]
  cases contributes : step.contribution pod with
  | ok added => exact offers_of_contribution contributes
  | error error => exact offers_empty _ step

theorem secretNames_attempt {step : Step} (adds : step.onlyAdds) (pod : Pod) :
    (step.attempt pod).secretNames = pod.secretNames := by
  rw [attempt_eq_addTo adds]
  exact (Contribution.saysSame_addTo pod (step.offers_brings pod).told).secretNames

section

variable {step other : Step} {added : Contribution} {secrets : List String}

theorem brings_addTo (apart : step.Apart secrets other) (offers : other.Offers secrets added)
    (pod : Pod) : step.brings (added.addTo pod) = step.brings pod := by
  rw [brings, contribution_addTo apart offers, brings]

theorem failure?_addTo (adds : step.onlyAdds) (apart : step.Apart secrets other)
    (offers : other.Offers secrets added) (pod : Pod) :
    step.failure? (added.addTo pod) = step.failure? pod := by
  rw [failure?_eq_contribution adds, contribution_addTo apart offers,
    failure?_eq_contribution adds]

theorem gather_addTo {steps : List Step} (apart : ∀ step ∈ steps, step.Apart secrets other)
    (offers : other.Offers secrets added) (pod : Pod) :
    gather steps (added.addTo pod) = gather steps pod := by
  induction steps with
  | nil => rfl
  | cons step steps ih =>
      rcases List.forall_mem_cons.mp apart with ⟨first, others⟩
      rw [gather, brings_addTo first offers, ih others, gather]

theorem failures_addTo {steps : List Step} (adds : ∀ step ∈ steps, step.onlyAdds)
    (apart : ∀ step ∈ steps, step.Apart secrets other) (offers : other.Offers secrets added)
    (pod : Pod) : (steps.map fun step => (step, step.failure? (added.addTo pod))) =
      steps.map fun step => (step, step.failure? pod) := by
  apply List.map_congr_left
  intro step member
  rw [failure?_addTo (adds step member) (apart step member) offers]

/-- What consists of settings only can be added before or after steps to which it does not
matter. -/
theorem attemptAll_addTo {steps : List Step} (adds : ∀ step ∈ steps, step.onlyAdds)
    (apart : ∀ step ∈ steps, step.Apart secrets other) (offers : other.Offers secrets added)
    (only : added.settings = added) {pod : Pod} (asks : pod.secretNames = secrets) :
    attemptAll steps (added.addTo pod) = added.addTo (attemptAll steps pod) ∧
    results steps (added.addTo pod) = results steps pod := by
  induction steps generalizing pod with
  | nil => exact ⟨rfl, rfl⟩
  | cons step steps ih =>
      rcases List.forall_mem_cons.mp adds with ⟨adding, othersAdd⟩
      rcases List.forall_mem_cons.mp apart with ⟨first, othersApart⟩
      have ownOffers := step.offers_brings pod
      rw [asks] at ownOffers
      have exchange : added ++ step.brings pod = step.brings pod ++ added :=
        Contribution.append_comm_of_settings only
          (exclusive_of_offers first.distinct.symm offers ownOffers)
      have attempted : step.attempt (added.addTo pod) = added.addTo (step.attempt pod) := by
        rw [attempt_eq_addTo adding, attempt_eq_addTo adding, brings_addTo first offers,
          ← Contribution.addTo_append, exchange, Contribution.addTo_append]
      have still : (step.attempt pod).secretNames = secrets :=
        (secretNames_attempt adding pod).trans asks
      rcases ih othersAdd othersApart still with ⟨later, ends⟩
      constructor
      · rw [attemptAll_cons, attempted, later, attemptAll_cons]
      · rw [results, attempted, ends, failure?_addTo adding first offers, results]

end

/-! ## Steps that are all apart -/

/-- Steps of which none matters to another contribute and end as if each were the first. -/
theorem attemptAll_of_apart {steps : List Step} (adds : ∀ step ∈ steps, step.onlyAdds) {pod : Pod}
    (apart : steps.Pairwise fun step later => later.Apart pod.secretNames step) :
    attemptAll steps pod = (gather steps pod).addTo pod ∧
    results steps pod = steps.map fun step => (step, step.failure? pod) := by
  induction steps generalizing pod with
  | nil => exact ⟨rfl, rfl⟩
  | cons step steps ih =>
      rcases List.forall_mem_cons.mp adds with ⟨adding, othersAdd⟩
      rcases List.pairwise_cons.mp apart with ⟨fromFirst, othersApart⟩
      have offers := step.offers_brings pod
      rw [← secretNames_attempt adding pod] at othersApart
      rcases ih othersAdd othersApart with ⟨later, ends⟩
      rw [attempt_eq_addTo adding] at later ends
      rw [gather_addTo fromFirst offers, ← Contribution.addTo_append] at later
      constructor
      · rw [attemptAll_cons, attempt_eq_addTo adding, later, gather]
      · rw [results, attempt_eq_addTo adding, ends, failures_addTo othersAdd fromFirst offers,
          List.map_cons]

/-- Contributions of distinct steps to one pod are the same in any order of the steps, up
to the order in the three lists. -/
theorem gather_perm {steps order : List Step} (perm : steps.Perm order)
    (distinct : steps.Pairwise fun step later => step.name ≠ later.name) (pod : Pod) :
    (gather steps pod).Rearranged (gather order pod) := by
  induction perm with
  | nil => exact .refl _
  | cons step perm ih => exact (ih (List.pairwise_cons.mp distinct).2).append_left _
  | swap step other steps =>
      have apart := (List.pairwise_cons.mp distinct).1 step List.mem_cons_self
      exact .swap (exclusive_of_offers apart (other.offers_brings pod) (step.offers_brings pod)) _
  | trans early late ihEarly ihLate =>
      exact (ihEarly distinct).trans (ihLate (early.pairwise distinct Ne.symm))

/-! ## Auxiliary steps -/

/-- The steps that only prepare the pod and make settings. -/
def isAuxiliary : Step → Bool
  | .cloudMapGate .. => true
  | .fsGroup .. => true
  | .pullSecret .. => true
  | .gracePeriod .. => true
  | _ => false

theorem settings_of_auxiliary {step : Step} (auxiliary : step.isAuxiliary) (pod : Pod) :
    (step.brings pod).settings = step.brings pod := by
  cases step with
  | cloudMapGate node => rfl
  | fsGroup enabled => rfl
  | pullSecret enabled => rfl
  | gracePeriod preStopDelay => rfl
  | _ => cases auxiliary

theorem settings_gather {steps : List Step} (auxiliary : ∀ step ∈ steps, step.isAuxiliary)
    (pod : Pod) : (gather steps pod).settings = gather steps pod := by
  induction steps with
  | nil => rfl
  | cons step steps ih =>
      rcases List.forall_mem_cons.mp auxiliary with ⟨first, others⟩
      rw [gather, Contribution.settings_append, settings_of_auxiliary first, ih others]

/-- Auxiliary steps look for no volume and bring none. -/
theorem apart_of_auxiliary {step other : Step} (distinct : step.name ≠ other.name)
    (auxiliary : step.isAuxiliary ∨ other.isAuxiliary) (secrets : List String) :
    step.Apart secrets other where
  distinct := distinct
  tracing := by
    intro looks
    rcases auxiliary with own | others
    · cases step <;> first | cases looks | cases own
    · cases other <;> first | exact List.not_mem_nil | cases others

/-- Auxiliary steps can be tried on the pod as it came in and their contributions be added
when all other steps are done. -/
theorem attemptAll_auxiliaries_last {steps : List Step} (adds : ∀ step ∈ steps, step.onlyAdds)
    (distinct : steps.Pairwise fun step later => step.name ≠ later.name) (pod : Pod) :
    attemptAll steps pod = (gather (steps.filter isAuxiliary) pod).addTo
      (attemptAll (steps.filter fun step => !step.isAuxiliary) pod) ∧
    (results steps pod).Perm (results (steps.filter fun step => !step.isAuxiliary) pod ++
      (steps.filter isAuxiliary).map fun step => (step, step.failure? pod)) := by
  induction steps generalizing pod with
  | nil => exact ⟨rfl, List.Perm.refl _⟩
  | cons step steps ih =>
      rcases List.forall_mem_cons.mp adds with ⟨adding, othersAdd⟩
      rcases List.pairwise_cons.mp distinct with ⟨fromFirst, othersDistinct⟩
      have offers := step.offers_brings pod
      have attempted := attempt_eq_addTo adding pod
      rcases ih othersAdd othersDistinct (step.attempt pod) with ⟨later, ends⟩
      have apart : ∀ other ∈ steps, step.isAuxiliary ∨ other.isAuxiliary →
          other.Apart pod.secretNames step := fun other member auxiliary =>
        apart_of_auxiliary (fromFirst other member).symm auxiliary.symm _
      have auxiliariesAdd : ∀ other ∈ steps.filter isAuxiliary, other.onlyAdds :=
        fun other member => othersAdd other (List.mem_filter.mp member).1
      have auxiliariesApart : ∀ other ∈ steps.filter isAuxiliary,
          other.Apart pod.secretNames step := by
        intro other member
        rcases List.mem_filter.mp member with ⟨isStep, auxiliary⟩
        exact apart other isStep (Or.inr auxiliary)
      have gathered : gather (steps.filter isAuxiliary) (step.attempt pod) =
          gather (steps.filter isAuxiliary) pod := by
        rw [attempted]
        exact gather_addTo auxiliariesApart offers pod
      have failures : (steps.filter isAuxiliary).map (fun other =>
            (other, other.failure? (step.attempt pod))) =
          (steps.filter isAuxiliary).map fun other => (other, other.failure? pod) := by
        rw [attempted]
        exact failures_addTo auxiliariesAdd auxiliariesApart offers pod
      rw [gathered] at later
      rw [failures] at ends
      cases auxiliary : step.isAuxiliary with
      | false =>
          rw [List.filter_cons_of_neg (by simp [auxiliary]),
            List.filter_cons_of_pos (by simp [auxiliary])]
          exact ⟨later, ends.cons _⟩
      | true =>
          rw [List.filter_cons_of_pos auxiliary, List.filter_cons_of_neg (by simp [auxiliary])]
          -- The other steps have not seen what this one contributed.
          have others : ∀ other ∈ steps.filter fun step => !step.isAuxiliary,
              other.onlyAdds ∧ other.Apart pod.secretNames step := by
            intro other member
            have isStep := (List.mem_filter.mp member).1
            exact ⟨othersAdd other isStep, apart other isStep (Or.inl auxiliary)⟩
          rcases attemptAll_addTo (fun other member => (others other member).1)
            (fun other member => (others other member).2) offers
            (settings_of_auxiliary auxiliary pod) rfl with ⟨unseen, sameEnds⟩
          rw [attempted, unseen, ← Contribution.addTo_append] at later
          rw [attempted, sameEnds] at ends
          constructor
          · rw [attemptAll_cons, attempted, later, gather]
          · rw [results, List.map_cons, attempted]
            exact (ends.cons _).trans List.perm_middle.symm

end Step

/-! ## Pods with lists in another order -/

/-- The specifications are the same up to the order of their containers, init containers
and volumes. -/
structure PodSpec.Rearranged (first second : PodSpec) : Prop where
  containers : first.containers.Perm second.containers
  initContainers : Option.Rel List.Perm first.initContainers second.initContainers
  volumes : Option.Rel List.Perm first.volumes second.volumes
  others : { first with containers := [], initContainers := none, volumes := none } =
    { second with containers := [], initContainers := none, volumes := none }

/-- The pods are the same up to the order of their containers, init containers and
volumes. -/
structure Pod.Rearranged (first second : Pod) : Prop where
  metadata : first.metadata = second.metadata
  spec : Option.Rel PodSpec.Rearranged first.spec second.spec
  status : first.status = second.status

theorem Pod.rel_extend {α : Type} (list : Option (List α)) {added order : List α}
    (perm : added.Perm order) : Option.Rel List.Perm (extend list added) (extend list order) := by
  cases added with
  | nil =>
      rw [List.nil_perm.mp perm]
      cases list with
      | none => exact .none
      | some entries => exact .some (List.Perm.refl _)
  | cons entry rest =>
      cases order with
      | nil => exact absurd perm.eq_nil (List.cons_ne_nil _ _)
      | cons other more => exact .some (perm.append_left _)

theorem PodSpec.Rearranged.refl (spec : PodSpec) : Rearranged spec spec where
  containers := List.Perm.refl _
  initContainers := Pod.rel_extend spec.initContainers (List.Perm.refl [])
  volumes := Pod.rel_extend spec.volumes (List.Perm.refl [])
  others := rfl

theorem Pod.Rearranged.refl (pod : Pod) : Rearranged pod pod where
  metadata := rfl
  spec := by
    cases pod.spec with
    | none => exact .none
    | some spec => exact .some (.refl spec)
  status := rfl

namespace Contribution.Rearranged

variable {first second : Contribution}

theorem symm (rearranged : Rearranged first second) : Rearranged second first where
  containers := rearranged.containers.symm
  initContainers := rearranged.initContainers.symm
  volumes := rearranged.volumes.symm
  settings := rearranged.settings.symm

theorem sparesSpec (rearranged : Rearranged first second) (spares : first.SparesSpec) :
    second.SparesSpec := by
  have containers := rearranged.containers
  have initContainers := rearranged.initContainers
  have volumes := rearranged.volumes
  have settings : first.settings = second.settings := rearranged.settings
  rw [spares] at containers initContainers volumes settings
  have none : { annotations := second.annotations } = second.settings := by
    rw [← settings]
    exact congrArg (fun told => ({ annotations := told } : Contribution))
      (congrArg annotations settings).symm
  apply eq_of_settings none.symm
  · exact containers.nil_eq.symm
  · exact initContainers.nil_eq.symm
  · exact volumes.nil_eq.symm

theorem extendSpec (rearranged : Rearranged first second) (spec : PodSpec) :
    PodSpec.Rearranged (first.extendSpec spec) (second.extendSpec spec) where
  containers := rearranged.containers.append_left _
  initContainers := Pod.rel_extend _ rearranged.initContainers
  volumes := Pod.rel_extend _ rearranged.volumes
  others := congrArg (fun settings : Contribution =>
    { settings.extendSpec spec with containers := [], initContainers := none, volumes := none })
    rearranged.settings

/-- Adding the same in another order gives the same pod up to that order. -/
theorem addTo (rearranged : Rearranged first second) (pod : Pod) :
    (first.addTo pod).Rearranged (second.addTo pod) := by
  have told := (congrArg annotations rearranged.settings :)
  change first.annotations = second.annotations at told
  by_cases spares : first.SparesSpec
  · rw [Contribution.addTo, if_pos spares, Contribution.addTo,
      if_pos (rearranged.sparesSpec spares), told]
    exact .refl _
  · have alsoBelongs : ¬ second.SparesSpec := fun alsoSpares =>
      spares (rearranged.symm.sparesSpec alsoSpares)
    rw [Contribution.addTo, if_neg spares, Contribution.addTo, if_neg alsoBelongs, told]
    exact {
      metadata := rfl
      spec := .some (rearranged.extendSpec _)
      status := rfl }

end Contribution.Rearranged

/-! ## The steps for a node -/

namespace Injector

variable (injector : Injector) (mesh : Mesh) (node : VirtualNode)

theorem onlyAdds_nodeSteps : ∀ step ∈ injector.nodeSteps mesh node, step.onlyAdds := by
  simp [nodeSteps, Step.onlyAdds]

theorem distinct_nodeSteps :
    (injector.nodeSteps mesh node).Pairwise fun step later => step.name ≠ later.name := by
  have names : ((injector.nodeSteps mesh node).map Step.name).Nodup := by
    have listed : (injector.nodeSteps mesh node).map Step.name =
        ["proxy", "envoy", "xray", "jaeger", "datadog", "cloudmap-readiness-gate", "iam-fs-group",
          "ecr-secret", "termination-grace-period"] := rfl
    rw [listed]
    decide
  exact List.pairwise_map.mp names

variable {injector mesh node}

/-- The auxiliary steps can stand anywhere among the others, in any order: the pod is the
same in the end, and each step ends in the same way, be it with an error. -/
theorem attemptAll_interleaved {order : List Step}
    (perm : order.Perm (injector.nodeSteps mesh node))
    (kept : (order.filter fun step => !step.isAuxiliary) =
      (injector.nodeSteps mesh node).filter fun step => !step.isAuxiliary) (pod : Pod) :
    Step.attemptAll order pod = Step.attemptAll (injector.nodeSteps mesh node) pod ∧
    (Step.results order pod).Perm (Step.results (injector.nodeSteps mesh node) pod) := by
  have adds := injector.onlyAdds_nodeSteps mesh node
  have distinct := injector.distinct_nodeSteps mesh node
  have orderAdds : ∀ step ∈ order, step.onlyAdds := fun step member =>
    adds step (perm.mem_iff.mp member)
  have orderDistinct := perm.symm.pairwise distinct Ne.symm
  have auxiliaries := perm.filter Step.isAuxiliary
  rcases Step.attemptAll_auxiliaries_last adds distinct pod with ⟨last, ends⟩
  rcases Step.attemptAll_auxiliaries_last orderAdds orderDistinct pod with ⟨orderLast, orderEnds⟩
  have gathered : Step.gather (order.filter Step.isAuxiliary) pod =
      Step.gather ((injector.nodeSteps mesh node).filter Step.isAuxiliary) pod := by
    apply (Step.gather_perm auxiliaries (orderDistinct.filter _) pod).eq
    · exact Step.settings_gather (fun step member => (List.mem_filter.mp member).2) pod
    · exact Step.settings_gather (fun step member => (List.mem_filter.mp member).2) pod
  constructor
  · rw [orderLast, last, gathered, kept]
  · rw [kept] at orderEnds
    exact orderEnds.trans (((auxiliaries.map _).append_left _).trans ends.symm)

/-- All auxiliary steps can come first. -/
theorem attemptAll_auxiliaries_first :
    let injector : Injector := ⟨{ enableEcrSecret := true }, {}, by decide⟩
    let steps := injector.nodeSteps ⟨"mesh", "mesh", none⟩
      { name := "node", namespaceName := "default" }
    let order := steps.drop 5 ++ steps.take 5
    order.Perm steps ∧
    ((order.filter fun step => !step.isAuxiliary) = steps.filter fun step => !step.isAuxiliary) ∧
    Step.attemptAll order Example.unassigned = Step.attemptAll steps Example.unassigned ∧
    (Step.results order Example.unassigned).Perm (Step.results steps Example.unassigned) := by
  intro injector steps order
  have perm : order.Perm steps := by
    have swapped : order.Perm (steps.take 5 ++ steps.drop 5) := List.perm_append_comm
    rw [List.take_append_drop] at swapped
    exact swapped
  exact ⟨perm, rfl, attemptAll_interleaved perm rfl Example.unassigned⟩

/-- Only the tracer that is enabled looks for a volume. -/
theorem tracer_of_looks {step : Step} (member : step ∈ injector.nodeSteps mesh node)
    (looks : step.looksForTracing) :
    (step.name = "jaeger" ∧ injector.config.tracing.jaeger.enabled) ∨
    (step.name = "datadog" ∧ injector.config.tracing.datadog.enabled) := by
  simp only [nodeSteps, List.mem_cons, List.not_mem_nil, or_false] at member
  rcases member with rfl | rfl | rfl | rfl | rfl | rfl | rfl | rfl | rfl
  case inr.inr.inr.inl => exact Or.inl ⟨rfl, looks⟩
  case inr.inr.inr.inr.inl => exact Or.inr ⟨rfl, looks⟩
  all_goals cases looks

theorem apart_nodeSteps {secrets : List String} (free : Artifact.tracingVolume ∉ secrets)
    {step other : Step} (member : step ∈ injector.nodeSteps mesh node)
    (otherMember : other ∈ injector.nodeSteps mesh node) (distinct : step.name ≠ other.name) :
    step.Apart secrets other where
  distinct := distinct
  tracing := by
    intro looks shows
    have alsoLooks := Step.looks_of_tracingVolume free shows
    rcases tracer_of_looks member looks with ⟨named, enabled⟩ | ⟨named, enabled⟩
    · rcases tracer_of_looks otherMember alsoLooks with ⟨also, -⟩ | ⟨-, alsoEnabled⟩
      · exact distinct (named.trans also.symm)
      · rcases injector.valid.exclusive.1 with off | off <;> simp [off] at enabled alsoEnabled
    · rcases tracer_of_looks otherMember alsoLooks with ⟨-, alsoEnabled⟩ | ⟨also, -⟩
      · rcases injector.valid.exclusive.1 with off | off <;> simp [off] at enabled alsoEnabled
      · exact distinct (named.trans also.symm)

/-- The steps for a node can be tried on the pod as it came in, in any order, where it asks
for no secret that is called as the volume of a tracer. -/
theorem attemptAll_gathered {order : List Step} (perm : order.Perm (injector.nodeSteps mesh node))
    {pod : Pod} (free : Artifact.tracingVolume ∉ pod.secretNames) :
    Step.attemptAll order pod = (Step.gather order pod).addTo pod ∧
    Step.results order pod = order.map fun step => (step, step.failure? pod) := by
  have orderDistinct := perm.symm.pairwise (injector.distinct_nodeSteps mesh node) Ne.symm
  apply Step.attemptAll_of_apart
  · exact fun step member => injector.onlyAdds_nodeSteps mesh node step (perm.mem_iff.mp member)
  · refine orderDistinct.imp_of_mem ?_
    intro step later member laterMember distinct
    exact apart_nodeSteps free (perm.mem_iff.mp laterMember) (perm.mem_iff.mp member) distinct.symm

/-- In whatever order the steps for a node are tried, each of them ends in the same way, and
the pods are the same up to the order of their containers, init containers and volumes.
Behind the containers of the pod stand the same ones. -/
theorem attemptAll_permuted {order : List Step} (perm : order.Perm (injector.nodeSteps mesh node))
    {pod : Pod} (free : Artifact.tracingVolume ∉ pod.secretNames) :
    (Step.results order pod).Perm (Step.results (injector.nodeSteps mesh node) pod) ∧
    (Step.attemptAll order pod).Rearranged
      (Step.attemptAll (injector.nodeSteps mesh node) pod) ∧
    ∃ added standard,
      (Step.attemptAll order pod).containers = pod.containers ++ added ∧
      (Step.attemptAll (injector.nodeSteps mesh node) pod).containers =
        pod.containers ++ standard ∧ added.Perm standard := by
  rcases attemptAll_gathered perm free with ⟨gathered, ends⟩
  rcases attemptAll_gathered (List.Perm.refl (injector.nodeSteps mesh node)) free with
    ⟨standard, standardEnds⟩
  have rearranged : (Step.gather order pod).Rearranged
      (Step.gather (injector.nodeSteps mesh node) pod) :=
    (Step.gather_perm perm.symm (injector.distinct_nodeSteps mesh node) pod).symm
  refine ⟨?_, ?_, _, _, ?_, ?_, rearranged.containers⟩
  · rw [ends, standardEnds]
    exact perm.map _
  · rw [gathered, standard]
    exact rearranged.addTo pod
  · rw [gathered, Contribution.containers_addTo]
  · rw [standard, Contribution.containers_addTo]

/-- So the steps can be tried in reverse. -/
theorem attemptAll_reversed :
    let injector : Injector := ⟨{ tracing := { jaeger := { enabled := true } } }, {}, by decide⟩
    let steps := injector.nodeSteps ⟨"mesh", "mesh", none⟩
      { name := "node", namespaceName := "default" }
    let pod := mounting "data" "tls"
    steps.reverse.Perm steps ∧
    Artifact.tracingVolume ∉ pod.secretNames ∧
    (Step.attemptAll steps.reverse pod).Rearranged (Step.attemptAll steps pod) := by
  intro injector steps pod
  have perm : steps.reverse.Perm steps := List.reverse_perm steps
  have free : Artifact.tracingVolume ∉ pod.secretNames := by decide
  exact ⟨perm, free, (attemptAll_permuted perm free).2.1⟩

end Injector

end MeshSidecar
