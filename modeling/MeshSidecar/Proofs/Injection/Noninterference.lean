import MeshSidecar.Proofs.Injection.Order

namespace MeshSidecar

/-!
# What an injection has no business with

Most of a pod is of no concern to the injector: how the pod is called, its status, the
annotations and labels of others, and the fields of the specification that no step
mentions.  An edit of these parts may come before the injection or after it.  The
injection ends with the same error or with none, and the pod is the same in the end.
-/

/-! ## Edits -/

/-- Sets an entry of a map, which is created when it is absent, or removes the entry when
no value is given. -/
def reviseEntry (map : Option (SortedMap String)) (change : String × Option String) :
    Option (SortedMap String) :=
  match change.2 with
  | some value => some ((map.getD .empty).insert change.1 value)
  | none => map.map fun entries => entries.erase change.1

/-- Changes entries one after the other. -/
def revise (changes : List (String × Option String)) (map : Option (SortedMap String)) :
    Option (SortedMap String) :=
  changes.foldl reviseEntry map

/-- An edit of a pod that spares all that an injection looks at or changes. -/
structure Edit where
  name : Option String → Option String := id
  generateName : Option String → Option String := id
  annotations : List (String × Option String) := []
  labels : List (String × Option String) := []
  metadata : List (String × Json) → List (String × Json) := id
  spec : List (String × Json) → List (String × Json) := id
  status : Option Json → Option Json := id
  sparesAnnotations : ∀ change ∈ annotations, change.1 ∉ Annotations.all
  sparesLabel : ∀ change ∈ labels, change.1 ≠ fargateProfileLabel

namespace Edit

def applySpec (edit : Edit) (spec : PodSpec) : PodSpec :=
  { spec with rest := edit.spec spec.rest }

/-- The edited pod.  Where there is no specification, none is created. -/
def apply (edit : Edit) (pod : Pod) : Pod where
  metadata :=
    { name := edit.name pod.metadata.name
      generateName := edit.generateName pod.metadata.generateName
      annotations := revise edit.annotations pod.metadata.annotations
      labels := revise edit.labels pod.metadata.labels
      rest := edit.metadata pod.metadata.rest }
  spec := pod.spec.map edit.applySpec
  status := edit.status pod.status

end Edit

/-! ## What an edit spares -/

theorem get?_reviseEntry {change : String × Option String} {key : String}
    (other : change.1 ≠ key) (map : Option (SortedMap String)) :
    ((reviseEntry map change).bind fun entries => entries.get? key) =
      map.bind fun entries => entries.get? key := by
  rcases change with ⟨name, none | value⟩
  · cases map with
    | none => rfl
    | some entries => exact (entries.get?_erase name key).trans (if_neg other)
  · cases map with
    | none => exact SortedMap.get?_insert_of_ne .empty other value
    | some entries => exact SortedMap.get?_insert_of_ne entries other value

theorem get?_revise {changes : List (String × Option String)} {key : String}
    (spares : ∀ change ∈ changes, change.1 ≠ key) (map : Option (SortedMap String)) :
    ((revise changes map).bind fun entries => entries.get? key) =
      map.bind fun entries => entries.get? key := by
  induction changes generalizing map with
  | nil => rfl
  | cons change changes ih =>
      have later := ih fun other member => spares other (List.mem_cons_of_mem change member)
      exact (later _).trans (get?_reviseEntry (spares change List.mem_cons_self) map)

theorem reviseEntry_insert {change : String × Option String} {key : String}
    (other : change.1 ≠ key) (value : String) (map : Option (SortedMap String)) :
    reviseEntry (some ((map.getD .empty).insert key value)) change =
      some (((reviseEntry map change).getD .empty).insert key value) := by
  rcases change with ⟨name, none | changed⟩
  · refine congrArg some ((SortedMap.erase_insert _ (Ne.symm other) value).trans ?_)
    cases map with
    | none => rfl
    | some entries => rfl
  · exact congrArg some (SortedMap.insert_insert _ (Ne.symm other) value changed)

/-- An entry that is spared may be set before the others are changed or after. -/
theorem revise_insert {changes : List (String × Option String)} {key : String}
    (spares : ∀ change ∈ changes, change.1 ≠ key) (value : String)
    (map : Option (SortedMap String)) :
    revise changes (some ((map.getD .empty).insert key value)) =
      some (((revise changes map).getD .empty).insert key value) := by
  induction changes generalizing map with
  | nil => rfl
  | cons change changes ih =>
      have first := reviseEntry_insert (spares change List.mem_cons_self) value map
      have later := ih fun other member => spares other (List.mem_cons_of_mem change member)
      rw [revise, List.foldl_cons, first]
      exact later (reviseEntry map change)

namespace Edit

variable (edit : Edit) (pod : Pod)

theorem annotation?_apply {key : String} (known : key ∈ Annotations.all) :
    (edit.apply pod).annotation? key = pod.annotation? key := by
  apply get?_revise
  intro change member same
  rw [← same] at known
  exact edit.sparesAnnotations change member known

theorem label?_apply :
    (edit.apply pod).label? fargateProfileLabel = pod.label? fargateProfileLabel :=
  get?_revise edit.sparesLabel pod.metadata.labels

/-- A field of the specification that is spared reads the same. -/
theorem specOrEmpty_apply {α : Type} (field : PodSpec → α)
    (spares : ∀ spec, field (edit.applySpec spec) = field spec) :
    field (edit.apply pod).specOrEmpty = field pod.specOrEmpty := by
  rw [Pod.specOrEmpty, apply, Pod.specOrEmpty]
  cases pod.spec with
  | none => rfl
  | some spec => exact spares spec

/-- An edit leaves all that a step looks at. -/
theorem seesSame {step : Step} (adds : step.onlyAdds) : step.SeesSame pod (edit.apply pod) := by
  have said : ∀ key ∈ Annotations.all, (edit.apply pod).annotation? key = pod.annotation? key :=
    fun key known => edit.annotation?_apply pod known
  have asks : Pod.AsksSame pod (edit.apply pod) :=
    fun key asked => said key (List.mem_filter.mp asked).1
  have containers : (edit.apply pod).containers = pod.containers := by
    rw [Pod.containers_eq, Pod.containers_eq]
    exact edit.specOrEmpty_apply pod PodSpec.containers fun _ => rfl
  have volumes : (edit.apply pod).volumes = pod.volumes := by
    rw [Pod.volumes_eq, Pod.volumes_eq]
    exact edit.specOrEmpty_apply pod (fun spec => spec.volumes.getD []) fun _ => rfl
  have hasContainer : ∀ name, (edit.apply pod).hasContainer name = pod.hasContainer name := by
    intro name
    rw [Pod.hasContainer, containers, Pod.hasContainer]
  have hasVolume : ∀ name, (edit.apply pod).hasVolume name = pod.hasVolume name := by
    intro name
    rw [Pod.hasVolume, volumes, Pod.hasVolume]
  cases step with
  | interception config sizing node =>
      refine ⟨said, edit.label?_apply pod, ?_⟩
      have same := edit.specOrEmpty_apply pod (fun spec => spec.initContainers.getD []) fun _ => rfl
      rw [Pod.hasInitContainer, Pod.initContainers_eq, same, ← Pod.initContainers_eq,
        Pod.hasInitContainer]
  | envoy config identity mesh node =>
      refine ⟨asks, hasContainer _, ?_⟩
      intro path
      rw [Pod.mountsHostPath, volumes, Pod.mountsHostPath]
  | gateway config identity mesh selected => cases adds
  | xray config sizing region => exact ⟨asks, hasContainer _⟩
  | jaeger config => exact fun _ => hasVolume _
  | datadog config => exact fun _ => hasVolume _
  | cloudMapGate node =>
      rw [Step.SeesSame, Pod.readinessGates_eq, Pod.readinessGates_eq]
      exact edit.specOrEmpty_apply pod (fun spec => spec.readinessGates.getD []) fun _ => rfl
  | fsGroup enabled =>
      have same := edit.specOrEmpty_apply pod PodSpec.securityContext fun _ => rfl
      rw [Step.SeesSame, Pod.fsGroup?_eq, Pod.fsGroup?_eq, same]
  | pullSecret enabled =>
      rw [Step.SeesSame, Pod.pullSecrets_eq, Pod.pullSecrets_eq]
      exact edit.specOrEmpty_apply pod (fun spec => spec.imagePullSecrets.getD []) fun _ => rfl
  | gracePeriod preStopDelay => trivial

/-! ## What comes after an edit -/

theorem annotate_apply {key : String} (known : key ∈ Annotations.all) (value : String) :
    (edit.apply pod).annotate key value = edit.apply (pod.annotate key value) := by
  have spares : ∀ change ∈ edit.annotations, change.1 ≠ key := by
    intro change member same
    rw [← same] at known
    exact edit.sparesAnnotations change member known
  have swapped := revise_insert spares value pod.metadata.annotations
  rw [Pod.annotate, Pod.mapAnnotations, apply, Pod.annotate, Pod.mapAnnotations, apply, swapped]

theorem mapSpec_apply (specified : pod.spec.isSome) {change : PodSpec → PodSpec}
    (spares : ∀ spec, change (edit.applySpec spec) = edit.applySpec (change spec)) :
    (edit.apply pod).mapSpec change = edit.apply (pod.mapSpec change) := by
  obtain ⟨spec, declared⟩ := Option.isSome_iff_exists.mp specified
  have before : (edit.apply pod).specOrEmpty = edit.applySpec spec := by
    rw [Pod.specOrEmpty, apply, declared]
    rfl
  have after : pod.specOrEmpty = spec := by
    rw [Pod.specOrEmpty, declared]
    rfl
  rw [Pod.mapSpec, before, spares, Pod.mapSpec, after]
  rfl

theorem addTo_apply (specified : pod.spec.isSome) {added : Contribution}
    (known : ∀ entry ∈ added.annotations, entry.1 ∈ Annotations.all) :
    added.addTo (edit.apply pod) = edit.apply (added.addTo pod) := by
  have annotated : ∀ (entries : List (String × String)) (pod : Pod),
      (∀ entry ∈ entries, entry.1 ∈ Annotations.all) →
      Contribution.annotate entries (edit.apply pod) =
        edit.apply (Contribution.annotate entries pod) := by
    intro entries
    induction entries with
    | nil => exact fun _ _ => rfl
    | cons entry entries ih =>
        intro pod known
        have later := ih (pod.annotate entry.1 entry.2) fun other member =>
          known other (List.mem_cons_of_mem entry member)
        rw [Contribution.annotate, List.foldl_cons,
          edit.annotate_apply pod (known entry List.mem_cons_self)]
        exact later
  rw [Contribution.addTo, annotated added.annotations pod known, Contribution.addTo]
  split
  · rfl
  · apply edit.mapSpec_apply
    · rw [Contribution.spec_annotate]
      exact specified
    · exact fun _ => rfl

end Edit

/-! ## Runs -/

namespace Step

theorem apply_edit {step : Step} (adds : step.onlyAdds) (edit : Edit) {pod : Pod}
    (specified : pod.spec.isSome) :
    step.apply (edit.apply pod) = (step.apply pod).map edit.apply := by
  rw [apply_eq_contribution adds, apply_eq_contribution adds,
    contribution_of_seesSame (edit.seesSame pod adds)]
  cases contributes : step.contribution pod with
  | error error => rfl
  | ok added =>
      have known : ∀ entry ∈ added.annotations, entry.1 ∈ Annotations.all := by
        have keys : Interception.keys ⊆ Annotations.all := by
          decide
        exact fun entry member => keys ((offers_of_contribution contributes).told entry member)
      exact congrArg Except.ok (edit.addTo_apply pod specified known)

theorem isSome_spec_of_apply {step : Step} (adds : step.onlyAdds) {pod changed : Pod}
    (specified : pod.spec.isSome) (applied : step.apply pod = .ok changed) :
    changed.spec.isSome := by
  rcases contributes_of_apply adds applied with ⟨added, contributes, rfl⟩
  rw [Contribution.addTo]
  split
  · rw [Contribution.spec_annotate]
    exact specified
  · rfl

/-- A run on an edited pod ends as the run on the pod, with the edit in the end. -/
theorem run_edit {steps : List Step} (adds : ∀ step ∈ steps, step.onlyAdds) (edit : Edit)
    {pod : Pod} (specified : pod.spec.isSome) :
    run steps (edit.apply pod) = ⟨edit.apply (run steps pod).pod, (run steps pod).error⟩ := by
  induction steps generalizing pod with
  | nil => rfl
  | cons step steps ih =>
      have addsFirst := adds step List.mem_cons_self
      rw [run, run, apply_edit addsFirst edit specified]
      cases applied : step.apply pod with
      | error error => rfl
      | ok changed =>
          apply ih
          · exact fun other member => adds other (List.mem_cons_of_mem step member)
          · exact isSome_spec_of_apply addsFirst specified applied

end Step

/-! ## Injections -/

namespace Injector

variable (injector : Injector) (mesh : Mesh) (node : VirtualNode)

/-- An injection for a node ends the same for an edited pod, and the edit can be made in
the pod that it ends with instead. -/
theorem inject_edit (edit : Edit) {pod : Pod} (specified : pod.spec.isSome) :
    injector.inject mesh (.node node) (edit.apply pod) =
      ⟨edit.apply (injector.inject mesh (.node node) pod).pod,
        (injector.inject mesh (.node node) pod).error⟩ := by
  have wanted : injector.shouldInject (edit.apply pod) = injector.shouldInject pod := by
    rw [shouldInject, Pod.switch?, edit.annotation?_apply pod (by decide), shouldInject,
      Pod.switch?]
  rw [inject, wanted, inject]
  split
  · exact Step.run_edit (injector.onlyAdds_nodeSteps mesh node) edit specified
  · rfl

/-- A pod that is labelled, annotated and moved to another host beside its secret. -/
theorem inject_edit_mounting :
    let injector : Injector := ⟨{}, {}, by decide⟩
    let node : VirtualNode := { name := "node", namespaceName := "default" }
    let pod := mounting "data" "tls"
    let edit : Edit := {
      labels := [("app", some "web")]
      annotations := [("note", some "kept"), ("old", none)]
      spec := fun _ => [("nodeName", .str "host")]
      sparesAnnotations := by decide
      sparesLabel := by decide }
    pod.spec.isSome ∧ edit.apply pod ≠ pod ∧
    injector.inject ⟨"mesh", "mesh", none⟩ (.node node) (edit.apply pod) =
      ⟨edit.apply (injector.inject ⟨"mesh", "mesh", none⟩ (.node node) pod).pod,
        (injector.inject ⟨"mesh", "mesh", none⟩ (.node node) pod).error⟩ := by
  intro injector node pod edit
  have specified : pod.spec.isSome := by
    decide
  exact ⟨specified, by decide, injector.inject_edit _ node edit specified⟩

end Injector

end MeshSidecar
