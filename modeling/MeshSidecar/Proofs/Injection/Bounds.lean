import MeshSidecar.Proofs.Injection.Inventory

namespace MeshSidecar

/-!
# Any number of steps

Steps of different configurations may be tried on one pod, for nodes and gateways
in turn and in any order, and some of them may fail.  However many they are, none
of the artifacts is repeated.  For the init containers of tracers their number alone
says too little about the next step: what never grows is their number together with
the room that is left for one, which goes when the volume of a tracer comes.
-/

/-- The name is there at most once, unless it was there more often before. -/
def Unrepeated (name : String) (before after : List String) : Prop :=
  after.count name ≤ max 1 (before.count name)

namespace Unrepeated

variable {name : String} {first second third : List String}

theorem refl (name : String) (names : List String) : Unrepeated name names names :=
  Nat.le_max_right 1 _

theorem trans (early : Unrepeated name first second) (late : Unrepeated name second third) :
    Unrepeated name first third := by
  unfold Unrepeated at early late ⊢
  omega

theorem append_of_not_mem {added : List String} (other : name ∉ added) :
    Unrepeated name first (first ++ added) := by
  rw [Unrepeated, List.count_append, List.count_eq_zero_of_not_mem other]
  exact Nat.le_max_right 1 _

/-- A name that is added only where it is missing is not repeated. -/
theorem append_lacking (name added : String) (names : List String) :
    Unrepeated name names (names ++ lacking added names) := by
  by_cases present : added ∈ names
  · rw [lacking_of_mem present, List.append_nil]
    exact refl name names
  · rw [lacking_of_not_mem present]
    by_cases same : name = added
    · rw [Unrepeated, same, List.count_append, List.count_eq_zero_of_not_mem present,
        List.count_singleton_self]
      exact Nat.le_refl 1
    · exact append_of_not_mem (by simpa using same)

end Unrepeated

/-! ## What steps can make of a pod -/

namespace Inventory

/-- The number of init containers of tracers. -/
def tracers (held : Inventory) : Nat :=
  held.initContainers.count Artifact.jaegerInit + held.initContainers.count Artifact.datadogInit

/-- How many tracers can still be added. -/
def room (held : Inventory) : Nat :=
  if Artifact.tracingVolume ∈ held.volumes then 0 else 1

/-- The bounds that steps keep to. -/
structure Bounded (before after : Inventory) : Prop where
  containers : before.containers <+: after.containers
  initContainers : before.initContainers <+: after.initContainers
  volumes : before.volumes <+: after.volumes
  container : ∀ name, Unrepeated name before.containers after.containers
  proxyInit : Unrepeated Artifact.proxyInit before.initContainers after.initContainers
  pullSecret : ∀ name, Unrepeated name before.pullSecrets after.pullSecrets
  readinessGate : ∀ name, Unrepeated name before.readinessGates after.readinessGates
  tracers : after.tracers + after.room ≤ before.tracers + before.room

namespace Bounded

theorem refl (held : Inventory) : Bounded held held where
  containers := List.prefix_refl _
  initContainers := List.prefix_refl _
  volumes := List.prefix_refl _
  container := fun _ => Unrepeated.refl _ _
  proxyInit := Unrepeated.refl _ _
  pullSecret := fun _ => Unrepeated.refl _ _
  readinessGate := fun _ => Unrepeated.refl _ _
  tracers := Nat.le_refl _

theorem trans {first second third : Inventory} (early : Bounded first second)
    (late : Bounded second third) : Bounded first third where
  containers := early.containers.trans late.containers
  initContainers := early.initContainers.trans late.initContainers
  volumes := early.volumes.trans late.volumes
  container := fun name => (early.container name).trans (late.container name)
  proxyInit := early.proxyInit.trans late.proxyInit
  pullSecret := fun name => (early.pullSecret name).trans (late.pullSecret name)
  readinessGate := fun name => (early.readinessGate name).trans (late.readinessGate name)
  tracers := Nat.le_trans late.tracers early.tracers

end Bounded

section

variable (held added : Inventory)

theorem tracers_append : (held ++ added).tracers = held.tracers + added.tracers := by
  simp only [tracers, initContainers_append, List.count_append]
  omega

theorem room_append_le : (held ++ added).room ≤ held.room := by
  unfold room
  by_cases present : Artifact.tracingVolume ∈ held.volumes
  · simp [present]
  · rw [if_neg present]
    split <;> omega

/-- Where no tracer comes, there are no more of them and no more room. -/
theorem tracers_append_of_none {added : Inventory} (none : added.tracers = 0) :
    (held ++ added).tracers + (held ++ added).room ≤ held.tracers + held.room := by
  rw [tracers_append, none]
  exact Nat.add_le_add_left (held.room_append_le added) _

end

end Inventory

/-! ## One step -/

/-- Names that a step may add to a list without repeating any. -/
def Unrepeating (held added : List String) : Prop :=
  added = [] ∨ ∃ name, added = lacking name held

theorem Unrepeating.unrepeated {held added : List String} (unrepeating : Unrepeating held added)
    (name : String) : Unrepeated name held (held ++ added) := by
  rcases unrepeating with rfl | ⟨missing, rfl⟩
  · exact Unrepeated.append_of_not_mem List.not_mem_nil
  · exact Unrepeated.append_lacking name missing held

theorem Unrepeating.ite {condition : Prop} [Decidable condition] (name : String)
    (held : List String) : Unrepeating held (if condition then lacking name held else []) := by
  split
  · exact Or.inr ⟨name, rfl⟩
  · exact Or.inl rfl

/-- What a step may add to the init containers: the one for interception where it
is missing, or that of a tracer together with its volume where that is missing. -/
inductive InitAddition (held added : Inventory) : Prop where
  | nothing (none : added.initContainers = [])
  | interception (missing : added.initContainers = lacking Artifact.proxyInit held.initContainers)
  | tracer (name : String) (named : name = Artifact.jaegerInit ∨ name = Artifact.datadogInit)
      (single : added.initContainers = [name]) (free : Artifact.tracingVolume ∉ held.volumes)
      (taken : Artifact.tracingVolume ∈ added.volumes)

namespace InitAddition

variable {held added : Inventory}

theorem proxyInit (addition : InitAddition held added) : Unrepeated Artifact.proxyInit
    held.initContainers (held.initContainers ++ added.initContainers) := by
  cases addition with
  | nothing none =>
      rw [none]
      exact Unrepeated.append_of_not_mem List.not_mem_nil
  | interception missing =>
      rw [missing]
      exact Unrepeated.append_lacking ..
  | tracer name named single free taken =>
      rw [single]
      apply Unrepeated.append_of_not_mem
      rcases named with rfl | rfl <;> decide

/-- A tracer takes the room that there was. -/
theorem tracers (addition : InitAddition held added) :
    (held ++ added).tracers + (held ++ added).room ≤ held.tracers + held.room := by
  cases addition with
  | nothing none =>
      apply held.tracers_append_of_none
      rw [Inventory.tracers, none]
      rfl
  | interception missing =>
      apply held.tracers_append_of_none
      rw [Inventory.tracers, missing, lacking]
      split <;> decide
  | tracer name named single free taken =>
      have one : added.tracers = 1 := by
        rw [Inventory.tracers, single]
        rcases named with rfl | rfl <;> decide
      have none : (held ++ added).room = 0 := if_pos (List.mem_append_right _ taken)
      have room : held.room = 1 := if_neg free
      rw [held.tracers_append]
      omega

end InitAddition

theorem Tracer.initAddition {tracer : Tracer} (named : tracer.containerName = Artifact.jaegerInit ∨
    tracer.containerName = Artifact.datadogInit) (pod : Pod) :
    InitAddition pod.inventory (tracer.additions pod) := by
  cases adds : tracer.enabled && !pod.hasVolume Artifact.tracingVolume with
  | false => exact .nothing (by rw [additions, adds]; rfl)
  | true =>
      have free : Artifact.tracingVolume ∉ pod.inventory.volumes := by
        rw [pod.mem_volumes]
        simp only [Bool.and_eq_true, Bool.not_eq_true'] at adds
        rw [adds.2]
        exact Bool.false_ne_true
      rw [additions, adds]
      exact .tracer tracer.containerName named rfl free List.mem_cons_self

namespace Step

variable (step : Step) (pod : Pod)

theorem initAddition : InitAddition pod.inventory (step.additions pod) := by
  cases step with
  | interception config sizing node =>
      cases plugin : pod.usesNetworkPlugin with
      | true => exact .nothing (by rw [additions, plugin]; rfl)
      | false => exact .interception (by rw [additions, plugin]; rfl)
  | jaeger config => exact Tracer.initAddition (Or.inl rfl) pod
  | datadog config => exact Tracer.initAddition (Or.inr rfl) pod
  | _ => exact .nothing rfl

theorem unrepeating_containers :
    Unrepeating pod.inventory.containers (step.additions pod).containers := by
  cases step with
  | envoy config identity mesh node => exact Or.inr ⟨_, rfl⟩
  | xray config sizing region => exact Unrepeating.ite ..
  | _ => exact Or.inl rfl

theorem unrepeating_pullSecrets :
    Unrepeating pod.inventory.pullSecrets (step.additions pod).pullSecrets := by
  cases step with
  | pullSecret enabled => exact Unrepeating.ite ..
  | _ => exact Or.inl rfl

theorem unrepeating_readinessGates :
    Unrepeating pod.inventory.readinessGates (step.additions pod).readinessGates := by
  cases step with
  | cloudMapGate node => exact Unrepeating.ite ..
  | _ => exact Or.inl rfl

theorem bounded_additions :
    Inventory.Bounded pod.inventory (pod.inventory ++ step.additions pod) where
  containers := List.prefix_append _ _
  initContainers := List.prefix_append _ _
  volumes := List.prefix_append _ _
  container := (step.unrepeating_containers pod).unrepeated
  proxyInit := (step.initAddition pod).proxyInit
  pullSecret := (step.unrepeating_pullSecrets pod).unrepeated
  readinessGate := (step.unrepeating_readinessGates pod).unrepeated
  tracers := (step.initAddition pod).tracers

/-- A step that is tried keeps to the bounds, be it in vain. -/
theorem bounded_attempt : Inventory.Bounded pod.inventory (step.attempt pod).inventory := by
  cases applied : step.apply pod with
  | ok changed =>
      rw [attempt_of_ok applied, inventory_of_apply applied]
      exact step.bounded_additions pod
  | error error =>
      rw [attempt_of_error applied]
      exact .refl pod.inventory

/-! ## Steps in a row -/

theorem bounded_attemptAll (steps : List Step) :
    Inventory.Bounded pod.inventory (attemptAll steps pod).inventory := by
  induction steps generalizing pod with
  | nil => exact .refl pod.inventory
  | cons step steps ih => exact (step.bounded_attempt pod).trans (ih (step.attempt pod))

theorem attemptAll_append (early late : List Step) (pod : Pod) :
    attemptAll (early ++ late) pod = attemptAll late (attemptAll early pod) :=
  List.foldl_append

/-- Between any two moments of a run of steps, whatever configurations these come
from and whichever of them fail: no container, pull secret or readiness gate and no
init container for interception is repeated, at most one tracer comes and none where
its volume was, and the names of containers, init containers and volumes stay where
they are. -/
theorem attemptAll_bounds (early late : List Step) (pod : Pod) :
    let before := (attemptAll early pod).inventory
    let after := (attemptAll (early ++ late) pod).inventory
    (∀ name, after.containers.count name ≤ max 1 (before.containers.count name)) ∧
    after.initContainers.count Artifact.proxyInit ≤
      max 1 (before.initContainers.count Artifact.proxyInit) ∧
    (∀ name, after.pullSecrets.count name ≤ max 1 (before.pullSecrets.count name)) ∧
    (∀ name, after.readinessGates.count name ≤ max 1 (before.readinessGates.count name)) ∧
    after.tracers ≤ before.tracers + 1 ∧
    (Artifact.tracingVolume ∈ before.volumes → after.tracers = before.tracers) ∧
    before.containers <+: after.containers ∧
    before.initContainers <+: after.initContainers ∧
    before.volumes <+: after.volumes := by
  intro before after
  have bounded : Inventory.Bounded before after := by
    have run := bounded_attemptAll (attemptAll early pod) late
    rw [← attemptAll_append] at run
    exact run
  have never := bounded.tracers
  have most : before.room ≤ 1 := by
    unfold Inventory.room
    split <;> omega
  refine ⟨bounded.container, bounded.proxyInit, bounded.pullSecret, bounded.readinessGate, ?_, ?_,
    bounded.containers, bounded.initContainers, bounded.volumes⟩
  · omega
  · intro present
    have taken : before.room = 0 := if_pos present
    have more : before.tracers ≤ after.tracers :=
      Nat.add_le_add (bounded.initContainers.sublist.count_le _)
        (bounded.initContainers.sublist.count_le _)
    omega

end Step

end MeshSidecar
