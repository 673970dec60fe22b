import MeshSidecar.Proofs.Injection.TracingWay

namespace MeshSidecar

/-!
# How the sidecars are sized

Three steps work out resources, each of them from the pod as it meets it.  The first of them
may write annotations, but none that is about a size, so all three come to the same
resources or to the same complaint.  The init container of a tracer is sized by its task,
whatever the pod and the configuration say.
-/

/-! ## Lists of resources -/

namespace Quantity

/-- What a quantity counts for: an empty one is as good as none. -/
def stated (quantity : Option String) : Option String :=
  quantity.filter fun text => text != ""

/-- A list of resources that holds both quantities as they are stated and nothing else.  It
is missing when there is nothing to hold. -/
structure Listed (cpu memory : Option String) (list : Option (SortedMap String)) : Prop where
  ofCpu : (list.bind fun list => list.get? "cpu") = stated cpu
  ofMemory : (list.bind fun list => list.get? "memory") = stated memory
  others : ∀ resource, resource ≠ "cpu" → resource ≠ "memory" →
    (list.bind fun list => list.get? resource) = none
  missing : list = none ↔ stated cpu = none ∧ stated memory = none

/-- A quantity is stored as it is written, where one is stated. -/
theorem get?_of_place {resource : String} {quantity : Option String}
    {list stored : SortedMap String} (placed : place resource quantity list = .ok stored)
    (key : String) : stored.get? key =
      if resource = key then (stated quantity).or (list.get? key) else list.get? key := by
  cases quantity with
  | none =>
      cases placed
      simp [stated]
  | some text =>
      rw [place] at placed
      by_cases blank : text = ""
      · rw [if_pos blank] at placed
        cases placed
        simp [stated, blank, Option.filter_some]
      · rw [if_neg blank, parse] at placed
        cases fault : fault? text.toList with
        | some reason => simp [fault] at placed
        | none =>
            simp only [fault, Except.ok.injEq] at placed
            rw [← placed, SortedMap.get?_insert]
            simp [stated, blank, Option.filter_some]

theorem listed_of_resourceList {cpu memory : Option String} {list : Option (SortedMap String)}
    (succeeds : resourceList cpu memory = .ok list) : Listed cpu memory list := by
  rcases of_bind_eq_ok succeeds with ⟨first, placedCpu, succeeds⟩
  rcases of_bind_eq_ok succeeds with ⟨whole, placedMemory, succeeds⟩
  have found : ∀ key, whole.get? key = if "memory" = key then stated memory
      else if "cpu" = key then stated cpu else none := by
    intro key
    rw [get?_of_place placedMemory, get?_of_place placedCpu, SortedMap.get?_empty, Option.or_none]
    by_cases isMemory : "memory" = key
    · rw [if_pos isMemory, if_pos isMemory, if_neg (by rw [← isMemory]; decide), Option.or_none]
    · rw [if_neg isMemory, if_neg isMemory]
  have nothing : whole.isEmpty ↔ stated cpu = none ∧ stated memory = none := by
    rw [SortedMap.isEmpty_iff]
    constructor
    · intro absent
      have noCpu := absent "cpu"
      have noMemory := absent "memory"
      rw [found] at noCpu noMemory
      exact ⟨noCpu, noMemory⟩
    · rintro ⟨noCpu, noMemory⟩ key
      rw [found, noCpu, noMemory, ite_self, ite_self]
  -- An empty list is left out, which shows in no lookup.
  have kept : ∀ key, (list.bind fun list => list.get? key) = whole.get? key := by
    intro key
    cases succeeds
    cases isEmpty : whole.isEmpty with
    | true => exact (whole.isEmpty_iff.mp isEmpty key).symm
    | false => rfl
  constructor
  case ofCpu => exact (kept "cpu").trans (found "cpu")
  case ofMemory => exact (kept "memory").trans (found "memory")
  case others =>
    intro resource notCpu notMemory
    rw [kept, found, if_neg (Ne.symm notMemory), if_neg (Ne.symm notCpu)]
  case missing =>
    rw [← nothing]
    cases succeeds
    cases whole.isEmpty with
    | true => simp
    | false => simp

/-! ## The first quantity that cannot be used -/

/-- A quantity that is none, before which all can be used. -/
def FirstBad (quantities : List (Option String)) (bad : BadQuantity) : Prop :=
  ∃ early late, quantities = early ++ some bad.text :: late ∧
    (∀ quantity ∈ early, Usable quantity) ∧ bad.text ≠ "" ∧ parse bad.text = .error bad

theorem bad?_eq_some_iff (quantity : Option String) (bad : BadQuantity) :
    bad? quantity = some bad ↔
      quantity = some bad.text ∧ bad.text ≠ "" ∧ parse bad.text = .error bad := by
  rcases bad with ⟨badText, badFault⟩
  cases quantity with
  | none => simp [bad?]
  | some text =>
      by_cases blank : text = ""
      · simp only [bad?, blank, Option.filter_some]
        constructor
        · intro refused
          cases refused
        · rintro ⟨same, notBlank, -⟩
          exact absurd (Option.some.inj same).symm notBlank
      · simp only [bad?, parse, Option.filter_some, bne_iff_ne, ne_eq, blank, not_false_eq_true,
          if_true, Option.bind_some, Option.map_eq_some_iff, BadQuantity.mk.injEq, Option.some_inj]
        constructor
        · rintro ⟨fault, found, rfl, rfl⟩
          simp [blank, found]
        · rintro ⟨rfl, -, refused⟩
          cases found : fault? text.toList with
          | none => simp [found] at refused
          | some fault =>
              simp only [found, Except.error.injEq, BadQuantity.mk.injEq, true_and] at refused
              exact ⟨fault, rfl, rfl, refused⟩

theorem firstOf_bad?_eq_some_iff (quantities : List (Option String)) (bad : BadQuantity) :
    firstOf (quantities.map bad?) = some bad ↔ FirstBad quantities bad := by
  rw [firstOf, List.findSome?_map, Function.id_comp, List.findSome?_eq_some_iff, FirstBad]
  constructor
  · rintro ⟨early, quantity, late, whole, found, before⟩
    rcases (bad?_eq_some_iff quantity bad).mp found with ⟨rfl, notBlank, refused⟩
    refine ⟨early, late, whole, ?_, notBlank, refused⟩
    exact fun quantity member => (bad?_eq_none quantity).mp (before quantity member)
  · rintro ⟨early, late, whole, before, notBlank, refused⟩
    refine ⟨early, some bad.text, late, whole, ?_, ?_⟩
    · exact (bad?_eq_some_iff _ bad).mpr ⟨rfl, notBlank, refused⟩
    · exact fun quantity member => (bad?_eq_none quantity).mpr (before quantity member)

end Quantity

namespace Pod

/-- The resources are what the pod says about each quantity, and what is configured where
the pod says nothing. -/
structure Sized (pod : Pod) (sizing : Config.Sidecar) (resources : Resources) : Prop where
  requests : Quantity.Listed (pod.quantityFor Annotations.cpuRequest sizing.cpuRequests)
    (pod.quantityFor Annotations.memoryRequest sizing.memoryRequests) resources.requests
  limits : Quantity.Listed (pod.quantityFor Annotations.cpuLimit sizing.cpuLimits)
    (pod.quantityFor Annotations.memoryLimit sizing.memoryLimits) resources.limits
  claims : resources.claims = none

variable {pod : Pod} {sizing : Config.Sidecar}

theorem sized_of_sidecarResources {resources : Resources}
    (succeeds : pod.sidecarResources sizing = .ok resources) : pod.Sized sizing resources := by
  simp only [sidecarResources, Resources.ofQuantities, override_eq_quantityFor] at succeeds
  cases requested : Quantity.resourceList
      (pod.quantityFor Annotations.cpuRequest sizing.cpuRequests)
      (pod.quantityFor Annotations.memoryRequest sizing.memoryRequests) with
  | error bad =>
      rw [requested] at succeeds
      cases succeeds
  | ok requests =>
      cases limited : Quantity.resourceList
          (pod.quantityFor Annotations.cpuLimit sizing.cpuLimits)
          (pod.quantityFor Annotations.memoryLimit sizing.memoryLimits) with
      | error bad =>
          rw [requested, limited] at succeeds
          cases succeeds
      | ok limits =>
          rw [requested, limited] at succeeds
          cases succeeds
          exact ⟨Quantity.listed_of_resourceList requested, Quantity.listed_of_resourceList limited,
            rfl⟩

theorem firstOf_sizingComplaints_eq_some_iff (bad : BadQuantity) :
    firstOf (pod.sizingComplaints sizing) = some (.badQuantity bad) ↔
      Quantity.FirstBad (pod.quantities sizing) bad := by
  have mapped : pod.sizingComplaints sizing =
      ((pod.quantities sizing).map Quantity.bad?).map fun answer =>
        answer.map Error.badQuantity := by
    rw [sizingComplaints, List.map_map]
    rfl
  rw [mapped, firstOf_map, ← Quantity.firstOf_bad?_eq_some_iff, Option.map_eq_some_iff]
  simp

end Pod

/-! ## What the steps size -/

/-- The container has the resources that are worked out for the pod. -/
def Container.SizedFor (pod : Pod) (sizing : Config.Sidecar) (container : Container) : Prop :=
  ∃ resources, pod.sidecarResources sizing = .ok resources ∧ container.resources = some resources

/-- All that is contributed has these resources, but for what writes the file of a tracer. -/
structure Contribution.SizedFor (pod : Pod) (sizing : Config.Sidecar) (added : Contribution) :
    Prop where
  containers : ∀ container ∈ added.containers, container.SizedFor pod sizing
  initContainers : ∀ container ∈ added.initContainers,
    container.name = Artifact.proxyInit ∧ container.SizedFor pod sizing ∨
      container.name ≠ Artifact.proxyInit ∧ container.resources = some Tracer.resources

namespace Contribution

variable {pod : Pod} {sizing : Config.Sidecar}

theorem sizedFor_empty : SizedFor pod sizing {} := by
  constructor <;> simp

theorem SizedFor.append (early late : Contribution) (first : SizedFor pod sizing early)
    (second : SizedFor pod sizing late) : SizedFor pod sizing (early ++ late) where
  containers := by
    intro container member
    rcases List.mem_append.mp member with before | behind
    · exact first.containers container before
    · exact second.containers container behind
  initContainers := by
    intro container member
    rcases List.mem_append.mp member with before | behind
    · exact first.initContainers container before
    · exact second.initContainers container behind

theorem sizedFor_tracer (tracer : Tracer) (other : tracer.containerName ≠ Artifact.proxyInit)
    (met : Pod) : SizedFor pod sizing (tracer.contribution met) := by
  rw [Tracer.contribution]
  split
  · exact sizedFor_empty
  · exact { sizedFor_empty with
      initContainers := by
        intro container member
        rw [List.mem_singleton.mp member]
        exact Or.inr ⟨other, rfl⟩ }

end Contribution

namespace Injector

variable {injector : Injector} {mesh : Mesh} {node : VirtualNode} {pod : Pod}

theorem sizedFor_of_contribution {step : Step} (member : step ∈ injector.nodeSteps mesh node)
    {met : Pod} (same : Pod.SaysSame pod met) {added : Contribution}
    (contributes : step.contribution met = .ok added) :
    added.SizedFor pod injector.config.sidecar := by
  have nothing : Contribution.SizedFor pod injector.config.sidecar {} :=
    Contribution.sizedFor_empty
  have asked := same.asksSame.sidecarResources injector.config.sidecar
  have jaegerOther : Artifact.jaegerInit ≠ Artifact.proxyInit := by decide
  have datadogOther : Artifact.datadogInit ≠ Artifact.proxyInit := by decide
  simp only [nodeSteps, List.mem_cons, List.not_mem_nil, or_false] at member
  rcases member with rfl | rfl | rfl | rfl | rfl | rfl | rfl | rfl | rfl
  · rw [Step.contribution, asked] at contributes
    split at contributes
    · cases contributes
      exact { nothing with }
    · split at contributes
      · cases contributes
        exact nothing
      · rcases of_map_eq_ok contributes with ⟨resources, sized, rfl⟩
        exact { nothing with
          initContainers := by
            intro container member
            rw [List.mem_singleton.mp member]
            exact Or.inl ⟨rfl, resources, sized, rfl⟩ }
  · rw [Step.contribution, asked] at contributes
    split at contributes
    · cases contributes
      exact nothing
    · rcases of_bind_eq_ok contributes with ⟨wished, wanted, contributes⟩
      rcases of_bind_eq_ok contributes with ⟨checked, rate, contributes⟩
      rcases of_bind_eq_ok contributes with ⟨resources, sized, contributes⟩
      cases contributes
      exact { nothing with
        containers := by
          intro container member
          rw [List.mem_singleton.mp member]
          exact ⟨resources, sized, rfl⟩ }
  · rw [Step.contribution] at contributes
    split at contributes
    · cases contributes
      exact nothing
    · rcases of_map_eq_ok contributes with ⟨daemon, built, rfl⟩
      rcases Xray.of_container built with ⟨settled, resources, known, sized, rfl⟩
      exact { nothing with
        containers := by
          intro container member
          rw [List.mem_singleton.mp member]
          exact ⟨resources, asked.symm.trans sized, rfl⟩ }
  · rw [Step.contribution, Except.ok.injEq] at contributes
    rw [← contributes]
    exact Contribution.sizedFor_tracer _ jaegerOther met
  · rw [Step.contribution, Except.ok.injEq] at contributes
    rw [← contributes]
    exact Contribution.sizedFor_tracer _ datadogOther met
  all_goals
    cases contributes
    exact { nothing with }

theorem sizedFor_run (injector : Injector) (mesh : Mesh) (node : VirtualNode) (pod : Pod) :
    ∃ added : Contribution,
      (Step.run (injector.nodeSteps mesh node) pod).pod = added.addTo pod ∧
      added.SizedFor pod injector.config.sidecar :=
  Step.run_adds Contribution.sizedFor_empty Contribution.SizedFor.append
    (injector.onlyAdds_nodeSteps mesh node)
    (fun _ member _ _ same contributes => sizedFor_of_contribution member same contributes)
    fun _ _ => rfl

end Injector

/-! ## Complaints about other things -/

/-- What comes first in all of a list, and stands in neither of its outer parts, comes first
in the inner one. -/
theorem firstOf_of_inner {ε : Type} {early answers late : List (Option ε)} {complaint : ε}
    (notEarly : some complaint ∉ early) (notLate : some complaint ∉ late)
    (first : firstOf (early ++ answers ++ late) = some complaint) :
    firstOf answers = some complaint := by
  have listed : ∀ {answers : List (Option ε)}, firstOf answers = some complaint →
      some complaint ∈ answers := by
    intro answers found
    rcases List.exists_of_findSome?_eq_some found with ⟨answer, member, rfl⟩
    exact member
  rw [firstOf_append, firstOf_append, Option.or_eq_some_iff, Option.or_eq_some_iff] at first
  rcases first with (before | ⟨-, found⟩) | ⟨-, behind⟩
  · exact absurd (listed before) notEarly
  · exact found
  · exact absurd (listed behind) notLate

/-- What is complained about unless a condition holds is not something else. -/
theorem ne_unless {ε : Type} {condition : Prop} [Decidable condition] {complaint other : ε}
    (different : complaint ≠ other) :
    some complaint ≠ if condition then none else some other := by
  split
  · exact Option.some_ne_none complaint
  · exact fun same => different (Option.some.inj same)

section

variable (xray : Config.Xray) (region : String) (pod : Pod) (bad : BadQuantity)

theorem Envoy.not_quantity_of_wish : some (Error.badQuantity bad) ∉ wishComplaints pod := by
  have other : ∀ (form : PairForm) (key : String),
      some (Error.badQuantity bad) ≠ form.complaint? pod key := by
    intro form key
    rw [PairForm.complaint?]
    cases pod.annotation? key with
    | none => exact Option.some_ne_none _
    | some text => exact ne_unless (by simp)
  simp [wishComplaints, other]

namespace Xray

theorem not_quantity_of_rate : some (Error.badQuantity bad) ∉ rateComplaints xray := by
  rw [rateComplaints]
  split
  · cases xray.samplingRate with
    | none => simp
    | some rate => cases fault : SamplingRate.fault? rate <;> simp [fault]
  · exact List.not_mem_nil

theorem not_quantity_of_daemon :
    some (Error.badQuantity bad) ∉ daemonComplaints xray region pod := by
  have parameters : some (Error.badQuantity bad) ≠ parameterComplaint? xray region :=
    ne_unless (by simp)
  have file : ∀ text, some (Error.badQuantity bad) ≠ mountComplaint? text := by
    intro text
    rw [mountComplaint?]
    split
    · simp
    · exact ne_unless (by simp)
  have level : some (Error.badQuantity bad) ≠ levelComplaint? xray := ne_unless (by simp)
  have role : some (Error.badQuantity bad) ≠ roleComplaint? xray := by
    rw [roleComplaint?]
    cases xray.roleArn with
    | none => exact Option.some_ne_none _
    | some role => exact ne_unless (by simp)
  rw [daemonComplaints]
  split
  · rw [settingComplaints]
    split
    · simp [parameters, file]
    · simp [parameters, level, role]
  · exact List.not_mem_nil

end Xray

end

namespace Injector

variable {injector : Injector} {mesh : Mesh} {node : VirtualNode} {pod : Pod}

/-- The complaints that come up before those about the size. -/
def earlier (injector : Injector) (pod : Pod) : List (Option Error) :=
  if pod.usesNetworkPlugin then
    Envoy.wishComplaints pod ++ Xray.rateComplaints injector.config.tracing.xray
  else []

/-- The complaints about the size stand together, and none before or behind them is about a
quantity. -/
theorem complaints_split (injector : Injector) (pod : Pod) :
    ∃ late, injector.complaints pod =
        injector.earlier pod ++ pod.sizingComplaints injector.config.sidecar ++ late ∧
      ∀ bad, some (Error.badQuantity bad) ∉ injector.earlier pod ∧
        some (Error.badQuantity bad) ∉ late := by
  have notWished := Envoy.not_quantity_of_wish pod
  have notRate := Xray.not_quantity_of_rate injector.config.tracing.xray
  have notDaemon := Xray.not_quantity_of_daemon injector.config.tracing.xray
    injector.identity.awsRegion pod
  unfold complaints earlier
  cases pod.usesNetworkPlugin with
  | true =>
      refine ⟨_, rfl, fun bad => ⟨?_, notDaemon bad⟩⟩
      simp [notWished, notRate]
  | false =>
      refine ⟨_, List.append_assoc .., fun bad => ⟨List.not_mem_nil, ?_⟩⟩
      simp [notWished, notRate, notDaemon]

theorem firstOf_complaints_of_bad {bad : BadQuantity}
    (first : Quantity.FirstBad (pod.quantities injector.config.sidecar) bad) :
    firstOf (injector.complaints pod) =
      (firstOf (injector.earlier pod)).or (some (.badQuantity bad)) := by
  have sizing := (Pod.firstOf_sizingComplaints_eq_some_iff bad).mpr first
  rcases injector.complaints_split pod with ⟨late, whole, -⟩
  rw [whole, firstOf_append, firstOf_append, sizing, Option.or_assoc]
  rfl

theorem firstBad_of_complaints {bad : BadQuantity}
    (first : firstOf (injector.complaints pod) = some (.badQuantity bad)) :
    Quantity.FirstBad (pod.quantities injector.config.sidecar) bad := by
  rcases injector.complaints_split pod with ⟨late, whole, others⟩
  rw [whole] at first
  rw [← Pod.firstOf_sizingComplaints_eq_some_iff]
  exact firstOf_of_inner (others bad).1 (others bad).2 first

/-- The sidecars that have come into a pod, all with the same resources.  What writes the file
of a tracer has come with resources of its own. -/
structure SizedAlike (injector : Injector) (node : VirtualNode) (before after : Pod)
    (resources : Resources) : Prop where
  sized : before.Sized injector.config.sidecar resources
  containers : ∃ added, after.containers = before.containers ++ added ∧
    added.map Container.name = Artifact.envoy ::
      (if injector.config.tracing.xray.enabled then [Artifact.xrayDaemon] else []) ∧
    ∀ container ∈ added, container.resources = some resources
  initContainers : ∃ added, after.initContainers = before.initContainers ++ added ∧
    added.map Container.name =
      (if before.usesNetworkPlugin then [] else [Artifact.proxyInit]) ++
      (if showsTracing (.node node) before then []
        else Tracer.names injector.config.tracing) ∧
    ∀ container ∈ added, container.resources =
      some (if container.name = Artifact.proxyInit then resources else Tracer.resources)

theorem sizedAlike_of_success (noEnvoy : pod.hasContainer Artifact.envoy = false)
    (noDaemon : pod.hasContainer Artifact.xrayDaemon = false)
    (noInit : pod.hasInitContainer Artifact.proxyInit = false)
    (succeeds : (Step.run (injector.nodeSteps mesh node) pod).error = none) :
    ∃ resources,
      injector.SizedAlike node pod (Step.run (injector.nodeSteps mesh node) pod).pod resources := by
  rcases sizedFor_run injector mesh node pod with ⟨added, whole, sized⟩
  have names := names_of_absent noEnvoy noDaemon whole succeeds
  have initNames := (names_of_success whole succeeds).2
  have noInitName : Artifact.proxyInit ∉ pod.inventory.initContainers := by
    rw [Pod.mem_initContainers, noInit]
    exact Bool.false_ne_true
  rw [addedInitContainers, lacking_of_not_mem noInitName] at initNames
  -- Envoy has come, so the resources of the pod have been worked out.
  rcases List.map_eq_cons_iff.mp names with ⟨envoy, rest, isAdded, -, -⟩
  have envoyAdded : envoy ∈ added.containers := by
    rw [isAdded]
    exact List.mem_cons_self
  rcases sized.containers envoy envoyAdded with ⟨resources, worked, -⟩
  have alike : ∀ container : Container, container.SizedFor pod injector.config.sidecar →
      container.resources = some resources := by
    rintro container ⟨other, workedOther, has⟩
    rw [worked, Except.ok.injEq] at workedOther
    rw [has, workedOther]
  refine ⟨resources, Pod.sized_of_sidecarResources worked, ?_, ?_⟩
  · rw [whole]
    refine ⟨added.containers, Contribution.containers_addTo added pod, names, ?_⟩
    exact fun container member => alike container (sized.containers container member)
  · rw [whole]
    refine ⟨added.initContainers, Contribution.initContainers_addTo added pod, initNames, ?_⟩
    intro container member
    rcases sized.initContainers container member with ⟨redirects, has⟩ | ⟨other, has⟩
    · rw [if_pos redirects]
      exact alike container has
    · rw [if_neg other]
      exact has

/-- A pod without sidecars gets them all with the same resources.  For each quantity these
hold what the pod says about it, be it empty, or else what is configured.  Where one cannot
be used, the injection fails, and if no complaint of another kind comes up earlier, with the
first of those that cannot. -/
theorem sized_alike (injector : Injector) (mesh : Mesh) (node : VirtualNode) {pod : Pod}
    (wanted : injector.shouldInject pod) (noEnvoy : pod.hasContainer Artifact.envoy = false)
    (noDaemon : pod.hasContainer Artifact.xrayDaemon = false)
    (noInit : pod.hasInitContainer Artifact.proxyInit = false) :
    let outcome := injector.inject mesh (.node node) pod
    let quantities := pod.quantities injector.config.sidecar
    (outcome.error = none → ∃ resources, injector.SizedAlike node pod outcome.pod resources) ∧
    ((∃ quantity ∈ quantities, ¬ Quantity.Usable quantity) →
      ∃ bad, Quantity.FirstBad quantities bad ∧
        outcome.error = (firstOf (injector.earlier pod)).or (some (.badQuantity bad))) ∧
    ∀ bad, outcome.error = some (.badQuantity bad) → Quantity.FirstBad quantities bad := by
  intro outcome quantities
  have ran : outcome = Step.run (injector.nodeSteps mesh node) pod := if_pos wanted
  have error : outcome.error = firstOf (injector.complaints pod) := by
    rw [ran]
    exact injector.error_run_nodeSteps mesh node noEnvoy noDaemon noInit
  refine ⟨?_, ?_, ?_⟩
  · intro succeeds
    rw [ran] at succeeds ⊢
    exact sizedAlike_of_success noEnvoy noDaemon noInit succeeds
  · rintro ⟨quantity, listed, unusable⟩
    cases found : firstOf (quantities.map Quantity.bad?) with
    | none =>
        have fine := (firstOf_eq_none _).mp found _ (List.mem_map_of_mem listed)
        exact absurd ((Quantity.bad?_eq_none quantity).mp fine) unusable
    | some bad =>
        have first := (Quantity.firstOf_bad?_eq_some_iff quantities bad).mp found
        exact ⟨bad, first, error.trans (firstOf_complaints_of_bad first)⟩
  · intro bad failed
    exact firstBad_of_complaints (error.symm.trans failed)

/-- A pod that asks for half a processor and for no memory, whatever is configured. -/
def Example.hungry : Pod :=
  (Pod.empty.annotate Annotations.cpuRequest "500m").annotate Annotations.memoryRequest ""

/-- With X-Ray and an init container three sidecars come.  A pod that says nothing gets what is
configured.  What a pod asks for counts instead, and an empty annotation leaves out the memory
that is configured, while the limit stays as it is.  A pod that asks for a unit that is none
is refused for that. -/
theorem sized_alike_hungry :
    let config : Config :=
      { sidecar := { memoryLimits := some "128Mi" }, tracing := { xray := { enabled := true } } }
    let injector : Injector := ⟨config, { awsRegion := "us-west-2" }, by decide⟩
    let mesh : Mesh := ⟨"mesh", "mesh", none⟩
    let node : VirtualNode := { name := "node", namespaceName := "default" }
    let refused := Example.hungry.annotate Annotations.memoryLimit "1 GiB"
    (injector.inject mesh (.node node) .empty).error = none ∧
    (∃ resources, injector.SizedAlike node .empty
        (injector.inject mesh (.node node) .empty).pod resources ∧
      (resources.requests.bind fun list => list.get? "cpu") = some "10m" ∧
      (resources.requests.bind fun list => list.get? "memory") = some "32Mi" ∧
      (resources.limits.bind fun list => list.get? "cpu") = none ∧
      (resources.limits.bind fun list => list.get? "memory") = some "128Mi") ∧
    (injector.inject mesh (.node node) Example.hungry).error = none ∧
    (∃ resources, injector.SizedAlike node Example.hungry
        (injector.inject mesh (.node node) Example.hungry).pod resources ∧
      (resources.requests.bind fun list => list.get? "cpu") = some "500m" ∧
      (resources.requests.bind fun list => list.get? "memory") = none ∧
      (resources.limits.bind fun list => list.get? "memory") = some "128Mi") ∧
    (injector.inject mesh (.node node) refused).error =
      some (.badQuantity ⟨"1 GiB", .suffix⟩) := by
  intro config injector mesh node refused
  have succeeds : ∀ pod : Pod, injector.shouldInject pod → pod.hasContainer Artifact.envoy = false →
      pod.hasContainer Artifact.xrayDaemon = false →
      pod.hasInitContainer Artifact.proxyInit = false →
      firstOf (injector.complaints pod) = none →
      (injector.inject mesh (.node node) pod).error = none := by
    intro pod wanted noEnvoy noDaemon noInit content
    simp only [inject, if_pos wanted]
    exact (injector.error_run_nodeSteps _ _ noEnvoy noDaemon noInit).trans content
  have plainSizes := @sized_alike injector mesh node .empty (by decide) (by decide) (by decide)
    (by decide)
  have plainSucceeds := succeeds .empty (by decide) (by decide) (by decide) (by decide) (by decide)
  have hungrySizes := @sized_alike injector mesh node Example.hungry (by decide) (by decide)
    (by decide) (by decide)
  have hungrySucceeds := succeeds Example.hungry (by decide) (by decide) (by decide) (by decide)
    (by decide)
  have refusal := @sized_alike injector mesh node refused (by decide) (by decide) (by decide)
    (by decide)
  refine ⟨plainSucceeds, ?_, hungrySucceeds, ?_, ?_⟩
  · rcases plainSizes.1 plainSucceeds with ⟨resources, alike⟩
    have requests := alike.sized.requests
    have limits := alike.sized.limits
    exact ⟨resources, alike, requests.ofCpu.trans (by decide), requests.ofMemory.trans (by decide),
      limits.ofCpu.trans (by decide), limits.ofMemory.trans (by decide)⟩
  · rcases hungrySizes.1 hungrySucceeds with ⟨resources, alike⟩
    have requests := alike.sized.requests
    exact ⟨resources, alike, requests.ofCpu.trans (by decide), requests.ofMemory.trans (by decide),
      alike.sized.limits.ofMemory.trans (by decide)⟩
  · have unusable : ∃ quantity ∈ refused.quantities config.sidecar,
        ¬ Quantity.Usable quantity := by
      refine ⟨some "1 GiB", by decide, ?_⟩
      rw [← Quantity.bad?_eq_none]
      decide
    rcases refusal.2.1 unusable with ⟨bad, first, failed⟩
    have isFirst := (Quantity.firstOf_bad?_eq_some_iff _ bad).mpr first
    have known : firstOf ((refused.quantities config.sidecar).map Quantity.bad?) =
        some ⟨"1 GiB", .suffix⟩ := by
      decide
    have noneEarlier : firstOf (injector.earlier refused) = none := by
      decide
    rw [known, Option.some_inj] at isFirst
    rw [failed, noneEarlier, ← isFirst]
    rfl

end Injector

end MeshSidecar
