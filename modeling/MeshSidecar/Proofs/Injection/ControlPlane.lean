import MeshSidecar.Proofs.Injection.Socket

namespace MeshSidecar

/-!
# What a proxy is told about the control plane

Envoy of a node is defined with all of its environment.  Envoy of a gateway is declared by
a deployment, and the variables that concern the control plane are put into its
environment.  The two definitions are written apart, and have to agree in these variables.

What is put into a declared environment takes the place of the first entry of its name.
A process reads the last one, so a deployment that declares a variable more than once
keeps its own value.
-/

open EnvVar

namespace ControlPlane

/-- The variable in which a proxy finds the name by which it introduces itself. -/
def nameVariable : String := "APPMESH_VIRTUAL_NODE_NAME"

/-- The variables that hold the same for a node and for a gateway. -/
def settings : List String := ["APPMESH_PREVIEW", "ENVOY_LOG_LEVEL", "AWS_REGION"]

/-- The variables that every proxy is told. -/
def always : List String := nameVariable :: settings

end ControlPlane

/-! ## The variables of a gateway -/

namespace Gateway.Variables

section

variable (vars : Variables)

theorem isSome_get?_always : ∀ name ∈ ControlPlane.always,
    ((SortedMap.ofList vars.assignments).get? name).isSome := by
  intro name member
  rw [Document.get?_ofList, assignments]
  simp only [ControlPlane.always, ControlPlane.settings, ControlPlane.nameVariable, List.mem_cons,
    List.not_mem_nil, or_false] at member
  cases vars.sdsPath.filter fun path => path != "" with
  | none => rcases member with rfl | rfl | rfl | rfl <;> rfl
  | some path => rcases member with rfl | rfl | rfl | rfl <;> rfl

theorem get?_of_other {name : String} (other : name ∉ ControlPlane.always)
    (notPath : name ≠ Sds.pathVariable) :
    (SortedMap.ofList vars.assignments).get? name = none := by
  rw [Document.get?_ofList]
  apply (Document.find?_eq_none_iff _ _).mpr
  intro entry member
  rw [assignments, List.mem_append] at member
  rcases member with told | path
  · intro same
    have isTold : entry.1 ∈ ControlPlane.always := List.mem_map.mpr ⟨entry, told, rfl⟩
    rw [same] at isTold
    exact other isTold
  · rcases List.mem_map.mp path with ⟨path, used, rfl⟩
    exact Ne.symm notPath

/-- A gateway is given the variables that every proxy is told, and a path that is not
empty. -/
theorem isSome_get?_iff (name : String) : ((SortedMap.ofList vars.assignments).get? name).isSome ↔
    name ∈ ControlPlane.always ∨
      name = Sds.pathVariable ∧ ∃ path, vars.sdsPath = some path ∧ path ≠ "" := by
  by_cases told : name ∈ ControlPlane.always
  · simp [told, vars.isSome_get?_always name told]
  · by_cases isPath : name = Sds.pathVariable
    · rw [isPath, get?_assignments, Option.isSome_filter]
      rw [isPath] at told
      simp [told, Option.any_eq_true]
    · simp [told, isPath, vars.get?_of_other told isPath]

theorem get?_nameVariable :
    (SortedMap.ofList vars.assignments).get? ControlPlane.nameVariable = some vars.proxyName := by
  rw [Document.get?_ofList, assignments]
  cases vars.sdsPath.filter fun path => path != "" with
  | none => rfl
  | some path => rfl

/-- The name of the proxy shows in no other variable. -/
theorem get?_rename {name : String} (other : name ≠ ControlPlane.nameVariable)
    (proxyName : String) :
    (SortedMap.ofList { vars with proxyName }.assignments).get? name =
      (SortedMap.ofList vars.assignments).get? name := by
  have apart : ControlPlane.nameVariable ≠ name := Ne.symm other
  have renamed : ∀ (proxyName : String) (rest : List (String × String)),
      Document.find? name ((ControlPlane.nameVariable, proxyName) :: rest) =
        Document.find? name rest := by
    intro proxyName rest
    rw [Document.find?, if_neg apart, Option.or_none]
  rw [Document.get?_ofList, Document.get?_ofList]
  exact (renamed proxyName _).trans (renamed vars.proxyName _).symm

end

end Gateway.Variables

/-! ## The variables of a node -/

namespace Envoy.Variables

section

variable (vars : Variables)

/-- Of what Envoy of a node is told, that which Envoy of a gateway is told as well. -/
def controlPlane : Gateway.Variables where
  proxyName := vars.proxyName
  preview := vars.preview
  logLevel := vars.logLevel
  region := vars.region
  sdsPath := vars.sdsPath

/-- The entries under a name that a gateway would be given. -/
def givenEntries (name : String) : List EnvVar :=
  ((SortedMap.ofList vars.controlPlane.assignments).get? name).toList.map (.given name)

theorem not_mem_reportNames : ∀ name ∈ ControlPlane.always, name ∉ reportNames := by
  decide

theorem named_always : ∀ name ∈ ControlPlane.always,
    named name vars.environment = vars.givenEntries name := by
  intro name member
  rcases vars.named_reports (not_mem_reportNames name member) with ⟨xray, datadog, statsd⟩
  rw [givenEntries, Document.get?_ofList, Gateway.Variables.assignments]
  simp only [ControlPlane.always, ControlPlane.settings, ControlPlane.nameVariable, List.mem_cons,
    List.not_mem_nil, or_false] at member
  simp only [environment, named_append, named_ite, xray, datadog, statsd]
  rcases member with rfl | rfl | rfl | rfl
  all_goals
    rw [named_optional_of_ne (by decide), named_optional_of_ne (by decide),
      named_optional_of_ne (by decide), named_optional_of_ne (by decide)]
    cases vars.controlPlane.sdsPath.filter fun path => path != "" with
    | none => simp [named, given, ofField, adminPortVariable, Document.find?, controlPlane]
    | some path => simp [named, given, ofField, adminPortVariable, Document.find?, controlPlane]

theorem variables_nameVariable :
    vars.container.variables ControlPlane.nameVariable =
      [.given ControlPlane.nameVariable vars.proxyName] := by
  refine (vars.named_always ControlPlane.nameVariable List.mem_cons_self).trans ?_
  rw [givenEntries, Gateway.Variables.get?_nameVariable]
  rfl

theorem named_path :
    named Sds.pathVariable vars.environment = vars.givenEntries Sds.pathVariable := by
  refine vars.named_sdsPath.trans ?_
  rw [givenEntries, Gateway.get?_assignments]
  have path : vars.controlPlane.sdsPath = vars.sdsPath := rfl
  rw [path]
  cases vars.sdsPath with
  | none => rfl
  | some path =>
      rw [EnvVar.optional, Option.filter_some]
      by_cases empty : path = ""
      · simp [empty]
      · simp [empty, Sds.pathVariable]

end

/-- Pods with the same annotations are told the same, be they of a node or of a gateway. -/
theorem controlPlane_ofPod (config : Config) (identity : Identity) (mesh : Mesh)
    (node : VirtualNode) (gateway : VirtualGateway) {nodePod gatewayPod : Pod}
    (sameAnnotations : ∀ key, nodePod.annotation? key = gatewayPod.annotation? key) :
    (ofPod config identity mesh node nodePod).controlPlane =
      { Gateway.Variables.ofPod config identity mesh gateway gatewayPod with
        proxyName := node.proxyName mesh identity.accountId } := by
  have same : Pod.AsksSame gatewayPod nodePod := fun key _ => sameAnnotations key
  have preview := same.usesPreview config.envoy
  have path := same.sdsPath config.envoy
  simp only [controlPlane, ofPod, Gateway.Variables.ofPod, preview, path]

end Envoy.Variables

/-! ## Agreement -/

namespace ControlPlane

theorem nameVariable_not_mem : nameVariable ∉ settings := by
  decide

/-- The start of the names by which the proxies of a mesh introduce themselves. -/
def scope (mesh : Mesh) (accountId : String) : String :=
  "mesh/" ++ mesh.nameFrom accountId ++ "/"

/-- What a container of a node is defined with and what is given to one of a gateway agree:
each is told the name that it has in the mesh, and all else is the same. -/
structure Agrees (mesh : Mesh) (accountId : String) (node : VirtualNode) (gateway : VirtualGateway)
    (defined : Container) (given : SortedMap String) : Prop where
  settings : ∀ name ∈ settings, ∃ value,
    defined.variables name = [.given name value] ∧ given.get? name = some value
  path : defined.variables Sds.pathVariable =
    (given.get? Sds.pathVariable).toList.map (.given Sds.pathVariable)
  nodeName : defined.variables nameVariable = [.given nameVariable
    (scope mesh accountId ++ ("virtualNode/" ++ node.resolvedAwsName))]
  gatewayName : given.get? nameVariable =
    some (scope mesh accountId ++ ("virtualGateway/" ++ gateway.resolvedAwsName))

theorem scope_append (mesh : Mesh) (accountId kind name : String) :
    scope mesh accountId ++ (kind ++ name) =
      "mesh/" ++ mesh.nameFrom accountId ++ ("/" ++ kind) ++ name := by
  simp only [scope, String.append_assoc]

theorem agrees_of_annotations (config : Config) (identity : Identity) (mesh : Mesh)
    (node : VirtualNode) (gateway : VirtualGateway) {nodePod gatewayPod : Pod}
    (sameAnnotations : ∀ key, nodePod.annotation? key = gatewayPod.annotation? key) :
    Agrees mesh identity.accountId node gateway
      (Envoy.Variables.ofPod config identity mesh node nodePod).container
      (.ofList (Gateway.Variables.ofPod config identity mesh gateway gatewayPod).assignments) := by
  have plane := Envoy.Variables.controlPlane_ofPod config identity mesh node gateway sameAnnotations
  constructor
  case settings =>
    intro name member
    have told : name ∈ always := List.mem_cons_of_mem _ member
    have other : name ≠ nameVariable := fun same => nameVariable_not_mem (same ▸ member)
    have given := Gateway.Variables.isSome_get?_always
      (Gateway.Variables.ofPod config identity mesh gateway gatewayPod) name told
    rcases Option.isSome_iff_exists.mp given with ⟨value, given⟩
    refine ⟨value, ?_, given⟩
    refine (Envoy.Variables.named_always _ name told).trans ?_
    rw [Envoy.Variables.givenEntries, plane, Gateway.Variables.get?_rename _ other, given]
    rfl
  case path =>
    refine (Envoy.Variables.named_path _).trans ?_
    rw [Envoy.Variables.givenEntries, plane, Gateway.Variables.get?_rename _ (by decide)]
  case nodeName =>
    rw [Envoy.Variables.variables_nameVariable, scope_append]
    rfl
  case gatewayName =>
    rw [Gateway.Variables.get?_nameVariable, scope_append]
    rfl

end ControlPlane

/-! ## Variables that are filled in -/

namespace Gateway

theorem variables_fill (given : SortedMap String) (image missing : Option String)
    (declared : Container) (name : String) :
    (fill given image missing declared).variables name =
      match given.get? name with
      | none => declared.variables name
      | some value => .given name value :: (declared.variables name).drop 1 :=
  named_overrideEnv name given (declared.env.getD [])

/-- A variable that is given, in a container that had declared it.  The value comes first,
and what was declared behind the first entry of the name stays behind it.  So the name has
this value alone, or for the process that reads the last entry, as far as this holds for
what was declared behind the first entry. -/
structure Overridden (name value : String) (declared envoy : Container) : Prop where
  entries : envoy.variables name = .given name value :: (declared.variables name).drop 1
  single : (declared.variables name).length ≤ 1 → envoy.variables name = [.given name value]
  complete : (∀ var ∈ envoy.variables name, var.value = some value ∧ var.valueFrom = none) ↔
    ∀ var ∈ (declared.variables name).drop 1, var.value = some value ∧ var.valueFrom = none
  effective : (envoy.variables name).getLast? = some (.given name value) ↔
    (declared.variables name).length ≤ 1 ∨
      (declared.variables name).getLast? = some (.given name value)

theorem Overridden.of_entries {name value : String} {declared envoy : Container}
    (entries : envoy.variables name = .given name value :: (declared.variables name).drop 1) :
    Overridden name value declared envoy where
  entries := entries
  single := by
    intro once
    rw [entries, List.drop_eq_nil_of_le once]
  complete := by
    rw [entries, List.forall_mem_cons]
    exact and_iff_right ⟨rfl, rfl⟩
  effective := by
    rw [entries]
    cases declared.variables name with
    | nil => simp
    | cons first later =>
      cases later with
      | nil => simp
      | cons second later => simp

theorem overridden_of_apply {config : Config} {identity : Identity} {mesh : Mesh}
    {gateway : VirtualGateway} {pod changed : Pod} {declared : Container}
    (found : declared? pod = some declared)
    (applied : apply config identity mesh gateway pod = .ok changed) :
    ∃ envoy, declared? changed = some envoy ∧ ∀ name,
      match (SortedMap.ofList (Variables.ofPod config identity mesh gateway pod).assignments).get?
        name with
      | none => envoy.variables name = declared.variables name
      | some value => Overridden name value declared envoy := by
  rcases of_apply applied with ⟨none, rfl⟩ | ⟨other, image, isDeclared, allowed, rfl⟩
  · rw [none] at found
    cases found
  · rw [isDeclared, Option.some_inj] at found
    subst found
    refine ⟨_, declared?_filled isDeclared _ image _, ?_⟩
    intro name
    have filled := variables_fill
      (.ofList (Variables.ofPod config identity mesh gateway pod).assignments) image
      (Sds.missingPath? config.envoy pod) other name
    cases given : (SortedMap.ofList
        (Variables.ofPod config identity mesh gateway pod).assignments).get? name with
    | none =>
        rw [given] at filled
        exact filled
    | some value =>
        rw [given] at filled
        exact Overridden.of_entries filled

/-- A pod that declares a container for Envoy with an environment and leaves the image to
the injector. -/
def declaring (env : List EnvVar) : Pod :=
  Pod.empty.addContainer
    { name := Artifact.envoy, image := some Artifact.imagePlaceholder, command := none
      args := none, env := some env, volumeMounts := none, resources := none
      readinessProbe := none, rest := [] }

end Gateway

namespace Step

/-- A node and a gateway whose pods have the same annotations are told the same about the
control plane.  Envoy of the node has what it is defined with, and Envoy of the gateway has
what is given to it, as the first entry of each name. -/
theorem controlPlane_agrees (config : Config) (identity : Identity) (mesh : Mesh)
    (node : VirtualNode) (gateway : VirtualGateway)
    {nodePod nodeChanged gatewayPod gatewayChanged : Pod}
    (sameAnnotations : ∀ key, nodePod.annotation? key = gatewayPod.annotation? key)
    (absent : nodePod.hasContainer Artifact.envoy = false)
    (declares : gatewayPod.hasContainer Artifact.envoy)
    (injected : (Step.envoy config identity mesh node).apply nodePod = .ok nodeChanged)
    (filled : (Step.gateway config identity mesh gateway).apply gatewayPod = .ok gatewayChanged) :
    ∃ defined given,
      Template.container "envoy" Envoy.definition
        (Envoy.Variables.ofPod config identity mesh node nodePod).toJson = .ok defined ∧
      Gateway.environment (.ofPod config identity mesh gateway gatewayPod) = .ok given ∧
      ControlPlane.Agrees mesh identity.accountId node gateway defined given ∧
      (∃ envoy, nodeChanged.containers = nodePod.containers ++ [envoy] ∧
        ∀ name, defined.variables name ≠ [] →
          envoy.variables name = defined.variables name) ∧
      ∃ envoy, Gateway.declared? gatewayChanged = some envoy ∧
        ∀ name value, given.get? name = some value →
          (envoy.variables name).head? = some (.given name value) := by
  refine ⟨_, _, Envoy.Variables.container_definition _ _,
    Gateway.Variables.environment_definition _,
    ControlPlane.agrees_of_annotations config identity mesh node gateway sameAnnotations, ?_, ?_⟩
  · rcases Envoy.of_apply injected with ⟨present, -⟩ | ⟨-, wished, resources, wanted, -, rfl⟩
    · rw [present] at absent
      cases absent
    · rw [← Contribution.addTo_container]
      refine ⟨_, Contribution.containers_addTo _ nodePod, ?_⟩
      intro name defines
      exact (Envoy.variables_built config identity mesh node nodePod wished resources name).trans
        (if_neg defines)
  · obtain ⟨declared, found⟩ : ∃ declared, Gateway.declared? gatewayPod = some declared := by
      rw [← Option.isSome_iff_exists, Gateway.declared?, List.find?_isSome]
      exact List.any_eq_true.mp declares
    rcases Gateway.overridden_of_apply found filled with ⟨envoy, kept, overridden⟩
    refine ⟨envoy, kept, ?_⟩
    intro name value given
    have told := overridden name
    rw [given] at told
    rw [told.entries, List.head?_cons]

/-- A node and a gateway agree whose pods ask for the preview and have the socket. -/
theorem controlPlane_agrees_of_preview :
    let config : Config := { envoy := { enableSds := true } }
    let mesh : Mesh := ⟨"mesh", "mesh", some "2222"⟩
    let identity : Identity := { accountId := "1111", awsRegion := "us-west-2" }
    let node : VirtualNode := { name := "node", namespaceName := "default" }
    let gateway : VirtualGateway := { name := "gateway", namespaceName := "default" }
    let nodePod := Pod.empty.annotate Annotations.preview Annotations.enabled
    let gatewayPod := (Gateway.declaring []).annotate Annotations.preview Annotations.enabled
    (∀ key, nodePod.annotation? key = gatewayPod.annotation? key) ∧
    nodePod.hasContainer Artifact.envoy = false ∧ gatewayPod.hasContainer Artifact.envoy ∧
    ∃ nodeChanged gatewayChanged,
      (Step.envoy config identity mesh node).apply nodePod = .ok nodeChanged ∧
      (Step.gateway config identity mesh gateway).apply gatewayPod = .ok gatewayChanged ∧
      ∃ defined given, ControlPlane.Agrees mesh identity.accountId node gateway defined given ∧
        given.get? "APPMESH_PREVIEW" = some "1" ∧
        given.get? Sds.pathVariable = some config.envoy.sdsUdsPath := by
  intro config mesh identity node gateway nodePod gatewayPod
  have same : ∀ key, nodePod.annotation? key = gatewayPod.annotation? key := fun _ => rfl
  have absent : nodePod.hasContainer Artifact.envoy = false := by
    decide
  have declares : gatewayPod.hasContainer Artifact.envoy := by
    decide
  obtain ⟨nodeChanged, injected⟩ : ∃ changed,
      (Step.envoy config identity mesh node).apply nodePod = .ok changed :=
    ⟨_, (Envoy.apply_of_absent absent).trans rfl⟩
  obtain ⟨gatewayChanged, filled⟩ : ∃ changed,
      (Step.gateway config identity mesh gateway).apply gatewayPod = .ok changed :=
    ⟨_, (Gateway.apply_eq ..).trans rfl⟩
  rcases controlPlane_agrees config identity mesh node gateway same absent declares injected
    filled with ⟨defined, given, -, rendered, agrees, -, -⟩
  rw [Gateway.Variables.environment_definition, Except.ok.injEq] at rendered
  refine ⟨same, absent, declares, nodeChanged, gatewayChanged, injected, filled, defined, given,
    agrees, ?_, ?_⟩
  · rw [← rendered, Document.get?_ofList]
    decide
  · rw [← rendered, Document.get?_ofList]
    decide

/-- What is given to Envoy of a gateway takes the place of the first entry of its name, or
is put behind all others where there is none.  Nothing else in the environment changes. -/
theorem gateway_overrides_first (config : Config) (identity : Identity) (mesh : Mesh)
    (gateway : VirtualGateway) {pod changed : Pod} {declared : Container}
    (found : Gateway.declared? pod = some declared)
    (applied : (Step.gateway config identity mesh gateway).apply pod = .ok changed) :
    ∃ envoy given, Gateway.declared? changed = some envoy ∧
      Gateway.environment (.ofPod config identity mesh gateway pod) = .ok given ∧
      (∀ name, (given.get? name).isSome ↔ name ∈ ControlPlane.always ∨
        name = Sds.pathVariable ∧ ∃ path, Sds.path? config.envoy pod = some path ∧ path ≠ "") ∧
      (∀ name value, given.get? name = some value →
        Gateway.Overridden name value declared envoy) ∧
      ∀ name, given.get? name = none → envoy.variables name = declared.variables name := by
  rcases Gateway.overridden_of_apply found applied with ⟨envoy, kept, overridden⟩
  refine ⟨envoy, _, kept, Gateway.Variables.environment_definition _,
    Gateway.Variables.isSome_get?_iff _, ?_, ?_⟩
  · intro name value given
    have told := overridden name
    rw [given] at told
    exact told
  · intro name spared
    have told := overridden name
    rw [spared] at told
    exact told

/-- A variable that is declared once gets the value that is given, wherever its own value
would have come from. -/
theorem gateway_overrides_declared :
    let env : List EnvVar := [.ofField "AWS_REGION" "metadata.annotations", .given "MODE" "edge"]
    let identity : Identity := { awsRegion := "us-west-2" }
    ∃ declared changed, Gateway.declared? (Gateway.declaring env) = some declared ∧
      (Step.gateway {} identity ⟨"mesh", "mesh", none⟩
        { name := "gateway", namespaceName := "default" }).apply (Gateway.declaring env) =
          .ok changed ∧
      ∃ envoy, Gateway.declared? changed = some envoy ∧
        envoy.variables "AWS_REGION" = [.given "AWS_REGION" "us-west-2"] ∧
        envoy.variables "MODE" = [.given "MODE" "edge"] := by
  intro env identity
  obtain ⟨declared, found⟩ : ∃ declared,
      Gateway.declared? (Gateway.declaring env) = some declared ∧ declared.env = some env :=
    ⟨_, rfl, rfl⟩
  obtain ⟨changed, applied⟩ : ∃ changed, (Step.gateway {} identity ⟨"mesh", "mesh", none⟩
      { name := "gateway", namespaceName := "default" }).apply (Gateway.declaring env) =
        .ok changed :=
    ⟨_, (Gateway.apply_eq ..).trans rfl⟩
  rcases gateway_overrides_first {} identity ⟨"mesh", "mesh", none⟩ _ found.1 applied with
    ⟨envoy, given, kept, rendered, -, overridden, spared⟩
  rw [Gateway.Variables.environment_definition, Except.ok.injEq] at rendered
  have region : given.get? "AWS_REGION" = some "us-west-2" := by
    rw [← rendered, Document.get?_ofList]
    decide
  have mode : given.get? "MODE" = none := by
    rw [← rendered, Document.get?_ofList]
    decide
  have once : (declared.variables "AWS_REGION").length ≤ 1 := by
    rw [Container.variables, found.2]
    decide
  refine ⟨declared, changed, found.1, applied, envoy, kept,
    (overridden "AWS_REGION" _ region).single once, ?_⟩
  rw [spared "MODE" mode, Container.variables, found.2]
  decide

/-- A variable that is declared twice keeps the value of its last entry. -/
theorem gateway_not_overrides_repeated :
    let env : List EnvVar := [.given "AWS_REGION" "first", .given "AWS_REGION" "last"]
    let identity : Identity := { awsRegion := "us-west-2" }
    let mesh : Mesh := ⟨"mesh", "mesh", none⟩
    let gateway : VirtualGateway := { name := "gateway", namespaceName := "default" }
    ∃ changed envoy given,
      (Step.gateway {} identity mesh gateway).apply (Gateway.declaring env) = .ok changed ∧
      Gateway.declared? changed = some envoy ∧
      Gateway.environment (.ofPod {} identity mesh gateway (Gateway.declaring env)) = .ok given ∧
      given.get? "AWS_REGION" = some "us-west-2" ∧
      (∃ var ∈ envoy.variables "AWS_REGION", var.value ≠ some "us-west-2") ∧
      (envoy.variables "AWS_REGION").getLast? = some (.given "AWS_REGION" "last") := by
  intro env identity mesh gateway
  obtain ⟨declared, found⟩ : ∃ declared,
      Gateway.declared? (Gateway.declaring env) = some declared ∧ declared.env = some env :=
    ⟨_, rfl, rfl⟩
  obtain ⟨changed, applied⟩ : ∃ changed,
      (Step.gateway {} identity mesh gateway).apply (Gateway.declaring env) = .ok changed :=
    ⟨_, (Gateway.apply_eq ..).trans rfl⟩
  rcases Gateway.overridden_of_apply found.1 applied with ⟨envoy, kept, overridden⟩
  have given : (SortedMap.ofList (Gateway.Variables.ofPod {} identity mesh gateway
      (Gateway.declaring env)).assignments).get? "AWS_REGION" = some "us-west-2" := by
    rw [Document.get?_ofList]
    decide
  have told := overridden "AWS_REGION"
  rw [given] at told
  have entries : envoy.variables "AWS_REGION" =
      [.given "AWS_REGION" "us-west-2", .given "AWS_REGION" "last"] := by
    rw [told.entries, Container.variables, found.2]
    decide
  refine ⟨changed, envoy, _, applied, kept, Gateway.Variables.environment_definition _, given, ?_,
    ?_⟩
  · rw [entries]
    exact ⟨_, List.mem_cons_of_mem _ List.mem_cons_self, by decide⟩
  · rw [entries]
    rfl

end Step

end MeshSidecar
