import MeshSidecar.Proofs.Injection.Contribution
import MeshSidecar.Proofs.Injection.Environment

namespace MeshSidecar

/-!
# How Envoy is put together

Envoy of a node comes from a definition and from three lists that its pod gives in
annotations.  The lists are in the order of whoever wrote them and may name one thing twice;
what becomes of them is sorted and has each name once.  The definition has each name once as
well, which takes a look at all its variables together, since most of them depend on
conditions of their own.
-/

open EnvVar

/-! ## Lists of pairs -/

/-- Of the pairs in a list the last with each left part, in the order of left parts. -/
structure LastPairs (listed entries : List (String × String)) : Prop where
  ascending : SortedMap.Ascending entries
  mem_iff : ∀ entry, entry ∈ entries ↔
    ∃ early late, listed = early ++ entry :: late ∧ ∀ other ∈ late, other.1 ≠ entry.1

theorem lastPairs_ofList (listed : List (String × String)) :
    LastPairs listed (SortedMap.ofList listed).entries where
  ascending := (SortedMap.ofList listed).ascending
  mem_iff := by
    rintro ⟨name, value⟩
    rw [SortedMap.mem_entries_iff, Document.get?_ofList, Document.find?_eq_some_iff]

namespace Pod

/-- The pairs that a pod lists under `key`, as it lists them. -/
def listed? (pod : Pod) (key : String) (form : PairForm) : Option (List (String × String)) :=
  match pod.annotation? key with
  | none => some []
  | some value => (Text.splitOn ',' value.toList).mapM form.pair?

theorem listed_of_pairs {pod : Pod} {key : String} {form : PairForm} {pairs : SortedMap String}
    (succeeds : pod.pairs key form = .ok pairs) :
    ∃ listed, pod.listed? key form = some listed ∧ LastPairs listed pairs.entries := by
  rw [Pod.pairs] at succeeds
  rw [listed?]
  cases said : pod.annotation? key with
  | none =>
      rw [said] at succeeds
      cases succeeds
      exact ⟨[], rfl, lastPairs_ofList []⟩
  | some value =>
      simp only [said, PairForm.pairs?] at succeeds
      cases listed : (Text.splitOn ',' value.toList).mapM form.pair? with
      | none =>
          rw [listed] at succeeds
          cases succeeds
      | some entries =>
          rw [listed] at succeeds
          cases succeeds
          exact ⟨entries, listed, lastPairs_ofList entries⟩

end Pod

namespace Envoy

/-- The wishes are what a pod lists in its annotations. -/
structure Wishes.ListedBy (pod : Pod) (wished : Wishes) : Prop where
  secrets : ∃ listed, pod.listed? Annotations.secretMounts .secretMount = some listed ∧
    LastPairs listed wished.secrets.entries
  volumes : ∃ listed, pod.listed? Annotations.volumeMounts .volumeMount = some listed ∧
    LastPairs listed wished.volumes.entries
  env : ∃ listed, pod.listed? Annotations.sidecarEnv .assignment = some listed ∧
    LastPairs listed wished.env.entries

theorem listedBy_of_wishes {pod : Pod} {wished : Wishes} (wanted : wishes pod = .ok wished) :
    wished.ListedBy pod := by
  rcases of_wishes wanted with ⟨secrets, volumes, env⟩
  exact ⟨Pod.listed_of_pairs secrets, Pod.listed_of_pairs volumes, Pod.listed_of_pairs env⟩

end Envoy

/-! ## Distinct names -/

namespace EnvVar

/-- The names of an environment are among these, in this order. -/
def NamedAmong (names : List String) (env : List EnvVar) : Prop :=
  (env.map EnvVar.name).Sublist names

theorem NamedAmong.append {early late : List String} {env later : List EnvVar}
    (first : NamedAmong early env) (second : NamedAmong late later) :
    NamedAmong (early ++ late) (env ++ later) := by
  rw [NamedAmong, List.map_append]
  exact List.Sublist.append first second

theorem namedAmong_of_eq {names : List String} {env : List EnvVar}
    (same : env.map EnvVar.name = names) : NamedAmong names env := by
  subst same
  exact List.Sublist.refl _

theorem namedAmong_optional (name : String) (value : Option String) :
    NamedAmong [name] (optional name value) := by
  cases value with
  | none => exact List.nil_sublist _
  | some text =>
      rw [optional]
      split
      · exact List.nil_sublist _
      · exact namedAmong_of_eq rfl

theorem NamedAmong.ite {names : List String} {env : List EnvVar} (among : NamedAmong names env)
    (condition : Bool) : NamedAmong names (if condition then env else []) := by
  cases condition with
  | true => exact among
  | false => exact List.nil_sublist _

/-- Where names are distinct, a name has the entry that has it and no other. -/
theorem named_of_distinct {env : List EnvVar} (distinct : (env.map EnvVar.name).Nodup) :
    ∀ var ∈ env, named var.name env = [var] := by
  induction env with
  | nil => exact List.forall_mem_nil _
  | cons head rest ih =>
      rcases List.nodup_cons.mp distinct with ⟨notAgain, restDistinct⟩
      refine List.forall_mem_cons.mpr ⟨?_, ?_⟩
      · rw [named_cons_of_eq rfl, named_of_other]
        intro other member same
        exact notAgain (same ▸ List.mem_map_of_mem member)
      · intro var member
        rw [named_cons_of_ne, ih restDistinct var member]
        intro same
        exact notAgain (same ▸ List.mem_map_of_mem member)

/-- Entries under names that are free may be put anywhere. -/
theorem distinct_of_inserted {before after added : List EnvVar}
    (distinct : ((before ++ after).map EnvVar.name).Nodup)
    (addedDistinct : (added.map EnvVar.name).Nodup)
    (free : ∀ var ∈ added, ∀ other ∈ before ++ after, other.name ≠ var.name) :
    ((before ++ (added ++ after)).map EnvVar.name).Nodup := by
  have moved : (before ++ (added ++ after)).Perm ((before ++ after) ++ added) := by
    rw [List.append_assoc]
    exact List.perm_append_comm.append_left before
  rw [(moved.map EnvVar.name).nodup_iff, List.map_append, List.nodup_append]
  refine ⟨distinct, addedDistinct, ?_⟩
  intro name present other member same
  rcases List.mem_map.mp present with ⟨declared, isDeclared, rfl⟩
  rcases List.mem_map.mp member with ⟨var, isAdded, rfl⟩
  exact free var isAdded declared isDeclared same

end EnvVar

namespace Envoy.Variables

/-- All names under which Envoy may be told something by its definition. -/
def names : List String :=
  ["APPMESH_VIRTUAL_NODE_NAME", "APPMESH_PREVIEW", "ENVOY_LOG_LEVEL", adminPortVariable] ++
  ["ENVOY_ADMIN_ACCESS_LOG_FILE"] ++ ["ENVOY_TRACING_CFG_FILE"] ++ ["AWS_REGION"] ++
  ["APPMESH_SDS_SOCKET_PATH"] ++ ["APPMESH_PLATFORM_APP_MESH_CONTROLLER_VERSION"] ++
  ["APPMESH_PLATFORM_K8S_VERSION"] ++
  ["APPMESH_DUALSTACK_ENDPOINT", "ENVOY_ADMIN_ACCESS_ENABLE_IPV6", "APPMESH_FIPS_ENDPOINT"] ++
  xrayNames ++ datadogNames ++ ["ENABLE_ENVOY_STATS_TAGS"] ++ statsdNames ++
  ["APPMESH_PLATFORM_K8S_POD_UID"]

section

variable (vars : Variables)

theorem namedAmong_xray : NamedAmong xrayNames vars.xrayEnvironment :=
  ((namedAmong_optional "XRAY_SAMPLING_RATE" vars.xraySamplingRate).cons_cons _).cons_cons _

theorem namedAmong_datadog : NamedAmong datadogNames vars.datadogEnvironment := by
  apply namedAmong_of_eq
  rw [datadogEnvironment]
  cases vars.datadogOnHost with
  | true => rfl
  | false => rfl

theorem namedAmong_statsd : NamedAmong statsdNames vars.statsdEnvironment := by
  have socket := namedAmong_optional "STATSD_SOCKET_PATH" vars.statsdSocket
  rw [statsdEnvironment]
  cases vars.statsdOnHost with
  | true => exact ((socket.cons_cons _).cons_cons _).cons_cons _
  | false => exact ((socket.cons_cons _).cons_cons _).cons_cons _

theorem namedAmong_environment : NamedAmong names vars.environment := by
  have tracingFile : NamedAmong ["ENVOY_TRACING_CFG_FILE"]
      [.given "ENVOY_TRACING_CFG_FILE" vars.tracingFile] := namedAmong_of_eq rfl
  have statsTags : NamedAmong ["ENABLE_ENVOY_STATS_TAGS"]
      [.given "ENABLE_ENVOY_STATS_TAGS" "1"] := namedAmong_of_eq rfl
  refine .append ?_ (namedAmong_of_eq rfl)
  refine .append ?_ (vars.namedAmong_statsd.ite vars.statsd)
  refine .append ?_ (statsTags.ite vars.statsTags)
  refine .append ?_ (vars.namedAmong_datadog.ite vars.datadog)
  refine .append ?_ (vars.namedAmong_xray.ite vars.xray)
  refine .append ?_ (namedAmong_of_eq rfl)
  refine .append ?_ (namedAmong_optional _ _)
  refine .append ?_ (namedAmong_optional _ _)
  refine .append ?_ (namedAmong_optional _ _)
  refine .append ?_ (namedAmong_of_eq rfl)
  refine .append ?_ (tracingFile.ite vars.readsTracingFile)
  refine .append ?_ (namedAmong_optional _ _)
  exact namedAmong_of_eq rfl

theorem distinct_environment : (vars.environment.map EnvVar.name).Nodup := by
  have distinct : names.Nodup := by
    decide
  exact vars.namedAmong_environment.nodup distinct

/-- Three variables stand before the port for administration. -/
theorem environment_split : ∃ before after,
    vars.environment =
      before ++ .given adminPortVariable (Text.ofNat vars.adminPort.toNat) :: after ∧
    ∀ var ∈ before, var.name ≠ adminPortVariable := by
  simp only [environment, List.append_assoc, List.cons_append, List.nil_append]
  refine ⟨[.given "APPMESH_VIRTUAL_NODE_NAME" vars.proxyName,
    .given "APPMESH_PREVIEW" (Template.flagDigit vars.preview),
    .given "ENVOY_LOG_LEVEL" vars.logLevel], _, rfl, ?_⟩
  simp [EnvVar.given, adminPortVariable]

theorem named_adminPort : named adminPortVariable vars.environment =
    [.given adminPortVariable (Text.ofNat vars.adminPort.toNat)] := by
  rcases vars.environment_split with ⟨before, after, split, -⟩
  have member : .given adminPortVariable (Text.ofNat vars.adminPort.toNat) ∈
      vars.environment := by
    rw [split]
    exact List.mem_append_right before List.mem_cons_self
  exact named_of_distinct vars.distinct_environment
    (.given adminPortVariable (Text.ofNat vars.adminPort.toNat)) member

end

end Envoy.Variables

/-! ## What the pod adds -/

namespace Envoy

/-- Variables are put right behind the first one of a name. -/
theorem insertAfter_append {name : String} {before after : List EnvVar} {anchor : EnvVar}
    (apart : ∀ var ∈ before, var.name ≠ name) (isAnchor : anchor.name = name)
    (added : List EnvVar) :
    insertAfter name added (before ++ anchor :: after) =
      before ++ anchor :: (added ++ after) := by
  induction before with
  | nil => rw [List.nil_append, insertAfter, if_pos isAnchor, List.nil_append, List.cons_append]
  | cons head before ih =>
      rcases List.forall_mem_cons.mp apart with ⟨notHead, others⟩
      rw [List.cons_append, insertAfter, if_neg notHead, ih others, List.cons_append]

/-- An environment to which a pod has added variables of its own: those under other names,
in the order of names, behind the port for administration.  Each name has one entry. -/
structure Extended (custom : SortedMap String) (own env : List EnvVar) : Prop where
  inserted : ∃ before anchor after entries, own = before ++ anchor :: after ∧
    anchor.name = adminPortVariable ∧ MissingIn custom own entries ∧
    env = before ++ anchor :: (entries.map (fun entry => .given entry.1 entry.2) ++ after)
  distinct : (env.map EnvVar.name).Nodup
  kept : ∀ var ∈ own, named var.name env = [var]

theorem mergeEnv_append (custom : SortedMap String) {before : List EnvVar} {anchor : EnvVar}
    (after : List EnvVar) (apart : ∀ var ∈ before, var.name ≠ adminPortVariable)
    (isAnchor : anchor.name = adminPortVariable) :
    mergeEnv custom (some (before ++ anchor :: after)) = some
      (before ++ anchor :: (unclaimed custom (before ++ anchor :: after) ++ after)) := by
  rw [mergeEnv, Option.getD_some]
  cases isEmpty : custom.isEmpty with
  | true =>
      have nothing : unclaimed custom (before ++ anchor :: after) = [] := by
        rw [unclaimed, List.isEmpty_iff.mp isEmpty]
        rfl
      rw [nothing]
      rfl
  | false => exact congrArg some (insertAfter_append apart isAnchor _)

theorem extended_mergeEnv (custom : SortedMap String) (vars : Variables) :
    ∃ env, mergeEnv custom (some vars.environment) = some env ∧
      Extended custom vars.environment env := by
  have distinct := vars.distinct_environment
  have isAnchor : (EnvVar.given adminPortVariable (Text.ofNat vars.adminPort.toNat)).name =
      adminPortVariable := rfl
  rcases vars.environment_split with ⟨before, after, split, apart⟩
  rcases unclaimed_missing custom vars.environment with ⟨entries, added, missing⟩
  have merged := mergeEnv_append custom after apart isAnchor
  rw [← split, added] at merged
  refine ⟨_, merged, ⟨before, _, after, entries, split, isAnchor, missing, rfl⟩, ?_, ?_⟩
  · rw [split, List.append_cons] at distinct
    rw [List.append_cons]
    apply distinct_of_inserted distinct
    · rw [List.map_map]
      exact SortedMap.nodup_keys ⟨entries, missing.ascending⟩
    · intro var member
      rcases List.mem_map.mp member with ⟨entry, listed, rfl⟩
      rw [← List.append_cons, ← split]
      exact ((missing.mem_iff entry.1 entry.2).mp listed).2
  · intro var member
    have present := named_of_distinct distinct var member
    have found := named_mergeEnv var.name custom (some vars.environment)
    rw [merged, Option.getD_some, Option.getD_some, present, if_neg (List.cons_ne_nil _ _)] at found
    exact found

/-- A list is there when it has entries. -/
theorem extend_eq {α : Type} {list : Option (List α)} (filled : list ≠ some [])
    (added : List α) : Pod.extend list added =
      if list.getD [] ++ added = [] then none else some (list.getD [] ++ added) := by
  cases added with
  | nil =>
      cases list with
      | none => rfl
      | some entries =>
          have some : entries ≠ [] := fun none => filled (congrArg Option.some none)
          simp [some]
  | cons entry added => simp [Pod.extend]

/-! ## The port for administration -/

/-- Where Envoy is asked for its state. -/
def stateUrl (port : UInt16) : String :=
  "http://localhost:" ++ Text.ofNat port.toNat ++ "/server_info"

theorem probeCommand_eq (port : UInt16) :
    probeCommand port = "curl -s " ++ stateUrl port ++ " | grep state | grep -q LIVE" := by
  have address : "curl -s http://localhost:" = "curl -s " ++ "http://localhost:" := by
    decide
  have request : "/server_info | grep state | grep -q LIVE" =
      "/server_info" ++ " | grep state | grep -q LIVE" := by
    decide
  -- For any texts, since literal ones would be taken apart.
  have regroup : ∀ command scheme port path checks : String,
      command ++ scheme ++ port ++ (path ++ checks) =
        command ++ (scheme ++ port ++ path) ++ checks := by
    intro command scheme port path checks
    simp only [String.append_assoc]
  calc probeCommand port
    _ = "curl -s " ++ "http://localhost:" ++ Text.ofNat port.toNat ++
          ("/server_info" ++ " | grep state | grep -q LIVE") :=
        congr (congrArg (fun early late => early ++ Text.ofNat port.toNat ++ late) address) request
    _ = "curl -s " ++ stateUrl port ++ " | grep state | grep -q LIVE" := regroup _ _ _ _ _

/-- The container names one port for administration: where it gives statistics, in its
environment and in its readiness probe. -/
structure Administered (port : UInt16) (envoy : Container) : Prop where
  stats : Document.find? "ports" envoy.rest = some (.arr [.obj
    [("containerPort", .int port.toNat), ("name", .str "stats"), ("protocol", .str "TCP")]])
  told : envoy.variables adminPortVariable =
    [.given adminPortVariable (Text.ofNat port.toNat)]
  probed : (envoy.readinessProbe.bind fun probe =>
      (probe.get? "exec").bind fun action => action.get? "command") =
    some (.ofTexts ["sh", "-c",
      "curl -s " ++ stateUrl port ++ " | grep state | grep -q LIVE"])

/-! ## The container -/

/-- The container is Envoy as it is defined, with what a pod wishes and with a mount for the
socket where one is missing. -/
structure Assembled (config : Config) (pod : Pod) (own : List EnvVar) (wished : Wishes)
    (envoy : Container) : Prop where
  name : envoy.name = Artifact.envoy
  env : ∃ env, envoy.env = some env ∧ Extended wished.env own env
  volumeMounts : ∀ mounts, (mounts = askedMounts config.tracing wished ++
      (Sds.missingPath? config.envoy pod).toList.map fun path =>
        { name := Artifact.sdsVolume, mountPath := path, readOnly := none, rest := [] }) →
    envoy.volumeMounts = if mounts = [] then none else some mounts
  port : Administered config.envoy.adminAccessPort envoy

section

variable {config : Config} {identity : Identity} {mesh : Mesh} {node : VirtualNode} {pod : Pod}

theorem administered_built (wished : Wishes) (resources : Resources) :
    Administered config.envoy.adminAccessPort
      (built config identity mesh node pod wished resources) where
  stats := rfl
  told := by
    rw [variables_built, Variables.named_adminPort, if_neg (List.cons_ne_nil _ _)]
    rfl
  probed := by
    rw [← probeCommand_eq]
    rfl

theorem assembled_built (wished : Wishes) (resources : Resources) :
    Assembled config pod (Variables.ofPod config identity mesh node pod).environment wished
      (built config identity mesh node pod wished resources) where
  name := rfl
  env := extended_mergeEnv wished.env (Variables.ofPod config identity mesh node pod)
  volumeMounts := by
    intro mounts listed
    have behind : mounts =
        (built config identity mesh node pod wished resources).volumeMounts.getD [] :=
      listed.trans (mounts_built config identity mesh node pod wished resources).symm
    have filled : (Variables.ofPod config identity mesh node pod).container.volumeMounts ≠
        some [] := by
      rw [Variables.container]
      split
      · simp
      · simp
    have whole : (built config identity mesh node pod wished resources).volumeMounts.getD [] =
        (Variables.ofPod config identity mesh node pod).container.volumeMounts.getD [] ++
          Envoy.mounts config.envoy pod wished := Pod.getD_extend _ _
    rw [behind, whole]
    exact extend_eq filled (Envoy.mounts config.envoy pod wished)
  port := administered_built wished resources

end

end Envoy

namespace Step

/-- The container that comes into a pod without Envoy is Envoy as it is defined, with what the
pod wishes.  The volumes that come are one for each secret that it wishes, filled from the
secret, and one for the socket of the node where it is missing. -/
theorem envoy_assembled (config : Config) (identity : Identity) (mesh : Mesh)
    (node : VirtualNode) {pod changed : Pod} (absent : pod.hasContainer Artifact.envoy = false)
    (applied : (Step.envoy config identity mesh node).apply pod = .ok changed) :
    ∃ defined own wished envoy,
      Template.container "envoy" Envoy.definition
        (Envoy.Variables.ofPod config identity mesh node pod).toJson = .ok defined ∧
      defined.env = some own ∧ Envoy.wishes pod = .ok wished ∧ wished.ListedBy pod ∧
      Envoy.Assembled config pod own wished envoy ∧
      changed.containers = pod.containers ++ [envoy] ∧
      changed.volumes = pod.volumes ++
        ((wished.secrets.keys.map fun secret =>
          { name := secret, hostPath := none
            rest := [("secret", .obj [("secretName", .str secret)])] }) ++
        (Sds.missingPath? config.envoy pod).toList.map fun path =>
          { name := Artifact.sdsVolume, hostPath := some { path := path, kind := some "Socket" }
            rest := [] }) := by
  rcases Envoy.of_apply applied with ⟨present, -⟩ | ⟨-, wished, resources, wanted, -, rfl⟩
  · rw [present] at absent
    cases absent
  · rw [← Contribution.addTo_container]
    exact ⟨_, _, wished, _, Envoy.Variables.container_definition _ "envoy", rfl, wanted,
      Envoy.listedBy_of_wishes wanted, Envoy.assembled_built wished resources,
      Contribution.containers_addTo _ pod, Contribution.volumes_addTo _ pod⟩

/-- A pod that wishes for two secrets, one of them twice, and for a variable that Envoy is
defined with. -/
def Example.wishing : Pod :=
  (Pod.empty.annotate Annotations.secretMounts "tls:/tls,ca:/old,ca:/ca").annotate
    Annotations.sidecarEnv "TRACE=1,ENVOY_LOG_LEVEL=trace"

/-- The secrets are sorted, each with its last path, and the variable keeps its value. -/
theorem envoy_assembled_wishing :
    let step := Step.envoy {} {} ⟨"mesh", "mesh", none⟩
      { name := "node", namespaceName := "default" }
    Example.wishing.hasContainer Artifact.envoy = false ∧
    ∃ changed envoy, step.apply Example.wishing = .ok changed ∧
      changed.containers = [envoy] ∧
      envoy.volumeMounts = some [
        { name := "ca", mountPath := "/ca", readOnly := some true, rest := [] },
        { name := "tls", mountPath := "/tls", readOnly := some true, rest := [] }] ∧
      changed.volumes = [
        { name := "ca", hostPath := none, rest := [("secret", .obj [("secretName", .str "ca")])] },
        { name := "tls", hostPath := none
          rest := [("secret", .obj [("secretName", .str "tls")])] }] ∧
      envoy.variables "ENVOY_LOG_LEVEL" = [.given "ENVOY_LOG_LEVEL" "info"] := by
  intro step
  have absent : Example.wishing.hasContainer Artifact.envoy = false := by
    decide
  obtain ⟨changed, applied⟩ : ∃ changed, step.apply Example.wishing = .ok changed :=
    ⟨_, (Envoy.apply_of_absent absent).trans rfl⟩
  rcases envoy_assembled {} {} ⟨"mesh", "mesh", none⟩
      { name := "node", namespaceName := "default" } absent applied with
    ⟨defined, own, wished, envoy, isDefined, hasOwn, wanted, -, assembled, containers, volumes⟩
  have secrets : wished.secrets.entries = [("ca", "/ca"), ("tls", "/tls")] := by
    have listed : Example.wishing.pairs Annotations.secretMounts .secretMount =
        .ok (.ofList [("ca", "/ca"), ("tls", "/tls")]) := by
      rfl
    rw [(Envoy.of_wishes wanted).1, Except.ok.injEq] at listed
    rw [listed]
    decide
  have volumesWished : wished.volumes.entries = [] := by
    have listed : Example.wishing.pairs Annotations.volumeMounts .volumeMount = .ok .empty := by
      rfl
    rw [(Envoy.of_wishes wanted).2.1, Except.ok.injEq] at listed
    rw [listed]
    rfl
  have noSocket : Sds.missingPath? ({} : Config).envoy Example.wishing = none := by
    decide
  refine ⟨absent, changed, envoy, applied, containers, ?_, ?_, ?_⟩
  · refine (assembled.volumeMounts _ rfl).trans ?_
    rw [Envoy.askedMounts_eq, secrets, volumesWished, noSocket]
    rfl
  · rw [volumes, SortedMap.keys, secrets, noSocket]
    rfl
  · rcases assembled.env with ⟨env, hasEnv, extended⟩
    rw [Envoy.Variables.container_definition, Except.ok.injEq] at isDefined
    rw [← isDefined] at hasOwn
    cases hasOwn
    rw [Container.variables, hasEnv, Option.getD_some]
    exact extended.kept (.given "ENVOY_LOG_LEVEL" "info")
      (List.mem_of_getElem? (i := 2) rfl)

end Step

end MeshSidecar
