import MeshSidecar.Proofs.Injection.Marker

namespace MeshSidecar

/-!
# The environment and the mounts of Envoy

Variables of the pod are put among those of a definition, and a gateway's variables are
overridden.  What comes out is told here name by name: which entries an environment has
under one name is all that matters to the process that reads it.  Mounts are told by whom
they come from.
-/

/-- The entries of an environment under one name, in order. -/
def EnvVar.named (name : String) (env : List EnvVar) : List EnvVar :=
  env.filter fun var => var.name == name

/-- The entries that a container has in its environment under one name. -/
def Container.variables (container : Container) (name : String) : List EnvVar :=
  EnvVar.named name (container.env.getD [])

namespace EnvVar

theorem named_append (name : String) (early late : List EnvVar) :
    named name (early ++ late) = named name early ++ named name late :=
  List.filter_append ..

theorem named_cons_of_eq {name : String} {var : EnvVar} (same : var.name = name)
    (env : List EnvVar) : named name (var :: env) = var :: named name env :=
  List.filter_cons_of_pos (beq_iff_eq.mpr same)

theorem named_cons_of_ne {name : String} {var : EnvVar} (other : var.name ≠ name)
    (env : List EnvVar) : named name (var :: env) = named name env :=
  List.filter_cons_of_neg (by simpa using other)

theorem any_eq_false_iff (name : String) (env : List EnvVar) :
    (env.any fun var => var.name == name) = false ↔ named name env = [] := by
  rw [named, List.filter_eq_nil_iff, List.any_eq_false]

/-- The entries of a map under whose names an environment has none, in the order of names. -/
structure MissingIn (given : SortedMap String) (env : List EnvVar)
    (entries : List (String × String)) : Prop where
  ascending : SortedMap.Ascending entries
  mem_iff : ∀ name value, (name, value) ∈ entries ↔
    given.get? name = some value ∧ ∀ var ∈ env, var.name ≠ name

/-- The entries of a map as variables with values of their own. -/
theorem named_given (name : String) (given : SortedMap String) :
    named name (given.entries.map fun entry => .given entry.1 entry.2) =
      (given.get? name).toList.map (.given name) := by
  have single := congrArg (List.map fun entry : String × String => EnvVar.given entry.1 entry.2)
    (given.filter_entries name)
  rw [List.map_map] at single
  rw [named, List.filter_map]
  exact single

theorem named_ite (name : String) (condition : Prop) [Decidable condition]
    (env other : List EnvVar) : named name (if condition then env else other) =
      if condition then named name env else named name other := by
  split
  · rfl
  · rfl

theorem named_of_other {name : String} {env : List EnvVar} (other : ∀ var ∈ env, var.name ≠ name) :
    named name env = [] := by
  rw [named, List.filter_eq_nil_iff]
  intro var member
  simpa using other var member

theorem name_of_optional {name : String} {value : Option String} :
    ∀ var ∈ optional name value, var.name = name := by
  cases value with
  | none => exact fun _ member => by cases member
  | some text =>
      rw [optional]
      split
      · exact fun _ member => by cases member
      · intro var member
        rw [List.mem_singleton.mp member]
        rfl

theorem named_optional (name : String) (value : Option String) :
    named name (optional name value) = optional name value := by
  rw [named, List.filter_eq_self]
  intro var member
  exact beq_iff_eq.mpr (name_of_optional var member)

theorem named_optional_of_ne {name other : String} (different : other ≠ name)
    (value : Option String) : named name (optional other value) = [] := by
  apply named_of_other
  intro var member
  rw [name_of_optional var member]
  exact different

end EnvVar

open EnvVar

/-! ## The definition of Envoy -/

namespace Envoy.Variables

/-- The names under which Envoy is told about the X-Ray daemon. -/
def xrayNames : List String :=
  ["ENABLE_ENVOY_XRAY_TRACING", "XRAY_DAEMON_PORT", "XRAY_SAMPLING_RATE"]

/-- The names under which Envoy is told about the Datadog agent. -/
def datadogNames : List String :=
  ["ENABLE_ENVOY_DATADOG_TRACING", "DATADOG_TRACER_PORT", "DATADOG_TRACER_ADDRESS"]

/-- The names under which Envoy is told about the server for statistics. -/
def statsdNames : List String :=
  ["ENABLE_ENVOY_DOG_STATSD", "STATSD_PORT", "STATSD_ADDRESS", "STATSD_SOCKET_PATH"]

/-- The names under which Envoy is told where to report traces and statistics to. -/
def reportNames : List String :=
  ["ENABLE_ENVOY_XRAY_TRACING", "XRAY_DAEMON_PORT", "XRAY_SAMPLING_RATE",
    "ENABLE_ENVOY_DATADOG_TRACING", "DATADOG_TRACER_PORT", "DATADOG_TRACER_ADDRESS",
    "ENABLE_ENVOY_DOG_STATSD", "STATSD_PORT", "STATSD_ADDRESS", "STATSD_SOCKET_PATH"]

section

variable (vars : Variables)

theorem mem_xrayNames : ∀ var ∈ vars.xrayEnvironment, var.name ∈ xrayNames := by
  intro var member
  simp only [xrayEnvironment, List.mem_cons] at member
  rcases member with rfl | rfl | rate
  · show "ENABLE_ENVOY_XRAY_TRACING" ∈ xrayNames
    decide
  · show "XRAY_DAEMON_PORT" ∈ xrayNames
    decide
  · rw [name_of_optional var rate]
    decide

theorem mem_datadogNames : ∀ var ∈ vars.datadogEnvironment, var.name ∈ datadogNames := by
  intro var member
  simp only [datadogEnvironment, List.mem_cons, List.not_mem_nil, or_false] at member
  rcases member with rfl | rfl | rfl
  · show "ENABLE_ENVOY_DATADOG_TRACING" ∈ datadogNames
    decide
  · show "DATADOG_TRACER_PORT" ∈ datadogNames
    decide
  · have address : "DATADOG_TRACER_ADDRESS" ∈ datadogNames := by decide
    split
    · exact address
    · exact address

theorem mem_statsdNames : ∀ var ∈ vars.statsdEnvironment, var.name ∈ statsdNames := by
  intro var member
  simp only [statsdEnvironment, List.mem_cons] at member
  rcases member with rfl | rfl | rfl | socket
  · show "ENABLE_ENVOY_DOG_STATSD" ∈ statsdNames
    decide
  · show "STATSD_PORT" ∈ statsdNames
    decide
  · have address : "STATSD_ADDRESS" ∈ statsdNames := by decide
    split
    · exact address
    · exact address
  · rw [name_of_optional var socket]
    decide

theorem named_xrayEnvironment {name : String} (other : name ∉ xrayNames) :
    named name vars.xrayEnvironment = [] :=
  named_of_other fun var member same => other (same ▸ vars.mem_xrayNames var member)

theorem named_datadogEnvironment {name : String} (other : name ∉ datadogNames) :
    named name vars.datadogEnvironment = [] :=
  named_of_other fun var member same => other (same ▸ vars.mem_datadogNames var member)

theorem named_statsdEnvironment {name : String} (other : name ∉ statsdNames) :
    named name vars.statsdEnvironment = [] :=
  named_of_other fun var member same => other (same ▸ vars.mem_statsdNames var member)

/-- Under any other name, what is told about reports can be left out. -/
theorem named_reports {name : String} (other : name ∉ reportNames) :
    named name vars.xrayEnvironment = [] ∧ named name vars.datadogEnvironment = [] ∧
      named name vars.statsdEnvironment = [] := by
  have xray : xrayNames ⊆ reportNames := by decide
  have datadog : datadogNames ⊆ reportNames := by decide
  have statsd : statsdNames ⊆ reportNames := by decide
  exact ⟨vars.named_xrayEnvironment fun member => other (xray member),
    vars.named_datadogEnvironment fun member => other (datadog member),
    vars.named_statsdEnvironment fun member => other (statsd member)⟩

/-- Envoy is told about the X-Ray daemon where it is enabled. -/
theorem named_xray : ∀ name ∈ xrayNames, named name vars.environment =
    if vars.xray then named name vars.xrayEnvironment else [] := by
  intro name member
  have apart : ∀ name ∈ xrayNames, name ∉ datadogNames ∧ name ∉ statsdNames := by decide
  have datadog := vars.named_datadogEnvironment (apart name member).1
  have statsd := vars.named_statsdEnvironment (apart name member).2
  simp only [environment, named_append, named_ite, datadog, statsd]
  simp only [xrayNames, List.mem_cons, List.not_mem_nil, or_false] at member
  rcases member with rfl | rfl | rfl
  all_goals
    rw [named_optional_of_ne (by decide), named_optional_of_ne (by decide),
      named_optional_of_ne (by decide), named_optional_of_ne (by decide)]
    simp [named, given, ofField, adminPortVariable]

/-- Envoy is told about the Datadog agent where it is enabled. -/
theorem named_datadog : ∀ name ∈ datadogNames, named name vars.environment =
    if vars.datadog then named name vars.datadogEnvironment else [] := by
  intro name member
  have apart : ∀ name ∈ datadogNames, name ∉ xrayNames ∧ name ∉ statsdNames := by decide
  have xray := vars.named_xrayEnvironment (apart name member).1
  have statsd := vars.named_statsdEnvironment (apart name member).2
  simp only [environment, named_append, named_ite, xray, statsd]
  simp only [datadogNames, List.mem_cons, List.not_mem_nil, or_false] at member
  rcases member with rfl | rfl | rfl
  all_goals
    rw [named_optional_of_ne (by decide), named_optional_of_ne (by decide),
      named_optional_of_ne (by decide), named_optional_of_ne (by decide)]
    simp [named, given, ofField, adminPortVariable]

/-- Envoy is told about the file of a tracer under one name, and at most once. -/
theorem named_tracingFile : named "ENVOY_TRACING_CFG_FILE" vars.environment =
    if vars.readsTracingFile then [.given "ENVOY_TRACING_CFG_FILE" vars.tracingFile] else [] := by
  have reports : "ENVOY_TRACING_CFG_FILE" ∉ reportNames := by decide
  rcases vars.named_reports reports with ⟨xray, datadog, statsd⟩
  simp only [environment, named_append, named_ite, xray, datadog, statsd]
  rw [named_optional_of_ne (by decide), named_optional_of_ne (by decide),
    named_optional_of_ne (by decide), named_optional_of_ne (by decide)]
  simp [named, given, ofField, adminPortVariable]

/-- Envoy is told about the socket under one name, and at most once. -/
theorem named_sdsPath : named "APPMESH_SDS_SOCKET_PATH" vars.environment =
    optional "APPMESH_SDS_SOCKET_PATH" vars.sdsPath := by
  have reports : "APPMESH_SDS_SOCKET_PATH" ∉ reportNames := by decide
  rcases vars.named_reports reports with ⟨xray, datadog, statsd⟩
  simp only [environment, named_append, named_ite, xray, datadog, statsd]
  rw [named_optional_of_ne (by decide), named_optional,
    named_optional_of_ne (by decide), named_optional_of_ne (by decide)]
  simp [named, given, ofField, adminPortVariable]

end

end Envoy.Variables

/-! ## Variables of the pod -/

namespace Envoy

/-- Variables are put somewhere between those that are there. -/
theorem insertAfter_split (anchor : String) (added env : List EnvVar) :
    ∃ early late, env = early ++ late ∧
      insertAfter anchor added env = early ++ (added ++ late) := by
  induction env with
  | nil => exact ⟨[], [], rfl, (List.append_nil _).symm⟩
  | cons var env ih =>
      rw [insertAfter]
      split
      · exact ⟨[var], env, rfl, rfl⟩
      · rcases ih with ⟨early, late, whole, inserted⟩
        refine ⟨var :: early, late, ?_, ?_⟩
        · rw [whole, List.cons_append]
        · rw [inserted, List.cons_append]

/-- The variables of the pod are those under names that are still free. -/
theorem named_unclaimed (name : String) (custom : SortedMap String) (env : List EnvVar) :
    named name (unclaimed custom env) =
      if named name env = [] then (custom.get? name).toList.map (.given name) else [] := by
  have single := custom.filter_entries name
  rw [named, unclaimed, List.filter_map, List.filter_filter]
  have turned : (custom.entries.filter fun entry =>
        ((fun var : EnvVar => var.name == name) ∘ fun entry : String × String =>
          { name := entry.1, value := some entry.2, valueFrom := none }) entry &&
        !env.any fun var => var.name == entry.1) =
      ((custom.get? name).toList.map fun value => (name, value)).filter fun entry =>
        !env.any fun var => var.name == entry.1 := by
    rw [← single, List.filter_filter]
    exact List.filter_congr fun entry _ => Bool.and_comm ..
  rw [turned]
  cases custom.get? name with
  | none => simp
  | some value =>
      by_cases free : named name env = []
      · have absent := (any_eq_false_iff name env).mpr free
        simp [free, absent, EnvVar.given]
      · have present : (env.any fun var => var.name == name) = true := by
          rw [← Bool.not_eq_false, any_eq_false_iff]
          exact free
        simp [free, present]

/-- The variables of the pod are told by their names, in the order of which they come. -/
theorem unclaimed_missing (custom : SortedMap String) (env : List EnvVar) :
    ∃ entries, unclaimed custom env = entries.map (fun entry => .given entry.1 entry.2) ∧
      MissingIn custom env entries := by
  refine ⟨_, rfl, custom.ascending.filter _, ?_⟩
  intro name value
  rw [List.mem_filter, custom.mem_entries_iff]
  simp

/-- A name has the entries of the definition or else that of the pod. -/
theorem named_mergeEnv (name : String) (custom : SortedMap String) (env : Option (List EnvVar)) :
    named name ((mergeEnv custom env).getD []) =
      if named name (env.getD []) = [] then (custom.get? name).toList.map (.given name)
      else named name (env.getD []) := by
  rw [mergeEnv]
  by_cases isEmpty : custom.isEmpty
  · have none : custom.get? name = none := by
      rw [SortedMap.get?, List.isEmpty_iff.mp isEmpty]
      rfl
    rw [if_pos isEmpty, none]
    split
    · next free => exact free
    · rfl
  · rw [if_neg isEmpty, Option.getD_some]
    rcases insertAfter_split adminPortVariable (unclaimed custom (env.getD [])) (env.getD []) with
      ⟨early, late, whole, inserted⟩
    have added := named_unclaimed name custom (env.getD [])
    rw [inserted, named_append, named_append, added]
    by_cases free : named name (env.getD []) = []
    · have both := free
      rw [whole, named_append, List.append_eq_nil_iff] at both
      rw [if_pos free, if_pos free, both.1, both.2, List.nil_append, List.append_nil]
    · rw [if_neg free, if_neg free, List.nil_append, ← named_append, ← whole]

/-! ## What Envoy is built with -/

/-- The entries of an environment that the pod asks for under one name. -/
def askedEntries (wishes : Wishes) (name : String) : List EnvVar :=
  (wishes.env.get? name).toList.map (.given name)

/-- The mounts that Envoy gets by the configuration and by the annotations of its pod. -/
def askedMounts (tracing : Config.Tracing) (wishes : Wishes) : List VolumeMount :=
  (if readsTracingFile tracing then [.plain Artifact.tracingVolume Artifact.tracingMountPath]
    else []) ++
  ((wishes.secrets.entries ++ wishes.volumes.entries).map fun entry =>
    { name := entry.1, mountPath := entry.2, readOnly := some true, rest := [] })

theorem askedMounts_eq (tracing : Config.Tracing) (wishes : Wishes) :
    askedMounts tracing wishes =
      (if readsTracingFile tracing then [.plain Artifact.tracingVolume Artifact.tracingMountPath]
        else []) ++
      wishes.secrets.entries.map readOnlyMount ++ wishes.volumes.entries.map readOnlyMount := by
  rw [askedMounts, List.map_append, ← List.append_assoc]
  rfl

section

variable (config : Config) (identity : Identity) (mesh : Mesh) (node : VirtualNode) (pod : Pod)
  (wished : Wishes) (resources : Resources)

theorem variables_built (name : String) :
    (built config identity mesh node pod wished resources).variables name =
      if named name (Variables.ofPod config identity mesh node pod).environment = [] then
        askedEntries wished name
      else named name (Variables.ofPod config identity mesh node pod).environment :=
  named_mergeEnv name wished.env (some (Variables.ofPod config identity mesh node pod).environment)

/-- Behind the mounts that were asked for stands that of the socket. -/
theorem mounts_built :
    (built config identity mesh node pod wished resources).volumeMounts.getD [] =
      askedMounts config.tracing wished ++
        (Sds.missingPath? config.envoy pod).toList.map Sds.mount := by
  have defined : (Variables.ofPod config identity mesh node pod).container.volumeMounts.getD [] =
      if readsTracingFile config.tracing then
        [.plain Artifact.tracingVolume Artifact.tracingMountPath]
      else [] := by
    have given : (Variables.ofPod config identity mesh node pod).container.volumeMounts =
        if readsTracingFile config.tracing then
          some [.plain Artifact.tracingVolume Artifact.tracingMountPath]
        else none := rfl
    rw [given]
    split
    · rfl
    · rfl
  refine (Pod.getD_extend _ _).trans ?_
  rw [defined, mounts, askedMounts_eq, List.append_assoc, List.append_assoc, List.append_assoc]

end

end Envoy

/-! ## Variables that are overridden -/

namespace Gateway

/-- A name that is overridden has the value that is given for it first. -/
theorem named_overrideEnv (name : String) (given : SortedMap String) (env : List EnvVar) :
    named name (overrideEnv given env) =
      match given.get? name with
      | none => named name env
      | some value => .given name value :: (named name env).drop 1 := by
  induction env generalizing given with
  | nil =>
      rw [overrideEnv]
      have appended := named_given name given
      cases found : given.get? name with
      | none =>
          rw [found] at appended
          exact appended
      | some value =>
          rw [found] at appended
          exact appended
  | cons var env ih =>
      rw [overrideEnv]
      cases overridden : given.get? var.name with
      | none =>
          by_cases same : var.name = name
          · have later := ih given
            rw [same] at overridden
            rw [overridden] at later ⊢
            rw [named_cons_of_eq same, later, named_cons_of_eq same]
          · rw [named_cons_of_ne same, named_cons_of_ne same]
            exact ih given
      | some value =>
          have later := ih (given.erase var.name)
          rw [given.get?_erase] at later
          by_cases same : var.name = name
          · rw [if_pos same] at later
            rw [same] at overridden
            rw [named_cons_of_eq same, named_cons_of_eq (by exact same), later, overridden, ← same]
            rfl
          · rw [if_neg same] at later
            rw [named_cons_of_ne same, named_cons_of_ne (by exact same)]
            exact later

end Gateway

end MeshSidecar
