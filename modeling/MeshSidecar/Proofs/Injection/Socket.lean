import MeshSidecar.Proofs.Injection.Contribution
import MeshSidecar.Proofs.Injection.Environment

namespace MeshSidecar

/-!
# The socket for certificates

Three things have to be there for Envoy to fetch certificates over the socket: a volume of
the pod that shows it, a mount of that volume, and a variable with its path.  Volume and
mount come together, where the pod does not show the path already.  The variable comes
from a template, which takes an empty path for no path.
-/

/-- The volumes among them that show something of the host. -/
def Volume.ofHost (volumes : List Volume) : List Volume :=
  volumes.filter fun volume => volume.hostPath.isSome

namespace Sds

/-- The variable in which Envoy finds the path of the socket. -/
def pathVariable : String := "APPMESH_SDS_SOCKET_PATH"

/-- The socket is shown by the pod.  Where it was not before, one volume for it has been
put into the pod, and a mount into Envoy behind the mounts that it has anyway. -/
structure Shown (path : String) (mounts : List VolumeMount) (before after : Pod)
    (envoy : Container) : Prop where
  shown : after.mountsHostPath path
  volumes : ∃ added, after.volumes = before.volumes ++ added ∧
    Volume.ofHost added = if before.mountsHostPath path then [] else
      [{ name := Artifact.sdsVolume, hostPath := some { path, kind := some "Socket" }, rest := [] }]
  mounts : envoy.volumeMounts.getD [] =
    mounts ++ if before.mountsHostPath path then [] else
      [{ name := Artifact.sdsVolume, mountPath := path, readOnly := none, rest := [] }]

/-- Nothing has been done for a socket. -/
structure Spared (entries : List EnvVar) (mounts : List VolumeMount) (before after : Pod)
    (envoy : Container) : Prop where
  told : envoy.variables pathVariable = entries
  volumes : ∃ added, after.volumes = before.volumes ++ added ∧ Volume.ofHost added = []
  mounts : envoy.volumeMounts.getD [] = mounts

/-- Envoy gets all that it needs for the socket or nothing of it, beside the variables and
mounts that it has anyway.  Only an empty path is kept from it, where it is not told so by
a variable that it has anyway. -/
structure Arranged (config : Config.Envoy) (entries : List EnvVar) (mounts : List VolumeMount)
    (before after : Pod) (envoy : Container) : Prop where
  shown : isUsed config before → Shown config.sdsUdsPath mounts before after envoy
  told : isUsed config before →
    ((∃ var ∈ envoy.variables pathVariable, var.value = some config.sdsUdsPath) ↔
      config.sdsUdsPath ≠ "" ∨ ∃ var ∈ entries, var.value = some "")
  spared : isUsed config before = false → Spared entries mounts before after envoy

/-- The entries of Envoy under the name, where it is told a path beside those that it has
anyway.  The path takes the place of the first of them. -/
def entriesWith (path : Option String) (entries : List EnvVar) : List EnvVar :=
  if EnvVar.optional pathVariable path = [] then entries
  else EnvVar.optional pathVariable path ++ entries.drop 1

section

variable {config : Config.Envoy} {pod : Pod}

theorem path?_of_used (used : isUsed config pod) : path? config pod = some config.sdsUdsPath :=
  if_pos used

theorem path?_of_unused (unused : isUsed config pod = false) : path? config pod = none :=
  if_neg (by simp [unused])

/-- For a socket in use, something is missing where the pod does not show the path. -/
theorem map_missingPath? {α : Type} (used : isUsed config pod) (f : String → α) :
    (missingPath? config pod).toList.map f =
      if pod.mountsHostPath config.sdsUdsPath then [] else [f config.sdsUdsPath] := by
  rw [missingPath?, path?_of_used used, Option.filter_some]
  cases pod.mountsHostPath config.sdsUdsPath with
  | true => rfl
  | false => rfl

theorem missingPath?_of_unused (unused : isUsed config pod = false) :
    missingPath? config pod = none := by
  rw [missingPath?, path?_of_unused unused]
  rfl

theorem ofHost_volume (missing : Option String) :
    Volume.ofHost (missing.toList.map volume) = missing.toList.map volume := by
  cases missing with
  | none => rfl
  | some path => rfl

/-- Once the volumes that are missing are in the pod, it shows the path. -/
theorem mountsHostPath_of_added {path : String} {changed : Pod} {added : List Volume}
    (volumes : changed.volumes = pod.volumes ++ added)
    (host : Volume.ofHost added = if pod.mountsHostPath path then [] else [volume path]) :
    changed.mountsHostPath path := by
  rw [Pod.mountsHostPath, volumes, List.any_append, ← Pod.mountsHostPath]
  cases shows : pod.mountsHostPath path with
  | true => rfl
  | false =>
      rw [shows] at host
      have isAdded : volume path ∈ Volume.ofHost added := by
        rw [host]
        exact List.mem_cons_self
      rw [Bool.false_or, List.any_eq_true]
      exact ⟨_, (List.mem_filter.mp isAdded).1, beq_self_eq_true (some path)⟩

/-- A volume and a mount for the path that is missing and the variable for the path are all
that there is to the socket. -/
theorem arranged {changed : Pod} {envoy : Container} {entries : List EnvVar}
    {mounts : List VolumeMount} {added : List Volume}
    (told : envoy.variables pathVariable = entriesWith (path? config pod) entries)
    (volumes : changed.volumes = pod.volumes ++ added)
    (host : Volume.ofHost added = (missingPath? config pod).toList.map volume)
    (mounted : envoy.volumeMounts.getD [] =
      mounts ++ (missingPath? config pod).toList.map mount) :
    Arranged config entries mounts pod changed envoy where
  shown := by
    intro used
    rw [map_missingPath? used] at host mounted
    exact ⟨mountsHostPath_of_added volumes host, ⟨added, volumes, host⟩, mounted⟩
  told := by
    intro used
    rw [told, path?_of_used used, entriesWith, EnvVar.optional]
    by_cases empty : config.sdsUdsPath = ""
    · simp [empty]
    · simp [empty, EnvVar.given]
  spared := by
    intro unused
    rw [missingPath?_of_unused unused] at host mounted
    rw [path?_of_unused unused] at told
    refine ⟨told.trans (if_pos rfl), ⟨added, volumes, host⟩, ?_⟩
    rw [mounted]
    exact List.append_nil _

end

end Sds

/-! ## A virtual node -/

namespace Envoy

section

variable {config : Config} {identity : Identity} {mesh : Mesh} {node : VirtualNode} {pod : Pod}

theorem pathVariable_built (wished : Wishes) (resources : Resources) :
    (built config identity mesh node pod wished resources).variables Sds.pathVariable =
      Sds.entriesWith (Sds.path? config.envoy pod) (askedEntries wished Sds.pathVariable) := by
  have defined : EnvVar.named Sds.pathVariable
      (Variables.ofPod config identity mesh node pod).environment =
        EnvVar.optional Sds.pathVariable (Sds.path? config.envoy pod) := Variables.named_sdsPath _
  have single : (askedEntries wished Sds.pathVariable).drop 1 = [] := by
    rw [askedEntries]
    cases wished.env.get? Sds.pathVariable with
    | none => rfl
    | some value => rfl
  rw [variables_built, defined, Sds.entriesWith, single, List.append_nil]

/-- Of the volumes that come with Envoy only that for the socket shows something of the
host. -/
theorem ofHost_volumes (envoy : Config.Envoy) (wished : Wishes) :
    Volume.ofHost (volumes envoy pod wished) =
      (Sds.missingPath? envoy pod).toList.map Sds.volume := by
  have secrets : Volume.ofHost (wished.secrets.keys.map secretVolume) = [] := by
    refine List.filter_eq_nil_iff.mpr ?_
    intro volume member
    rcases List.mem_map.mp member with ⟨name, asked, rfl⟩
    exact Bool.false_ne_true
  rw [volumes, Volume.ofHost, List.filter_append, ← Volume.ofHost, ← Volume.ofHost, secrets,
    Sds.ofHost_volume, List.nil_append]

theorem arranged_of_apply {changed : Pod} (absent : pod.hasContainer Artifact.envoy = false)
    (applied : apply config identity mesh node pod = .ok changed) :
    ∃ wished envoy, wishes pod = .ok wished ∧ changed.containers = pod.containers ++ [envoy] ∧
      envoy.name = Artifact.envoy ∧
      Sds.Arranged config.envoy (askedEntries wished Sds.pathVariable)
        (askedMounts config.tracing wished) pod changed envoy := by
  rcases of_apply applied with ⟨present, -⟩ | ⟨-, wished, resources, wanted, -, rfl⟩
  · rw [present] at absent
    cases absent
  · rw [← Contribution.addTo_container]
    refine ⟨wished, _, wanted, Contribution.containers_addTo _ pod, rfl, ?_⟩
    apply Sds.arranged
    case told => exact pathVariable_built wished resources
    case volumes => exact Contribution.volumes_addTo _ pod
    case host => exact ofHost_volumes config.envoy wished
    case mounted => exact mounts_built config identity mesh node pod wished resources

end

end Envoy

/-! ## A virtual gateway -/

namespace Gateway

section

variable {config : Config} {identity : Identity} {mesh : Mesh} {gateway : VirtualGateway}
  {pod : Pod}

theorem get?_assignments (vars : Variables) :
    (SortedMap.ofList vars.assignments).get? Sds.pathVariable =
      vars.sdsPath.filter fun path => path != "" := by
  rw [Document.get?_ofList, Variables.assignments]
  cases vars.sdsPath with
  | none => rfl
  | some path =>
      rw [Option.filter_some]
      split
      · rfl
      · rfl

theorem pathVariable_fill (image missing : Option String) (declared : Container) :
    (fill (.ofList (Variables.ofPod config identity mesh gateway pod).assignments) image missing
      declared).variables Sds.pathVariable =
        Sds.entriesWith (Sds.path? config.envoy pod) (declared.variables Sds.pathVariable) := by
  have overridden := named_overrideEnv Sds.pathVariable
    (.ofList (Variables.ofPod config identity mesh gateway pod).assignments)
    (declared.env.getD [])
  have path : (Variables.ofPod config identity mesh gateway pod).sdsPath =
      Sds.path? config.envoy pod := rfl
  rw [get?_assignments, path] at overridden
  refine overridden.trans ?_
  cases Sds.path? config.envoy pod with
  | none => rfl
  | some path =>
      rw [Option.filter_some, Sds.entriesWith, EnvVar.optional]
      by_cases empty : path = ""
      · simp [empty, Container.variables]
      · simp [empty, Container.variables]

theorem arranged_of_apply {declared : Container} {changed : Pod}
    (found : declared? pod = some declared)
    (applied : apply config identity mesh gateway pod = .ok changed) :
    ∃ envoy, declared? changed = some envoy ∧
      Sds.Arranged config.envoy (declared.variables Sds.pathVariable)
        (declared.volumeMounts.getD []) pod changed envoy := by
  rcases of_apply applied with ⟨none, rfl⟩ | ⟨other, image, isDeclared, allowed, rfl⟩
  · rw [none] at found
    cases found
  · rw [isDeclared, Option.some_inj] at found
    subst found
    refine ⟨_, declared?_filled isDeclared _ image _, ?_⟩
    apply Sds.arranged
    case told => exact pathVariable_fill image _ other
    case volumes => exact volumes_filled _ image _ pod
    case host => exact Sds.ofHost_volume _
    case mounted => exact Pod.getD_extend _ _

end

end Gateway

/-! ## Both -/

namespace Sds

/-- However a step brings Envoy into a pod or fills it in, volume, mount and variable are
there for a socket that is used, and none of them is put there for one that is not.  Only
the variable with an empty path is missing. -/
theorem arranged_of_success (config : Config) (identity : Identity) (mesh : Mesh)
    (pod changed : Pod) :
    (∀ node, pod.hasContainer Artifact.envoy = false →
      (Step.envoy config identity mesh node).apply pod = .ok changed →
      ∃ wished envoy, Envoy.wishes pod = .ok wished ∧
        changed.containers = pod.containers ++ [envoy] ∧ envoy.name = Artifact.envoy ∧
        Arranged config.envoy (Envoy.askedEntries wished pathVariable)
          (Envoy.askedMounts config.tracing wished) pod changed envoy) ∧
    (∀ gateway declared, Gateway.declared? pod = some declared →
      (Step.gateway config identity mesh gateway).apply pod = .ok changed →
      ∃ envoy, Gateway.declared? changed = some envoy ∧
        Arranged config.envoy (declared.variables pathVariable) (declared.volumeMounts.getD [])
          pod changed envoy) := by
  constructor
  · intro node absent applied
    exact Envoy.arranged_of_apply absent applied
  · intro gateway declared found applied
    exact Gateway.arranged_of_apply found applied

/-- A pod that declares a container for Envoy and leaves the image to the injector. -/
def declaring : Pod :=
  Pod.empty.addContainer
    { name := Artifact.envoy, image := some Artifact.imagePlaceholder, command := none
      args := none, env := none, volumeMounts := none, resources := none, readinessProbe := none
      rest := [] }

/-- The socket is there in an empty pod of a node and in one that declares Envoy. -/
theorem arranged_of_default :
    let config : Config := { envoy := { enableSds := true } }
    let mesh : Mesh := ⟨"mesh", "mesh", none⟩
    (∃ changed, Pod.empty.hasContainer Artifact.envoy = false ∧
      (Step.envoy config {} mesh { name := "node", namespaceName := "default" }).apply Pod.empty =
        .ok changed ∧
      ∃ wished envoy, changed.containers = [envoy] ∧
        Arranged config.envoy (Envoy.askedEntries wished pathVariable)
          (Envoy.askedMounts config.tracing wished) Pod.empty changed envoy) ∧
    (∃ declared changed, Gateway.declared? declaring = some declared ∧
      (Step.gateway config {} mesh { name := "gateway", namespaceName := "default" }).apply
        declaring = .ok changed ∧
      ∃ envoy, Gateway.declared? changed = some envoy ∧
        Arranged config.envoy (declared.variables pathVariable) (declared.volumeMounts.getD [])
          declaring changed envoy) := by
  intro config mesh
  constructor
  · have absent : Pod.empty.hasContainer Artifact.envoy = false := by
      decide
    obtain ⟨changed, applied⟩ : ∃ changed, (Step.envoy config {} mesh
        { name := "node", namespaceName := "default" }).apply Pod.empty = .ok changed :=
      ⟨_, (Envoy.apply_of_absent absent).trans rfl⟩
    rcases (arranged_of_success config {} mesh Pod.empty changed).1 _ absent applied with
      ⟨wished, envoy, -, containers, -, all⟩
    exact ⟨changed, absent, applied, wished, envoy, containers, all⟩
  · obtain ⟨declared, found⟩ : ∃ declared, Gateway.declared? declaring = some declared :=
      ⟨_, rfl⟩
    obtain ⟨changed, applied⟩ : ∃ changed, (Step.gateway config {} mesh
        { name := "gateway", namespaceName := "default" }).apply declaring = .ok changed :=
      ⟨_, (Gateway.apply_eq ..).trans rfl⟩
    exact ⟨declared, changed, found, applied,
      (arranged_of_success config {} mesh declaring changed).2 _ declared found applied⟩

/-- For an empty path there is a volume and a mount, but no variable. -/
theorem not_told_of_emptyPath :
    let config : Config := { envoy := { enableSds := true, sdsUdsPath := "" } }
    config.Valid ∧ isUsed config.envoy Pod.empty ∧
    Pod.empty.hasContainer Artifact.envoy = false ∧
    ∃ changed, (Step.envoy config {} ⟨"mesh", "mesh", none⟩
        { name := "node", namespaceName := "default" }).apply Pod.empty = .ok changed ∧
      changed.mountsHostPath config.envoy.sdsUdsPath ∧
      ∀ envoy ∈ changed.containers,
        ¬ ∃ var ∈ envoy.variables pathVariable, var.value = some config.envoy.sdsUdsPath := by
  intro config
  have absent : Pod.empty.hasContainer Artifact.envoy = false := by
    decide
  have used : isUsed config.envoy Pod.empty := by
    decide
  obtain ⟨changed, applied⟩ : ∃ changed, (Step.envoy config {} ⟨"mesh", "mesh", none⟩
      { name := "node", namespaceName := "default" }).apply Pod.empty = .ok changed :=
    ⟨_, (Envoy.apply_of_absent absent).trans rfl⟩
  rcases Envoy.arranged_of_apply absent applied with ⟨wished, envoy, wanted, containers, -, all⟩
  have unasked : Envoy.askedEntries wished pathVariable = [] := by
    cases wanted
    rfl
  refine ⟨by decide, used, absent, changed, applied, (all.shown used).shown, ?_⟩
  intro container member told
  rw [containers, List.mem_append] at member
  rcases member with before | added
  · cases before
  · rw [List.mem_singleton.mp added, all.told used, unasked] at told
    rcases told with notEmpty | ⟨var, isAsked, -⟩
    · exact notEmpty rfl
    · cases isAsked

end Sds

end MeshSidecar
