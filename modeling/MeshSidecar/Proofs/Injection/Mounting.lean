import MeshSidecar.Proofs.Injection.Environment
import MeshSidecar.Proofs.Injection.Mounts
import MeshSidecar.Proofs.Injection.Order

namespace MeshSidecar

/-!
# Mounts and volumes that match

An injection adds mounts and volumes.  Each volume is added for a mount, and each mount
has its volume, but for the mounts that the pod asks for in two annotations, whose
volumes it has to show itself.  The mount and its volume need not come with one step:
Envoy mounts the file of a tracer before the tracer has brought the volume of it.  What
matches is backed, so wherever a run stops the mounts are backed but for that volume.
-/

/-! ## Mounts that containers gained -/

/-- The second containers are the first, each with mounts behind its own, and further
ones behind them.  The mounts listed are those that came, each with the name of its
container. -/
inductive GainsMounts : List Container → List Container → List (String × VolumeMount) → Prop
  | behind (added : List Container) : GainsMounts [] added (mountsOf added)
  | there {before after : Container} {first second : List Container}
      {later : List (String × VolumeMount)} (added : List VolumeMount)
      (named : after.name = before.name)
      (mounts : after.volumeMounts.getD [] = before.volumeMounts.getD [] ++ added)
      (gains : GainsMounts first second later) :
      GainsMounts (before :: first) (after :: second)
        (added.map (fun mount => (after.name, mount)) ++ later)

theorem mountsOf_cons (container : Container) (rest : List Container) :
    mountsOf (container :: rest) =
      (container.volumeMounts.getD []).map (fun mount => (container.name, mount)) ++
        mountsOf rest :=
  List.flatMap_cons

theorem mountsOf_single (container : Container) :
    mountsOf [container] =
      (container.volumeMounts.getD []).map fun mount => (container.name, mount) := by
  rw [mountsOf_cons]
  exact List.append_nil _

namespace GainsMounts

variable {first second third : List Container} {gained early late : List (String × VolumeMount)}

theorem append (containers added : List Container) :
    GainsMounts containers (containers ++ added) (mountsOf added) := by
  induction containers with
  | nil => exact .behind added
  | cons container rest ih => exact .there [] rfl (List.append_nil _).symm ih

theorem refl (containers : List Container) : GainsMounts containers containers [] := by
  have same := append containers []
  rw [List.append_nil] at same
  exact same

/-- What is mounted in the end was mounted before or has been gained. -/
theorem mountsOf_perm (gains : GainsMounts first second gained) :
    (mountsOf second).Perm (mountsOf first ++ gained) := by
  induction gains with
  | behind added => exact .refl _
  | @there before after first second later added named mounts gains ih =>
      have here : (after.volumeMounts.getD []).map (fun mount => (after.name, mount)) =
          (before.volumeMounts.getD []).map (fun mount => (before.name, mount)) ++
            added.map fun mount => (after.name, mount) := by
        rw [mounts, List.map_append, named]
      rw [mountsOf_cons, mountsOf_cons, here, List.append_assoc, List.append_assoc]
      refine List.Perm.append_left _ ?_
      exact (ih.append_left _).trans (List.perm_append_comm_assoc ..)

/-- What is gained one time after the other is gained in all, though container by
container. -/
theorem trans (earlier : GainsMounts first second early)
    (next : GainsMounts second third late) :
    ∃ all, GainsMounts first third all ∧ all.Perm (early ++ late) := by
  induction earlier generalizing third late with
  | behind added => exact ⟨_, .behind third, next.mountsOf_perm⟩
  | there added named mounts gains ih =>
      cases next with
      | @there middle after rest changed lateRest moreAdded laterNamed laterMounts laterGains =>
          rcases ih laterGains with ⟨all, whole, perm⟩
          refine ⟨_, .there (added ++ moreAdded) (laterNamed.trans named) ?_ whole, ?_⟩
          · rw [laterMounts, mounts, List.append_assoc]
          · rw [List.map_append, laterNamed, List.append_assoc, List.append_assoc]
            refine List.Perm.append_left _ ?_
            exact (perm.append_left _).trans (List.perm_append_comm_assoc ..)

end GainsMounts

/-- Filling in the declared container mounts the socket there, if it is missing. -/
theorem Gateway.gainsMounts_fillDeclared (given : SortedMap String) (image missing : Option String)
    {containers : List Container} {declared : Container}
    (found : containers.find? (fun container => container.name == Artifact.envoy) =
      some declared) :
    GainsMounts containers (fillDeclared given image missing containers)
      (missing.toList.map fun path => (Artifact.envoy, Sds.mount path)) := by
  unfold fillDeclared
  induction containers with
  | nil => cases found
  | cons head rest ih =>
      rw [changeFirst]
      by_cases isEnvoy : (head.name == Artifact.envoy) = true
      · have named : (fill given image missing head).name = Artifact.envoy :=
          beq_iff_eq.mp isEnvoy
        have mounts : (fill given image missing head).volumeMounts.getD [] =
            head.volumeMounts.getD [] ++ missing.toList.map Sds.mount := Pod.getD_extend _ _
        have socket : GainsMounts (head :: rest) (fill given image missing head :: rest) _ :=
          .there _ rfl mounts (.refl rest)
        rw [named, List.append_nil, List.map_map] at socket
        rw [if_pos isEnvoy]
        exact socket
      · rw [List.find?_cons, Bool.eq_false_iff.mpr isEnvoy] at found
        rw [if_neg isEnvoy]
        exact .there [] rfl (List.append_nil _).symm (ih found)

namespace Pod

/-- What the containers and the init containers of a pod gained, in any order. -/
def Gains (before after : Pod) (mounts : List (String × VolumeMount)) : Prop :=
  ∃ gained gainedInit, GainsMounts before.containers after.containers gained ∧
    GainsMounts before.initContainers after.initContainers gainedInit ∧
    (gained ++ gainedInit).Perm mounts

namespace Gains

variable {first second third : Pod} {early late : List (String × VolumeMount)}

theorem refl (pod : Pod) : Gains pod pod [] :=
  ⟨[], [], .refl _, .refl _, .refl _⟩

theorem trans (earlier : Gains first second early) (next : Gains second third late) :
    Gains first third (early ++ late) := by
  rcases earlier with ⟨gained, gainedInit, containers, initContainers, perm⟩
  rcases next with ⟨more, moreInit, laterContainers, laterInit, laterPerm⟩
  rcases containers.trans laterContainers with ⟨all, whole, allPerm⟩
  rcases initContainers.trans laterInit with ⟨allInit, wholeInit, allInitPerm⟩
  refine ⟨all, allInit, whole, wholeInit, ?_⟩
  calc (all ++ allInit).Perm ((gained ++ more) ++ (gainedInit ++ moreInit)) :=
        allPerm.append allInitPerm
    _ |>.Perm ((gained ++ gainedInit) ++ (more ++ moreInit)) := by
        rw [List.append_assoc, List.append_assoc]
        exact (List.perm_append_comm_assoc ..).append_left _
    _ |>.Perm (early ++ late) := perm.append laterPerm

theorem of_perm {mounts same : List (String × VolumeMount)} (gains : Gains first second mounts)
    (perm : mounts.Perm same) : Gains first second same := by
  rcases gains with ⟨gained, gainedInit, containers, initContainers, listed⟩
  exact ⟨gained, gainedInit, containers, initContainers, listed.trans perm⟩

end Gains

end Pod

/-! ## Mounts of volumes that the pod shows itself -/

/-- What a pod asks Envoy to mount of its own volumes. -/
def Envoy.ownMounts (pod : Pod) : List VolumeMount :=
  match pod.pairs Annotations.volumeMounts .volumeMount with
  | .ok volumes => volumes.entries.map readOnlyMount
  | .error _ => []

/-- What a pod asks the daemon to mount of its own volumes. -/
def Xray.ownMounts (pod : Pod) : List VolumeMount :=
  match pod.annotation? Annotations.xrayConfigMount with
  | none => []
  | some value =>
    match ConfigMount.ofAnnotation value with
    | .ok mount => [⟨mount.volume, mount.path, some true, []⟩]
    | .error _ => []

namespace Envoy

/-- What Envoy mounts of volumes that the injection brings. -/
def broughtMounts (config : Config) (pod : Pod) (wished : Wishes) : List VolumeMount :=
  (if readsTracingFile config.tracing then [.plain Artifact.tracingVolume Artifact.tracingMountPath]
    else []) ++
  wished.secrets.entries.map readOnlyMount ++
    (Sds.missingPath? config.envoy pod).toList.map Sds.mount

variable {config : Config} {identity : Identity} {mesh : Mesh} {node : VirtualNode} {pod : Pod}
  {wished : Wishes} {resources : Resources}

theorem mounts_built_perm (wanted : wishes pod = .ok wished) :
    ((built config identity mesh node pod wished resources).volumeMounts.getD []).Perm
      (broughtMounts config pod wished ++ ownMounts pod) := by
  have own : ownMounts pod = wished.volumes.entries.map readOnlyMount := by
    rw [ownMounts, (of_wishes wanted).2.1]
  rw [mounts_built, askedMounts_eq, broughtMounts, own,
    List.append_assoc _ _ (List.map Sds.mount _), List.append_assoc _ (List.map Sds.mount _)]
  exact List.perm_append_comm.append_left _

/-- What Envoy mounts comes with it, except the volume of a tracer. -/
theorem shown_of_brought {mount : VolumeMount} (member : mount ∈ broughtMounts config pod wished) :
    mount.name ∈ (volumes config.envoy pod wished).map Volume.name ∨
      mount.name ∈ awaits config.tracing := by
  rw [broughtMounts, List.mem_append, List.mem_append] at member
  rw [volumes, List.map_append, List.mem_append]
  rcases member with (file | secret) | socket
  · rcases List.mem_ite_nil_right.mp file with ⟨reads, isFile⟩
    rw [awaits, if_pos reads, List.mem_singleton.mp isFile]
    exact Or.inr List.mem_cons_self
  · rcases List.mem_map.mp secret with ⟨entry, asked, rfl⟩
    have volume : secretVolume entry.1 ∈ wished.secrets.keys.map secretVolume :=
      List.mem_map_of_mem (List.mem_map_of_mem asked)
    exact Or.inl (Or.inl (List.mem_map_of_mem volume))
  · rcases List.mem_map.mp socket with ⟨path, missing, rfl⟩
    have volume : Sds.volume path ∈ (Sds.missingPath? config.envoy pod).toList.map Sds.volume :=
      List.mem_map_of_mem missing
    exact Or.inl (Or.inr (List.mem_map_of_mem volume))

theorem brought_of_volume {volume : Volume} (member : volume ∈ volumes config.envoy pod wished) :
    ∃ mount ∈ broughtMounts config pod wished, mount.name = volume.name := by
  simp only [broughtMounts, List.mem_append]
  rcases List.mem_append.mp member with secret | socket
  · rcases List.mem_map.mp secret with ⟨name, isSecret, rfl⟩
    rcases List.mem_map.mp isSecret with ⟨entry, asked, rfl⟩
    exact ⟨readOnlyMount entry, Or.inl (Or.inr (List.mem_map_of_mem asked)), rfl⟩
  · rcases List.mem_map.mp socket with ⟨path, missing, rfl⟩
    exact ⟨Sds.mount path, Or.inr (List.mem_map_of_mem missing), rfl⟩

end Envoy

theorem Xray.mountsOf_container {xray : Config.Xray} {sizing : Config.Sidecar} {region : String}
    {pod : Pod} {daemon : Container} (succeeds : container xray sizing region pod = .ok daemon) :
    mountsOf [daemon] = (ownMounts pod).map fun mount => (Artifact.xrayDaemon, mount) := by
  have settled : ∀ container, configured xray region pod = .ok container →
      container.volumeMounts.getD [] = ownMounts pod := by
    intro container settled
    unfold configured at settled
    rw [ownMounts]
    cases said : pod.annotation? Annotations.xrayConfigMount with
    | some value =>
        rw [said] at settled
        rcases of_map_eq_ok settled with ⟨mount, named, rfl⟩
        simp only [named]
        rfl
    | none =>
        rw [said] at settled
        rcases of_bind_eq_ok settled with ⟨level, known, settled⟩
        rcases of_bind_eq_ok settled with ⟨role, valid, settled⟩
        cases settled
        split
        · rfl
        · rfl
  rw [mountsOf_single, name_of_container succeeds]
  rcases of_container succeeds with ⟨container, resources, isSettled, -, rfl⟩
  exact congrArg _ (settled container isSettled)

namespace Pod

/-- The mounts that a pod asks for of volumes that it shows itself. -/
def ownMounts (pod : Pod) : List (String × VolumeMount) :=
  (Envoy.ownMounts pod).map (fun mount => (Artifact.envoy, mount)) ++
    (Xray.ownMounts pod).map fun mount => (Artifact.xrayDaemon, mount)

/-- What a pod asks to be mounted shows the volumes that it has to show itself. -/
theorem name_of_ownMounts {pod : Pod} {entry : String × VolumeMount}
    (member : entry ∈ pod.ownMounts) : entry.2.name ∈ pod.ownVolumes := by
  rcases List.mem_append.mp member with envoy | daemon
  · rcases List.mem_map.mp envoy with ⟨mount, asked, rfl⟩
    apply List.mem_append_left
    unfold Envoy.ownMounts at asked
    cases listed : pod.pairs Annotations.volumeMounts .volumeMount with
    | error error =>
        rw [listed] at asked
        cases asked
    | ok volumes =>
        rw [listed] at asked
        rcases List.mem_map.mp asked with ⟨pair, isListed, rfl⟩
        exact List.mem_map_of_mem isListed
  · rcases List.mem_map.mp daemon with ⟨mount, asked, rfl⟩
    apply List.mem_append_right
    unfold Xray.ownMounts at asked
    cases said : pod.annotation? Annotations.xrayConfigMount with
    | none =>
        rw [said] at asked
        cases asked
    | some value =>
        rw [said] at asked
        cases named : Xray.ConfigMount.ofAnnotation value with
        | error error =>
            simp only [named] at asked
            cases asked
        | ok file =>
            simp only [named] at asked ⊢
            rw [List.mem_singleton.mp asked]
            exact List.mem_cons_self

/-! ## Mounts that match volumes -/

/-- How mounts and volumes match between two pods: of the mounts that were gained, those
taken are among the pod's own, and all others show volumes, but for those awaited; no
volume was gained without one of them. -/
structure Matches (awaited : List String) (own brought taken : List (String × VolumeMount))
    (before after : Pod) : Prop where
  gains : before.Gains after (brought ++ taken)
  taken : taken.Sublist own
  shown : ∀ entry ∈ brought, after.hasVolume entry.2.name ∨ entry.2.name ∈ awaited
  volumes : ∃ added, after.volumes = before.volumes ++ added ∧
    ∀ volume ∈ added, ∃ entry ∈ brought, entry.2.name = volume.name

/-- Mounts and volumes that were gained match: but for mounts of the pod's own volumes,
each mount shows a volume of the pod, and each volume is shown by such a mount. -/
def MountsMatch (before after : Pod) : Prop :=
  ∃ brought taken, before.Gains after (brought ++ taken) ∧ taken.Sublist before.ownMounts ∧
    (∀ entry ∈ brought, after.hasVolume entry.2.name) ∧
    ∃ added, after.volumes = before.volumes ++ added ∧
      ∀ volume ∈ added, ∃ entry ∈ brought, entry.2.name = volume.name

namespace Matches

variable {awaited later : List String} {own ownLater : List (String × VolumeMount)}
  {brought taken more moreTaken : List (String × VolumeMount)} {first second third : Pod}

theorem refl (awaited : List String) (own : List (String × VolumeMount)) (pod : Pod) :
    Matches awaited own [] [] pod pod where
  gains := .refl pod
  taken := List.nil_sublist own
  shown := fun _ member => by cases member
  volumes := ⟨[], (List.append_nil _).symm, fun _ member => by cases member⟩

theorem hasVolume (early : Matches awaited own brought taken first second) {name : String}
    (present : first.hasVolume name) : second.hasVolume name := by
  rcases early.volumes with ⟨added, behind, mounted⟩
  rw [Pod.hasVolume, behind, List.any_append, Bool.or_eq_true]
  exact Or.inl present

theorem trans (early : Matches awaited own brought taken first second)
    (late : Matches later ownLater more moreTaken second third) :
    Matches (awaited ++ later) (own ++ ownLater) (brought ++ more) (taken ++ moreTaken)
      first third where
  gains := by
    refine (early.gains.trans late.gains).of_perm ?_
    rw [List.append_assoc, List.append_assoc]
    exact (List.perm_append_comm_assoc ..).append_left _
  taken := early.taken.append late.taken
  shown := by
    intro entry member
    rcases List.mem_append.mp member with before | after
    · exact (early.shown entry before).imp late.hasVolume (List.mem_append_left _)
    · exact (late.shown entry after).imp_right (List.mem_append_right _)
  volumes := by
    rcases early.volumes with ⟨added, behind, mounted⟩
    rcases late.volumes with ⟨lateAdded, lateBehind, lateMounted⟩
    refine ⟨added ++ lateAdded, ?_, ?_⟩
    · rw [lateBehind, behind, List.append_assoc]
    · intro volume member
      rcases List.mem_append.mp member with before | after
      · rcases mounted volume before with ⟨entry, isBrought, named⟩
        exact ⟨entry, List.mem_append_left _ isBrought, named⟩
      · rcases lateMounted volume after with ⟨entry, isBrought, named⟩
        exact ⟨entry, List.mem_append_right _ isBrought, named⟩

/-- Once all that is awaited is there, mounts and volumes match. -/
theorem mountsMatch (complete : Matches awaited own brought taken first second)
    (owned : own.Sublist first.ownMounts) (come : ∀ name ∈ awaited, second.hasVolume name) :
    MountsMatch first second :=
  ⟨brought, taken, complete.gains, complete.taken.trans owned,
    fun entry member => (complete.shown entry member).elim id (come _), complete.volumes⟩

/-- Mounts that match volumes are backed, whether or not what is awaited comes. -/
theorem backed {others : List String} (matched : Matches awaited own brought taken first second)
    (named : ∀ entry ∈ own, entry.2.name ∈ others) : Backed (others ++ awaited) first second := by
  rcases matched.gains with ⟨gained, gainedInit, containers, initContainers, listed⟩
  have isBacked : ∀ entry ∈ gained ++ gainedInit,
      second.hasVolume entry.2.name ∨ entry.2.name ∈ others ++ awaited := by
    intro entry member
    rcases List.mem_append.mp (listed.mem_iff.mp member) with isBrought | isTaken
    · exact (matched.shown entry isBrought).imp_right (List.mem_append_right _)
    · exact Or.inr (List.mem_append_left _ (named entry (matched.taken.subset isTaken)))
  constructor
  case volumes => exact fun name => matched.hasVolume
  case containers =>
    intro entry member
    refine (List.mem_append.mp (containers.mountsOf_perm.mem_iff.mp member)).imp_right ?_
    exact fun gains => isBacked entry (List.mem_append_left _ gains)
  case initContainers =>
    intro entry member
    refine (List.mem_append.mp (initContainers.mountsOf_perm.mem_iff.mp member)).imp_right ?_
    exact fun gains => isBacked entry (List.mem_append_right _ gains)

end Matches

theorem AsksSame.ownMounts_envoy {before after : Pod} (same : AsksSame before after) :
    Envoy.ownMounts after = Envoy.ownMounts before := by
  rw [Envoy.ownMounts, same.pairs (by decide), Envoy.ownMounts]

theorem AsksSame.ownMounts_xray {before after : Pod} (same : AsksSame before after) :
    Xray.ownMounts after = Xray.ownMounts before := by
  rw [Xray.ownMounts, same _ (by decide), Xray.ownMounts]

end Pod

/-- The volume is mounted by one of the containers. -/
def Volume.MountedBy (volume : Volume) (containers : List Container) : Prop :=
  ∃ container ∈ containers, ∃ mount ∈ container.volumeMounts.getD [], mount.name = volume.name

theorem Volume.MountedBy.mono {volume : Volume} {containers others : List Container}
    (mounted : volume.MountedBy containers) (included : containers ⊆ others) :
    volume.MountedBy others := by
  rcases mounted with ⟨container, member, shows⟩
  exact ⟨container, included member, shows⟩

/-- The volume is mounted by a container or an init container that stands behind those of the
first pod. -/
def Volume.MountedByNew (volume : Volume) (before after : Pod) : Prop :=
  volume.MountedBy (after.containers.drop before.containers.length) ∨
    volume.MountedBy (after.initContainers.drop before.initContainers.length)

/-- The volume is mounted by the container that is declared as Envoy, among the mounts that
this has gained behind those that it had. -/
def Gateway.MountsAnew (before after : Pod) (volume : Volume) : Prop :=
  ∃ declared envoy gained, declared? before = some declared ∧ declared? after = some envoy ∧
    envoy.volumeMounts.getD [] = declared.volumeMounts.getD [] ++ gained ∧
    ∃ mount ∈ gained, mount.name = volume.name

/-! ## Contributions -/

namespace Contribution

variable {added : Contribution} {awaited : List String}
  {own brought taken : List (String × VolumeMount)}

/-- What is mounted in a contribution, container by container. -/
def mounts (added : Contribution) : List (String × VolumeMount) :=
  mountsOf added.containers ++ mountsOf added.initContainers

theorem gains_addTo (added : Contribution) (pod : Pod) :
    pod.Gains (added.addTo pod) added.mounts := by
  refine ⟨mountsOf added.containers, mountsOf added.initContainers, ?_, ?_, .refl _⟩
  · rw [containers_addTo]
    exact .append _ _
  · rw [initContainers_addTo]
    exact .append _ _

/-- A contribution whose mounts show its volumes. -/
theorem matches_addTo (pod : Pod) (mounted : added.mounts.Perm (brought ++ taken))
    (owned : taken.Sublist own)
    (shown : ∀ entry ∈ brought,
      entry.2.name ∈ added.volumes.map Volume.name ∨ entry.2.name ∈ awaited)
    (volumes : ∀ volume ∈ added.volumes, ∃ entry ∈ brought, entry.2.name = volume.name) :
    Pod.Matches awaited own brought taken pod (added.addTo pod) where
  gains := (added.gains_addTo pod).of_perm mounted
  taken := owned
  shown := by
    intro entry member
    refine (shown entry member).imp_left ?_
    intro came
    rw [← Pod.mem_volumeNames, Pod.volumeNames, volumes_addTo, List.map_append]
    exact List.mem_append_right _ came
  volumes := ⟨added.volumes, volumes_addTo added pod, volumes⟩

theorem matches_of_unmounted (pod : Pod) (noMount : added.mounts = [])
    (noVolume : added.volumes = []) : Pod.Matches awaited own [] [] pod (added.addTo pod) := by
  apply matches_addTo pod
  · rw [noMount]
    exact .refl _
  · exact List.nil_sublist own
  · exact fun _ member => by cases member
  · rw [noVolume]
    exact fun _ member => by cases member

/-- Each volume is mounted by a container or an init container that comes with it. -/
def SelfMounted (added : Contribution) : Prop :=
  ∀ volume ∈ added.volumes,
    volume.MountedBy added.containers ∨ volume.MountedBy added.initContainers

theorem selfMounted_of_unfilled (noVolume : added.volumes = []) : added.SelfMounted := by
  intro volume member
  rw [noVolume] at member
  cases member

theorem SelfMounted.append (early late : Contribution) (first : early.SelfMounted)
    (second : late.SelfMounted) : (early ++ late).SelfMounted := by
  intro volume member
  rcases List.mem_append.mp member with before | behind
  · exact (first volume before).imp (fun mounted => mounted.mono (List.subset_append_left _ _))
      fun mounted => mounted.mono (List.subset_append_left _ _)
  · exact (second volume behind).imp (fun mounted => mounted.mono (List.subset_append_right _ _))
      fun mounted => mounted.mono (List.subset_append_right _ _)

/-- Behind a declared Envoy that is filled in, the volume of the socket is mounted by this
Envoy, and the volumes of the contribution by its containers. -/
theorem SelfMounted.mounted_filled (mounted : added.SelfMounted) {pod : Pod}
    {declared : Container} (found : Gateway.declared? pod = some declared)
    (given : SortedMap String) (image missing : Option String) :
    let after := added.addTo (Gateway.filled given image missing pod)
    ∀ volume ∈ after.volumes.drop pod.volumes.length,
      volume.MountedByNew pod after ∨ Gateway.MountsAnew pod after volume := by
  intro after volume member
  rw [volumes_addTo, Gateway.volumes_filled, List.append_assoc, List.drop_left] at member
  rcases List.mem_append.mp member with socket | came
  · rcases List.mem_map.mp socket with ⟨path, isMissing, rfl⟩
    have search := Gateway.declared?_filled found given image missing
    rw [Gateway.declared?] at search
    have stays : Gateway.declared? after = some (Gateway.fill given image missing declared) := by
      rw [Gateway.declared?, containers_addTo, List.find?_append, search, Option.some_or]
    refine Or.inr ⟨declared, _, missing.toList.map Sds.mount, found, stays, ?_, ?_⟩
    · exact Pod.getD_extend _ _
    · exact ⟨Sds.mount path, List.mem_map_of_mem isMissing, rfl⟩
  · have length : (Gateway.fillDeclared given image missing pod.containers).length =
        pod.containers.length := Gateway.length_changeFirst _ _ _
    rw [Volume.MountedByNew, containers_addTo, initContainers_addTo, Gateway.containers_filled,
      Gateway.initContainers_filled, List.drop_left, List.drop_left' length]
    exact Or.inl (mounted volume came)

end Contribution

/-! ## Steps -/

namespace Step

/-- The mounts that a step takes from the pod. -/
def ownMounts (pod : Pod) : Step → List (String × VolumeMount)
  | .envoy .. => (Envoy.ownMounts pod).map fun mount => (Artifact.envoy, mount)
  | .xray .. => (Xray.ownMounts pod).map fun mount => (Artifact.xrayDaemon, mount)
  | _ => []

theorem ownMounts_of_asksSame {before after : Pod} (same : Pod.AsksSame before after)
    (step : Step) : step.ownMounts after = step.ownMounts before := by
  cases step with
  | envoy config identity mesh node => rw [ownMounts, same.ownMounts_envoy, ownMounts]
  | xray config sizing region => rw [ownMounts, same.ownMounts_xray, ownMounts]
  | _ => rfl

theorem ownMounts_sublist (pod : Pod) (step : Step) :
    (step.ownMounts pod).Sublist pod.ownMounts := by
  cases step with
  | envoy config identity mesh node => exact List.sublist_append_left _ _
  | xray config sizing region => exact List.sublist_append_right _ _
  | _ => exact List.nil_sublist _

theorem matches_of_envoy {config : Config} {identity : Identity} {mesh : Mesh}
    {node : VirtualNode} {pod : Pod} {added : Contribution}
    (contributes : (envoy config identity mesh node).contribution pod = .ok added) :
    ∃ brought taken, Pod.Matches (Envoy.awaits config.tracing)
      ((Envoy.ownMounts pod).map fun mount => (Artifact.envoy, mount)) brought taken pod
      (added.addTo pod) := by
  rcases of_contribution_envoy contributes with ⟨present, rfl⟩ |
    ⟨absent, wished, resources, wanted, rfl⟩
  · exact ⟨[], [], Contribution.matches_of_unmounted pod rfl rfl⟩
  · refine ⟨(Envoy.broughtMounts config pod wished).map fun mount => (Artifact.envoy, mount), _,
      Contribution.matches_addTo pod ?_ (.refl _) ?_ ?_⟩
    · rw [Contribution.mounts, mountsOf_single, ← List.map_append]
      refine (List.Perm.of_eq (List.append_nil _)).trans ?_
      exact (Envoy.mounts_built_perm wanted).map _
    · intro entry member
      rcases List.mem_map.mp member with ⟨mount, isBrought, rfl⟩
      exact Envoy.shown_of_brought isBrought
    · intro volume member
      rcases Envoy.brought_of_volume member with ⟨mount, isBrought, named⟩
      exact ⟨_, List.mem_map_of_mem isBrought, named⟩

theorem matches_of_xray {config : Config.Xray} {sizing : Config.Sidecar} {region : String}
    {pod : Pod} {added : Contribution}
    (contributes : (xray config sizing region).contribution pod = .ok added) :
    ∃ taken, Pod.Matches [] ((Xray.ownMounts pod).map fun mount => (Artifact.xrayDaemon, mount))
      [] taken pod (added.addTo pod) := by
  rw [contribution] at contributes
  split at contributes
  · cases contributes
    exact ⟨[], Contribution.matches_of_unmounted pod rfl rfl⟩
  · rcases of_map_eq_ok contributes with ⟨daemon, succeeds, rfl⟩
    have mounted := Xray.mountsOf_container succeeds
    refine ⟨mountsOf [daemon], Contribution.matches_addTo pod ?_ ?_ ?_ ?_⟩
    · exact .of_eq (List.append_nil _)
    · exact mounted ▸ List.Sublist.refl _
    · exact fun _ member => by cases member
    · exact fun _ member => by cases member

theorem matches_of_tracer (tracer : Tracer) (pod : Pod) :
    ∃ brought, Pod.Matches [] [] brought [] pod ((tracer.contribution pod).addTo pod) := by
  rw [Tracer.contribution]
  split
  · exact ⟨[], Contribution.matches_of_unmounted pod rfl rfl⟩
  · refine ⟨mountsOf [tracer.initContainer], Contribution.matches_addTo pod ?_ (.refl _) ?_ ?_⟩
    · exact .of_eq (List.append_nil _).symm
    · intro entry member
      rw [List.mem_singleton.mp member]
      exact Or.inl List.mem_cons_self
    · intro volume member
      rw [List.mem_singleton.mp member]
      exact ⟨_, List.mem_cons_self, rfl⟩

theorem matches_of_contribution {step : Step} {pod : Pod} {added : Contribution}
    (contributes : step.contribution pod = .ok added) :
    ∃ brought taken, Pod.Matches step.awaits (step.ownMounts pod) brought taken pod
      (added.addTo pod) := by
  cases step with
  | envoy config identity mesh node => exact matches_of_envoy contributes
  | xray config sizing region => exact ⟨[], matches_of_xray contributes⟩
  | interception config sizing node =>
      refine ⟨[], [], ?_⟩
      rw [contribution] at contributes
      split at contributes
      · cases contributes
        exact Contribution.matches_of_unmounted pod rfl rfl
      · split at contributes
        · cases contributes
          exact Contribution.matches_of_unmounted pod rfl rfl
        · rcases of_map_eq_ok contributes with ⟨resources, sized, rfl⟩
          exact Contribution.matches_of_unmounted pod rfl rfl
  | jaeger config =>
      cases contributes
      rcases matches_of_tracer (.jaeger config) pod with ⟨brought, shown⟩
      exact ⟨brought, [], shown⟩
  | datadog config =>
      cases contributes
      rcases matches_of_tracer (.datadog config) pod with ⟨brought, shown⟩
      exact ⟨brought, [], shown⟩
  | _ =>
      cases contributes
      exact ⟨[], [], Contribution.matches_of_unmounted pod rfl rfl⟩

theorem selfMounted_of_tracer (tracer : Tracer) (pod : Pod) :
    (tracer.contribution pod).SelfMounted := by
  rw [Tracer.contribution]
  split
  · exact Contribution.selfMounted_of_unfilled rfl
  · intro volume member
    rw [List.mem_singleton.mp member]
    exact Or.inr ⟨_, List.mem_cons_self, _, List.mem_cons_self, rfl⟩

/-- The volumes that a step adds are mounted by the container that it adds. -/
theorem selfMounted_of_contribution {step : Step} {pod : Pod} {added : Contribution}
    (contributes : step.contribution pod = .ok added) : added.SelfMounted := by
  cases step with
  | envoy config identity mesh node =>
      rcases of_contribution_envoy contributes with ⟨present, rfl⟩ |
        ⟨absent, wished, resources, wanted, rfl⟩
      · exact Contribution.selfMounted_of_unfilled rfl
      · intro volume member
        rcases Envoy.brought_of_volume member with ⟨mount, isBrought, named⟩
        refine Or.inl ⟨_, List.mem_cons_self, mount, ?_, named⟩
        exact (Envoy.mounts_built_perm wanted).mem_iff.mpr (List.mem_append_left _ isBrought)
  | xray config sizing region =>
      rw [contribution] at contributes
      split at contributes
      · cases contributes
        exact Contribution.selfMounted_of_unfilled rfl
      · rcases of_map_eq_ok contributes with ⟨daemon, succeeds, rfl⟩
        exact Contribution.selfMounted_of_unfilled rfl
  | interception config sizing node =>
      rw [contribution] at contributes
      split at contributes
      · cases contributes
        exact Contribution.selfMounted_of_unfilled rfl
      · split at contributes
        · cases contributes
          exact Contribution.selfMounted_of_unfilled rfl
        · rcases of_map_eq_ok contributes with ⟨resources, sized, rfl⟩
          exact Contribution.selfMounted_of_unfilled rfl
  | jaeger config =>
      cases contributes
      exact selfMounted_of_tracer (.jaeger config) pod
  | datadog config =>
      cases contributes
      exact selfMounted_of_tracer (.datadog config) pod
  | _ =>
      cases contributes
      exact Contribution.selfMounted_of_unfilled rfl

theorem selfMounted_run {steps : List Step} (adds : ∀ step ∈ steps, step.onlyAdds) (pod : Pod) :
    ∃ added : Contribution, (run steps pod).pod = added.addTo pod ∧ added.SelfMounted :=
  run_adds (Contribution.selfMounted_of_unfilled rfl) Contribution.SelfMounted.append adds
    (fun _ _ _ _ _ contributes => selfMounted_of_contribution contributes) fun _ _ => rfl

theorem matches_of_gateway {config : Config} {identity : Identity} {mesh : Mesh}
    {selected : VirtualGateway} {pod changed : Pod}
    (applied : (gateway config identity mesh selected).apply pod = .ok changed) :
    ∃ brought, Pod.Matches [] [] brought [] pod changed := by
  rcases Gateway.of_apply applied with ⟨none, rfl⟩ | ⟨declared, image, found, allowed, rfl⟩
  · exact ⟨[], .refl [] [] changed⟩
  · let missing := Sds.missingPath? config.envoy pod
    refine ⟨missing.toList.map fun path => (Artifact.envoy, Sds.mount path), ?_⟩
    have volumes := Gateway.volumes_filled
      (.ofList (Gateway.Variables.ofPod config identity mesh selected pod).assignments) image
      missing pod
    constructor
    case gains =>
      rw [List.append_nil]
      refine ⟨_, [], ?_, ?_, .of_eq (List.append_nil _)⟩
      · rw [Gateway.containers_filled]
        exact Gateway.gainsMounts_fillDeclared _ _ _ found
      · rw [Gateway.initContainers_filled]
        exact .refl _
    case taken => exact .refl _
    case shown =>
      intro entry member
      rcases List.mem_map.mp member with ⟨path, isMissing, rfl⟩
      rw [← Pod.mem_volumeNames, Pod.volumeNames, volumes, List.map_append]
      have volume : Sds.volume path ∈ missing.toList.map Sds.volume := List.mem_map_of_mem isMissing
      exact Or.inl (List.mem_append_right _ (List.mem_map_of_mem volume))
    case volumes =>
      refine ⟨missing.toList.map Sds.volume, volumes, ?_⟩
      intro volume member
      rcases List.mem_map.mp member with ⟨path, isMissing, rfl⟩
      exact ⟨_, List.mem_map_of_mem isMissing, rfl⟩

theorem matches_of_apply {step : Step} {pod changed : Pod}
    (applied : step.apply pod = .ok changed) :
    ∃ brought taken, Pod.Matches step.awaits (step.ownMounts pod) brought taken pod changed := by
  cases adds : step.onlyAdds with
  | true =>
      rcases contributes_of_apply adds applied with ⟨added, contributes, rfl⟩
      exact matches_of_contribution contributes
  | false =>
      cases step with
      | gateway config identity mesh selected =>
          rcases matches_of_gateway applied with ⟨brought, shown⟩
          exact ⟨brought, [], shown⟩
      | _ => cases adds

theorem backed_of_apply {step : Step} {pod changed : Pod}
    (applied : step.apply pod = .ok changed) :
    Pod.Backed (pod.ownVolumes ++ step.awaits) pod changed := by
  rcases matches_of_apply applied with ⟨brought, taken, matched⟩
  refine matched.backed ?_
  exact fun entry member => Pod.name_of_ownMounts ((step.ownMounts_sublist pod).subset member)

/-- Wherever a run stops, new mounts are backed but for what Envoy awaits. -/
theorem backed_run (steps : List Step) (pod : Pod) :
    Pod.Backed (pod.ownVolumes ++ steps.flatMap awaits) pod (run steps pod).pod := by
  induction steps generalizing pod with
  | nil => exact .refl _ pod
  | cons step steps ih =>
      rw [run]
      cases applied : step.apply pod with
      | error error => exact .refl _ pod
      | ok changed =>
          have early := backed_of_apply applied
          have late := ih changed
          rw [(saysSame_of_apply applied).ownVolumes] at late
          rw [List.flatMap_cons, ← List.append_assoc]
          refine (early.mono (List.subset_append_left _ _)).trans (late.mono ?_)
          apply List.append_subset.mpr
          constructor
          · exact fun _ own => List.mem_append_left _ (List.mem_append_left _ own)
          · exact List.subset_append_right _ _

/-- After a run that succeeds, mounts and volumes match but for what Envoy awaits. -/
theorem matches_run {steps : List Step} {pod : Pod} (succeeds : (run steps pod).error = none) :
    ∃ brought taken, Pod.Matches (steps.flatMap awaits) (steps.flatMap (ownMounts pod))
      brought taken pod (run steps pod).pod := by
  induction steps generalizing pod with
  | nil => exact ⟨[], [], .refl [] [] pod⟩
  | cons step steps ih =>
      rcases run_cons_of_success succeeds with ⟨changed, applied, rest⟩
      rw [rest] at succeeds ⊢
      rcases matches_of_apply applied with ⟨brought, taken, early⟩
      rcases ih succeeds with ⟨more, moreTaken, late⟩
      have same : ownMounts changed = ownMounts pod :=
        funext (ownMounts_of_asksSame (saysSame_of_apply applied).asksSame)
      rw [same] at late
      exact ⟨brought ++ more, taken ++ moreTaken, early.trans late⟩

end Step

/-! ## Injections -/

namespace Injector

variable (injector : Injector) (mesh : Mesh)

/-- Where Envoy reads the file of a tracer, one of the steps after Envoy brings its
volume. -/
theorem brings_of_reads (node : VirtualNode)
    (reads : Envoy.readsTracingFile injector.config.tracing) :
    ∃ step ∈ (injector.nodeSteps mesh node).drop 2, ∀ before after,
      step.apply before = .ok after → after.hasVolume Artifact.tracingVolume := by
  rw [Envoy.readsTracingFile, Bool.or_eq_true] at reads
  rcases reads with jaeger | datadog
  · refine ⟨.jaeger injector.config.tracing.jaeger, by simp [nodeSteps], ?_⟩
    exact fun _ _ applied => Step.marked_of_apply applied jaeger
  · refine ⟨.datadog injector.config.tracing.datadog, by simp [nodeSteps], ?_⟩
    exact fun _ _ applied => Step.marked_of_apply applied datadog

/-- The steps of an injection take no mount twice. -/
theorem ownMounts_steps (selector : Selector) (pod : Pod) :
    ((injector.steps mesh selector).flatMap (Step.ownMounts pod)).Sublist pod.ownMounts := by
  cases selector with
  | node node =>
      simp only [steps, nodeSteps, List.flatMap_cons, List.flatMap_nil, Step.ownMounts,
        List.nil_append, List.append_nil]
      exact .refl _
  | gateway gateway =>
      simp only [steps, gatewaySteps, List.flatMap_cons, List.flatMap_nil, Step.ownMounts,
        List.nil_append, List.append_nil]
      exact List.sublist_append_right _ _

theorem awaits_nodeSteps (node : VirtualNode) :
    (injector.nodeSteps mesh node).flatMap Step.awaits = Envoy.awaits injector.config.tracing := by
  simp [nodeSteps, Step.awaits]

theorem awaits_gatewaySteps (gateway : VirtualGateway) :
    (injector.gatewaySteps mesh gateway).flatMap Step.awaits = [] :=
  rfl

/-- What steps leave to later ones is there when all have succeeded. -/
theorem hasVolume_of_awaited (selector : Selector) {pod : Pod}
    (succeeds : (Step.run (injector.steps mesh selector) pod).error = none) {name : String}
    (awaited : name ∈ (injector.steps mesh selector).flatMap Step.awaits) :
    (Step.run (injector.steps mesh selector) pod).pod.hasVolume name := by
  cases selector with
  | gateway gateway =>
      rw [steps, awaits_gatewaySteps] at awaited
      cases awaited
  | node node =>
      rw [steps, awaits_nodeSteps] at awaited
      rcases List.mem_ite_nil_right.mp awaited with ⟨reads, isTracing⟩
      rcases injector.brings_of_reads mesh node reads with ⟨tracer, later, brings⟩
      rw [List.mem_singleton.mp isTracing]
      exact Step.hasVolume_run (List.mem_of_mem_drop later) brings succeeds

/-- An injection for a node leaves the containers that are there as they are. -/
theorem containers_prefix_inject (node : VirtualNode) (pod : Pod) :
    pod.containers <+: (injector.inject mesh (.node node) pod).pod.containers ∧
    pod.initContainers <+: (injector.inject mesh (.node node) pod).pod.initContainers := by
  rw [inject]
  split
  · have preserved := injector.preserved_run_nodeSteps mesh node pod
    exact ⟨preserved.containers_prefix, preserved.initContainers_prefix⟩
  · exact ⟨List.prefix_rfl, List.prefix_rfl⟩

/-- Where steps only add, what comes mounts the volumes that come. -/
theorem mountedByNew_run {steps : List Step} (adds : ∀ step ∈ steps, step.onlyAdds) (pod : Pod) :
    ∀ volume ∈ (Step.run steps pod).pod.volumes.drop pod.volumes.length,
      volume.MountedByNew pod (Step.run steps pod).pod := by
  rcases Step.selfMounted_run adds pod with ⟨added, whole, mounted⟩
  intro volume member
  rw [whole, Contribution.volumes_addTo, List.drop_left] at member
  rw [whole, Volume.MountedByNew, Contribution.containers_addTo,
    Contribution.initContainers_addTo, List.drop_left, List.drop_left]
  exact mounted volume member

/-- The volume of the socket is mounted by the declared Envoy, and other volumes by what
comes. -/
theorem mounted_run_gatewaySteps (gateway : VirtualGateway) {pod : Pod}
    (succeeds : (Step.run (injector.gatewaySteps mesh gateway) pod).error = none) :
    ∀ volume ∈ (Step.run (injector.gatewaySteps mesh gateway) pod).pod.volumes.drop
        pod.volumes.length,
      volume.MountedByNew pod (Step.run (injector.gatewaySteps mesh gateway) pod).pod ∨
        Gateway.MountsAnew pod (Step.run (injector.gatewaySteps mesh gateway) pod).pod volume := by
  rcases Step.run_cons_of_success succeeds with ⟨changed, applied, rest⟩
  have adds : ∀ step ∈ (injector.gatewaySteps mesh gateway).tail, step.onlyAdds := by
    simp [gatewaySteps, Step.onlyAdds]
  rcases Gateway.of_apply applied with ⟨none, rfl⟩ | ⟨declared, image, found, allowed, rfl⟩
  · rw [gatewaySteps, rest]
    exact fun volume member => Or.inl (mountedByNew_run adds changed volume member)
  · rcases Step.selfMounted_run adds _ with ⟨added, whole, mounted⟩
    rw [gatewaySteps, (congrArg Outcome.pod rest).trans whole]
    exact mounted.mounted_filled found _ _ _

/-- After an injection that succeeds, the mounts and the volumes that it added match.  For
a node they are mounts of containers that came, since those that were there stay.  Each volume
is mounted by what came, or by the Envoy that a gateway declares. -/
theorem mountsMatch_inject (selector : Selector) {pod : Pod}
    (succeeds : (injector.inject mesh selector pod).error = none) :
    let after := (injector.inject mesh selector pod).pod
    Pod.MountsMatch pod after ∧
    (∀ node, selector = .node node →
      pod.containers <+: after.containers ∧ pod.initContainers <+: after.initContainers) ∧
    ∀ volume ∈ after.volumes.drop pod.volumes.length, volume.MountedByNew pod after ∨
      ∃ gateway, selector = .gateway gateway ∧ Gateway.MountsAnew pod after volume := by
  intro after
  refine ⟨?_, ?_, ?_⟩
  · by_cases wanted : injector.shouldInject pod
    · simp only [after, inject, if_pos wanted] at succeeds ⊢
      rcases Step.matches_run succeeds with ⟨brought, taken, complete⟩
      refine complete.mountsMatch (injector.ownMounts_steps mesh selector pod) ?_
      exact fun _ awaited => injector.hasVolume_of_awaited mesh selector succeeds awaited
    · simp only [after, inject, if_neg wanted]
      have nothing := Pod.Matches.refl [] pod.ownMounts pod
      exact nothing.mountsMatch (.refl _) (fun _ member => by cases member)
  · rintro node rfl
    exact injector.containers_prefix_inject mesh node pod
  · intro volume member
    by_cases wanted : injector.shouldInject pod
    · simp only [after, inject, if_pos wanted] at succeeds member ⊢
      cases selector with
      | node node =>
          exact Or.inl (mountedByNew_run (injector.onlyAdds_nodeSteps mesh node) pod volume member)
      | gateway gateway =>
          exact (injector.mounted_run_gatewaySteps mesh gateway succeeds volume member).imp_right
            fun anew => ⟨gateway, rfl, anew⟩
    · simp only [after, inject, if_neg wanted, List.drop_length] at member
      cases member

/-- With a tracer and the socket, beside a secret and a volume of the pod's own. -/
theorem mountsMatch_of_mounting :
    let injector : Injector :=
      ⟨{ tracing := { jaeger := { enabled := true } }, envoy := { enableSds := true } }, {},
        by decide⟩
    let selector := Selector.node { name := "node", namespaceName := "default" }
    let pod := (mounting "data" "tls").annotate Annotations.volumeMounts "data:/data"
    let after := (injector.inject ⟨"mesh", "mesh", none⟩ selector pod).pod
    (injector.inject ⟨"mesh", "mesh", none⟩ selector pod).error = none ∧
    pod.ownMounts = [(Artifact.envoy, ⟨"data", "/data", some true, []⟩)] ∧
    Pod.MountsMatch pod after ∧
    (pod.containers <+: after.containers ∧ pod.initContainers <+: after.initContainers) ∧
    ∀ volume ∈ after.volumes.drop pod.volumes.length, volume.MountedByNew pod after := by
  intro injector selector pod after
  have succeeds : (injector.inject ⟨"mesh", "mesh", none⟩ selector pod).error = none := by
    rw [inject, if_pos (by decide)]
    refine (injector.error_run_nodeSteps _ _ (by decide) (by decide) (by decide)).trans ?_
    decide
  rcases injector.mountsMatch_inject ⟨"mesh", "mesh", none⟩ selector succeeds with
    ⟨matched, kept, mounted⟩
  refine ⟨succeeds, by decide, matched, kept _ rfl, ?_⟩
  intro volume member
  rcases mounted volume member with new | ⟨gateway, other, -⟩
  · exact new
  · have differ : Selector.node { name := "node", namespaceName := "default" } ≠
        .gateway gateway := by simp
    exact absurd other differ

end Injector

end MeshSidecar
