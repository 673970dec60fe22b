import MeshSidecar.Proofs.Injection.Acceptance

namespace MeshSidecar

/-!
# The command line of the X-Ray daemon

A pod that names a file has the daemon started with it, and nothing is asked of the
settings that would be arguments.  Any other pod has the daemon started with arguments,
which are looked at first.  Both the name of a file and the name of a role are described
here by how they are spelled, and what is accepted is what has such a spelling.
-/

namespace PairForm

/-- A pair is read from the two parts that its only separator divides. -/
theorem pair?_eq_some_iff (form : PairForm) (piece : List Char) (pair : String × String) :
    form.pair? piece = some pair ↔ ∃ left right, piece = left ++ form.separator :: right ∧
      form.separator ∉ left ∧ form.separator ∉ right ∧
      pair = (String.ofList (Text.trim left), String.ofList (Text.trim right)) := by
  constructor
  · intro read
    unfold pair? at read
    split at read
    · next left right cut =>
        have parts := (Text.splitOn_eq_pair_iff form.separator piece left right).mp cut
        exact ⟨left, right, parts.1, parts.2.1, parts.2.2, (Option.some.inj read).symm⟩
    · cases read
  · rintro ⟨left, right, whole, noLeft, noRight, rfl⟩
    have cut := (Text.splitOn_eq_pair_iff form.separator piece left right).mpr
      ⟨whole, noLeft, noRight⟩
    rw [pair?, cut]

end PairForm

namespace Xray

/-! ## The names of roles -/

/-- The parts of a name in the form `arn:partition:service:region:account:resource`. -/
structure Arn where
  partition : String
  service : String
  region : String
  account : String
  resource : String

namespace Arn

def text (arn : Arn) : String :=
  "arn:" ++ arn.partition ++ ":" ++ arn.service ++ ":" ++ arn.region ++ ":" ++ arn.account ++
    ":" ++ arn.resource

/-- The colons in front of the resource divide the parts, of which three say something. -/
structure WellFormed (arn : Arn) : Prop where
  partition : arn.partition ≠ "" ∧ ':' ∉ arn.partition.toList
  service : arn.service ≠ "" ∧ ':' ∉ arn.service.toList
  region : ':' ∉ arn.region.toList
  account : ':' ∉ arn.account.toList
  resource : arn.resource ≠ ""

theorem toList_text (arn : Arn) : arn.text.toList = ['a', 'r', 'n'] ++ ':' ::
    (arn.partition.toList ++ ':' :: (arn.service.toList ++ ':' :: (arn.region.toList ++ ':' ::
      (arn.account.toList ++ ':' :: arn.resource.toList)))) := by
  simp [text]

/-- Cutting a name at its first five colons finds its parts. -/
theorem WellFormed.cut {arn : Arn} (wellFormed : arn.WellFormed) :
    Text.splitAtMost ':' 5 arn.text.toList = [['a', 'r', 'n'], arn.partition.toList,
      arn.service.toList, arn.region.toList, arn.account.toList, arn.resource.toList] := by
  have scheme : ':' ∉ ['a', 'r', 'n'] := by
    decide
  rw [toList_text, Text.splitAtMost_append scheme, Text.splitAtMost_append wellFormed.partition.2,
    Text.splitAtMost_append wellFormed.service.2, Text.splitAtMost_append wellFormed.region,
    Text.splitAtMost_append wellFormed.account, Text.splitAtMost_zero]

end Arn

/-- The names that are accepted are those that are put together from parts. -/
theorem isArn_iff (text : String) : isArn text ↔ ∃ arn : Arn, arn.WellFormed ∧ arn.text = text := by
  constructor
  · intro valid
    unfold isArn at valid
    split at valid
    · next scheme partition service region account resource cut =>
        -- Each cut leaves the parts behind it, and the last part is cut no further.
        rcases Text.of_splitAtMost_eq_cons_cons cut with ⟨_, -, whole, named⟩
        rcases Text.of_splitAtMost_eq_cons_cons named with ⟨_, noPartition, rfl, served⟩
        rcases Text.of_splitAtMost_eq_cons_cons served with ⟨_, noService, rfl, placed⟩
        rcases Text.of_splitAtMost_eq_cons_cons placed with ⟨_, noRegion, rfl, owned⟩
        rcases Text.of_splitAtMost_eq_cons_cons owned with ⟨_, noAccount, rfl, last⟩
        rw [Text.splitAtMost_zero, List.singleton_inj] at last
        simp only [Bool.and_eq_true, beq_iff_eq, bne_iff_ne] at valid
        rcases valid with ⟨⟨⟨rfl, partitionSays⟩, serviceSays⟩, resourceSays⟩
        let arn : Arn := ⟨.ofList partition, .ofList service, .ofList region, .ofList account,
          .ofList resource⟩
        have wellFormed : arn.WellFormed := by
          constructor
          case partition => simpa [arn] using ⟨partitionSays, noPartition⟩
          case service => simpa [arn] using ⟨serviceSays, noService⟩
          case region => simpa [arn] using noRegion
          case account => simpa [arn] using noAccount
          case resource => simpa [arn] using resourceSays
        refine ⟨arn, wellFormed, String.toList_inj.mp ?_⟩
        rw [whole, last, Arn.toList_text]
        simp [arn]
    · cases valid
  · rintro ⟨arn, wellFormed, rfl⟩
    have present : ∀ part : String, part ≠ "" → part.toList ≠ [] := by
      intro part some blank
      exact some (String.toList_eq_nil_iff.mp blank)
    rw [isArn, wellFormed.cut]
    simp [present _ wellFormed.partition.1, present _ wellFormed.service.1,
      present _ wellFormed.resource]

/-! ## The names of files -/

/-- The annotation spells a mount as a volume and a path with a colon between them. -/
structure ConfigMount.Spells (mount : ConfigMount) (value : String) : Prop where
  single : ',' ∉ value.toList
  parts : ∃ volume path : List Char, value.toList = volume ++ ':' :: path ∧
    ':' ∉ volume ∧ ':' ∉ path ∧
    mount = ⟨.ofList (Text.trim volume), .ofList (Text.trim path)⟩
  volume : mount.volume ≠ ""
  path : mount.path ≠ ""

theorem ofAnnotation_eq_ok_iff (value : String) (mount : ConfigMount) :
    ConfigMount.ofAnnotation value = .ok mount ↔ mount.Spells value := by
  constructor
  · intro read
    unfold ConfigMount.ofAnnotation at read
    split at read
    · cases read
    · next noComma =>
        rw [List.contains_iff_mem] at noComma
        split at read
        · next volume path pair =>
            split at read
            · cases read
            · next filled =>
                rw [not_or] at filled
                rcases (PairForm.pair?_eq_some_iff _ _ _).mp pair with
                  ⟨left, right, whole, noLeft, noRight, same⟩
                cases same
                cases read
                exact ⟨noComma, ⟨left, right, whole, noLeft, noRight, rfl⟩, filled.1, filled.2⟩
        · cases read
  · intro spells
    rcases spells.parts with ⟨volume, path, whole, noVolume, noPath, rfl⟩
    have pair := (PairForm.pair?_eq_some_iff .volumeMount value.toList _).mpr
      ⟨volume, path, whole, noVolume, noPath, rfl⟩
    have filled := not_or.mpr ⟨spells.volume, spells.path⟩
    rw [ConfigMount.ofAnnotation, if_neg (by simpa using spells.single), pair]
    exact if_neg filled

/-! ## The arguments -/

/-- The arguments that the settings ask for, each where it says something. -/
def arguments (xray : Config.Xray) : List String :=
  (if xray.logLevel = "" then [] else ["--log-level", xray.logLevel]) ++
    (xray.roleArn.filter fun role => role != "").toList.flatMap fun role => ["--role-arn", role]

/-- The settings make valid arguments. -/
structure ValidArguments (xray : Config.Xray) : Prop where
  level : xray.logLevel = "" ∨ xray.logLevel ∈ ["dev", "debug", "info", "prod", "warn", "error"]
  role : ∀ role, xray.roleArn = some role → role = "" ∨ isArn role

theorem logLevelArgs_eq_ok_iff (level : String) (args : List String) :
    logLevelArgs level = .ok args ↔ (level = "" ∨ level ∈ logLevels) ∧
      args = if level = "" then [] else ["--log-level", level] := by
  unfold logLevelArgs
  by_cases blank : level = ""
  · simp only [if_pos blank, Except.ok.injEq, Or.inl blank, true_and]
    exact eq_comm
  · by_cases known : level ∈ logLevels
    · simp only [if_neg blank, List.contains_iff_mem, if_pos known, Except.ok.injEq, Or.inr known,
        true_and]
      exact eq_comm
    · simp [blank, known]

theorem roleArgs_eq_ok_iff (role : Option String) (args : List String) :
    roleArgs role = .ok args ↔ (∀ name, role = some name → name = "" ∨ isArn name) ∧
      args = (role.filter fun name => name != "").toList.flatMap fun name =>
        ["--role-arn", name] := by
  unfold roleArgs
  cases role with
  | none => exact ⟨fun same => ⟨nofun, (Except.ok.inj same).symm⟩, fun both => both.2 ▸ rfl⟩
  | some name =>
      simp only [Option.some.injEq, forall_eq']
      by_cases blank : name = ""
      · subst blank
        exact ⟨fun same => ⟨Or.inl rfl, (Except.ok.inj same).symm⟩, fun both => both.2 ▸ rfl⟩
      · have kept : (some name).filter (fun name => name != "") = some name :=
          Option.filter_eq_some_iff.mpr ⟨rfl, bne_iff_ne.mpr blank⟩
        rw [if_neg blank, kept]
        by_cases valid : isArn name
        · rw [if_pos valid]
          exact ⟨fun same => ⟨Or.inr valid, (Except.ok.inj same).symm⟩, fun both => both.2 ▸ rfl⟩
        · simp [blank, valid]

/-- A container without arguments, given a list of them. -/
theorem given_args {container : Container} (unset : container.args = none) (args : List String) :
    (if args.isEmpty then container else { container with args := some args }) =
      { container with args := if args = [] then none else some args } := by
  cases args with
  | nil =>
      rw [if_pos List.isEmpty_nil, if_pos rfl, ← unset]
  | cons arg args => rfl

/-- Settings are passed when both arguments are valid, and then all of them are. -/
theorem withArgs_eq_ok_iff (xray : Config.Xray) {container : Container}
    (unset : container.args = none) (passed : Container) :
    withArgs xray container = .ok passed ↔ ValidArguments xray ∧ passed =
      { container with args := if arguments xray = [] then none else some (arguments xray) } := by
  constructor
  · intro built
    unfold withArgs at built
    rcases of_bind_eq_ok built with ⟨level, levelGiven, rest⟩
    rcases of_bind_eq_ok rest with ⟨role, roleGiven, whole⟩
    rcases (logLevelArgs_eq_ok_iff _ _).mp levelGiven with ⟨known, rfl⟩
    rcases (roleArgs_eq_ok_iff _ _).mp roleGiven with ⟨valid, rfl⟩
    cases whole
    exact ⟨⟨known, valid⟩, given_args unset _⟩
  · rintro ⟨valid, rfl⟩
    rw [withArgs, (logLevelArgs_eq_ok_iff _ _).mpr ⟨valid.level, rfl⟩, ok_bind,
      (roleArgs_eq_ok_iff _ _).mpr ⟨valid.role, rfl⟩, ok_bind]
    exact congrArg Except.ok (given_args unset _)

/-! ## The daemon of a pod -/

/-- The daemon is started with a file, and has the volume of the file, which it cannot
change. -/
structure StartsWithFile (mount : ConfigMount) (daemon : Container) : Prop where
  name : daemon.name = Artifact.xrayDaemon
  command : daemon.command = some ["/xray", "--config", mount.file]
  args : daemon.args = none
  volumeMounts : daemon.volumeMounts = some [⟨mount.volume, mount.path, some true, []⟩]

/-- The daemon is started as its image has it, with what the settings ask for. -/
structure StartsWithArguments (xray : Config.Xray) (daemon : Container) : Prop where
  name : daemon.name = Artifact.xrayDaemon
  command : daemon.command = none
  args : daemon.args = if arguments xray = [] then none else some (arguments xray)
  volumeMounts : daemon.volumeMounts = none

/-- With an annotation the daemon is given a file that it spells. -/
theorem configured_of_said (xray : Config.Xray) (region : String) {pod : Pod} {value : String}
    (said : pod.annotation? Annotations.xrayConfigMount = some value) (settled : Container) :
    configured xray region pod = .ok settled ↔ ∃ mount : ConfigMount, mount.Spells value ∧
      settled = withFile mount (Variables.ofConfig xray region).container := by
  rw [configured, said]
  constructor
  · intro given
    rcases of_map_eq_ok given with ⟨mount, read, rfl⟩
    exact ⟨mount, (ofAnnotation_eq_ok_iff value mount).mp read, rfl⟩
  · rintro ⟨mount, spells, rfl⟩
    exact congrArg (Except.map _) ((ofAnnotation_eq_ok_iff value mount).mpr spells)

/-- Without one it is given arguments. -/
theorem configured_of_unsaid (xray : Config.Xray) (region : String) {pod : Pod}
    (unsaid : pod.annotation? Annotations.xrayConfigMount = none) (settled : Container) :
    configured xray region pod = .ok settled ↔ ValidArguments xray ∧
      settled = { (Variables.ofConfig xray region).container with
        args := if arguments xray = [] then none else some (arguments xray) } := by
  rw [configured, unsaid]
  exact withArgs_eq_ok_iff xray rfl settled

section

variable {xray : Config.Xray} {sizing : Config.Sidecar} {region : String} {pod : Pod}

/-- Where nothing is missing and the daemon can be sized, the step succeeds when the daemon
can be given its settings. -/
theorem apply_eq_ok_iff (enabled : xray.enabled)
    (absent : pod.hasContainer Artifact.xrayDaemon = false)
    (complete : missingParameters xray region = [])
    (sized : ∀ quantity ∈ pod.quantities sizing, Quantity.Usable quantity) :
    ∃ resources, ∀ served, apply xray sizing region pod = .ok served ↔
      ∃ settled, configured xray region pod = .ok settled ∧
        served = pod.addContainer { settled with resources := some resources } := by
  rcases Pod.sidecarResources_of_usable sized with ⟨resources, resourced⟩
  refine ⟨resources, fun served => ?_⟩
  rw [apply, enabled, absent, container_eq, if_pos complete, resourced]
  cases configured xray region pod with
  | error error =>
      constructor
      · intro added
        cases added
      · rintro ⟨_, failed, -⟩
        cases failed
  | ok settled =>
      constructor
      · intro added
        exact ⟨settled, rfl, (Except.ok.inj added).symm⟩
      · rintro ⟨_, same, rfl⟩
        cases same
        rfl

/-- The daemon of a pod is started in one of two ways.  With an annotation the step succeeds
exactly when that spells a mount, whatever the arguments would be; without one exactly when
these are valid, for which the name of a role has to be put together from its parts. -/
theorem daemon_started (enabled : xray.enabled) (placed : region ≠ "") (imaged : xray.image ≠ "")
    (listens : xray.daemonPort ≠ 0)
    (sized : ∀ quantity ∈ pod.quantities sizing, Quantity.Usable quantity)
    (absent : pod.hasContainer Artifact.xrayDaemon = false) :
    (∀ value, pod.annotation? Annotations.xrayConfigMount = some value →
      ((∃ served, apply xray sizing region pod = .ok served) ↔
        ∃ mount : ConfigMount, mount.Spells value) ∧
      ∀ mount : ConfigMount, mount.Spells value → ∃ served daemon,
        apply xray sizing region pod = .ok served ∧ pod.GainsContainer served daemon ∧
        StartsWithFile mount daemon) ∧
    (pod.annotation? Annotations.xrayConfigMount = none →
      ((∃ served, apply xray sizing region pod = .ok served) ↔ ValidArguments xray) ∧
      (ValidArguments xray → ∃ served daemon,
        apply xray sizing region pod = .ok served ∧ pod.GainsContainer served daemon ∧
        StartsWithArguments xray daemon)) ∧
    ∀ role, isArn role ↔ ∃ arn : Arn, arn.WellFormed ∧ arn.text = role := by
  have complete := (missingParameters_eq_nil xray region).mpr ⟨placed, imaged, listens⟩
  rcases apply_eq_ok_iff enabled absent complete sized with ⟨resources, applied⟩
  refine ⟨?_, ?_, isArn_iff⟩
  · intro value said
    have succeeds : ∀ mount : ConfigMount, mount.Spells value → ∃ served daemon,
        apply xray sizing region pod = .ok served ∧ pod.GainsContainer served daemon ∧
        StartsWithFile mount daemon := by
      intro mount spells
      have settled := (configured_of_said xray region said _).mpr ⟨mount, spells, rfl⟩
      exact ⟨_, _, (applied _).mpr ⟨_, settled, rfl⟩, pod.gainsContainer_addContainer _, rfl, rfl,
        rfl, rfl⟩
    refine ⟨⟨?_, ?_⟩, succeeds⟩
    · rintro ⟨served, added⟩
      rcases (applied served).mp added with ⟨settled, given, -⟩
      rcases (configured_of_said xray region said settled).mp given with ⟨mount, spells, -⟩
      exact ⟨mount, spells⟩
    · rintro ⟨mount, spells⟩
      rcases succeeds mount spells with ⟨served, daemon, added, -⟩
      exact ⟨served, added⟩
  · intro unsaid
    have succeeds : ValidArguments xray → ∃ served daemon,
        apply xray sizing region pod = .ok served ∧ pod.GainsContainer served daemon ∧
        StartsWithArguments xray daemon := by
      intro valid
      have settled := (configured_of_unsaid xray region unsaid _).mpr ⟨valid, rfl⟩
      exact ⟨_, _, (applied _).mpr ⟨_, settled, rfl⟩, pod.gainsContainer_addContainer _, rfl, rfl,
        rfl, rfl⟩
    refine ⟨⟨?_, ?_⟩, succeeds⟩
    · rintro ⟨served, added⟩
      rcases (applied served).mp added with ⟨settled, given, -⟩
      exact ((configured_of_unsaid xray region unsaid settled).mp given).1
    · intro valid
      rcases succeeds valid with ⟨served, daemon, added, -⟩
      exact ⟨served, added⟩

/-- A file is used whatever the arguments would be; without it an unknown level is refused.
A role with a colon in its resource, and without a region, is passed on. -/
theorem daemon_started_of_mount :
    let xray : Config.Xray :=
      { enabled := true, logLevel := "verbose", roleArn := some "arn:aws:iam::1:role/a:b" }
    let mount : ConfigMount := ⟨"settings", "/config/"⟩
    let mounting := Pod.empty.annotate Annotations.xrayConfigMount "settings : /config/ "
    xray.enabled ∧ "us-west-2" ≠ "" ∧ xray.image ≠ "" ∧ xray.daemonPort ≠ 0 ∧
    (∀ quantity ∈ mounting.quantities {}, Quantity.Usable quantity) ∧
    (∀ quantity ∈ Pod.empty.quantities {}, Quantity.Usable quantity) ∧
    mounting.hasContainer Artifact.xrayDaemon = false ∧
    Pod.empty.hasContainer Artifact.xrayDaemon = false ∧
    (∃ served daemon, apply xray {} "us-west-2" mounting = .ok served ∧
      mounting.GainsContainer served daemon ∧
      daemon.command = some ["/xray", "--config", "/config/xray-daemon.yaml"] ∧
      StartsWithFile mount daemon) ∧
    (¬ ∃ served, apply xray {} "us-west-2" .empty = .ok served) ∧
    (∃ served daemon, apply { xray with logLevel := "warn" } {} "us-west-2" .empty = .ok served ∧
      Pod.empty.GainsContainer served daemon ∧
      daemon.args = some ["--log-level", "warn", "--role-arn", "arn:aws:iam::1:role/a:b"]) ∧
    ∃ arn : Arn, arn.WellFormed ∧ arn.text = "arn:aws:iam::1:role/a:b" := by
  intro xray mount mounting
  have sized : ∀ quantity ∈ mounting.quantities {}, Quantity.Usable quantity := by
    rw [← Pod.sizingComplaints_eq_none]
    decide
  have sizedToo : ∀ quantity ∈ Pod.empty.quantities {}, Quantity.Usable quantity := by
    rw [← Pod.sizingComplaints_eq_none]
    decide
  have spells : mount.Spells "settings : /config/ " := by
    refine ⟨by decide, ⟨"settings ".toList, " /config/ ".toList, ?_⟩, by decide, by decide⟩
    decide
  have placed : "us-west-2" ≠ "" := by
    decide
  have imaged : xray.image ≠ "" := by
    decide
  have listens : xray.daemonPort ≠ 0 := by
    decide
  have unsaid : Pod.empty.annotation? Annotations.xrayConfigMount = none := by
    decide
  have byFile := @daemon_started xray {} "us-west-2" mounting rfl placed imaged listens sized
    (by decide)
  have byArguments := @daemon_started xray {} "us-west-2" .empty rfl placed imaged listens sizedToo
    (by decide)
  have warned := @daemon_started { xray with logLevel := "warn" } {} "us-west-2" .empty rfl placed
    imaged listens sizedToo (by decide)
  refine ⟨rfl, placed, imaged, listens, sized, sizedToo, by decide, by decide, ?_, ?_, ?_, ?_⟩
  · rcases (byFile.1 _ (by decide)).2 mount spells with ⟨served, daemon, added, gains, starts⟩
    have file : mount.file = "/config/xray-daemon.yaml" := by
      decide
    exact ⟨served, daemon, added, gains, file ▸ starts.command, starts⟩
  · intro succeeds
    have valid := (byArguments.2.1 unsaid).1.mp succeeds
    exact absurd valid.level (by decide)
  · have valid : ValidArguments { xray with logLevel := "warn" } := by
      refine ⟨by decide, fun role given => Or.inr ?_⟩
      rw [← Option.some.inj given]
      decide
    rcases (warned.2.1 unsaid).2 valid with ⟨served, daemon, added, gains, starts⟩
    exact ⟨served, daemon, added, gains, starts.args⟩
  · exact (byFile.2.2 "arn:aws:iam::1:role/a:b").mp (by decide)

end

end Xray

end MeshSidecar
