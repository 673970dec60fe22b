import MeshSidecar.Proofs.Injection.DaemonCommand
import MeshSidecar.Proofs.Text.Trim

namespace MeshSidecar.Xray

/-!
# The file of the X-Ray daemon

The directory that is mounted and the file in it are both made of the path in the
annotation.  The path may have slashes behind it, which name no other directory; the file
is however named without any slashes and spaces that the path ends with.  A directory
whose name ends with a space is therefore another one in the name of the file, and only
such a directory is.
-/

/-- The directory that a path names, without the slashes behind it. -/
def directory (path : String) : String :=
  String.ofList (Text.trimEndWhere (fun c => c == '/') path.toList)

namespace ConfigMount

/-- The file is in what is left of the path without the slashes and spaces that it ends
with. -/
theorem exists_file_eq (mount : ConfigMount) : ∃ kept dropped : List Char,
    mount.path.toList = kept ++ dropped ∧ (∀ c ∈ dropped, c = ' ' ∨ c = '/') ∧
    kept.getLast? ≠ some ' ' ∧ kept.getLast? ≠ some '/' ∧
    mount.file = String.ofList kept ++ "/xray-daemon.yaml" := by
  rcases (Text.trimEndWhere_eq_iff (fun c => c == ' ' || c == '/') mount.path.toList _).mp rfl with
    ⟨dropped, whole, all, stops⟩
  refine ⟨_, dropped, whole, ?_, ?_, ?_, rfl⟩
  · intro c member
    simpa using List.all_eq_true.mp all c member
  · intro last
    rw [last] at stops
    cases stops
  · intro last
    rw [last] at stops
    cases stops

/-- The file is in the mounted directory unless the name of that ends with a space. -/
theorem file_eq_iff (mount : ConfigMount) :
    mount.file = directory mount.path ++ "/xray-daemon.yaml" ↔
      (directory mount.path).toList.getLast? ≠ some ' ' := by
  have slashes : ∀ c : Char, c == '/' → c == ' ' || c == '/' := by
    intro c slash
    rw [slash, Bool.or_true]
  rcases (Text.trimEndWhere_eq_iff (fun c => c == '/') mount.path.toList _).mp rfl with
    ⟨_, -, -, stops⟩
  rw [file, directory, String.append_left_inj, String.ofList_inj, String.toList_ofList,
    ← Text.trimEndWhere_trimEndWhere slashes, Text.trimEndWhere_eq_self_iff]
  -- The directory does not end with a slash, so only a space could be dropped.
  cases last : (Text.trimEndWhere (fun c => c == '/') mount.path.toList).getLast? with
  | none => simp
  | some c =>
      rw [last] at stops
      simp only [Option.any_some] at stops
      simp [stops]

end ConfigMount

section

variable {xray : Config.Xray} {sizing : Config.Sidecar} {region : String} {pod : Pod}

/-- With an accepted annotation the daemon is added where nothing is missing and it can be
sized.  It is then pointed to a file in the directory that it has mounted, unless the name
of that directory ends with a space. -/
theorem file_mounted_iff {value : String} {mount : ConfigMount}
    (accepted : ConfigMount.ofAnnotation value = .ok mount) (enabled : xray.enabled)
    (absent : pod.hasContainer Artifact.xrayDaemon = false)
    (said : pod.annotation? Annotations.xrayConfigMount = some value) :
    (missingParameters xray region = [] →
      (∀ quantity ∈ pod.quantities sizing, Quantity.Usable quantity) →
      ∃ served, apply xray sizing region pod = .ok served) ∧
    ∀ served, apply xray sizing region pod = .ok served → ∃ daemon file,
      pod.GainsContainer served daemon ∧ daemon.name = Artifact.xrayDaemon ∧
      daemon.volumeMounts = some [⟨mount.volume, mount.path, some true, []⟩] ∧
      daemon.command = some ["/xray", "--config", file] ∧
      (∃ kept dropped : List Char, mount.path.toList = kept ++ dropped ∧
        (∀ c ∈ dropped, c = ' ' ∨ c = '/') ∧
        kept.getLast? ≠ some ' ' ∧ kept.getLast? ≠ some '/' ∧
        file = String.ofList kept ++ "/xray-daemon.yaml") ∧
      (file = directory mount.path ++ "/xray-daemon.yaml" ↔
        (directory mount.path).toList.getLast? ≠ some ' ') := by
  have settled : configured xray region pod =
      .ok (withFile mount (Variables.ofConfig xray region).container) :=
    (configured_of_said xray region said _).mpr
      ⟨mount, (ofAnnotation_eq_ok_iff value mount).mp accepted, rfl⟩
  refine ⟨fun complete sized => ?_, fun served added => ?_⟩
  · rcases apply_eq_ok_iff enabled absent complete sized with ⟨resources, applied⟩
    exact ⟨_, (applied _).mpr ⟨_, settled, rfl⟩⟩
  · rcases of_apply added with ⟨present, -⟩ | ⟨-, -, daemon, resources, given, -, rfl⟩
    · rw [present enabled] at absent
      cases absent
    · rw [settled] at given
      cases given
      exact ⟨_, mount.file, pod.gainsContainer_addContainer _, rfl, rfl, rfl,
        mount.exists_file_eq, mount.file_eq_iff⟩

/-- Spaces inside a name stay, and so do other blanks behind it; slashes behind it do not,
and the root consists of nothing else. -/
theorem file_mounted_of_slashes :
    let xray : Config.Xray := { enabled := true }
    let spelled : ConfigMount := ⟨"settings", "/my config\t//"⟩
    let root : ConfigMount := ⟨"settings", "/"⟩
    let spelling := Pod.empty.annotate Annotations.xrayConfigMount " settings:/my config\t// "
    let rooted := Pod.empty.annotate Annotations.xrayConfigMount "settings : /"
    ConfigMount.ofAnnotation " settings:/my config\t// " = .ok spelled ∧
    ConfigMount.ofAnnotation "settings : /" = .ok root ∧ xray.enabled ∧
    spelling.hasContainer Artifact.xrayDaemon = false ∧
    rooted.hasContainer Artifact.xrayDaemon = false ∧
    (∃ served daemon, apply xray {} "us-west-2" spelling = .ok served ∧
      spelling.GainsContainer served daemon ∧
      daemon.volumeMounts = some [⟨"settings", "/my config\t//", some true, []⟩] ∧
      daemon.command = some ["/xray", "--config", "/my config\t/xray-daemon.yaml"]) ∧
    ∃ served daemon, apply xray {} "us-west-2" rooted = .ok served ∧
      rooted.GainsContainer served daemon ∧
      daemon.volumeMounts = some [⟨"settings", "/", some true, []⟩] ∧
      daemon.command = some ["/xray", "--config", "/xray-daemon.yaml"] := by
  intro xray spelled root spelling rooted
  have spelledRead : ConfigMount.ofAnnotation " settings:/my config\t// " = .ok spelled := by
    rfl
  have rootRead : ConfigMount.ofAnnotation "settings : /" = .ok root := by
    rfl
  have named : directory spelled.path ++ "/xray-daemon.yaml" =
      "/my config\t/xray-daemon.yaml" := by
    decide
  have rootNamed : directory root.path ++ "/xray-daemon.yaml" = "/xray-daemon.yaml" := by
    decide
  have sized : ∀ quantity ∈ spelling.quantities {}, Quantity.Usable quantity := by
    rw [← Pod.sizingComplaints_eq_none]
    decide
  have rootSized : ∀ quantity ∈ rooted.quantities {}, Quantity.Usable quantity := by
    rw [← Pod.sizingComplaints_eq_none]
    decide
  have pointed := @file_mounted_iff xray {} "us-west-2" spelling _ _ spelledRead rfl (by decide)
    (by decide)
  have rootPointed := @file_mounted_iff xray {} "us-west-2" rooted _ _ rootRead rfl (by decide)
    (by decide)
  refine ⟨spelledRead, rootRead, rfl, by decide, by decide, ?_, ?_⟩
  · rcases pointed.1 (by decide) sized with ⟨served, added⟩
    rcases pointed.2 served added with ⟨daemon, file, gains, -, mounted, commanded, -, inside⟩
    have whole := (inside.mpr (by decide)).trans named
    exact ⟨served, daemon, added, gains, mounted, whole ▸ commanded⟩
  · rcases rootPointed.1 (by decide) rootSized with ⟨served, added⟩
    rcases rootPointed.2 served added with
      ⟨daemon, file, gains, -, mounted, commanded, -, inside⟩
    have whole := (inside.mpr (by decide)).trans rootNamed
    exact ⟨served, daemon, added, gains, mounted, whole ▸ commanded⟩

/-- A space behind the name of a directory is lost where a slash follows it: the file is
looked for in `/config`, and the volume is mounted at a directory called `config` and a
space. -/
theorem file_astray_of_space :
    let xray : Config.Xray := { enabled := true }
    let astray := Pod.empty.annotate Annotations.xrayConfigMount "settings:/config /"
    ConfigMount.ofAnnotation "settings:/config /" = .ok ⟨"settings", "/config /"⟩ ∧
    ∃ served daemon, apply xray {} "us-west-2" astray = .ok served ∧
      astray.GainsContainer served daemon ∧
      daemon.volumeMounts = some [⟨"settings", "/config /", some true, []⟩] ∧
      daemon.command = some ["/xray", "--config", "/config/xray-daemon.yaml"] ∧
      directory "/config /" = "/config " ∧
      "/config/xray-daemon.yaml" ≠ directory "/config /" ++ "/xray-daemon.yaml" := by
  intro xray astray
  let mount : ConfigMount := ⟨"settings", "/config /"⟩
  have accepted : ConfigMount.ofAnnotation "settings:/config /" = .ok mount := by
    rfl
  have sized : ∀ quantity ∈ astray.quantities {}, Quantity.Usable quantity := by
    rw [← Pod.sizingComplaints_eq_none]
    decide
  have settled : configured xray "us-west-2" astray =
      .ok (withFile mount (Variables.ofConfig xray "us-west-2").container) :=
    (configured_of_said xray "us-west-2" (by decide) _).mpr
      ⟨mount, (ofAnnotation_eq_ok_iff _ mount).mp accepted, rfl⟩
  rcases @apply_eq_ok_iff xray {} "us-west-2" astray rfl (by decide) (by decide) sized with
    ⟨resources, applied⟩
  have file : mount.file = "/config/xray-daemon.yaml" := by
    decide
  refine ⟨accepted, _, _, (applied _).mpr ⟨_, settled, rfl⟩,
    astray.gainsContainer_addContainer _, rfl, ?_, by decide, by decide⟩
  exact congrArg (fun file => some ["/xray", "--config", file]) file

end

end MeshSidecar.Xray
