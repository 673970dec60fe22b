import MeshSidecar.Proofs.Injection.ControlPlane

namespace MeshSidecar

/-!
# Filling in a declared container

Envoy of a gateway belongs to the deployment that declares it, so what is filled in has to
be told apart from what stays.  An environment is a list, in which a name may occur more
than once and the place of an entry matters to whoever wrote it; so it is told here place by
place, and not name by name as what a process sees of it.
-/

/-! ## Environments place by place -/

namespace EnvVar

/-- An environment with the given variables filled in.  The first entry of a name that is
given has the given value.  All other entries are as they were, and each entry is where it
was.  Variables without an entry follow at the end, in the order of names. -/
structure FilledIn (given : SortedMap String) (declared env : List EnvVar) : Prop where
  overridden : ∀ (i : Nat) (var : EnvVar) (value : String), declared[i]? = some var →
    given.get? var.name = some value → (∀ other ∈ declared.take i, other.name ≠ var.name) →
    env[i]? = some (.given var.name value)
  kept : ∀ (i : Nat) (var : EnvVar), declared[i]? = some var →
    given.get? var.name = none ∨ (∃ other ∈ declared.take i, other.name = var.name) →
    env[i]? = some var
  appended : ∃ entries,
    env.drop declared.length = entries.map (fun entry => .given entry.1 entry.2) ∧
    MissingIn given declared entries

end EnvVar

namespace Gateway

/-- What an override makes of an entry, which depends on the entries before it. -/
def overrideEntry (given : SortedMap String) (before : List EnvVar) (var : EnvVar) : EnvVar :=
  if before.any fun other => other.name == var.name then var
  else ((given.get? var.name).map (EnvVar.given var.name)).getD var

theorem overrideEntry_erase (given : SortedMap String) (before : List EnvVar) (head var : EnvVar) :
    overrideEntry (given.erase head.name) before var =
      overrideEntry given (head :: before) var := by
  rw [overrideEntry, overrideEntry, given.get?_erase, List.any_cons]
  by_cases same : head.name = var.name
  · simp [same]
  · simp [same]

/-- Erasing a name that is not given changes nothing, so both kinds of entries leave the same
variables for those behind them. -/
theorem overrideEnv_cons (given : SortedMap String) (head : EnvVar) (env : List EnvVar) :
    overrideEnv given (head :: env) =
      overrideEntry given [] head :: overrideEnv (given.erase head.name) env := by
  rw [overrideEnv, overrideEntry]
  cases found : given.get? head.name with
  | none =>
      rw [SortedMap.erase_of_get? found]
      rfl
  | some value => rfl

theorem getElem?_overrideEnv {given : SortedMap String} {env : List EnvVar} {i : Nat}
    {var : EnvVar} (stands : env[i]? = some var) :
    (overrideEnv given env)[i]? = some (overrideEntry given (env.take i) var) := by
  induction env generalizing given i with
  | nil => cases stands
  | cons head env ih =>
      rw [overrideEnv_cons]
      cases i with
      | zero =>
          rw [List.getElem?_cons_zero, Option.some_inj] at stands
          rw [stands]
          rfl
      | succ i =>
          rw [List.getElem?_cons_succ] at stands ⊢
          rw [ih stands, List.take_succ_cons, overrideEntry_erase]

theorem unclaimed_erase (given : SortedMap String) (head : EnvVar) (env : List EnvVar) :
    Envoy.unclaimed (given.erase head.name) env = Envoy.unclaimed given (head :: env) := by
  rw [Envoy.unclaimed, Envoy.unclaimed, SortedMap.erase, List.filter_filter]
  congr 1
  apply List.filter_congr
  intro entry _
  by_cases same : entry.1 = head.name
  · simp [same]
  · simp [same, Ne.symm same]

theorem drop_overrideEnv (given : SortedMap String) (env : List EnvVar) :
    (overrideEnv given env).drop env.length = Envoy.unclaimed given env := by
  induction env generalizing given with
  | nil =>
      have all : given.entries.filter (fun entry =>
          !([] : List EnvVar).any fun var => var.name == entry.1) = given.entries :=
        List.filter_eq_self.mpr fun _ _ => rfl
      rw [Envoy.unclaimed, all]
      rfl
  | cons head env ih =>
      rw [overrideEnv_cons, List.length_cons, List.drop_succ_cons, ih, unclaimed_erase]

theorem filledIn_overrideEnv (given : SortedMap String) (env : List EnvVar) :
    EnvVar.FilledIn given env (overrideEnv given env) where
  overridden := by
    intro i var value stands isGiven first
    have none : ((env.take i).any fun other => other.name == var.name) = false := by
      simpa using first
    rw [getElem?_overrideEnv stands, overrideEntry, none, isGiven]
    rfl
  kept := by
    intro i var stands reason
    rw [getElem?_overrideEnv stands, overrideEntry]
    rcases reason with notGiven | ⟨other, member, same⟩
    · rw [notGiven]
      split
      · rfl
      · rfl
    · have found : ((env.take i).any fun other => other.name == var.name) = true :=
        List.any_eq_true.mpr ⟨other, member, beq_iff_eq.mpr same⟩
      rw [found]
      rfl
  appended := by
    rw [drop_overrideEnv]
    exact Envoy.unclaimed_missing given env

/-! ## The declared container -/

/-- A container with what the step has filled in: its image, its environment and a mount for
the socket where one is missing. -/
structure FilledIn (config : Config) (pod : Pod) (given : SortedMap String)
    (declared envoy : Container) : Prop where
  image : envoy.image = if pinsImage pod then declared.image else some config.sidecar.image
  env : ∃ env, envoy.env = some env ∧ EnvVar.FilledIn given (declared.env.getD []) env
  volumeMounts : envoy.volumeMounts = Pod.extend declared.volumeMounts
    ((Sds.missingPath? config.envoy pod).toList.map fun path =>
      { name := Artifact.sdsVolume, mountPath := path, readOnly := none, rest := [] })
  others : envoy = { declared with
    image := envoy.image, env := envoy.env, volumeMounts := envoy.volumeMounts }

theorem pinsImage_iff (pod : Pod) : pinsImage pod ↔
    ∃ value, pod.annotation? Annotations.skipImageOverride = some value ∧
      Text.sameIgnoringCase value Annotations.enabled := by
  rw [pinsImage, Pod.switch?]
  cases pod.annotation? Annotations.skipImageOverride with
  | none => simp
  | some value => simp

/-- Unless it is pinned, an image has to be the placeholder or the configured one. -/
theorem image_eq_error_iff (sidecar : Config.Sidecar) (pinned : Bool) (declared : Option String) :
    (∃ error, image sidecar pinned declared = .error error) ↔
      ¬ pinned ∧ declared.getD "" ≠ Artifact.imagePlaceholder ∧
        declared.getD "" ≠ sidecar.image := by
  rw [image]
  cases pinned with
  | true => simp
  | false =>
      rw [if_neg Bool.false_ne_true]
      by_cases known : declared.getD "" = Artifact.imagePlaceholder ∨
          declared.getD "" = sidecar.image
      · rw [if_pos known]
        constructor
        · rintro ⟨error, failed⟩
          cases failed
        · rintro ⟨-, others⟩
          exact absurd known (not_or.mpr others)
      · rw [if_neg known]
        exact iff_of_true ⟨_, rfl⟩ ⟨Bool.false_ne_true, not_or.mp known⟩

theorem eq_of_image {sidecar : Config.Sidecar} {pinned : Bool} {declared filled : Option String}
    (allowed : image sidecar pinned declared = .ok filled) :
    filled = if pinned then declared else some sidecar.image := by
  rw [image] at allowed
  cases pinned with
  | true => exact (Except.ok.inj allowed).symm
  | false =>
      simp only [Bool.false_eq_true, if_false] at allowed ⊢
      split at allowed
      · exact (Except.ok.inj allowed).symm
      · cases allowed

theorem changeFirst_append {α : Type} {p : α → Bool} {change : α → α} {early late : List α}
    {first : α} (none : ∀ a ∈ early, p a = false) (holds : p first) :
    changeFirst p change (early ++ first :: late) = early ++ change first :: late := by
  induction early with
  | nil => rw [List.nil_append, changeFirst, if_pos holds, List.nil_append]
  | cons head early ih =>
      rcases List.forall_mem_cons.mp none with ⟨notHead, notEarly⟩
      rw [List.cons_append, changeFirst, if_neg (by rw [notHead]; exact Bool.false_ne_true),
        ih notEarly, List.cons_append]

/-- Of the containers only the declared one is filled in, which is the first of its name. -/
theorem fillDeclared_eq {given : SortedMap String} {image missing : Option String}
    {containers : List Container} {declared : Container}
    (found : containers.find? (fun container => container.name == Artifact.envoy) =
      some declared) :
    ∃ early late, containers = early ++ declared :: late ∧
      (∀ container ∈ early, container.name ≠ Artifact.envoy) ∧
      fillDeclared given image missing containers =
        early ++ fill given image missing declared :: late := by
  rcases List.find?_eq_some_iff_append.mp found with ⟨isEnvoy, early, late, rfl, others⟩
  have notEarly : ∀ container ∈ early, (container.name == Artifact.envoy) = false := by
    simpa using others
  refine ⟨early, late, rfl, ?_, changeFirst_append notEarly isEnvoy⟩
  intro container member
  exact beq_eq_false_iff_ne.mp (notEarly container member)

variable {config : Config} {identity : Identity} {mesh : Mesh} {gateway : VirtualGateway}
  {pod : Pod}

theorem filledIn_fill {given : SortedMap String} {declared : Container}
    {filledImage : Option String}
    (allowed : image config.sidecar (pinsImage pod) declared.image = .ok filledImage) :
    FilledIn config pod given declared
      (fill given filledImage (Sds.missingPath? config.envoy pod) declared) where
  image := eq_of_image allowed
  env := ⟨_, rfl, filledIn_overrideEnv given (declared.env.getD [])⟩
  volumeMounts := rfl
  others := rfl

theorem map_eq_error_iff {ε α β : Type} (result : Except ε α) (f : α → β) (error : ε) :
    result.map f = .error error ↔ result = .error error := by
  cases result with
  | error other => simp [Except.map]
  | ok value => simp [Except.map]

theorem fails_iff : (∃ error, apply config identity mesh gateway pod = .error error) ↔
    ∃ declared, declared? pod = some declared ∧
      (∃ error, image config.sidecar (pinsImage pod) declared.image = .error error) := by
  rw [apply_eq]
  cases declared? pod with
  | none => simp
  | some declared => simp [map_eq_error_iff]

theorem declared?_eq_none_iff (pod : Pod) :
    declared? pod = none ↔ pod.hasContainer Artifact.envoy = false := by
  rw [declared?, Pod.hasContainer, List.find?_eq_none, List.any_eq_false]

theorem filledIn_of_apply {changed : Pod} (declares : pod.hasContainer Artifact.envoy)
    (applied : apply config identity mesh gateway pod = .ok changed) :
    ∃ spec early declared late envoy,
      pod.spec = some spec ∧ spec.containers = early ++ declared :: late ∧
      declared.name = Artifact.envoy ∧
      (∀ container ∈ early, container.name ≠ Artifact.envoy) ∧
      FilledIn config pod
        (.ofList (Variables.ofPod config identity mesh gateway pod).assignments) declared envoy ∧
      changed = { pod with spec := some { spec with
        containers := early ++ envoy :: late
        volumes := Pod.extend spec.volumes
          ((Sds.missingPath? config.envoy pod).toList.map Sds.volume) } } := by
  rcases of_apply applied with ⟨none, -⟩ | ⟨declared, filledImage, found, allowed, rfl⟩
  · rw [declared?_eq_none_iff, declares] at none
    cases none
  · cases present : pod.spec with
    | none =>
        rw [declared?, Pod.containers, present] at found
        cases found
    | some spec =>
        have containers : pod.containers = spec.containers := by
          rw [Pod.containers, present]
          rfl
        have isEnvoy : declared.name = Artifact.envoy := by
          simpa using List.find?_some found
        rw [declared?, containers] at found
        rcases fillDeclared_eq found with ⟨early, late, whole, others, filledWhole⟩
        refine ⟨spec, early, declared, late, _, rfl, whole, isEnvoy, others,
          filledIn_fill allowed, ?_⟩
        rw [← filledWhole, filled, Pod.addVolumes, Pod.mapSpec, Pod.mapSpec, Pod.specOrEmpty,
          Pod.specOrEmpty, present]
        rfl

end Gateway

namespace Step

/-- Filling in Envoy of a gateway fails for an image that is neither pinned nor known, and
for nothing else.  A pod that declares no Envoy is left alone.  In any other pod the first
container called so is filled in, and a volume may follow the others; nothing else changes. -/
theorem gateway_fills_in (config : Config) (identity : Identity) (mesh : Mesh)
    (gateway : VirtualGateway) (pod : Pod) :
    let step := Step.gateway config identity mesh gateway
    ((∃ error, step.apply pod = .error error) ↔
      ∃ declared, Gateway.declared? pod = some declared ∧
        (¬ ∃ value, pod.annotation? Annotations.skipImageOverride = some value ∧
          Text.sameIgnoringCase value Annotations.enabled) ∧
        declared.image.getD "" ≠ Artifact.imagePlaceholder ∧
        declared.image.getD "" ≠ config.sidecar.image) ∧
    (pod.hasContainer Artifact.envoy = false → step.apply pod = .ok pod) ∧
    ∀ changed, pod.hasContainer Artifact.envoy → step.apply pod = .ok changed →
      ∃ given spec early declared late envoy,
        Gateway.environment (.ofPod config identity mesh gateway pod) = .ok given ∧
        pod.spec = some spec ∧ spec.containers = early ++ declared :: late ∧
        declared.name = Artifact.envoy ∧
        (∀ container ∈ early, container.name ≠ Artifact.envoy) ∧
        Gateway.FilledIn config pod given declared envoy ∧
        changed = { pod with spec := some { spec with
          containers := early ++ envoy :: late
          volumes := Pod.extend spec.volumes
            ((Sds.missingPath? config.envoy pod).toList.map fun path =>
              { name := Artifact.sdsVolume, hostPath := some { path := path, kind := some "Socket" }
                rest := [] }) } } := by
  intro step
  refine ⟨?_, ?_, ?_⟩
  · rw [← Gateway.pinsImage_iff]
    refine Gateway.fails_iff.trans ?_
    refine exists_congr fun declared => and_congr_right fun _ => ?_
    exact Gateway.image_eq_error_iff config.sidecar (Gateway.pinsImage pod) declared.image
  · intro absent
    refine (Gateway.apply_eq ..).trans ?_
    rw [(Gateway.declared?_eq_none_iff pod).mpr absent]
  · intro changed declares applied
    rcases Gateway.filledIn_of_apply declares applied with
      ⟨spec, early, declared, late, envoy, present, whole, isEnvoy, others, filledIn, rest⟩
    exact ⟨_, spec, early, declared, late, envoy, Gateway.Variables.environment_definition _,
      present, whole, isEnvoy, others, filledIn, rest⟩

/-- A deployment that names a region keeps its other variable, in front of the region that is
filled in. -/
theorem gateway_fills_in_region :
    let step := Step.gateway {} { awsRegion := "us-west-2" } ⟨"mesh", "mesh", none⟩
      { name := "gateway", namespaceName := "default" }
    let pod := Gateway.declaring [.given "TRACE" "yes", .given "AWS_REGION" "eu-west-1"]
    pod.hasContainer Artifact.envoy ∧ ∃ changed, step.apply pod = .ok changed ∧
      ∃ envoy ∈ changed.containers, ∃ env, envoy.env = some env ∧
        env[0]? = some (.given "TRACE" "yes") ∧
        env[1]? = some (.given "AWS_REGION" "us-west-2") := by
  intro step pod
  have declares : pod.hasContainer Artifact.envoy := by
    decide
  obtain ⟨changed, applied⟩ : ∃ changed, step.apply pod = .ok changed :=
    ⟨_, (Gateway.apply_eq ..).trans rfl⟩
  rcases (gateway_fills_in {} { awsRegion := "us-west-2" } ⟨"mesh", "mesh", none⟩
      { name := "gateway", namespaceName := "default" } pod).2.2 changed declares applied with
    ⟨given, spec, early, declared, late, envoy, known, present, whole, -, -, filledIn, rfl⟩
  rcases filledIn.env with ⟨env, hasEnv, entries⟩
  have only : declared ∈ pod.containers := by
    rw [Pod.containers, present, Option.map_some, Option.getD_some, whole]
    exact List.mem_append_right early List.mem_cons_self
  have isDeclared : declared.env.getD [] =
      [.given "TRACE" "yes", .given "AWS_REGION" "eu-west-1"] := by
    rw [List.mem_singleton.mp only]
    rfl
  rw [isDeclared] at entries
  rw [Gateway.Variables.environment_definition, Except.ok.injEq] at known
  have trace : given.get? "TRACE" = none := by
    rw [← known]
    decide
  have region : given.get? "AWS_REGION" = some "us-west-2" := by
    rw [← known]
    decide
  refine ⟨declares, _, applied, envoy, List.mem_append_right early List.mem_cons_self, env,
    hasEnv, ?_, ?_⟩
  · exact entries.kept 0 _ rfl (Or.inl trace)
  · exact entries.overridden 1 _ "us-west-2" rfl region (by decide)

end Step

end MeshSidecar
