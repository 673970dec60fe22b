import MeshSidecar.Proofs.Injection.Effect

namespace MeshSidecar

/-!
# What an injection complains about

Every reason for which a node's pod can be refused is one complaint about one
annotation or setting.  Complaints do not depend on what steps have done to the
pod, so those of a whole injection can be listed beforehand in the order in which
they come up, and the first of them is the error.
-/

/-- The error of a result, if it is one. -/
def errorOf {ε α : Type} : Except ε α → Option ε
  | .error error => some error
  | .ok _ => none

/-- The first complaint of a list of answers. -/
def firstOf {ε : Type} (answers : List (Option ε)) : Option ε :=
  answers.findSome? id

section

variable {ε ε' α β : Type}

theorem errorOf_map (result : Except ε α) (f : α → β) :
    errorOf (result.map f) = errorOf result := by
  cases result with
  | error error => rfl
  | ok value => rfl

theorem errorOf_mapError (result : Except ε α) (f : ε → ε') :
    errorOf (result.mapError f) = (errorOf result).map f := by
  cases result with
  | error error => rfl
  | ok value => rfl

/-- Where the error of what follows does not depend on the value, it comes after
that of the value. -/
theorem errorOf_bind {result : Except ε α} {next : α → Except ε β} (later : Option ε)
    (follows : ∀ value, result = .ok value → errorOf (next value) = later) :
    errorOf (result >>= next) = (errorOf result).or later := by
  cases result with
  | error error => rfl
  | ok value => exact follows value rfl

theorem errorOf_bind_of_ok {result : Except ε α} {next : α → Except ε β}
    (succeeds : ∀ value, errorOf (next value) = none) :
    errorOf (result >>= next) = errorOf result := by
  cases result with
  | error error => rfl
  | ok value => exact succeeds value

@[simp]
theorem firstOf_nil : firstOf ([] : List (Option ε)) = none :=
  rfl

@[simp]
theorem firstOf_cons (answer : Option ε) (answers : List (Option ε)) :
    firstOf (answer :: answers) = answer.or (firstOf answers) := by
  cases answer with
  | none => rfl
  | some complaint => rfl

@[simp]
theorem firstOf_append (early late : List (Option ε)) :
    firstOf (early ++ late) = (firstOf early).or (firstOf late) :=
  List.findSome?_append

theorem firstOf_map (f : ε → ε') (answers : List (Option ε)) :
    firstOf (answers.map fun answer => answer.map f) = (firstOf answers).map f := by
  induction answers with
  | nil => rfl
  | cons answer answers ih => rw [List.map_cons, firstOf_cons, firstOf_cons, ih, Option.map_or]

theorem firstOf_eq_none (answers : List (Option ε)) :
    firstOf answers = none ↔ ∀ answer ∈ answers, answer = none :=
  List.findSome?_eq_none_iff

end

/-! ## Quantities -/

namespace Quantity

/-- What is wrong with a quantity that may be absent or empty. -/
def bad? (quantity : Option String) : Option BadQuantity :=
  (quantity.filter fun text => text != "").bind fun text =>
    (fault? text.toList).map fun fault => ⟨text, fault⟩

/-- A quantity as it may be given: absent, empty, or well formed. -/
def Usable (quantity : Option String) : Prop :=
  quantity = none ∨ quantity = some "" ∨
    ∃ text, quantity = some text ∧ fault? text.toList = none

theorem bad?_eq_none (quantity : Option String) : bad? quantity = none ↔ Usable quantity := by
  cases quantity with
  | none => simp [bad?, Usable]
  | some text =>
      by_cases blank : text = ""
      · simp [bad?, Usable, blank]
      · simp [bad?, Usable, blank, Option.filter]

theorem errorOf_place (resource : String) (quantity : Option String) (list : SortedMap String) :
    errorOf (place resource quantity list) = bad? quantity := by
  cases quantity with
  | none => rfl
  | some text =>
      by_cases blank : text = ""
      · simp [place, bad?, blank, errorOf, Option.filter]
      · cases fault : fault? text.toList with
        | none => simp [place, parse, bad?, blank, fault, errorOf, Option.filter]
        | some reason => simp [place, parse, bad?, blank, fault, errorOf, Option.filter]

theorem errorOf_resourceList (cpu memory : Option String) :
    errorOf (resourceList cpu memory) = firstOf [bad? cpu, bad? memory] := by
  unfold resourceList
  rw [firstOf_cons, ← errorOf_place "cpu" cpu .empty]
  refine errorOf_bind _ ?_
  intro list _
  rw [firstOf_cons, ← errorOf_place "memory" memory list]
  exact errorOf_bind _ fun _ _ => rfl

theorem errorOf_ofQuantities (cpuRequest memoryRequest cpuLimit memoryLimit : Option String) :
    errorOf (Resources.ofQuantities cpuRequest memoryRequest cpuLimit memoryLimit) =
      firstOf ([cpuRequest, memoryRequest, cpuLimit, memoryLimit].map bad?) := by
  have halves : firstOf ([cpuRequest, memoryRequest, cpuLimit, memoryLimit].map bad?) =
      (firstOf [bad? cpuRequest, bad? memoryRequest]).or
        (firstOf [bad? cpuLimit, bad? memoryLimit]) :=
    firstOf_append [bad? cpuRequest, bad? memoryRequest] [bad? cpuLimit, bad? memoryLimit]
  rw [halves, ← errorOf_resourceList, ← errorOf_resourceList]
  refine errorOf_bind _ ?_
  intro requests _
  exact errorOf_bind_of_ok fun _ => rfl

end Quantity

namespace Pod

/-- A quantity that sizes the sidecars of a pod: what the annotation holds where the pod has
it, be it empty, and what is configured where it has not. -/
def quantityFor (pod : Pod) (key : String) (configured : Option String) : Option String :=
  match pod.annotation? key with
  | some text => some text
  | none => configured

theorem override_eq_quantityFor (pod : Pod) (key : String) (configured : Option String) :
    pod.override key configured = pod.quantityFor key configured := by
  rw [override, quantityFor]
  cases pod.annotation? key with
  | none => rfl
  | some text => rfl

/-- The quantities that size the sidecars of a pod. -/
def quantities (pod : Pod) (sizing : Config.Sidecar) : List (Option String) :=
  [pod.quantityFor Annotations.cpuRequest sizing.cpuRequests,
    pod.quantityFor Annotations.memoryRequest sizing.memoryRequests,
    pod.quantityFor Annotations.cpuLimit sizing.cpuLimits,
    pod.quantityFor Annotations.memoryLimit sizing.memoryLimits]

/-- The complaints about the size of the sidecars. -/
def sizingComplaints (pod : Pod) (sizing : Config.Sidecar) : List (Option Error) :=
  (pod.quantities sizing).map fun quantity => (Quantity.bad? quantity).map .badQuantity

/-- The size is not complained about when all quantities can be used. -/
theorem sizingComplaints_eq_none (pod : Pod) (sizing : Config.Sidecar) :
    firstOf (pod.sizingComplaints sizing) = none ↔
      ∀ quantity ∈ pod.quantities sizing, Quantity.Usable quantity := by
  rw [firstOf_eq_none, sizingComplaints, List.forall_mem_map]
  simp only [Option.map_eq_none_iff, Quantity.bad?_eq_none]

theorem errorOf_sidecarResources (pod : Pod) (sizing : Config.Sidecar) :
    errorOf (pod.sidecarResources sizing) = firstOf (pod.sizingComplaints sizing) := by
  rw [sidecarResources, errorOf_mapError, Quantity.errorOf_ofQuantities, ← firstOf_map,
    List.map_map]
  simp only [override_eq_quantityFor]
  rfl

theorem sidecarResources_of_usable {pod : Pod} {sizing : Config.Sidecar}
    (sized : ∀ quantity ∈ pod.quantities sizing, Quantity.Usable quantity) :
    ∃ resources, pod.sidecarResources sizing = .ok resources := by
  have succeeds : errorOf (pod.sidecarResources sizing) = none := by
    rw [errorOf_sidecarResources]
    exact (pod.sizingComplaints_eq_none sizing).mpr sized
  cases resourced : pod.sidecarResources sizing with
  | error error =>
      rw [resourced] at succeeds
      cases succeeds
  | ok resources => exact ⟨resources, rfl⟩

end Pod

/-! ## Lists of pairs -/

namespace PairForm

/-- Whether a text lists pairs: each piece between commas has exactly one
separator. -/
def Lists (form : PairForm) (text : String) : Prop :=
  ∀ piece ∈ Text.splitOn ',' text.toList, piece.count form.separator = 1

instance (form : PairForm) (text : String) : Decidable (form.Lists text) :=
  inferInstanceAs (Decidable (∀ piece ∈ Text.splitOn ',' text.toList,
    piece.count form.separator = 1))

theorem isSome_pair? (form : PairForm) (piece : List Char) :
    (form.pair? piece).isSome ↔ piece.count form.separator = 1 := by
  have length := Text.length_splitOn form.separator piece
  unfold pair?
  split
  · next left right parts =>
      rw [parts] at length
      simp only [List.length_cons, List.length_nil] at length
      simp
      omega
  · next others =>
      simp only [Option.isSome_none, Bool.false_eq_true, false_iff]
      intro single
      match parts : Text.splitOn form.separator piece with
      | [] => simp [parts, single] at length
      | [only] => simp [parts, single] at length
      | [left, right] => exact others left right parts
      | _ :: _ :: _ :: _ => simp [parts, single] at length

theorem isSome_mapM {α β : Type} (f : α → Option β) (list : List α) :
    (list.mapM f).isSome ↔ ∀ a ∈ list, (f a).isSome := by
  induction list with
  | nil => simp
  | cons a list ih =>
      cases first : f a with
      | none => simp [first]
      | some b =>
          rw [List.mapM_cons, first, List.forall_mem_cons, ← ih]
          cases list.mapM f <;> simp [first]

theorem isSome_pairs? (form : PairForm) (text : String) :
    (form.pairs? text).isSome ↔ form.Lists text := by
  rw [pairs?, Option.isSome_map, isSome_mapM]
  exact forall₂_congr fun piece _ => form.isSome_pair? piece

/-- The complaint about what an annotation lists. -/
def complaint? (form : PairForm) (pod : Pod) (key : String) : Option Error :=
  (pod.annotation? key).bind fun text =>
    if form.Lists text then none else some (.malformed key form.shown)

theorem complaint?_eq_none (form : PairForm) (pod : Pod) (key : String) :
    form.complaint? pod key = none ↔
      ∀ text, pod.annotation? key = some text → form.Lists text := by
  rw [complaint?]
  cases pod.annotation? key with
  | none => simp
  | some text => simp

theorem errorOf_pairs (form : PairForm) (pod : Pod) (key : String) :
    errorOf (pod.pairs key form) = form.complaint? pod key := by
  rw [Pod.pairs, complaint?]
  cases pod.annotation? key with
  | none => rfl
  | some text =>
      have lists := form.isSome_pairs? text
      cases read : form.pairs? text with
      | none =>
          rw [read] at lists
          have malformed : ¬ form.Lists text := fun holds => by simpa using lists.mpr holds
          simp [read, malformed, errorOf]
      | some pairs =>
          rw [read] at lists
          have wellFormed : form.Lists text := lists.mp rfl
          simp [read, wellFormed, errorOf]

end PairForm

namespace Envoy

/-- The complaints about what a pod asks of Envoy. -/
def wishComplaints (pod : Pod) : List (Option Error) :=
  [PairForm.secretMount.complaint? pod Annotations.secretMounts,
    PairForm.volumeMount.complaint? pod Annotations.volumeMounts,
    PairForm.assignment.complaint? pod Annotations.sidecarEnv]

theorem errorOf_wishes (pod : Pod) : errorOf (wishes pod) = firstOf (wishComplaints pod) := by
  unfold wishes wishComplaints
  simp only [firstOf_cons, ← PairForm.errorOf_pairs]
  refine errorOf_bind _ ?_
  intro secrets _
  refine errorOf_bind _ ?_
  intro volumes _
  exact errorOf_bind _ fun _ _ => rfl

end Envoy

/-! ## The X-Ray daemon -/

namespace Xray

/-- The complaint about the sampling rate, which matters only with the daemon. -/
def rateComplaints (xray : Config.Xray) : List (Option Error) :=
  if xray.enabled then
    [xray.samplingRate.bind fun rate =>
      (SamplingRate.fault? rate).map fun fault => .setting (.samplingRate rate fault)]
  else []

theorem errorOf_checkSamplingRate (xray : Config.Xray) :
    errorOf (Envoy.checkSamplingRate xray) = firstOf (rateComplaints xray) := by
  unfold Envoy.checkSamplingRate rateComplaints
  cases xray.samplingRate with
  | none => cases xray.enabled <;> rfl
  | some rate =>
      cases xray.enabled with
      | false => rfl
      | true => cases fault : SamplingRate.fault? rate <;> simp [fault, errorOf]

def parameterComplaint? (xray : Config.Xray) (region : String) : Option Error :=
  if missingParameters xray region = [] then none
  else some (.setting (.missingParameters (missingParameters xray region)))

/-- Whether a text is a volume and a path, both of which say something. -/
def IsMount (text : String) : Prop :=
  (Text.splitOn ':' text.toList).length = 2 ∧
    ∀ part ∈ Text.splitOn ':' text.toList, Text.trim part ≠ []

instance (text : String) : Decidable (IsMount text) :=
  inferInstanceAs (Decidable (_ ∧ _))

/-- The complaint about the annotation that names a file. -/
def mountComplaint? (text : String) : Option Error :=
  if ',' ∈ text.toList then some (.setting (.severalConfigMounts Annotations.xrayConfigMount text))
  else if IsMount text then none
  else some (.malformed ("\"" ++ Annotations.xrayConfigMount ++ "\"") PairForm.volumeMount.shown)

def levelComplaint? (xray : Config.Xray) : Option Error :=
  if xray.logLevel = "" ∨ xray.logLevel ∈ logLevels then none
  else some (.setting (.logLevel xray.logLevel logLevels))

def roleComplaint? (xray : Config.Xray) : Option Error :=
  xray.roleArn.bind fun role =>
    if role = "" ∨ isArn role then none else some (.setting (.roleArn role))

/-- The complaints about the settings of the daemon; arguments are looked at only
where no file is named. -/
def settingComplaints (xray : Config.Xray) (pod : Pod) : List (Option Error) :=
  match pod.annotation? Annotations.xrayConfigMount with
  | some text => [mountComplaint? text]
  | none => [levelComplaint? xray, roleComplaint? xray]

/-- The complaints about the daemon, if it is enabled. -/
def daemonComplaints (xray : Config.Xray) (region : String) (pod : Pod) : List (Option Error) :=
  if xray.enabled then parameterComplaint? xray region :: settingComplaints xray pod else []

theorem errorOf_ofAnnotation (text : String) :
    errorOf (ConfigMount.ofAnnotation text) = mountComplaint? text := by
  unfold ConfigMount.ofAnnotation mountComplaint?
  by_cases comma : ',' ∈ text.toList
  · simp [comma, errorOf]
  · simp only [List.contains_iff_mem, comma, if_false, PairForm.pair?, PairForm.volumeMount]
    have blank : ∀ part : List Char, String.ofList part = "" ↔ part = [] := by
      intro part
      exact String.ofList_eq_empty_iff
    match parts : Text.splitOn ':' text.toList with
    | [] => simp [IsMount, parts, errorOf]
    | [only] => simp [IsMount, parts, errorOf]
    | _ :: _ :: _ :: _ => simp [IsMount, parts, errorOf]
    | [volume, path] =>
        by_cases volumeBlank : Text.trim volume = []
        · simp [IsMount, parts, volumeBlank, errorOf]
        · by_cases pathBlank : Text.trim path = []
          · simp [IsMount, parts, volumeBlank, pathBlank, errorOf]
          · simp [IsMount, parts, volumeBlank, pathBlank, blank, errorOf]

theorem errorOf_logLevelArgs (xray : Config.Xray) :
    errorOf (logLevelArgs xray.logLevel) = levelComplaint? xray := by
  unfold logLevelArgs levelComplaint?
  by_cases blank : xray.logLevel = ""
  · simp [blank, errorOf]
  · by_cases known : xray.logLevel ∈ logLevels
    · simp [blank, known, errorOf]
    · simp [blank, known, errorOf]

theorem errorOf_roleArgs (xray : Config.Xray) :
    errorOf (roleArgs xray.roleArn) = roleComplaint? xray := by
  unfold roleArgs roleComplaint?
  cases xray.roleArn with
  | none => rfl
  | some role =>
      by_cases blank : role = ""
      · simp [blank, errorOf]
      · by_cases valid : isArn role
        · simp [blank, valid, errorOf]
        · simp [blank, valid, errorOf]

theorem errorOf_configured (xray : Config.Xray) (region : String) (pod : Pod) :
    errorOf (configured xray region pod) = firstOf (settingComplaints xray pod) := by
  unfold configured settingComplaints
  cases pod.annotation? Annotations.xrayConfigMount with
  | some text =>
      rw [firstOf_cons, firstOf_nil, Option.or_none, ← errorOf_ofAnnotation]
      exact errorOf_map _ _
  | none =>
      rw [firstOf_cons, firstOf_cons, firstOf_nil, Option.or_none, ← errorOf_logLevelArgs,
        ← errorOf_roleArgs]
      refine errorOf_bind _ ?_
      intro level _
      exact errorOf_bind_of_ok fun _ => rfl

theorem errorOf_container (xray : Config.Xray) (sizing : Config.Sidecar) (region : String)
    (pod : Pod) : errorOf (container xray sizing region pod) =
      firstOf (parameterComplaint? xray region :: settingComplaints xray pod ++
        pod.sizingComplaints sizing) := by
  rw [container_eq, List.cons_append, firstOf_cons, parameterComplaint?]
  split
  · rw [firstOf_append, ← errorOf_configured, ← Pod.errorOf_sidecarResources]
    refine errorOf_bind _ ?_
    intro daemon _
    exact errorOf_bind_of_ok fun _ => rfl
  · rfl

/-- The errors of the step in a pod without the daemon. -/
theorem errorOf_apply {xray : Config.Xray} {sizing : Config.Sidecar} {region : String} {pod : Pod}
    (absent : pod.hasContainer Artifact.xrayDaemon = false)
    (sized : firstOf (pod.sizingComplaints sizing) = none) :
    errorOf (apply xray sizing region pod) = firstOf (daemonComplaints xray region pod) := by
  unfold apply daemonComplaints
  cases enabled : xray.enabled with
  | false => rfl
  | true =>
      rw [absent]
      simp only [Bool.not_true, Bool.or_self, Bool.false_eq_true, if_false, if_true]
      rw [errorOf_map, errorOf_container, firstOf_append, sized, Option.or_none]

end Xray

end MeshSidecar
