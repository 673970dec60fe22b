import MeshSidecar.Pod.Codec
import MeshSidecar.Proofs.SortedMap

namespace MeshSidecar

/-!
# Reading the parts of a pod

A decoder asks for fields by name and takes the last of several with one name,
and sorting the members of an object keeps just that one.  An object may
therefore be decoded in the order in which it was written.
-/

namespace Document

theorem find?_eq_lookup {α : Type} {name : String} {entries : List (String × α)}
    (ascending : SortedMap.Ascending entries) :
    find? name entries = SortedMap.lookup name entries := by
  induction entries with
  | nil => rfl
  | cons head rest ih =>
      rcases List.pairwise_cons.mp ascending with ⟨below, restAscending⟩
      rw [find?, SortedMap.lookup, ih restAscending]
      by_cases same : head.1 = name
      · -- No later entry has the name of the first.
        have absent := SortedMap.lookup_eq_none_of_below below
        rw [same] at absent
        simp [same, absent]
      · simp [same]

theorem find?_foldl {α : Type} (name : String) (entries done : List (String × α))
    (ascending : SortedMap.Ascending done) :
    find? name (entries.foldl (fun done entry => SortedMap.insertEntry entry.1 entry.2 done) done) =
      (find? name entries).or (find? name done) := by
  induction entries generalizing done with
  | nil => rfl
  | cons head rest ih =>
      have inserted := SortedMap.ascending_insertEntry head.1 head.2 ascending
      rw [List.foldl_cons, ih _ inserted, find?_eq_lookup inserted, SortedMap.lookup_insertEntry,
        find?, ← find?_eq_lookup ascending, Option.or_assoc]
      by_cases same : head.1 = name
      · simp [same]
      · simp [same]

theorem find?_append {α : Type} (name : String) (early late : List (String × α)) :
    find? name (early ++ late) = (find? name late).or (find? name early) := by
  induction early with
  | nil => simp [find?]
  | cons head early ih => rw [List.cons_append, find?, find?, ih, Option.or_assoc]

theorem find?_eq_none_iff {α : Type} (name : String) (entries : List (String × α)) :
    find? name entries = none ↔ ∀ entry ∈ entries, entry.1 ≠ name := by
  induction entries with
  | nil => simp [find?]
  | cons head rest ih =>
      rw [find?, Option.or_eq_none_iff, ih, List.forall_mem_cons, ite_eq_right_iff]
      simp [and_comm]

/-- The entry that counts has none of its name behind it. -/
theorem find?_eq_some_iff {α : Type} (name : String) (value : α) (entries : List (String × α)) :
    find? name entries = some value ↔ ∃ early late,
      entries = early ++ (name, value) :: late ∧ ∀ other ∈ late, other.1 ≠ name := by
  constructor
  · intro found
    induction entries with
    | nil => cases found
    | cons head rest ih =>
        rw [find?, Option.or_eq_some_iff] at found
        rcases found with later | ⟨absent, isHead⟩
        · rcases ih later with ⟨early, late, rfl, behind⟩
          exact ⟨head :: early, late, rfl, behind⟩
        · split at isHead
          · next same =>
              refine ⟨[], rest, ?_, (find?_eq_none_iff name rest).mp absent⟩
              rw [← same, ← Option.some.inj isHead]
              rfl
          · cases isHead
  · rintro ⟨early, late, rfl, behind⟩
    rw [find?_append, find?, (find?_eq_none_iff name late).mpr behind, if_pos rfl]
    rfl

/-- Sorting the members of an object changes no field. -/
@[simp]
theorem find?_sorted {α : Type} (name : String) (entries : List (String × α)) :
    find? name (SortedMap.sorted entries) = find? name entries := by
  rw [SortedMap.sorted, find?_foldl name entries [] List.Pairwise.nil]
  simp [find?]

/-- Of entries with one name the last is stored. -/
theorem get?_ofList {α : Type} (name : String) (entries : List (String × α)) :
    (SortedMap.ofList entries).get? name = find? name entries := by
  rw [SortedMap.get?, ← find?_eq_lookup (SortedMap.ofList entries).ascending,
    SortedMap.entries_ofList, find?_sorted]

@[simp]
theorem optional_sorted {α : Type} (entries : List (String × Json)) (name : String)
    (default : Option α) (decode : Json → Option α) :
    Document.optional (SortedMap.sorted entries) name default decode =
      Document.optional entries name default decode := by
  rw [Document.optional, Document.optional, find?_sorted]

end Document

theorem Json.ofMembers_eq (members : List (String × Json)) :
    ofMembers members = .obj (SortedMap.sorted members) :=
  rfl

/-- The first entry of an object is looked at first. -/
@[simp]
theorem Json.get?_cons (key name : String) (value : Json) (entries : List (String × Json)) :
    (Json.obj ((key, value) :: entries)).get? name =
      if key = name then some value else (Json.obj entries).get? name :=
  rfl

open Document

@[simp]
theorem Schema.readFields_sorted (fields : List (String × Bool × Schema))
    (entries : List (String × Json)) :
    readFields fields (SortedMap.sorted entries) = readFields fields entries := by
  induction fields with
  | nil => simp [readFields]
  | cons field fields ih =>
      rcases field with ⟨name, isRequired, schema⟩
      rw [readFields, readFields, ih, find?_sorted]

theorem fits_int64 (number : Int64) : fits 64 number.toInt := by
  have below := number.toInt_lt
  have above := number.le_toInt
  simp only [fits, Bool.decide_and, Bool.and_eq_true, decide_eq_true_eq]
  exact ⟨below, above⟩

theorem fits_uint16 (number : UInt16) : fits 32 number.toNat := by
  have below := number.toNat_lt
  simp only [fits, Bool.decide_and, Bool.and_eq_true, decide_eq_true_eq]
  constructor
  · have bound : (1 <<< (32 - 1) : Nat) = 2147483648 := rfl
    rw [bound]
    omega
  · omega

/-- A list is read item by item. -/
theorem mapM_eq_some_iff {α β : Type} (f : α → Option β) (list : List α) (values : List β) :
    list.mapM f = some values ↔ list.map f = values.map some := by
  induction list generalizing values with
  | nil => cases values <;> simp
  | cons a list ih =>
      rw [List.mapM_cons]
      constructor
      · intro read
        rcases Option.bind_eq_some_iff.mp read with ⟨b, first, read⟩
        rcases Option.bind_eq_some_iff.mp read with ⟨rest, later, whole⟩
        cases whole
        rw [List.map_cons, List.map_cons, first, (ih rest).mp later]
      · intro same
        cases values with
        | nil => cases same
        | cons value values =>
            rw [List.map_cons, List.map_cons, List.cons.injEq] at same
            rw [same.1, (ih values).mpr same.2]
            rfl

/-- A list is read when each of its items is. -/
theorem list?_map {α : Type} {write : α → Json} {read : Json → Option α} {values : List α}
    (readable : ∀ value ∈ values, read (write value) = some value) :
    list? read (Json.arr (values.map write)) = some values := by
  refine (mapM_eq_some_iff read (values.map write) values).mpr ?_
  rw [List.map_map]
  exact List.map_congr_left readable

/-- A map of texts is read from an object in the order in which it was written. -/
theorem map?_ofMembers (entries : List (String × String)) :
    map? text? (Json.ofMembers (entries.map fun entry => (entry.1, .str entry.2))) =
      some (SortedMap.ofList entries) := by
  have decoded : ∀ entries : List (String × String),
      (entries.map fun entry => (entry.1, Json.str entry.2)).mapM
        (fun entry => (text? entry.2).map (entry.1, ·)) = some entries := by
    intro entries
    rw [mapM_eq_some_iff, List.map_map]
    rfl
  have same := SortedMap.ofList_entries (SortedMap.ofList entries)
  rw [SortedMap.entries_ofList] at same
  rw [Json.ofMembers_eq, SortedMap.sorted_map]
  simp only [map?, entries?, Option.bind_some, decoded, Option.map_some, same]

/-! ## Fields that the definitions give

A schema reads each of these values as it is. -/

namespace Schema

theorem read?_runAsUser {user : Int} (fits : fits 64 user) :
    read? securityContext (Json.obj [("runAsUser", .int user)]) =
      some (.obj [("runAsUser", .int user)]) := by
  simp [securityContext, read?, readFields, find?, opt, ifRequired, entries?, signed?, isNull,
    integer?, fits]

theorem read?_addedCapability (capability : String) :
    read? securityContext
      (Json.obj [("capabilities", .obj [("add", .arr [.str capability])])]) =
      some (.obj [("capabilities", .obj [("add", .arr [.str capability])])]) := by
  simp [securityContext, capabilities, read?, readFields, find?, opt, ifRequired, entries?,
    isNull, items?, text?]

theorem read?_containerPorts {port : Int} (fits : fits 32 port) (name protocol : String) :
    read? (.list containerPort) (Json.arr [.obj [("containerPort", .int port),
      ("name", .str name), ("protocol", .str protocol)]]) =
      some (.arr [.obj [("containerPort", .int port), ("name", .str name),
        ("protocol", .str protocol)]]) := by
  simp [containerPort, read?, readFields, find?, opt, req, ifRequired, entries?, signed?, isNull,
    integer?, items?, text?, fits]

theorem read?_preStop (first second third : String) :
    read? lifecycle (Json.obj [("preStop", .obj [("exec",
      .obj [("command", .ofTexts [first, second, third])])])]) =
      some (.obj [("preStop", .obj [("exec",
        .obj [("command", .ofTexts [first, second, third])])])]) := by
  simp [lifecycle, lifecycleHandler, execAction, read?, readFields, find?, opt, ifRequired,
    entries?, isNull, items?, text?, Json.ofTexts]

end Schema

/-! ## Environment variables -/

namespace EnvVar

/-- A variable with a value of its own. -/
def given (name value : String) : EnvVar where
  name := name
  value := some value
  valueFrom := none

/-- A variable that takes its value from a field of the running pod. -/
def ofField (name path : String) : EnvVar where
  name := name
  value := none
  valueFrom := some (.obj [("fieldRef", .obj [("fieldPath", .str path)])])

/-- A variable for a text that is present and says something. -/
def optional (name : String) : Option String → List EnvVar
  | none => []
  | some value => if value = "" then [] else [given name value]

theorem read?_given (name value : String) : read? (given name value).toJson =
    some (given name value) := by
  simp [read?, given, toJson, entries?, nullableOr, nullable, Document.optional, Json.member?,
    find?, isNull, text?]

theorem read?_ofField (name path : String) : read? (ofField name path).toJson =
    some (ofField name path) := by
  simp [read?, ofField, toJson, entries?, nullableOr, nullable, Document.optional, Json.member?,
    find?, isNull, text?]
  rfl

end EnvVar

/-! ## Mounts and containers -/

namespace VolumeMount

/-- A mount of which only the volume and the path are given. -/
def plain (volume path : String) : VolumeMount where
  name := volume
  mountPath := path
  readOnly := none
  rest := []

theorem read?_plain (volume path : String) :
    read? (plain volume path).toJson = some (plain volume path) := by
  simp [read?, plain, toJson, entries?, nullableOr, nullable, Document.optional, Json.member?,
    find?, isNull, text?, Schema.readFields, Schema.volumeMountRest, Schema.opt, Schema.ifRequired]

end VolumeMount

/-- An object is a container when its fields say what the fields of the container
are. -/
theorem Container.read?_ofMembers {members : List (String × Json)} {name image : String}
    (command : Option (List String)) (env : Option (List EnvVar))
    (mount : Option (String × String)) {rest : List (String × Json)}
    (named : find? "name" members = some (.str name))
    (imaged : find? "image" members = some (.str image))
    (commanded : find? "command" members = command.map Json.ofTexts)
    (declared : find? "env" members = env.map fun env => .arr (env.map EnvVar.toJson))
    (readable : ∀ var ∈ env.getD [], EnvVar.read? var.toJson = some var)
    (mounted : find? "volumeMounts" members =
      mount.map fun mount => .arr [(VolumeMount.plain mount.1 mount.2).toJson])
    (noArgs : find? "args" members = none) (noResources : find? "resources" members = none)
    (noProbe : find? "readinessProbe" members = none)
    (others : Schema.readFields Schema.containerRest members = some rest) :
    read? (Json.ofMembers members) = some {
      name := name
      image := some image
      command := command
      args := none
      env := env
      volumeMounts := mount.map fun mount => [VolumeMount.plain mount.1 mount.2]
      resources := none
      readinessProbe := none
      rest := rest } := by
  have commandRead : nullable members "command" (list? text?) = some command := by
    cases command with
    | none => simp [nullable, Document.optional, commanded]
    | some texts =>
        have listed : list? text? (Json.arr (texts.map Json.str)) = some texts :=
          list?_map fun _ _ => rfl
        simp [nullable, Document.optional, commanded, Json.ofTexts, isNull, listed]
  have envRead : nullable members "env" (list? EnvVar.read?) = some env := by
    cases env with
    | none => simp [nullable, Document.optional, declared]
    | some env =>
        have listed : list? EnvVar.read? (Json.arr (env.map EnvVar.toJson)) = some env :=
          list?_map readable
        simp [nullable, Document.optional, declared, isNull, listed]
  have mountRead : nullable members "volumeMounts" (list? VolumeMount.read?) =
      some (mount.map fun mount => [VolumeMount.plain mount.1 mount.2]) := by
    cases mount with
    | none => simp [nullable, Document.optional, mounted]
    | some mount =>
        simp [nullable, Document.optional, mounted, isNull, list?, items?, VolumeMount.read?_plain]
  have nameRead : nullableOr members "name" "" text? = some name := by
    simp [nullableOr, nullable, Document.optional, named, isNull, text?]
  have imageRead : nullable members "image" text? = some (some image) := by
    simp [nullable, Document.optional, imaged, isNull, text?]
  have argsRead : nullable members "args" (list? text?) = some none := by
    simp [nullable, Document.optional, noArgs]
  have resourcesRead : nullable members "resources" Resources.read? = some none := by
    simp [nullable, Document.optional, noResources]
  have probeRead : nullable members "readinessProbe" Schema.probe.read? = some none := by
    simp [nullable, Document.optional, noProbe]
  have sorted : read? (Json.ofMembers members) = read? (Json.obj members) := by
    simp [Container.read?, Json.ofMembers_eq, entries?, nullableOr, nullable]
  rw [sorted]
  simp [Container.read?, entries?, nameRead, imageRead, commandRead, argsRead, envRead, mountRead,
    resourcesRead, probeRead, others]

end MeshSidecar
