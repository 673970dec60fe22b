import MeshSidecar.Mesh.Codec
import MeshSidecar.Proofs.Document

namespace MeshSidecar

/-!
# Snapshots survive their encoding

For each kind of snapshot it is said what a document states of it, how a document looks
after one round, and which faults a document can have.
-/

open Document

/-! ## Meshes -/

namespace Mesh

def fieldNames : List String :=
  ["name", "awsName", "meshOwner"]

def States (json : Json) (mesh : Mesh) : Prop :=
  IsRecord json fieldNames fun fields =>
    IsField fields "name" none IsText mesh.name ∧
    IsField fields "awsName" none IsText mesh.awsName ∧
    IsField fields "meshOwner" (some .null) (IsOptional IsText) mesh.owner

def Normal : Json → Json → Prop :=
  KeepsRecord fieldNames fun given written =>
    Keeps given written "name" none Eq ∧ Keeps given written "awsName" none Eq ∧
    Omits given written "meshOwner" Eq

def Fault (json : Json) : Prop :=
  IsRecord json fieldNames fun fields => LacksText fields "name" ∨ LacksText fields "awsName"

theorem decides : Decides read? States := by
  refine Decides.record fun fields mesh => ?_
  simp only [Option.bind_eq_bind, Option.bind_eq_some_iff, Option.pure_def, Option.some.injEq,
    decides_text.required, decides_text.nullable]
  constructor
  · rintro ⟨name, named, awsName, awsNamed, owner, owned, rfl⟩
    exact ⟨named, awsNamed, owned⟩
  · rintro ⟨named, awsNamed, owned⟩
    exact ⟨_, named, _, awsNamed, _, owned, rfl⟩

/-- The fields that a mesh is written with. -/
theorem exists_toJson_eq (mesh : Mesh) : ∃ written, mesh.toJson = .obj written ∧
    find? "name" written = some (.str mesh.name) ∧
    find? "awsName" written = some (.str mesh.awsName) ∧
    find? "meshOwner" written = mesh.owner.map .str ∧
    (∀ field ∈ written, field.1 ∈ fieldNames) ∧ (Json.obj written).Regular := by
  refine ⟨_, rfl, ?_⟩
  cases mesh.owner with
  | none =>
      refine ⟨rfl, rfl, rfl, by simp [fieldNames], .named ["awsName", "name"] rfl (by decide) ?_⟩
      simp [Json.Regular.str]
  | some owner =>
      refine ⟨rfl, rfl, rfl, by simp [fieldNames],
        .named ["awsName", "meshOwner", "name"] rfl (by decide) ?_⟩
      simp [Json.Regular.str]

theorem survives : Codec.Survives ⟨read?, toJson⟩ States Normal := by
  refine Codec.survives decides fun mesh => ?_
  rcases mesh.exists_toJson_eq with ⟨written, same, named, awsNamed, owned, known, regular⟩
  refine ⟨written, same, regular, ?_, ?_⟩
  · exact isRecord_obj ⟨.ofText named, .ofText awsNamed,
      .of_option (fun _ => rfl) (fun _ => Json.noConfusion) owned⟩
  · rintro document ⟨fields, given, isName, isAwsName, isOwner⟩
    exact ⟨fields, written, given, rfl, known, isName.keepsText named,
      isAwsName.keepsText awsNamed, isOwner.omits owned fun _ _ isText => isText⟩

theorem not_states_of_fault {json : Json} {mesh : Mesh} (fault : Fault json) :
    ¬ States json mesh := by
  intro stated
  rcases IsRecord.both fault stated with ⟨fields, lacks, named, awsNamed, -⟩
  rcases lacks with lacks | lacks
  · exact lacks.not_isField named
  · exact lacks.not_isField awsNamed

end Mesh

/-! ## Listeners -/

namespace Protocol

def names : List String :=
  ["http", "http2", "grpc", "tcp"]

/-- A protocol is stated by its name, alone or as the alternative of nothing. -/
def States (json : Json) (protocol : Protocol) : Prop :=
  json = .str protocol.name ∨ json = .obj [(protocol.name, .null)]

/-- A protocol is written by its name alone. -/
def Normal (given written : Json) : Prop :=
  ∃ name ∈ names, (given = .str name ∨ given = .obj [(name, .null)]) ∧ written = .str name

theorem name_mem_names (protocol : Protocol) : protocol.name ∈ names := by
  cases protocol <;> simp [name, names]

theorem ofName?_eq_some_iff (name : String) (protocol : Protocol) :
    ofName? name = some protocol ↔ name = protocol.name := by
  constructor
  · intro known
    rw [ofName?] at known
    split_ifs at known with http http2 grpc tcp
    all_goals
      cases known
      assumption
  · rintro rfl
    exact ofName?_name protocol

theorem decides : Decides read? States := by
  intro json protocol
  cases json with
  | str name =>
      change ofName? name = some protocol ↔ _
      simp [ofName?_eq_some_iff, States]
  | obj members =>
      rcases members with _ | ⟨⟨name, value⟩, _ | ⟨next, rest⟩⟩
      · simp [read?, alternative?, Json.alternative?, States]
      · cases value with
        | null =>
            change ofName? name = some protocol ↔ _
            simp [ofName?_eq_some_iff, States]
        | _ => simp [read?, alternative?, Json.alternative?, isNull, States]
      · simp [read?, alternative?, Json.alternative?, States]
  | _ => simp [read?, alternative?, Json.alternative?, States]

theorem normal (json : Json) (protocol : Protocol) (stated : States json protocol) :
    Normal json (.str protocol.name) :=
  ⟨protocol.name, protocol.name_mem_names, stated, rfl⟩

end Protocol

namespace Listener

def mappingNames : List String :=
  ["port", "protocol"]

def StatesMapping (json : Json) (listener : Listener) : Prop :=
  IsRecord json mappingNames fun fields =>
    IsField fields "port" none IsPort listener.port ∧
    IsField fields "protocol" none Protocol.States listener.protocol

def States (json : Json) (listener : Listener) : Prop :=
  IsRecord json ["portMapping"] fun fields =>
    IsField fields "portMapping" none StatesMapping listener

def NormalMapping : Json → Json → Prop :=
  KeepsRecord mappingNames fun given written =>
    Keeps given written "port" none Eq ∧ Keeps given written "protocol" none Protocol.Normal

def Normal : Json → Json → Prop :=
  KeepsRecord ["portMapping"] fun given written =>
    Keeps given written "portMapping" none NormalMapping

/-- The port is not a whole number of sixteen bits, or the protocol is not a known one. -/
def FaultyMapping (json : Json) : Prop :=
  IsRecord json mappingNames fun fields =>
    (∀ n : Int, find? "port" fields = some (.int n) → n < 0 ∨ 65535 < n) ∨
    (∀ name ∈ Protocol.names, find? "protocol" fields ≠ some (.str name) ∧
      find? "protocol" fields ≠ some (.obj [(name, .null)]))

def Fault (json : Json) : Prop :=
  IsRecord json ["portMapping"] fun fields =>
    ∀ mapping, find? "portMapping" fields = some mapping → FaultyMapping mapping

theorem decides_mapping : Decides readMapping? StatesMapping := by
  refine Decides.record fun fields listener => ?_
  simp only [Option.bind_eq_bind, Option.bind_eq_some_iff, Option.pure_def, Option.some.injEq,
    decides_port.required, Protocol.decides.required]
  constructor
  · rintro ⟨port, ported, protocol, spoken, rfl⟩
    exact ⟨ported, spoken⟩
  · rintro ⟨ported, spoken⟩
    exact ⟨_, ported, _, spoken, rfl⟩

theorem decides : Decides read? States :=
  Decides.record fun fields listener => decides_mapping.required fields "portMapping" listener

/-- The mapping that a listener is written with. -/
def mapping (listener : Listener) : Json :=
  .obj [("port", .int listener.port.toNat), ("protocol", .str listener.protocol.name)]

theorem statesMapping_mapping (listener : Listener) : StatesMapping listener.mapping listener :=
  isRecord_obj ⟨.of_find? (fun _ => rfl) rfl, .of_find? (fun _ => Or.inl rfl) rfl⟩

theorem normalMapping (json : Json) (listener : Listener) (stated : StatesMapping json listener) :
    NormalMapping json listener.mapping := by
  rcases stated with ⟨fields, given, isPort, isProtocol⟩
  exact ⟨fields, _, given, rfl, by simp [mappingNames], isPort.keeps rfl fun _ _ port => port,
    isProtocol.keeps rfl Protocol.normal⟩

theorem states_toJson (listener : Listener) : States listener.toJson listener :=
  isRecord_obj (.of_find? statesMapping_mapping rfl)

theorem normal (json : Json) (listener : Listener) (stated : States json listener) :
    Normal json listener.toJson := by
  rcases stated with ⟨fields, given, mapped⟩
  exact ⟨fields, _, given, rfl, by simp, mapped.keeps rfl normalMapping⟩

theorem regular_toJson (listener : Listener) : listener.toJson.Regular := by
  have mapped : listener.mapping.Regular :=
    .named mappingNames rfl (by decide) (by simp [Json.Regular.int, Json.Regular.str])
  exact .named ["portMapping"] rfl (by decide) (List.forall_mem_singleton.mpr mapped)

theorem not_states_of_fault {json : Json} {listener : Listener} (fault : Fault json) :
    ¬ States json listener := by
  intro stated
  rcases IsRecord.both fault stated with ⟨fields, faulty, mapping, there, mapped⟩
  rw [Option.or_none] at there
  rcases IsRecord.both (faulty mapping there) mapped with ⟨ends, outside, isPort, isProtocol⟩
  rcases outside with outside | unknown
  · rcases isPort with ⟨port, there, rfl⟩
    rw [Option.or_none] at there
    -- Whatever states a port is a number that fits.
    have bound := listener.port.toNat_lt
    rcases outside _ there with below | above
    · omega
    · omega
  · rcases isProtocol with ⟨protocol, there, spoken⟩
    rw [Option.or_none] at there
    have absent := unknown _ listener.protocol.name_mem_names
    rcases spoken with rfl | rfl
    · exact absent.1 there
    · exact absent.2 there

end Listener

/-! ## Service discovery -/

namespace ServiceDiscovery

/-- The alternatives, with the texts that each of them needs. -/
def alternatives : List (String × List String) :=
  [("dns", ["hostname"]), ("awsCloudMap", ["namespaceName", "serviceName"])]

def States (json : Json) : ServiceDiscovery → Prop
  | .dns hostname => ∃ fields, json = .obj [("dns", .obj fields)] ∧
    IsField fields "hostname" none IsText hostname
  | .cloudMap namespaceName serviceName => ∃ fields, json = .obj [("awsCloudMap", .obj fields)] ∧
    IsField fields "namespaceName" none IsText namespaceName ∧
    IsField fields "serviceName" none IsText serviceName

/-- An alternative is kept with the texts that it needs and nothing else. -/
def Normal (given written : Json) : Prop :=
  ∃ alternative ∈ alternatives, ∃ fields kept,
    given = .obj [(alternative.1, .obj fields)] ∧ written = .obj [(alternative.1, .obj kept)] ∧
    (∀ field ∈ kept, field.1 ∈ alternative.2) ∧
    ∀ name ∈ alternative.2, Keeps fields kept name none Eq

/-- The document is not exactly one known alternative, or that lacks a text. -/
def Fault (json : Json) : Prop :=
  (∀ alternative ∈ alternatives, ∀ carried, json ≠ .obj [(alternative.1, carried)]) ∨
    ∃ alternative ∈ alternatives, ∃ fields, json = .obj [(alternative.1, .obj fields)] ∧
      ∃ name ∈ alternative.2, LacksText fields name

theorem read?_dns (fields : List (String × Json)) (discovery : ServiceDiscovery) :
    read? (Json.obj [("dns", .obj fields)]) = some discovery ↔
      ∃ hostname, IsField fields "hostname" none IsText hostname ∧ dns hostname = discovery := by
  simp [read?, alternative?, Json.alternative?, entries?, Option.bind_eq_some_iff,
    decides_text.required]

theorem read?_cloudMap (fields : List (String × Json)) (discovery : ServiceDiscovery) :
    read? (Json.obj [("awsCloudMap", .obj fields)]) = some discovery ↔
      ∃ namespaceName, IsField fields "namespaceName" none IsText namespaceName ∧
        ∃ serviceName, IsField fields "serviceName" none IsText serviceName ∧
          cloudMap namespaceName serviceName = discovery := by
  simp [read?, alternative?, Json.alternative?, entries?, Option.bind_eq_some_iff,
    decides_text.required]

/-- Only the known alternatives are read, and only with fields by name. -/
theorem exists_alternative {json : Json} {discovery : ServiceDiscovery}
    (read : read? json = some discovery) :
    ∃ alternative ∈ alternatives, ∃ fields, json = .obj [(alternative.1, .obj fields)] := by
  cases json with
  | obj members =>
      rcases members with _ | ⟨⟨name, value⟩, _ | ⟨next, rest⟩⟩
      · cases read
      · cases value with
        | obj fields =>
            by_cases dns : name = "dns"
            · exact ⟨("dns", ["hostname"]), by simp [alternatives], fields, by rw [dns]⟩
            · by_cases cloudMap : name = "awsCloudMap"
              · exact ⟨("awsCloudMap", ["namespaceName", "serviceName"]), by simp [alternatives],
                  fields, by rw [cloudMap]⟩
              · simp [read?, alternative?, Json.alternative?, entries?, dns, cloudMap] at read
        | _ => cases read
      · cases read
  | _ => cases read

theorem decides : Decides read? States := by
  intro json discovery
  constructor
  · intro read
    rcases exists_alternative read with ⟨alternative, known, fields, rfl⟩
    rcases List.mem_pair.mp known with rfl | rfl
    · rcases (read?_dns fields discovery).mp read with ⟨hostname, hosted, rfl⟩
      exact ⟨fields, rfl, hosted⟩
    · rcases (read?_cloudMap fields discovery).mp read with ⟨_, spaced, _, served, rfl⟩
      exact ⟨fields, rfl, spaced, served⟩
  · intro stated
    cases discovery with
    | dns hostname =>
        rcases stated with ⟨fields, rfl, hosted⟩
        exact (read?_dns fields _).mpr ⟨_, hosted, rfl⟩
    | cloudMap namespaceName serviceName =>
        rcases stated with ⟨fields, rfl, spaced, served⟩
        exact (read?_cloudMap fields _).mpr ⟨_, spaced, _, served, rfl⟩

theorem states_toJson (discovery : ServiceDiscovery) : States discovery.toJson discovery := by
  cases discovery with
  | dns hostname => exact ⟨_, rfl, .ofText rfl⟩
  | cloudMap namespaceName serviceName => exact ⟨_, rfl, .ofText rfl, .ofText rfl⟩

theorem toJson_ne_null (discovery : ServiceDiscovery) : discovery.toJson ≠ .null := by
  cases discovery <;> exact Json.noConfusion

theorem normal (json : Json) (discovery : ServiceDiscovery) (stated : States json discovery) :
    Normal json discovery.toJson := by
  cases discovery with
  | dns hostname =>
      rcases stated with ⟨fields, given, isHostname⟩
      refine ⟨("dns", ["hostname"]), by simp [alternatives], fields, _, given, rfl, by simp, ?_⟩
      exact List.forall_mem_singleton.mpr (isHostname.keepsText rfl)
  | cloudMap namespaceName serviceName =>
      rcases stated with ⟨fields, given, isNamespace, isService⟩
      refine ⟨("awsCloudMap", ["namespaceName", "serviceName"]), by simp [alternatives], fields, _,
        given, rfl, by simp, ?_⟩
      intro name isName
      rcases List.mem_pair.mp isName with rfl | rfl
      · exact isNamespace.keepsText rfl
      · exact isService.keepsText rfl

theorem regular_toJson (discovery : ServiceDiscovery) : discovery.toJson.Regular := by
  cases discovery with
  | dns hostname =>
      have carried : (Json.obj [("hostname", .str hostname)]).Regular :=
        .named ["hostname"] rfl (by decide) (by simp [Json.Regular.str])
      exact .named ["dns"] rfl (by decide) (List.forall_mem_singleton.mpr carried)
  | cloudMap namespaceName serviceName =>
      have carried : (Json.obj [("namespaceName", .str namespaceName),
          ("serviceName", .str serviceName)]).Regular :=
        .named ["namespaceName", "serviceName"] rfl (by decide) (by simp [Json.Regular.str])
      exact .named ["awsCloudMap"] rfl (by decide) (List.forall_mem_singleton.mpr carried)

theorem not_states_of_fault {json : Json} {discovery : ServiceDiscovery} (fault : Fault json) :
    ¬ States json discovery := by
  intro stated
  have read := (decides json discovery).mpr stated
  rcases fault with unknown | ⟨alternative, known, fields, rfl, name, needed, lacks⟩
  · rcases exists_alternative read with ⟨alternative, known, fields, same⟩
    exact unknown alternative known _ same
  · rcases List.mem_pair.mp known with rfl | rfl
    · rcases (read?_dns fields discovery).mp read with ⟨hostname, hosted, -⟩
      cases List.mem_singleton.mp needed
      exact lacks.not_isField hosted
    · rcases (read?_cloudMap fields discovery).mp read with ⟨_, spaced, _, served, -⟩
      rcases List.mem_pair.mp needed with rfl | rfl
      · exact lacks.not_isField spaced
      · exact lacks.not_isField served

end ServiceDiscovery

/-! ## What nodes and gateways have in common -/

structure IsPlaced (fields : List (String × Json)) (name namespaceName awsName : String)
    (listeners : List Listener) : Prop where
  name : IsField fields "name" none IsText name
  namespaceName : IsField fields "namespace" none IsText namespaceName
  awsName : IsField fields "awsName" (some (.str "")) IsText awsName
  listeners : IsField fields "listeners" (some (.arr [])) (IsList Listener.States) listeners

/-- A missing name in the control plane and missing listeners are filled in. -/
structure KeepsPlaced (given written : List (String × Json)) : Prop where
  name : Keeps given written "name" none Eq
  namespaceName : Keeps given written "namespace" none Eq
  awsName : Keeps given written "awsName" (some (.str "")) Eq
  listeners : Keeps given written "listeners" (some (.arr [])) (KeepsItems Listener.Normal)

inductive PlacedFault (fields : List (String × Json)) : Prop where
  | name (lacks : LacksText fields "name")
  | namespaceName (lacks : LacksText fields "namespace")
  | listener (items : List Json) (item : Json)
      (given : find? "listeners" fields = some (.arr items)) (isItem : item ∈ items)
      (faulty : Listener.Fault item)

structure WritesPlaced (written : List (String × Json)) (name namespaceName awsName : String)
    (listeners : List Listener) : Prop where
  name : find? "name" written = some (.str name)
  namespaceName : find? "namespace" written = some (.str namespaceName)
  awsName : find? "awsName" written = some (.str awsName)
  listeners : find? "listeners" written = some (.arr (listeners.map Listener.toJson))

section

variable {fields written : List (String × Json)} {name namespaceName awsName : String}
  {listeners : List Listener}

theorem WritesPlaced.isPlaced
    (writes : WritesPlaced written name namespaceName awsName listeners) :
    IsPlaced written name namespaceName awsName listeners where
  name := .ofText writes.name
  namespaceName := .ofText writes.namespaceName
  awsName := .ofText writes.awsName
  listeners := .of_find? (isList_map Listener.states_toJson) writes.listeners

theorem IsPlaced.keeps (placed : IsPlaced fields name namespaceName awsName listeners)
    (writes : WritesPlaced written name namespaceName awsName listeners) :
    KeepsPlaced fields written where
  name := placed.name.keepsText writes.name
  namespaceName := placed.namespaceName.keepsText writes.namespaceName
  awsName := placed.awsName.keepsText writes.awsName
  listeners := placed.listeners.keeps writes.listeners (IsList.keeps Listener.normal)

theorem IsPlaced.not_fault (placed : IsPlaced fields name namespaceName awsName listeners) :
    ¬ PlacedFault fields := by
  intro fault
  cases fault with
  | name lacks => exact lacks.not_isField placed.name
  | namespaceName lacks => exact lacks.not_isField placed.namespaceName
  | listener items item given isItem faulty =>
      rcases placed.listeners with ⟨json, there, listed, rfl, each⟩
      rw [given, Option.some_or] at there
      cases there
      -- Every item of the list states a listener, so none of them is faulty.
      have sound : List.Forall₂ (fun item listener => ¬ Listener.Fault item ∧
          Listener.States item listener) items listeners :=
        each.imp fun item listener stated =>
          ⟨fun fault => Listener.not_states_of_fault fault stated, stated⟩
      exact ((List.forall₂_and_left items listeners).mp sound).1 item isItem faulty

end

/-! ## Virtual nodes -/

namespace VirtualNode

def fieldNames : List String :=
  ["name", "namespace", "awsName", "listeners", "serviceDiscovery"]

def States (json : Json) (node : VirtualNode) : Prop :=
  IsRecord json fieldNames fun fields =>
    IsPlaced fields node.name node.namespaceName node.awsName node.listeners ∧
    IsField fields "serviceDiscovery" (some .null) (IsOptional ServiceDiscovery.States)
      node.discovery

def Normal : Json → Json → Prop :=
  KeepsRecord fieldNames fun given written =>
    KeepsPlaced given written ∧ Omits given written "serviceDiscovery" ServiceDiscovery.Normal

def Fault (json : Json) : Prop :=
  IsRecord json fieldNames fun fields => PlacedFault fields ∨
    ∃ discovery, find? "serviceDiscovery" fields = some discovery ∧ discovery ≠ .null ∧
      ServiceDiscovery.Fault discovery

theorem decides : Decides read? States := by
  refine Decides.record fun fields node => ?_
  simp only [Option.bind_eq_bind, Option.bind_eq_some_iff, Option.pure_def, Option.some.injEq,
    decides_text.required, decides_text.orDefault rfl,
    Listener.decides.list.orDefault ⟨[], rfl, .nil⟩, ServiceDiscovery.decides.nullable]
  constructor
  · rintro ⟨name, named, namespaceName, spaced, awsName, awsNamed, listeners, listed, discovery,
      discovered, rfl⟩
    exact ⟨⟨named, spaced, awsNamed, listed⟩, discovered⟩
  · rintro ⟨⟨named, spaced, awsNamed, listed⟩, discovered⟩
    exact ⟨_, named, _, spaced, _, awsNamed, _, listed, _, discovered, rfl⟩

/-- The fields that a node is written with. -/
theorem exists_toJson_eq (node : VirtualNode) : ∃ written, node.toJson = .obj written ∧
    WritesPlaced written node.name node.namespaceName node.awsName node.listeners ∧
    find? "serviceDiscovery" written = node.discovery.map ServiceDiscovery.toJson ∧
    (∀ field ∈ written, field.1 ∈ fieldNames) ∧ (Json.obj written).Regular := by
  have listed : (Json.arr (node.listeners.map Listener.toJson)).Regular :=
    .arr (List.forall_mem_map.mpr fun listener _ => listener.regular_toJson)
  refine ⟨_, rfl, ?_⟩
  cases node.discovery with
  | none =>
      refine ⟨⟨rfl, rfl, rfl, rfl⟩, rfl, by simp [fieldNames],
        .named ["awsName", "listeners", "name", "namespace"] rfl (by decide) ?_⟩
      simp [Json.Regular.str, listed]
  | some discovery =>
      refine ⟨⟨rfl, rfl, rfl, rfl⟩, rfl, by simp [fieldNames],
        .named ["awsName", "listeners", "name", "namespace", "serviceDiscovery"] rfl (by decide) ?_⟩
      simp [Json.Regular.str, listed, discovery.regular_toJson]

theorem survives : Codec.Survives ⟨read?, toJson⟩ States Normal := by
  refine Codec.survives decides fun node => ?_
  rcases node.exists_toJson_eq with ⟨written, same, writes, discovered, known, regular⟩
  refine ⟨written, same, regular, ?_, ?_⟩
  · exact isRecord_obj ⟨writes.isPlaced, .of_option ServiceDiscovery.states_toJson
      ServiceDiscovery.toJson_ne_null discovered⟩
  · rintro document ⟨fields, given, placed, isDiscovery⟩
    exact ⟨fields, written, given, rfl, known, placed.keeps writes,
      isDiscovery.omits discovered ServiceDiscovery.normal⟩

theorem not_states_of_fault {json : Json} {node : VirtualNode} (fault : Fault json) :
    ¬ States json node := by
  intro stated
  rcases IsRecord.both fault stated with ⟨fields, faulty, placed, discovery, there, stated⟩
  rcases faulty with faulty | ⟨given, found, filled, faulty⟩
  · exact placed.not_fault faulty
  · rw [found, Option.some_or] at there
    cases there
    cases isDiscovery : node.discovery with
    | none =>
        rw [isDiscovery] at stated
        exact filled stated
    | some discovery =>
        rw [isDiscovery] at stated
        exact ServiceDiscovery.not_states_of_fault faulty stated.2

end VirtualNode

/-! ## Virtual gateways -/

namespace VirtualGateway

def fieldNames : List String :=
  ["name", "namespace", "awsName", "listeners"]

def States (json : Json) (gateway : VirtualGateway) : Prop :=
  IsRecord json fieldNames fun fields =>
    IsPlaced fields gateway.name gateway.namespaceName gateway.awsName gateway.listeners

def Normal : Json → Json → Prop :=
  KeepsRecord fieldNames KeepsPlaced

def Fault (json : Json) : Prop :=
  IsRecord json fieldNames PlacedFault

theorem decides : Decides read? States := by
  refine Decides.record fun fields gateway => ?_
  simp only [Option.bind_eq_bind, Option.bind_eq_some_iff, Option.pure_def, Option.some.injEq,
    decides_text.required, decides_text.orDefault rfl,
    Listener.decides.list.orDefault ⟨[], rfl, .nil⟩]
  constructor
  · rintro ⟨name, named, namespaceName, spaced, awsName, awsNamed, listeners, listed, rfl⟩
    exact ⟨named, spaced, awsNamed, listed⟩
  · rintro ⟨named, spaced, awsNamed, listed⟩
    exact ⟨_, named, _, spaced, _, awsNamed, _, listed, rfl⟩

/-- The fields that a gateway is written with. -/
theorem exists_toJson_eq (gateway : VirtualGateway) : ∃ written, gateway.toJson = .obj written ∧
    WritesPlaced written gateway.name gateway.namespaceName gateway.awsName gateway.listeners ∧
    (∀ field ∈ written, field.1 ∈ fieldNames) ∧ (Json.obj written).Regular := by
  have listed : (Json.arr (gateway.listeners.map Listener.toJson)).Regular :=
    .arr (List.forall_mem_map.mpr fun listener _ => listener.regular_toJson)
  refine ⟨_, rfl, ⟨rfl, rfl, rfl, rfl⟩, by simp [fieldNames],
    .named ["awsName", "listeners", "name", "namespace"] rfl (by decide) ?_⟩
  simp [Json.Regular.str, listed]

theorem survives : Codec.Survives ⟨read?, toJson⟩ States Normal := by
  refine Codec.survives decides fun gateway => ?_
  rcases gateway.exists_toJson_eq with ⟨written, same, writes, known, regular⟩
  refine ⟨written, same, regular, isRecord_obj writes.isPlaced, ?_⟩
  rintro document ⟨fields, given, placed⟩
  exact ⟨fields, written, given, rfl, known, placed.keeps writes⟩

theorem not_states_of_fault {json : Json} {gateway : VirtualGateway} (fault : Fault json) :
    ¬ States json gateway := by
  intro stated
  rcases IsRecord.both fault stated with ⟨fields, faulty, placed⟩
  exact placed.not_fault faulty

end VirtualGateway

/-! ## Identities -/

namespace Identity

def fieldNames : List String :=
  ["accountId", "awsRegion", "controllerVersion", "k8sVersion"]

def States (json : Json) (identity : Identity) : Prop :=
  IsRecord json fieldNames fun fields =>
    IsField fields "accountId" (some (.str "")) IsText identity.accountId ∧
    IsField fields "awsRegion" (some (.str "")) IsText identity.awsRegion ∧
    IsField fields "controllerVersion" (some .null) (IsOptional IsText)
      identity.controllerVersion ∧
    IsField fields "k8sVersion" (some .null) (IsOptional IsText) identity.k8sVersion

/-- Everything is filled in, unset versions as null. -/
def Normal : Json → Json → Prop :=
  KeepsRecord fieldNames fun given written =>
    Keeps given written "accountId" (some (.str "")) Eq ∧
    Keeps given written "awsRegion" (some (.str "")) Eq ∧
    Keeps given written "controllerVersion" (some .null) Eq ∧
    Keeps given written "k8sVersion" (some .null) Eq

theorem decides : Decides read? States := by
  refine Decides.record fun fields identity => ?_
  simp only [Option.bind_eq_bind, Option.bind_eq_some_iff, Option.pure_def, Option.some.injEq,
    decides_text.orDefault rfl, decides_text.nullable]
  constructor
  · rintro ⟨account, isAccount, region, isRegion, controller, isController, k8s, isK8s, rfl⟩
    exact ⟨isAccount, isRegion, isController, isK8s⟩
  · rintro ⟨isAccount, isRegion, isController, isK8s⟩
    exact ⟨_, isAccount, _, isRegion, _, isController, _, isK8s, rfl⟩

theorem survives : Codec.Survives ⟨read?, toJson⟩ States Normal := by
  refine Codec.survives decides fun identity =>
    ⟨_, rfl, .named fieldNames rfl (by decide) ?_, ?_, ?_⟩
  · simp [Json.Regular.str, Json.regular_ofText?]
  · exact isRecord_obj ⟨.ofText rfl, .ofText rfl, .of_find? isOptional_ofText? rfl,
      .of_find? isOptional_ofText? rfl⟩
  · rintro document ⟨fields, given, isAccount, isRegion, isController, isK8s⟩
    exact ⟨fields, _, given, rfl, by simp [fieldNames], isAccount.keepsText rfl,
      isRegion.keepsText rfl, isController.keeps rfl IsOptional.eq_ofText?,
      isK8s.keeps rfl IsOptional.eq_ofText?⟩

end Identity

/-! ## All snapshots -/

/-- Every snapshot survives its encoding, and faulty documents are refused. -/
theorem snapshots_survive :
    (Codec.Survives ⟨Mesh.read?, Mesh.toJson⟩ Mesh.States Mesh.Normal ∧
      Codec.Survives ⟨VirtualNode.read?, VirtualNode.toJson⟩ VirtualNode.States
        VirtualNode.Normal ∧
      Codec.Survives ⟨VirtualGateway.read?, VirtualGateway.toJson⟩ VirtualGateway.States
        VirtualGateway.Normal ∧
      Codec.Survives ⟨Identity.read?, Identity.toJson⟩ Identity.States Identity.Normal) ∧
    (∀ json : Json, Mesh.Fault json → Mesh.read? json = none) ∧
    (∀ json : Json, VirtualNode.Fault json → VirtualNode.read? json = none) ∧
    ∀ json : Json, VirtualGateway.Fault json → VirtualGateway.read? json = none :=
  ⟨⟨Mesh.survives, VirtualNode.survives, VirtualGateway.survives, Identity.survives⟩,
    fun _ fault => Mesh.decides.eq_none fun _ => Mesh.not_states_of_fault fault,
    fun _ fault => VirtualNode.decides.eq_none fun _ => VirtualNode.not_states_of_fault fault,
    fun _ fault =>
      VirtualGateway.decides.eq_none fun _ => VirtualGateway.not_states_of_fault fault⟩

/-- The unknown key goes, and the name and the listeners are filled in; and a document is
refused that lacks a name, or has a port above sixteen bits, an unknown protocol or two
alternatives. -/
theorem snapshots_survive_of_sparse_node :
    VirtualNode.Normal
      (.obj [("kind", .str "node"), ("name", .str "a"), ("namespace", .str "b")])
      (.obj [("awsName", .str ""), ("listeners", .arr []), ("name", .str "a"),
        ("namespace", .str "b")]) ∧
    Mesh.read? (Json.obj [("awsName", .str "m")]) = none ∧
    VirtualNode.read? (Json.obj [("listeners", .arr [.obj [("portMapping",
      .obj [("port", .int 65536), ("protocol", .str "http")])]]), ("name", .str "a"),
      ("namespace", .str "b")]) = none ∧
    VirtualGateway.read? (Json.obj [("listeners", .arr [.obj [("portMapping",
      .obj [("port", .int 80), ("protocol", .str "udp")])]]), ("name", .str "a"),
      ("namespace", .str "b")]) = none ∧
    VirtualNode.read? (Json.obj [("name", .str "a"), ("namespace", .str "b"),
      ("serviceDiscovery", .obj [("awsCloudMap", .null), ("dns", .null)])]) = none := by
  rcases snapshots_survive with ⟨⟨-, node, -, -⟩, meshFault, nodeFault, gatewayFault⟩
  refine ⟨node.normal _ _ rfl, meshFault _ (isRecord_obj (Or.inl fun _ => by simp [find?])),
    nodeFault _ (isRecord_obj (Or.inl ?_)), gatewayFault _ (isRecord_obj ?_),
    nodeFault _ (isRecord_obj (Or.inr ⟨_, rfl, Json.noConfusion, Or.inl ?_⟩))⟩
  · refine .listener _ _ rfl (List.mem_singleton.mpr rfl) (isRecord_obj fun mapping found => ?_)
    cases found
    refine isRecord_obj (Or.inl fun n found => ?_)
    cases found
    decide
  · refine .listener _ _ rfl (List.mem_singleton.mpr rfl) (isRecord_obj fun mapping found => ?_)
    cases found
    exact isRecord_obj (Or.inr (by decide))
  · intro alternative _ carried
    simp

end MeshSidecar
