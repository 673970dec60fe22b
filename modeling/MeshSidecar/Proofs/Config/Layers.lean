import MeshSidecar.Config.Codec

namespace MeshSidecar

/-!
# Layers of configuration

A configuration document is laid over the defaults: a setting that the document
has is taken from it, and every other setting keeps its default, however much of
the surrounding records is there.  The settings are listed here, each with the
path to it, and a decoder is followed field by field: either one of the listed
settings is the reason why it fails, or all of them are as the document has them.

Since the settings tell configurations apart, a document has one outcome at most.
Other keys therefore do not matter, and what was written is read back.
-/

open Document

/-- The value that a path of keys leads to.  Of several members with one key the
last counts. -/
def Json.at? : List String → Json → Option Json
  | [], value => some value
  | key :: path, .obj members => (find? key members).bind (at? path)
  | _ :: _, _ => none

/-- What a document has at each of these paths is an object. -/
def Json.HasObjects (paths : List (List String)) (document : Json) : Prop :=
  ∀ path ∈ paths, ∀ value, document.at? path = some value → ∃ members, value = .obj members

theorem Json.HasObjects.part {paths : List (List String)} {key : String}
    {members : List (String × Json)} (objects : HasObjects paths (.obj members))
    (listed : [key] ∈ paths) (value : Json) (found : find? key members = some value) :
    ∃ inside, value = .obj inside :=
  objects [key] listed value (by rw [at?, found]; rfl)

theorem Json.HasObjects.within {paths inner : List (List String)} {key : String}
    {members : List (String × Json)} {value : Json} (objects : HasObjects paths (.obj members))
    (found : find? key members = some value) (listed : ∀ path ∈ inner, key :: path ∈ paths) :
    value.HasObjects inner := by
  intro path member part leads
  refine objects (key :: path) (listed path member) part ?_
  rw [at?, found]
  exact leads

namespace Config

/-! ## Kinds of settings -/

/-- The types that a setting may have. -/
inductive Kind where
  | flag
  | text
  | optionalText
  | uint16
  | uint32
  | int32

namespace Kind

@[reducible]
def Value : Kind → Type
  | flag => Bool
  | text => String
  | optionalText => Option String
  | uint16 => UInt16
  | uint32 => UInt32
  | int32 => Int32

/-- A value as documents have it.  Only an optional text may be null. -/
def write : (kind : Kind) → kind.Value → Json
  | flag, value => .bool value
  | text, value => .str value
  | optionalText, value => Json.ofText? value
  | uint16, value => .int (UInt16.toNat value)
  | uint32, value => .int (UInt32.toNat value)
  | int32, value => .int (Int32.toInt value)

def read? : (kind : Kind) → Json → Option kind.Value
  | flag => flag?
  | text => text?
  | optionalText => fun value => if isNull value then some none else (text? value).map some
  | uint16 => uint16?
  | uint32 => uint32?
  | int32 => int32?

theorem fits_int32 (number : Int32) : fits 32 number.toInt := by
  have below := number.toInt_lt
  have above := number.le_toInt
  simp only [fits, Bool.decide_and, Bool.and_eq_true, decide_eq_true_eq]
  exact ⟨below, above⟩

theorem toInt_ofInt_of_fits {n : Int} (fit : fits 32 n) : (Int32.ofInt n).toInt = n := by
  simp only [fits, Bool.decide_and, Bool.and_eq_true, decide_eq_true_eq] at fit
  exact Int32.toInt_ofInt_of_le fit.right fit.left

theorem read?_write (kind : Kind) (value : kind.Value) :
    kind.read? (kind.write value) = some value := by
  cases kind with
  | flag => rfl
  | text => rfl
  | optionalText =>
      cases value with
      | none => rfl
      | some value => rfl
  | uint16 =>
      have small := UInt16.toNat_lt_size value
      simp [read?, write, uint16?, natural?, small]
  | uint32 =>
      have small := UInt32.toNat_lt_size value
      simp [read?, write, uint32?, natural?, small]
  | int32 =>
      have fit := fits_int32 value
      simp [read?, write, int32?, signed?, integer?, fit]

theorem natural?_eq {json : Json} {n : Nat} (natural : natural? json = some n) :
    json = .int n := by
  cases json with
  | int number =>
      cases number with
      | ofNat number => exact congrArg (Json.int ∘ Int.ofNat) (Option.some.inj natural)
      | negSucc => cases natural
  | _ => cases natural

theorem write_of_read? {kind : Kind} {json : Json} {value : kind.Value}
    (read : kind.read? json = some value) : kind.write value = json := by
  cases kind with
  | flag =>
      cases json with
      | bool flag => exact congrArg Json.bool (Option.some.inj read).symm
      | _ => cases read
  | text =>
      cases json with
      | str text => exact congrArg Json.str (Option.some.inj read).symm
      | _ => cases read
  | optionalText =>
      cases json with
      | null => exact congrArg Json.ofText? (Option.some.inj read).symm
      | str text => exact congrArg Json.ofText? (Option.some.inj read).symm
      | _ => cases read
  | uint16 =>
      rcases Option.bind_eq_some_iff.mp read with ⟨n, natural, bounded⟩
      split at bounded
      · rw [natural?_eq natural, ← Option.some.inj bounded, write, UInt16.toNat_ofNatLT]
      · cases bounded
  | uint32 =>
      rcases Option.bind_eq_some_iff.mp read with ⟨n, natural, bounded⟩
      split at bounded
      · rw [natural?_eq natural, ← Option.some.inj bounded, write, UInt32.toNat_ofNatLT]
      · cases bounded
  | int32 =>
      rcases Option.map_eq_some_iff.mp read with ⟨n, signed, rfl⟩
      cases json with
      | int number =>
          change (if fits 32 number then some number else none) = some n at signed
          split at signed
          · next fit =>
              rw [← Option.some.inj signed, write, toInt_ofInt_of_fits fit]
          · cases signed
      | _ => cases signed

theorem write_injective {kind : Kind} {first second : kind.Value}
    (same : kind.write first = kind.write second) : first = second := by
  have read := kind.read?_write first
  rw [same, kind.read?_write] at read
  exact (Option.some.inj read).symm

end Kind

/-! ## Settings -/

/-- Where documents have a setting, of which kind it is, and where records hold it. -/
structure Setting (ρ : Type) where
  path : List String
  kind : Kind
  field : ρ → kind.Value

namespace Setting

variable {ρ σ : Type}

/-- A setting of a part, as one of the whole. -/
def within (key : String) (part : ρ → σ) (setting : Setting σ) : Setting ρ where
  path := key :: setting.path
  kind := setting.kind
  field record := setting.field (part record)

/-- The document has something in this place that is no value of the kind. -/
def Misread (setting : Setting ρ) (document : Json) : Prop :=
  ∃ json, document.at? setting.path = some json ∧ ∀ value, setting.kind.write value ≠ json

/-- The document asks for this value: it has the value, or it has nothing in this
place and the value is the default. -/
def Asks (setting : Setting ρ) (default : ρ) (document : Json) (value : setting.kind.Value) :
    Prop :=
  match document.at? setting.path with
  | some json => setting.kind.write value = json
  | none => value = setting.field default

theorem Asks.unique {setting : Setting ρ} {default : ρ} {document : Json}
    {first second : setting.kind.Value} (firstAsked : setting.Asks default document first)
    (secondAsked : setting.Asks default document second) : first = second := by
  rw [Asks] at firstAsked secondAsked
  cases found : document.at? setting.path with
  | none =>
      simp only [found] at firstAsked secondAsked
      rw [firstAsked, secondAsked]
  | some json =>
      simp only [found] at firstAsked secondAsked
      exact Kind.write_injective (firstAsked.trans secondAsked.symm)

theorem Asks.not_misread {setting : Setting ρ} {default : ρ} {document : Json}
    {value : setting.kind.Value} (asked : setting.Asks default document value) :
    ¬ setting.Misread document := by
  rintro ⟨json, found, unwritten⟩
  rw [Asks, found] at asked
  exact unwritten value asked

/-- The document has what the record holds. -/
def Written (setting : Setting ρ) (record : ρ) (document : Json) : Prop :=
  document.at? setting.path = some (setting.kind.write (setting.field record))

theorem Written.asks {setting : Setting ρ} {record default : ρ} {document : Json}
    (written : setting.Written record document) :
    setting.Asks default document (setting.field record) := by
  rw [Asks, written]

theorem written_within {key : String} {part : ρ → σ} {inner : List (Setting σ)} {record : ρ}
    {members : List (String × Json)} {json : Json} (found : find? key members = some json)
    (written : ∀ setting ∈ inner, setting.Written (part record) json) :
    ∀ setting ∈ inner.map (within key part), setting.Written record (.obj members) := by
  rw [List.forall_mem_map]
  intro setting member
  rw [Written, within, Json.at?, found]
  exact written setting member

theorem asks_within {key : String} {part : ρ → σ} {setting : Setting σ} {default : ρ}
    {members : List (String × Json)} {value : setting.kind.Value} :
    (setting.within key part).Asks default (.obj members) value ↔
      match find? key members with
      | some json => setting.Asks (part default) json value
      | none => value = setting.field (part default) := by
  cases found : find? key members with
  | none => simp [Asks, within, Json.at?, found]
  | some json => simp [Asks, within, Json.at?, found]

end Setting

/-! ## Reading a record -/

section

variable {ρ σ : Type}

/-- What a document laid over the defaults comes to: nothing, for which some setting
is the reason, or a record that holds what the document asks for. -/
def Layered (settings : List (Setting ρ)) (default : ρ) (document : Json) : Option ρ → Prop
  | none => ∃ setting ∈ settings, setting.Misread document
  | some record => ∀ setting ∈ settings, setting.Asks default document (setting.field record)

namespace Layered

variable {settings : List (Setting ρ)} {default : ρ}

section

variable {members : List (String × Json)}

/-- A step of a decoder: what it reads is not there, cannot be read, or is read. -/
theorem bind {α : Type} {key : String} {fallback : α} {decode : Json → Option α}
    {next : α → Option ρ}
    (absent : find? key members = none → Layered settings default (.obj members) (next fallback))
    (unread : ∀ json, find? key members = some json → decode json = none →
      ∃ setting ∈ settings, setting.Misread (.obj members))
    (present : ∀ json value, find? key members = some json → decode json = some value →
      Layered settings default (.obj members) (next value)) :
    Layered settings default (.obj members)
      ((orDefault members key fallback decode).bind next) := by
  rw [orDefault]
  cases found : find? key members with
  | none => exact absent found
  | some json =>
      change Layered settings default (.obj members) ((decode json).bind next)
      cases read : decode json with
      | none => exact unread json found read
      | some value => exact present json value found read

/-- The step that reads one setting. -/
theorem leaf (key : String) (kind : Kind) (field : ρ → kind.Value)
    {next : kind.Value → Option ρ} (listed : ⟨[key], kind, field⟩ ∈ settings)
    (later : ∀ value, Setting.Asks ⟨[key], kind, field⟩ default (.obj members) value →
      Layered settings default (.obj members) (next value)) :
    Layered settings default (.obj members)
      ((orDefault members key (field default) kind.read?).bind next) := by
  refine bind (fun absent => later _ ?_) (fun json found unread => ⟨_, listed, json, ?_, ?_⟩)
    fun json value found read => later value ?_
  · simp [Setting.Asks, Json.at?, absent]
  · simp [Json.at?, found]
  · -- What is written as a value of the kind could be read.
    intro value written
    have readable : kind.read? json = some value := written ▸ kind.read?_write value
    rw [readable] at unread
    cases unread
  · simpa [Setting.Asks, Json.at?, found] using Kind.write_of_read? read

/-- The step that reads a part, which has settings of its own. -/
theorem part (key : String) (part : ρ → σ) (inner : List (Setting σ))
    {read? : Json → Option σ} {next : σ → Option ρ}
    (listed : ∀ setting ∈ inner, setting.within key part ∈ settings)
    (object : ∀ json, find? key members = some json → ∃ inside, json = .obj inside)
    (layered : ∀ inside, find? key members = some (.obj inside) →
      Layered inner (part default) (.obj inside) (read? (.obj inside)))
    (later : ∀ value, (∀ setting ∈ inner,
        (setting.within key part).Asks default (.obj members) (setting.field value)) →
      Layered settings default (.obj members) (next value)) :
    Layered settings default (.obj members)
      ((orDefault members key (part default) read?).bind next) := by
  refine bind (fun absent => later _ fun setting member => ?_) (fun json found unread => ?_)
    fun json value found read => later value fun setting member => ?_
  · rw [Setting.asks_within, absent]
  · rcases object json found with ⟨inside, rfl⟩
    have laid := layered inside found
    rw [unread] at laid
    rcases laid with ⟨setting, member, value, leads, unwritten⟩
    refine ⟨_, listed setting member, value, ?_, unwritten⟩
    simpa [Setting.within, Json.at?, found] using leads
  · rcases object json found with ⟨inside, rfl⟩
    have laid := layered inside found
    rw [read] at laid
    rw [Setting.asks_within, found]
    exact laid setting member

end

/-- Only the places of the settings matter. -/
theorem of_same {first second : Json} {record : Option ρ}
    (laid : Layered settings default first record)
    (same : ∀ setting ∈ settings, first.at? setting.path = second.at? setting.path) :
    Layered settings default second record := by
  cases record with
  | none =>
      rcases laid with ⟨setting, member, json, leads, unwritten⟩
      exact ⟨setting, member, json, (same setting member).symm.trans leads, unwritten⟩
  | some record =>
      intro setting member
      have asked := laid setting member
      rw [Setting.Asks, same setting member] at asked
      exact asked

/-- A document has one outcome at most, if the settings tell records apart. -/
theorem unique {document : Json} {first second : Option ρ}
    (apart : ∀ first second : ρ,
      (∀ setting ∈ settings, setting.field first = setting.field second) → first = second)
    (firstLaid : Layered settings default document first)
    (secondLaid : Layered settings default document second) : first = second := by
  cases first with
  | none =>
      cases second with
      | none => rfl
      | some second =>
          rcases firstLaid with ⟨setting, member, misread⟩
          exact absurd misread (secondLaid setting member).not_misread
  | some first =>
      cases second with
      | none =>
          rcases secondLaid with ⟨setting, member, misread⟩
          exact absurd misread (firstLaid setting member).not_misread
      | some second =>
          refine congrArg some (apart first second fun setting member => ?_)
          exact (firstLaid setting member).unique (secondLaid setting member)

end Layered

end

/-! ## The settings of each record -/

namespace Sidecar

def settings : List (Setting Sidecar) :=
  [⟨["image"], .text, image⟩,
    ⟨["cpuRequests"], .optionalText, cpuRequests⟩,
    ⟨["memoryRequests"], .optionalText, memoryRequests⟩,
    ⟨["cpuLimits"], .optionalText, cpuLimits⟩,
    ⟨["memoryLimits"], .optionalText, memoryLimits⟩]

theorem layered (members : List (String × Json)) :
    Layered settings {} (.obj members) (read? (Json.obj members)) := by
  refine .leaf "image" .text image (by simp [settings]) fun _ imageAsked => ?_
  refine .leaf "cpuRequests" .optionalText cpuRequests
    (by simp [settings]) fun _ cpuRequestsAsked => ?_
  refine .leaf "memoryRequests" .optionalText memoryRequests
    (by simp [settings]) fun _ memoryRequestsAsked => ?_
  refine .leaf "cpuLimits" .optionalText cpuLimits (by simp [settings]) fun _ cpuLimitsAsked => ?_
  refine .leaf "memoryLimits" .optionalText memoryLimits
    (by simp [settings]) fun _ memoryLimitsAsked => ?_
  -- The record holds the values that were read, in the order of the settings.
  rw [settings]
  simp only [Layered, pure, List.forall_mem_cons]
  exact ⟨imageAsked, cpuRequestsAsked, memoryRequestsAsked, cpuLimitsAsked, memoryLimitsAsked,
    List.forall_mem_nil _⟩

theorem eq_of_settings {first second : Sidecar}
    (same : ∀ setting ∈ settings, setting.field first = setting.field second) :
    first = second := by
  cases first
  cases second
  simpa [settings] using same

theorem written (sidecar : Sidecar) :
    ∀ setting ∈ settings, setting.Written sidecar sidecar.toJson := by
  simp [settings, Setting.Written, toJson, Json.at?, find?, Kind.write]

end Sidecar

namespace Envoy

def settings : List (Setting Envoy) :=
  [⟨["preview"], .flag, preview⟩,
    ⟨["logLevel"], .text, logLevel⟩,
    ⟨["adminAccessPort"], .uint16, adminAccessPort⟩,
    ⟨["adminAccessLogFile"], .optionalText, adminAccessLogFile⟩,
    ⟨["adminAccessEnableIpv6"], .flag, adminAccessEnableIpv6⟩,
    ⟨["preStopDelay"], .uint32, preStopDelay⟩,
    ⟨["readinessProbeInitialDelay"], .int32, readinessProbeInitialDelay⟩,
    ⟨["readinessProbePeriod"], .int32, readinessProbePeriod⟩,
    ⟨["dualStackEndpoint"], .flag, dualStackEndpoint⟩,
    ⟨["fipsEndpoint"], .flag, fipsEndpoint⟩,
    ⟨["enableSds"], .flag, enableSds⟩,
    ⟨["sdsUdsPath"], .text, sdsUdsPath⟩]

theorem layered (members : List (String × Json)) :
    Layered settings {} (.obj members) (read? (Json.obj members)) := by
  refine .leaf "preview" .flag preview (by simp [settings]) fun _ previewAsked => ?_
  refine .leaf "logLevel" .text logLevel (by simp [settings]) fun _ logLevelAsked => ?_
  refine .leaf "adminAccessPort" .uint16 adminAccessPort
    (by simp [settings]) fun _ adminAccessPortAsked => ?_
  refine .leaf "adminAccessLogFile" .optionalText adminAccessLogFile
    (by simp [settings]) fun _ adminAccessLogFileAsked => ?_
  refine .leaf "adminAccessEnableIpv6" .flag adminAccessEnableIpv6
    (by simp [settings]) fun _ adminAccessEnableIpv6Asked => ?_
  refine .leaf "preStopDelay" .uint32 preStopDelay
    (by simp [settings]) fun _ preStopDelayAsked => ?_
  refine .leaf "readinessProbeInitialDelay" .int32 readinessProbeInitialDelay
    (by simp [settings]) fun _ readinessProbeInitialDelayAsked => ?_
  refine .leaf "readinessProbePeriod" .int32 readinessProbePeriod
    (by simp [settings]) fun _ readinessProbePeriodAsked => ?_
  refine .leaf "dualStackEndpoint" .flag dualStackEndpoint
    (by simp [settings]) fun _ dualStackEndpointAsked => ?_
  refine .leaf "fipsEndpoint" .flag fipsEndpoint (by simp [settings]) fun _ fipsEndpointAsked => ?_
  refine .leaf "enableSds" .flag enableSds (by simp [settings]) fun _ enableSdsAsked => ?_
  refine .leaf "sdsUdsPath" .text sdsUdsPath (by simp [settings]) fun _ sdsUdsPathAsked => ?_
  rw [settings]
  simp only [Layered, pure, List.forall_mem_cons]
  exact ⟨previewAsked, logLevelAsked, adminAccessPortAsked, adminAccessLogFileAsked,
    adminAccessEnableIpv6Asked, preStopDelayAsked, readinessProbeInitialDelayAsked,
    readinessProbePeriodAsked, dualStackEndpointAsked, fipsEndpointAsked, enableSdsAsked,
    sdsUdsPathAsked, List.forall_mem_nil _⟩

theorem eq_of_settings {first second : Envoy}
    (same : ∀ setting ∈ settings, setting.field first = setting.field second) :
    first = second := by
  cases first
  cases second
  simpa [settings] using same

theorem written (envoy : Envoy) :
    ∀ setting ∈ settings, setting.Written envoy envoy.toJson := by
  simp [settings, Setting.Written, toJson, Json.at?, find?, Kind.write]

end Envoy

namespace ProxyInit

def settings : List (Setting ProxyInit) :=
  [⟨["image"], .text, image⟩,
    ⟨["ignoredIps"], .text, ignoredIps⟩,
    ⟨["enableIpv6"], .flag, enableIpv6⟩]

theorem layered (members : List (String × Json)) :
    Layered settings {} (.obj members) (read? (Json.obj members)) := by
  refine .leaf "image" .text image (by simp [settings]) fun _ imageAsked => ?_
  refine .leaf "ignoredIps" .text ignoredIps (by simp [settings]) fun _ ignoredIpsAsked => ?_
  refine .leaf "enableIpv6" .flag enableIpv6 (by simp [settings]) fun _ enableIpv6Asked => ?_
  rw [settings]
  simp only [Layered, pure, List.forall_mem_cons]
  exact ⟨imageAsked, ignoredIpsAsked, enableIpv6Asked, List.forall_mem_nil _⟩

theorem eq_of_settings {first second : ProxyInit}
    (same : ∀ setting ∈ settings, setting.field first = setting.field second) :
    first = second := by
  cases first
  cases second
  simpa [settings] using same

theorem written (proxyInit : ProxyInit) :
    ∀ setting ∈ settings, setting.Written proxyInit proxyInit.toJson := by
  simp [settings, Setting.Written, toJson, Json.at?, find?, Kind.write]

end ProxyInit

namespace Xray

def settings : List (Setting Xray) :=
  [⟨["enabled"], .flag, enabled⟩,
    ⟨["image"], .text, image⟩,
    ⟨["daemonPort"], .uint16, daemonPort⟩,
    ⟨["samplingRate"], .optionalText, samplingRate⟩,
    ⟨["logLevel"], .text, logLevel⟩,
    ⟨["roleArn"], .optionalText, roleArn⟩]

theorem layered (members : List (String × Json)) :
    Layered settings {} (.obj members) (read? (Json.obj members)) := by
  refine .leaf "enabled" .flag enabled (by simp [settings]) fun _ enabledAsked => ?_
  refine .leaf "image" .text image (by simp [settings]) fun _ imageAsked => ?_
  refine .leaf "daemonPort" .uint16 daemonPort (by simp [settings]) fun _ daemonPortAsked => ?_
  refine .leaf "samplingRate" .optionalText samplingRate
    (by simp [settings]) fun _ samplingRateAsked => ?_
  refine .leaf "logLevel" .text logLevel (by simp [settings]) fun _ logLevelAsked => ?_
  refine .leaf "roleArn" .optionalText roleArn (by simp [settings]) fun _ roleArnAsked => ?_
  rw [settings]
  simp only [Layered, pure, List.forall_mem_cons]
  exact ⟨enabledAsked, imageAsked, daemonPortAsked, samplingRateAsked, logLevelAsked, roleArnAsked,
    List.forall_mem_nil _⟩

theorem eq_of_settings {first second : Xray}
    (same : ∀ setting ∈ settings, setting.field first = setting.field second) :
    first = second := by
  cases first
  cases second
  simpa [settings] using same

theorem written (xray : Xray) :
    ∀ setting ∈ settings, setting.Written xray xray.toJson := by
  simp [settings, Setting.Written, toJson, Json.at?, find?, Kind.write]

end Xray

namespace Jaeger

def settings : List (Setting Jaeger) :=
  [⟨["enabled"], .flag, enabled⟩,
    ⟨["address"], .text, address⟩,
    ⟨["port"], .uint16, port⟩]

theorem layered (members : List (String × Json)) :
    Layered settings {} (.obj members) (read? (Json.obj members)) := by
  refine .leaf "enabled" .flag enabled (by simp [settings]) fun _ enabledAsked => ?_
  refine .leaf "address" .text address (by simp [settings]) fun _ addressAsked => ?_
  refine .leaf "port" .uint16 port (by simp [settings]) fun _ portAsked => ?_
  rw [settings]
  simp only [Layered, pure, List.forall_mem_cons]
  exact ⟨enabledAsked, addressAsked, portAsked, List.forall_mem_nil _⟩

theorem eq_of_settings {first second : Jaeger}
    (same : ∀ setting ∈ settings, setting.field first = setting.field second) :
    first = second := by
  cases first
  cases second
  simpa [settings] using same

theorem written (jaeger : Jaeger) :
    ∀ setting ∈ settings, setting.Written jaeger jaeger.toJson := by
  simp [settings, Setting.Written, toJson, Json.at?, find?, Kind.write]

end Jaeger

namespace Datadog

def settings : List (Setting Datadog) :=
  [⟨["enabled"], .flag, enabled⟩,
    ⟨["address"], .text, address⟩,
    ⟨["port"], .uint16, port⟩]

theorem layered (members : List (String × Json)) :
    Layered settings {} (.obj members) (read? (Json.obj members)) := by
  refine .leaf "enabled" .flag enabled (by simp [settings]) fun _ enabledAsked => ?_
  refine .leaf "address" .text address (by simp [settings]) fun _ addressAsked => ?_
  refine .leaf "port" .uint16 port (by simp [settings]) fun _ portAsked => ?_
  rw [settings]
  simp only [Layered, pure, List.forall_mem_cons]
  exact ⟨enabledAsked, addressAsked, portAsked, List.forall_mem_nil _⟩

theorem eq_of_settings {first second : Datadog}
    (same : ∀ setting ∈ settings, setting.field first = setting.field second) :
    first = second := by
  cases first
  cases second
  simpa [settings] using same

theorem written (datadog : Datadog) :
    ∀ setting ∈ settings, setting.Written datadog datadog.toJson := by
  simp [settings, Setting.Written, toJson, Json.at?, find?, Kind.write]

end Datadog

namespace Tracing

def settings : List (Setting Tracing) :=
  Xray.settings.map (.within "xray" xray) ++ Jaeger.settings.map (.within "jaeger" jaeger) ++
    Datadog.settings.map (.within "datadog" datadog)

/-- Where a tracing document has records. -/
def recordPaths : List (List String) :=
  [["xray"], ["jaeger"], ["datadog"]]

theorem layered {members : List (String × Json)}
    (objects : Json.HasObjects recordPaths (.obj members)) :
    Layered settings {} (.obj members) (read? (Json.obj members)) := by
  refine .part "xray" xray Xray.settings
    (fun _ member => by simp [settings, List.mem_map_of_mem member])
    (objects.part (by simp [recordPaths])) (fun inside _ => Xray.layered inside)
    fun _ xrayAsked => ?_
  refine .part "jaeger" jaeger Jaeger.settings
    (fun _ member => by simp [settings, List.mem_map_of_mem member])
    (objects.part (by simp [recordPaths])) (fun inside _ => Jaeger.layered inside)
    fun _ jaegerAsked => ?_
  refine .part "datadog" datadog Datadog.settings
    (fun _ member => by simp [settings, List.mem_map_of_mem member])
    (objects.part (by simp [recordPaths])) (fun inside _ => Datadog.layered inside)
    fun _ datadogAsked => ?_
  rw [settings]
  simp only [Layered, pure, List.forall_mem_append, List.forall_mem_map]
  exact ⟨⟨xrayAsked, jaegerAsked⟩, datadogAsked⟩

theorem eq_of_settings {first second : Tracing}
    (same : ∀ setting ∈ settings, setting.field first = setting.field second) :
    first = second := by
  simp only [settings, List.forall_mem_append, List.forall_mem_map] at same
  rcases same with ⟨⟨sameXray, sameJaeger⟩, sameDatadog⟩
  cases first
  cases second
  rw [mk.injEq]
  exact ⟨Xray.eq_of_settings sameXray, Jaeger.eq_of_settings sameJaeger,
    Datadog.eq_of_settings sameDatadog⟩

theorem written (tracing : Tracing) :
    ∀ setting ∈ settings, setting.Written tracing tracing.toJson := by
  rw [settings, List.forall_mem_append, List.forall_mem_append]
  refine ⟨⟨Setting.written_within ?_ tracing.xray.written,
    Setting.written_within ?_ tracing.jaeger.written⟩,
    Setting.written_within ?_ tracing.datadog.written⟩
  · simp [find?]
  · simp [find?]
  · simp [find?]

end Tracing

namespace Stats

def settings : List (Setting Stats) :=
  [⟨["enableStatsTags"], .flag, enableStatsTags⟩,
    ⟨["enableStatsd"], .flag, enableStatsd⟩,
    ⟨["statsdPort"], .uint16, statsdPort⟩,
    ⟨["statsdAddress"], .text, statsdAddress⟩,
    ⟨["statsdSocketPath"], .optionalText, statsdSocketPath⟩]

theorem layered (members : List (String × Json)) :
    Layered settings {} (.obj members) (read? (Json.obj members)) := by
  refine .leaf "enableStatsTags" .flag enableStatsTags
    (by simp [settings]) fun _ enableStatsTagsAsked => ?_
  refine .leaf "enableStatsd" .flag enableStatsd (by simp [settings]) fun _ enableStatsdAsked => ?_
  refine .leaf "statsdPort" .uint16 statsdPort (by simp [settings]) fun _ statsdPortAsked => ?_
  refine .leaf "statsdAddress" .text statsdAddress
    (by simp [settings]) fun _ statsdAddressAsked => ?_
  refine .leaf "statsdSocketPath" .optionalText statsdSocketPath
    (by simp [settings]) fun _ statsdSocketPathAsked => ?_
  rw [settings]
  simp only [Layered, pure, List.forall_mem_cons]
  exact ⟨enableStatsTagsAsked, enableStatsdAsked, statsdPortAsked, statsdAddressAsked,
    statsdSocketPathAsked, List.forall_mem_nil _⟩

theorem eq_of_settings {first second : Stats}
    (same : ∀ setting ∈ settings, setting.field first = setting.field second) :
    first = second := by
  cases first
  cases second
  simpa [settings] using same

theorem written (stats : Stats) :
    ∀ setting ∈ settings, setting.Written stats stats.toJson := by
  simp [settings, Setting.Written, toJson, Json.at?, find?, Kind.write]

end Stats

/-! ## The settings of a configuration -/

def settings : List (Setting Config) :=
  [⟨["injectDefault"], .flag, injectDefault⟩,
    ⟨["enableIamForServiceAccounts"], .flag, enableIamForServiceAccounts⟩,
    ⟨["enableEcrSecret"], .flag, enableEcrSecret⟩] ++
    Sidecar.settings.map (.within "sidecar" sidecar) ++
    Envoy.settings.map (.within "envoy" envoy) ++
    ProxyInit.settings.map (.within "proxyInit" proxyInit) ++
    Tracing.settings.map (.within "tracing" tracing) ++
    Stats.settings.map (.within "stats" stats)

/-- Where a configuration document has records. -/
def recordPaths : List (List String) :=
  [["sidecar"], ["envoy"], ["proxyInit"], ["tracing"], ["stats"]] ++
    Tracing.recordPaths.map ("tracing" :: ·)

theorem layered {members : List (String × Json)}
    (objects : Json.HasObjects recordPaths (.obj members)) :
    Layered settings {} (.obj members) (read? (Json.obj members)) := by
  refine .leaf "injectDefault" .flag injectDefault (by simp [settings]) fun _ injectAsked => ?_
  refine .leaf "enableIamForServiceAccounts" .flag enableIamForServiceAccounts
    (by simp [settings]) fun _ iamAsked => ?_
  refine .leaf "enableEcrSecret" .flag enableEcrSecret (by simp [settings]) fun _ ecrAsked => ?_
  refine .part "sidecar" sidecar Sidecar.settings
    (fun _ member => by simp [settings, List.mem_map_of_mem member])
    (objects.part (by simp [recordPaths])) (fun inside _ => Sidecar.layered inside)
    fun _ sidecarAsked => ?_
  refine .part "envoy" envoy Envoy.settings
    (fun _ member => by simp [settings, List.mem_map_of_mem member])
    (objects.part (by simp [recordPaths])) (fun inside _ => Envoy.layered inside)
    fun _ envoyAsked => ?_
  refine .part "proxyInit" proxyInit ProxyInit.settings
    (fun _ member => by simp [settings, List.mem_map_of_mem member])
    (objects.part (by simp [recordPaths])) (fun inside _ => ProxyInit.layered inside)
    fun _ proxyInitAsked => ?_
  refine .part "tracing" tracing Tracing.settings
    (fun _ member => by simp [settings, List.mem_map_of_mem member])
    (objects.part (by simp [recordPaths])) (fun inside found => Tracing.layered
      (objects.within found fun _ member => List.mem_append_right _ (List.mem_map_of_mem member)))
    fun _ tracingAsked => ?_
  refine .part "stats" stats Stats.settings
    (fun _ member => by simp [settings, List.mem_map_of_mem member])
    (objects.part (by simp [recordPaths])) (fun inside _ => Stats.layered inside)
    fun _ statsAsked => ?_
  rw [settings]
  simp only [Layered, pure, List.forall_mem_append, List.forall_mem_cons, List.forall_mem_map]
  exact ⟨⟨⟨⟨⟨⟨injectAsked, iamAsked, ecrAsked, List.forall_mem_nil _⟩, sidecarAsked⟩, envoyAsked⟩,
    proxyInitAsked⟩, tracingAsked⟩, statsAsked⟩

theorem eq_of_settings {first second : Config}
    (same : ∀ setting ∈ settings, setting.field first = setting.field second) :
    first = second := by
  simp only [settings, List.forall_mem_append, List.forall_mem_cons, List.forall_mem_map] at same
  rcases same with ⟨⟨⟨⟨⟨⟨sameInject, sameIam, sameEcr, _⟩, sameSidecar⟩, sameEnvoy⟩,
    sameProxyInit⟩, sameTracing⟩, sameStats⟩
  cases first
  cases second
  rw [mk.injEq]
  exact ⟨sameInject, sameIam, sameEcr, Sidecar.eq_of_settings sameSidecar,
    Envoy.eq_of_settings sameEnvoy, ProxyInit.eq_of_settings sameProxyInit,
    Tracing.eq_of_settings sameTracing, Stats.eq_of_settings sameStats⟩

theorem written (config : Config) :
    ∀ setting ∈ settings, setting.Written config config.toJson := by
  simp only [settings, List.forall_mem_append]
  refine ⟨⟨⟨⟨⟨?_, Setting.written_within ?_ config.sidecar.written⟩,
    Setting.written_within ?_ config.envoy.written⟩,
    Setting.written_within ?_ config.proxyInit.written⟩,
    Setting.written_within ?_ config.tracing.written⟩,
    Setting.written_within ?_ config.stats.written⟩
  · simp [Setting.Written, toJson, Json.at?, find?, Kind.write]
  all_goals simp [find?]

/-- What is written has records where they are looked for. -/
theorem hasObjects_toJson (config : Config) : config.toJson.HasObjects recordPaths := by
  simp [Json.HasObjects, recordPaths, Tracing.recordPaths, toJson, Json.at?, find?,
    Sidecar.toJson, Envoy.toJson, ProxyInit.toJson, Tracing.toJson, Xray.toJson, Jaeger.toJson,
    Datadog.toJson, Stats.toJson]

/-! ## Reading and writing -/

/-- Documents that agree on the settings are read alike, whatever else they have. -/
theorem read?_eq_of_same {first second : List (String × Json)}
    (firstObjects : Json.HasObjects recordPaths (.obj first))
    (secondObjects : Json.HasObjects recordPaths (.obj second))
    (same : ∀ setting ∈ settings,
      (Json.obj first).at? setting.path = (Json.obj second).at? setting.path) :
    read? (Json.obj first) = read? (Json.obj second) :=
  ((layered firstObjects).of_same same).unique (fun _ _ => eq_of_settings) (layered secondObjects)

theorem read?_toJson (config : Config) : read? config.toJson = some config := by
  have read := layered (hasObjects_toJson config)
  have held : Layered settings {} config.toJson (some config) := fun setting member =>
    (config.written setting member).asks
  exact read.unique (fun _ _ => eq_of_settings) held

/-- An object that has objects where records are looked for is either misread in
some setting, and then it is not read, or it is read as the one configuration that
holds in each setting what the object has there, and the default where it has
nothing.  What it has elsewhere does not matter, and what was written is read back. -/
theorem layered_and_lossless :
    (∀ members, Json.HasObjects recordPaths (.obj members) →
      (read? (Json.obj members) = none ∧
        ∃ setting ∈ settings, setting.Misread (.obj members)) ∨
      ∃ config, read? (Json.obj members) = some config ∧
        (∀ setting ∈ settings, setting.Asks {} (.obj members) (setting.field config)) ∧
        ∀ other, (∀ setting ∈ settings, setting.Asks {} (.obj members) (setting.field other)) →
          other = config) ∧
    (∀ first second, Json.HasObjects recordPaths (.obj first) →
      Json.HasObjects recordPaths (.obj second) →
      (∀ setting ∈ settings,
        (Json.obj first).at? setting.path = (Json.obj second).at? setting.path) →
      read? (Json.obj first) = read? (Json.obj second)) ∧
    ∀ config : Config, read? config.toJson = some config := by
  refine ⟨fun members objects => ?_, fun _ _ => read?_eq_of_same, read?_toJson⟩
  have laid := layered objects
  cases read : read? (Json.obj members) with
  | none =>
      rw [read] at laid
      exact .inl ⟨rfl, laid⟩
  | some config =>
      rw [read] at laid
      refine .inr ⟨config, rfl, laid, fun other asked => ?_⟩
      exact eq_of_settings fun setting member =>
        (asked setting member).unique (laid setting member)

/-- A part of one tracer, and a default that null unsets. -/
def partialMembers : List (String × Json) :=
  [("sidecar", .obj [("cpuRequests", .null)]),
    ("tracing", .obj [("datadog", .obj [("enabled", .bool true), ("port", .int 8127)])])]

/-- What the defaults become under `partialMembers`. -/
def partialConfig : Config where
  sidecar := { cpuRequests := none }
  tracing := { datadog := { enabled := true, port := 8127 } }

theorem layered_and_lossless_of_partial :
    Json.HasObjects recordPaths (.obj partialMembers) ∧
    read? (Json.obj partialMembers) = some partialConfig ∧
    (∀ setting ∈ settings, setting.Asks {} (.obj partialMembers) (setting.field partialConfig)) ∧
    read? (Json.obj (("colour", .str "blue") :: partialMembers)) =
      read? (Json.obj partialMembers) ∧
    read? partialConfig.toJson = some partialConfig := by
  have objects : Json.HasObjects recordPaths (.obj partialMembers) := by
    simp [Json.HasObjects, recordPaths, Tracing.recordPaths, partialMembers, Json.at?, find?]
  have coloured :
      Json.HasObjects recordPaths (.obj (("colour", .str "blue") :: partialMembers)) := by
    simp [Json.HasObjects, recordPaths, Tracing.recordPaths, partialMembers, Json.at?, find?]
  have same : ∀ setting ∈ settings,
      (Json.obj (("colour", .str "blue") :: partialMembers)).at? setting.path =
        (Json.obj partialMembers).at? setting.path := by
    simp [settings, Sidecar.settings, Envoy.settings, ProxyInit.settings, Tracing.settings,
      Xray.settings, Jaeger.settings, Datadog.settings, Stats.settings, Setting.within,
      partialMembers, Json.at?, find?]
  have read : read? (Json.obj partialMembers) = some partialConfig := by rfl
  rcases layered_and_lossless with ⟨layered, unmoved, lossless⟩
  refine ⟨objects, read, ?_, unmoved _ _ coloured objects same, lossless partialConfig⟩
  rcases layered partialMembers objects with ⟨unread, _⟩ | ⟨config, found, asked, _⟩
  · rw [read] at unread
    cases unread
  · rw [read] at found
    rw [Option.some.inj found]
    exact asked

end Config

end MeshSidecar
