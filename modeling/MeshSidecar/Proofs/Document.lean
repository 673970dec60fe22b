import Mathlib.Data.List.Forall2
import MeshSidecar.Proofs.Json.Writing
import MeshSidecar.Proofs.Pod.Reading

namespace MeshSidecar.Document

/-!
# What a document states

What a document states is described field by field, apart from how it is read: a field
stands for what the document has there, or for a fixed value where it has nothing.  A
decoder that reads exactly the documents that state something refuses all others, and
reads back every encoding that states what was encoded.
-/

section

variable {α : Type}

def IsText (json : Json) (text : String) : Prop :=
  json = .str text

def IsPort (json : Json) (port : UInt16) : Prop :=
  json = .int port.toNat

/-- A list states its values item by item. -/
def IsList (States : Json → α → Prop) (json : Json) (values : List α) : Prop :=
  ∃ items, json = .arr items ∧ List.Forall₂ States items values

/-- Null states that there is no value. -/
def IsOptional (States : Json → α → Prop) (json : Json) : Option α → Prop
  | none => json = .null
  | some value => json ≠ .null ∧ States json value

/-- A record says something by its fields, of which it may only have the declared ones when
it gives them by position. -/
def IsRecord (json : Json) (names : List String) (Says : List (String × Json) → Prop) : Prop :=
  ∃ fields, json.recordFields? names = some fields ∧ Says fields

/-- A field states a value, where `absent` stands for a field that is not there. -/
def IsField (fields : List (String × Json)) (name : String) (absent : Option Json)
    (States : Json → α → Prop) (value : α) : Prop :=
  ∃ json, (find? name fields).or absent = some json ∧ States json value

/-- A text that has to be there is missing, or something else stands in its place. -/
def LacksText (fields : List (String × Json)) (name : String) : Prop :=
  ∀ text, find? name fields ≠ some (.str text)

/-- A decoder reads what states a value, and nothing else. -/
def Decides (decode : Json → Option α) (States : Json → α → Prop) : Prop :=
  ∀ json value, decode json = some value ↔ States json value

/-- A record given by name says of its fields what it has to. -/
theorem isRecord_obj {fields : List (String × Json)} {names : List String}
    {Says : List (String × Json) → Prop} (said : Says fields) :
    IsRecord (.obj fields) names Says :=
  ⟨fields, rfl, said⟩

/-- What is said of a record is said of the same fields. -/
theorem IsRecord.both {json : Json} {names : List String}
    {Says Adds : List (String × Json) → Prop} (first : IsRecord json names Says)
    (second : IsRecord json names Adds) : ∃ fields, Says fields ∧ Adds fields := by
  rcases first with ⟨fields, given, said⟩
  rcases second with ⟨same, again, added⟩
  rw [given] at again
  cases again
  exact ⟨fields, said, added⟩

theorem LacksText.not_isField {fields : List (String × Json)} {name text : String}
    (lacks : LacksText fields name) : ¬ IsField fields name none IsText text := by
  rintro ⟨json, there, rfl⟩
  rw [Option.or_none] at there
  exact lacks text there

/-! ## Decoders -/

theorem decides_text : Decides text? IsText := by
  intro json text
  cases json with
  | str other => simp [text?, IsText]
  | _ => simp [text?, IsText]

theorem decides_port : Decides uint16? IsPort := by
  intro json port
  cases json with
  | int number =>
      cases number with
      | ofNat n =>
          simp only [uint16?, natural?, Option.bind_some, IsPort, Json.int.injEq]
          constructor
          · intro read
            split at read
            · rw [← Option.some.inj read, UInt16.toNat_ofNatLT]
              rfl
            · cases read
          · intro same
            have number : n = port.toNat := Int.ofNat.inj same
            subst number
            simp [UInt16.toNat_lt_size]
      | negSucc n => simp [uint16?, natural?, IsPort]
  | _ => simp [uint16?, natural?, IsPort]

namespace Decides

variable {decode : Json → Option α} {States : Json → α → Prop}

theorem eq_none (decides : Decides decode States) {json : Json}
    (silent : ∀ value, ¬ States json value) : decode json = none := by
  cases read : decode json with
  | none => rfl
  | some value => exact absurd ((decides json value).mp read) (silent value)

/-- A record is read by its fields. -/
theorem record {names : List String} {read : List (String × Json) → Option α}
    {Says : List (String × Json) → α → Prop}
    (decides : ∀ fields value, read fields = some value ↔ Says fields value) :
    Decides (fun json => (fields? names json).bind read)
      fun json value => IsRecord json names fun fields => Says fields value := by
  intro json value
  rw [Option.bind_eq_some_iff]
  exact exists_congr fun fields => and_congr_right fun _ => decides fields value

theorem list (decides : Decides decode States) : Decides (list? decode) (IsList States) := by
  intro json values
  cases json with
  | arr items =>
      have parts : list? decode (.arr items) = some values ↔
          List.Forall₂ States items values := by
        change items.mapM decode = some values ↔ _
        rw [mapM_eq_some_iff, ← List.forall₂_eq_eq_eq, List.forall₂_map_left_iff,
          List.forall₂_map_right_iff]
        have same : (fun json value => decode json = some value) = States :=
          funext fun json => funext fun value => propext (decides json value)
        rw [same]
      rw [parts]
      simp [IsList]
  | _ => simp [list?, items?, IsList]

theorem required (decides : Decides decode States) (fields : List (String × Json)) (name : String)
    (value : α) :
    required fields name decode = some value ↔ IsField fields name none States value := by
  rw [Document.required, Option.bind_eq_some_iff, IsField, Option.or_none]
  exact exists_congr fun json => and_congr_right fun _ => decides json value

/-- A field with a default is read as if the default stood there. -/
theorem orDefault (decides : Decides decode States) {absent : Json} {default : α}
    (stands : States absent default) (fields : List (String × Json)) (name : String) (value : α) :
    orDefault fields name default decode = some value ↔
      IsField fields name (some absent) States value := by
  rw [Document.orDefault, IsField]
  cases find? name fields with
  | none =>
      have read := (decides absent default).mpr stands
      simp [← decides absent value, read]
  | some json => simp [decides json value]

/-- A field that may be null is read as if null stood there. -/
theorem nullable (decides : Decides decode States) (fields : List (String × Json)) (name : String)
    (value : Option α) : nullable fields name decode = some value ↔
      IsField fields name (some .null) (IsOptional States) value := by
  rw [Document.nullable, Document.optional, IsField]
  cases find? name fields with
  | none => cases value <;> simp [IsOptional]
  | some json =>
      cases value with
      | none => cases json <;> simp [isNull, IsOptional]
      | some value => cases json <;> simp [isNull, IsOptional, ← decides _ value]

end Decides

/-! ## Encodings

What is written states what was written.  A document is normalised by reading and writing
it once: its fields are kept, filled in or left out.
-/

/-- A field is kept as `Normal` says, where `absent` stands for a field that is not there. -/
def Keeps (given written : List (String × Json)) (name : String) (absent : Option Json)
    (Normal : Json → Json → Prop) : Prop :=
  ∃ json kept, (find? name given).or absent = some json ∧ find? name written = some kept ∧
    Normal json kept

/-- A field is kept as `Normal` says, and left out when it is missing or null. -/
def Omits (given written : List (String × Json)) (name : String) (Normal : Json → Json → Prop) :
    Prop :=
  match find? name given with
  | none | some .null => find? name written = none
  | some json => ∃ kept, find? name written = some kept ∧ Normal json kept

/-- A list is kept item by item. -/
def KeepsItems (Normal : Json → Json → Prop) (given written : Json) : Prop :=
  ∃ items kept, given = .arr items ∧ written = .arr kept ∧ List.Forall₂ Normal items kept

/-- A record is written by name, with fields that it declares and no others. -/
def KeepsRecord (names : List String)
    (Normal : List (String × Json) → List (String × Json) → Prop) (given written : Json) : Prop :=
  ∃ fields kept, given.recordFields? names = some fields ∧ written = .obj kept ∧
    (∀ field ∈ kept, field.1 ∈ names) ∧ Normal fields kept

variable {States : Json → α → Prop} {Normal : Json → Json → Prop} {write : α → Json}
  {given written : List (String × Json)} {name : String}

theorem IsField.of_find? {value : α} {absent : Option Json}
    (states : ∀ value, States (write value) value)
    (found : find? name written = some (write value)) :
    IsField written name absent States value :=
  ⟨write value, by rw [found, Option.some_or], states value⟩

theorem IsField.keeps {value : α} {absent : Option Json}
    (stated : IsField given name absent States value)
    (found : find? name written = some (write value))
    (normal : ∀ json value, States json value → Normal json (write value)) :
    Keeps given written name absent Normal := by
  rcases stated with ⟨json, there, states⟩
  exact ⟨json, write value, there, found, normal json value states⟩

/-- An option that is written only when it is set states itself. -/
theorem IsField.of_option {value : Option α} (states : ∀ value, States (write value) value)
    (filled : ∀ value, write value ≠ .null) (found : find? name written = value.map write) :
    IsField written name (some .null) (IsOptional States) value := by
  cases value with
  | none => exact ⟨.null, by rw [found]; rfl, rfl⟩
  | some value => exact ⟨write value, by rw [found]; rfl, filled value, states value⟩

theorem IsField.omits {value : Option α}
    (stated : IsField given name (some .null) (IsOptional States) value)
    (found : find? name written = value.map write)
    (normal : ∀ json value, States json value → Normal json (write value)) :
    Omits given written name Normal := by
  rcases stated with ⟨json, there, states⟩
  rw [Omits]
  cases value with
  | none =>
      -- The document has null there or nothing, and neither is written.
      have isNull : json = .null := states
      subst isNull
      cases lookup : find? name given with
      | none => exact found
      | some other =>
          rw [lookup, Option.some_or] at there
          rw [Option.some.inj there]
          exact found
  | some value =>
      cases lookup : find? name given with
      | none =>
          rw [lookup, Option.none_or] at there
          exact absurd (Option.some.inj there).symm states.1
      | some other =>
          rw [lookup, Option.some_or] at there
          have same : other = json := Option.some.inj there
          subst same
          have kept : ∃ kept, find? name written = some kept ∧ Normal other kept :=
            ⟨write value, found, normal other value states.2⟩
          cases other with
          | null => exact absurd rfl states.1
          | _ => exact kept

theorem IsField.ofText {text : String} {absent : Option Json}
    (found : find? name written = some (.str text)) : IsField written name absent IsText text :=
  .of_find? (fun _ => rfl) found

theorem IsField.keepsText {text : String} {absent : Option Json}
    (stated : IsField given name absent IsText text)
    (found : find? name written = some (.str text)) : Keeps given written name absent Eq :=
  stated.keeps found fun _ _ isText => isText

/-- An option that is always written states itself. -/
theorem isOptional_ofText? (text : Option String) :
    IsOptional IsText (Json.ofText? text) text := by
  cases text with
  | none => rfl
  | some text => exact ⟨Json.noConfusion, rfl⟩

theorem IsOptional.eq_ofText? (json : Json) (text : Option String)
    (stated : IsOptional IsText json text) : json = Json.ofText? text := by
  cases text with
  | none => exact stated
  | some text => exact stated.2

theorem isList_map (states : ∀ value, States (write value) value) (values : List α) :
    IsList States (.arr (values.map write)) values :=
  ⟨values.map write, rfl,
    List.forall₂_map_left_iff.mpr (List.forall₂_same.mpr fun value _ => states value)⟩

theorem IsList.keeps (normal : ∀ json value, States json value → Normal json (write value))
    (json : Json) (values : List α) (stated : IsList States json values) :
    KeepsItems Normal json (.arr (values.map write)) := by
  rcases stated with ⟨items, rfl, each⟩
  refine ⟨items, values.map write, rfl, rfl, List.forall₂_map_right_iff.mpr ?_⟩
  exact each.imp fun item value states => normal item value states

end

/-! ## Rounds -/

structure Codec (α : Type) where
  read? : Json → Option α
  write : α → Json

namespace Codec

variable {α : Type}

/-- What a document was read as, written again. -/
def round (codec : Codec α) (document : Json) : Option Json :=
  (codec.read? document).map codec.write

/-- So many rounds, each of them starting from what the one before has written. -/
def rounds (codec : Codec α) : Nat → Json → Option Json
  | 0, document => some document
  | n + 1, document => (codec.round document).bind (codec.rounds n)

/-- The values of a codec survive: they are read from what states them and from nothing
else, among it from their own encoding, as a value and as a text; and one round brings a
document into a form that further rounds leave alone. -/
structure Survives (codec : Codec α) (States : Json → α → Prop) (Normal : Json → Json → Prop) :
    Prop where
  exact : Decides codec.read? States
  lossless : ∀ value, codec.read? (codec.write value) = some value
  printed : ∀ value, (Json.parse? (codec.write value).compact).bind codec.read? = some value
  kept : ∀ document written, codec.round document = some written →
    codec.read? written = codec.read? document
  normal : ∀ document written, codec.round document = some written → Normal document written
  settled : ∀ n document, codec.rounds (n + 1) document = codec.round document

variable {codec : Codec α}

theorem rounds_succ (lossless : ∀ value, codec.read? (codec.write value) = some value) (n : Nat)
    (document : Json) : codec.rounds (n + 1) document = codec.round document := by
  induction n generalizing document with
  | zero => cases same : codec.round document <;> simp [rounds, same]
  | succ n ih =>
      rw [rounds]
      cases read : codec.read? document with
      | none => rw [round, read, Option.map_none, Option.bind_none]
      | some value =>
          -- The rounds that follow start from an encoding, which is read as its value.
          have first : codec.round document = some (codec.write value) := by
            rw [round, read, Option.map_some]
          rw [first, Option.bind_some, ih, round, lossless, Option.map_some]

/-- It is enough that an encoding states what was encoded, and is the normal form of all
documents that state the same. -/
theorem survives {States : Json → α → Prop} {Normal : Json → Json → Prop}
    (decides : Decides codec.read? States)
    (writes : ∀ value, ∃ written, codec.write value = .obj written ∧
      (Json.obj written).Regular ∧ States (.obj written) value ∧
      ∀ document, States document value → Normal document (.obj written)) :
    codec.Survives States Normal := by
  have lossless : ∀ value, codec.read? (codec.write value) = some value := by
    intro value
    rcases writes value with ⟨written, same, -, states, -⟩
    rw [same]
    exact (decides _ value).mpr states
  refine ⟨decides, lossless, fun value => ?_, fun document written rewritten => ?_,
    fun document written rewritten => ?_, rounds_succ lossless⟩
  · rcases writes value with ⟨written, same, regular, -⟩
    have printed : Json.parse? (codec.write value).compact = some (codec.write value) := by
      rw [same]
      exact Json.parse?_compact regular
    rw [printed, Option.bind_some, lossless]
  · rcases Option.map_eq_some_iff.mp rewritten with ⟨value, read, rfl⟩
    rw [lossless, read]
  · rcases Option.map_eq_some_iff.mp rewritten with ⟨value, read, rfl⟩
    rcases writes value with ⟨written, same, -, -, normal⟩
    rw [same]
    exact normal document ((decides document value).mp read)

end Codec

end MeshSidecar.Document
