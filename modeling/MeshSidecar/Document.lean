import MeshSidecar.Json.Basic

namespace MeshSidecar

/-!
# Documents

Configurations, snapshots and pods arrive in two notations that differ in how
much a scalar says about itself: a JSON scalar has a type, a plain YAML scalar
takes the type that its reader expects.  A decoder therefore only asks a document
questions, and each notation answers them by its own rules.  One decoder then
serves both notations.

Every question is answered by `none` when the document is not of the kind asked
for; decoding has no other outcome than a value or failure.
-/

/-- What a decoder may ask of a document. -/
class Document (δ : Type) where
  /-- Whether the document stands for an absent optional value. -/
  isNull : δ → Bool
  text? : δ → Option String
  flag? : δ → Option Bool
  natural? : δ → Option Nat
  integer? : δ → Option Int
  items? : δ → Option (List δ)
  /-- The entries of an object whose keys are texts. -/
  entries? : δ → Option (List (String × δ))
  /-- The fields of a record with the given field names, in that order of
  declaration. -/
  fields? : List String → δ → Option (List (String × δ))
  /-- The name of an alternative and what it carries. -/
  alternative? : δ → Option (String × Option δ)
  /-- The document as it would be read without any expectation. -/
  untyped : δ → Json

namespace Document

variable {δ α : Type} [Document δ]

/-- The entry that counts when several have one name: the last. -/
def find? (name : String) : List (String × δ) → Option δ
  | [] => none
  | (key, value) :: rest => (find? name rest).or (if key = name then some value else none)

/-- A field that has to be there. -/
def required (fields : List (String × δ)) (name : String) (decode : δ → Option α) : Option α :=
  (find? name fields).bind decode

/-- A field that stands for `default` when it is missing, and may not be null. -/
def orDefault (fields : List (String × δ)) (name : String) (default : α)
    (decode : δ → Option α) : Option α :=
  match find? name fields with
  | none => some default
  | some value => decode value

/-- A field that stands for `default` when it is missing and for nothing when it
is null. -/
def optional (fields : List (String × δ)) (name : String) (default : Option α)
    (decode : δ → Option α) : Option (Option α) :=
  match find? name fields with
  | none => some default
  | some value => if isNull value then some none else (decode value).map some

/-- A field for which missing and null both mean nothing. -/
def nullable (fields : List (String × δ)) (name : String) (decode : δ → Option α) :
    Option (Option α) :=
  optional fields name none decode

/-- A field for which missing and null both mean `default`. -/
def nullableOr (fields : List (String × δ)) (name : String) (default : α)
    (decode : δ → Option α) : Option α :=
  (nullable fields name decode).map fun value => value.getD default

/-- A list, each item decoded alike. -/
def list? (decode : δ → Option α) (document : δ) : Option (List α) :=
  (items? document).bind fun items => items.mapM decode

/-- A map from text, each value decoded alike. -/
def map? (decode : δ → Option α) (document : δ) : Option (SortedMap α) :=
  (entries? document).bind fun entries =>
    (entries.mapM fun entry => (decode entry.2).map (entry.1, ·)).map SortedMap.ofList

/-- A whole number that fits sixteen bits. -/
def uint16? (document : δ) : Option UInt16 :=
  (natural? document).bind fun n =>
    if h : n < UInt16.size then some (UInt16.ofNatLT n h) else none

/-- A whole number that fits thirty-two bits. -/
def uint32? (document : δ) : Option UInt32 :=
  (natural? document).bind fun n =>
    if h : n < UInt32.size then some (UInt32.ofNatLT n h) else none

/-- Whether an integer is one of so many bits, of which one is for the sign. -/
def fits (bits : Nat) (n : Int) : Bool :=
  let half : Nat := 1 <<< (bits - 1)
  n < half ∧ -half ≤ n

/-- An integer of so many bits. -/
def signed? (bits : Nat) (document : δ) : Option Int :=
  (integer? document).bind fun n => if fits bits n then some n else none

/-- An integer that fits thirty-two bits. -/
def int32? (document : δ) : Option Int32 :=
  (signed? 32 document).map Int32.ofInt

end Document

namespace Json

/-- A record may also be given by position: an array of at most as many values
as the record has fields. -/
def recordFields? (names : List String) : Json → Option (List (String × Json))
  | .obj members => some members
  | .arr items => if items.length ≤ names.length then some (names.zip items) else none
  | _ => none

/-- An alternative is an object with its name as the only key, or just its name
when it carries nothing. -/
def alternative? : Json → Option (String × Option Json)
  | .str name => some (name, none)
  | .obj [(name, value)] => some (name, some value)
  | _ => none

instance : Document Json where
  isNull value := value matches .null
  text?
    | .str text => some text
    | _ => none
  flag?
    | .bool flag => some flag
    | _ => none
  natural?
    | .int (.ofNat n) => some n
    | _ => none
  integer?
    | .int n => some n
    | _ => none
  items?
    | .arr items => some items
    | _ => none
  entries?
    | .obj members => some members
    | _ => none
  fields? := recordFields?
  alternative? := alternative?
  untyped value := value

end Json

end MeshSidecar
