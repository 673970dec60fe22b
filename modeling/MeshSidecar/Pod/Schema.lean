import MeshSidecar.Document

namespace MeshSidecar

/-!
# The shape of Kubernetes objects

A pod manifest has hundreds of fields, of which the injector looks at a dozen.
The others have to pass through unharmed, and a manifest that gives one of them
a value of the wrong type has to be refused.  A schema says which fields a record
has and of what type; reading a document by its schema keeps the known fields,
drops unknown ones and those that are null, and fills in required fields that
are missing with the empty value of their type.
-/

/-- The type of a field.  A record lists its fields by ascending name, each with
whether it is required. -/
inductive Schema where
  | text
  | flag
  | integer (bits : Nat)
  | integerOrText
  | anything
  | list (item : Schema)
  | table (value : Schema)
  | record (fields : List (String × Bool × Schema))

namespace Schema

/-- An optional field. -/
def opt (name : String) (schema : Schema) : String × Bool × Schema :=
  (name, false, schema)

/-- A required field. -/
def req (name : String) (schema : Schema) : String × Bool × Schema :=
  (name, true, schema)

mutual

/-- What stands for a required field that is missing. -/
def emptyValue : Schema → Json
  | .text => .str ""
  | .flag => .bool false
  | .integer _ | .integerOrText => .int 0
  | .anything => .null
  | .list _ => .arr []
  | .table _ => .obj []
  | .record fields => .obj (emptyFields fields)

/-- The required fields of a record, each with its empty value. -/
def emptyFields : List (String × Bool × Schema) → List (String × Json)
  | [] => []
  | (name, true, schema) :: fields => (name, emptyValue schema) :: emptyFields fields
  | (_, false, _) :: fields => emptyFields fields

end

/-- Adds the empty value of a required field. -/
def ifRequired (name : String) (isRequired : Bool) (schema : Schema) (rest : List (String × Json)) :
    List (String × Json) :=
  if isRequired then (name, emptyValue schema) :: rest else rest

variable {δ : Type} [Document δ]

mutual

/-- Reads a document of the given type. -/
def read? : Schema → δ → Option Json
  | .text, document => (Document.text? document).map .str
  | .flag, document => (Document.flag? document).map .bool
  | .integer bits, document => (Document.signed? bits document).map .int
  | .integerOrText, document =>
    match Document.untyped document with
    | .int n => if Document.fits 32 n then some (.int n) else none
    | .str value => some (.str value)
    | _ => none
  | .anything, document => some (Document.untyped document)
  | .list item, document =>
    (Document.items? document).bind fun items => (items.mapM fun d => read? item d).map .arr
  | .table value, document =>
    (Document.map? (fun d => read? value d) document).map fun table => .obj table.entries
  | .record fields, document =>
    (Document.entries? document).bind fun entries => (readFields fields entries).map .obj

/-- Reads the fields of a record that a schema knows. -/
def readFields : List (String × Bool × Schema) → List (String × δ) → Option (List (String × Json))
  | [], _ => some []
  | (name, isRequired, schema) :: fields, entries =>
    (readFields fields entries).bind fun rest =>
      match Document.find? name entries with
      | some document =>
        if Document.isNull document then some (ifRequired name isRequired schema rest)
        else (read? schema document).map fun value => (name, value) :: rest
      | none => some (ifRequired name isRequired schema rest)

end

end Schema

end MeshSidecar
