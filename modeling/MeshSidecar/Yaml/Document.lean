import MeshSidecar.Document
import MeshSidecar.Text.Literal
import MeshSidecar.Yaml.Node

namespace MeshSidecar.Yaml

/-!
# YAML nodes as documents

A plain scalar has no type of its own: it is a flag or a number for whoever
expects one, and its text for whoever expects text.  A quoted scalar is always
text.  What is left out counts as null, and where a collection is expected as an
empty one.
-/

/-- The words for null. -/
def isNullWord (text : String) : Bool :=
  text == "null" || text == "Null" || text == "NULL" || text == "~"

/-- The flag that a word stands for. -/
def flagOfWord? (text : String) : Option Bool :=
  if text = "true" ∨ text = "True" ∨ text = "TRUE" then some true
  else if text = "false" ∨ text = "False" ∨ text = "FALSE" then some false
  else none

/-! ## Numbers -/

/-- A natural number in one of the bases that a mark announces. -/
def basedNatural? : List Char → Option Nat
  | '0' :: 'x' :: digits => Text.valueInBase? 16 digits
  | '0' :: 'o' :: digits => Text.valueInBase? 8 digits
  | '0' :: 'b' :: digits => Text.valueInBase? 2 digits
  | _ => none

/-- A natural number in decimal, without leading zeros. -/
def decimalNatural? (digits : List Char) : Option Nat :=
  if digits.head? = some '0' ∧ digits ≠ ['0'] then none else Text.valueInBase? 10 digits

/-- A natural number without a sign. -/
def unsignedNatural? (cs : List Char) : Option Nat :=
  (basedNatural? cs).or (decimalNatural? cs)

/-- A natural number, which may have a plus sign. -/
def natural? (text : String) : Option Nat :=
  match text.toList with
  | '+' :: cs => unsignedNatural? cs
  | cs => unsignedNatural? cs

/-- An integer. -/
def integer? (text : String) : Option Int :=
  match text.toList with
  | '-' :: cs => (unsignedNatural? cs).map fun n => -(n : Int)
  | _ => (natural? text).map Int.ofNat

/-- A number with a point or an exponent. -/
def decimal? (text : String) : Option Json :=
  match Text.Literal.read? text.toList with
  | some (.finite negative mantissa exponent) => some (.decimal negative mantissa exponent)
  | _ => none

/-! ## Untyped reading -/

/-- What a plain scalar is when nothing in particular is expected.  Digits behind
a leading zero are not a number. -/
def untypedScalar (text : String) : Json :=
  if text = "" ∨ isNullWord text then .null
  else match flagOfWord? text with
    | some flag => .bool flag
    | none =>
      match integer? text with
      | some n => .int n
      | none =>
        if text.toList.all (fun c => c.isDigit || c == '-' || c == '+') then .str text
        else (decimal? text).getD (.str text)

namespace Node

mutual

/-- What a node is when nothing in particular is expected. -/
def untyped : Node → Json
  | .scalar _ .plain text => untypedScalar text
  | .scalar _ _ text => .str text
  | .list _ items => .arr (untypedItems items)
  | .table _ entries => Json.ofMembers (untypedEntries entries)
  | .endless => .null

def untypedItems : List Node → List Json
  | [] => []
  | item :: items => untyped item :: untypedItems items

def untypedEntries : List (Node × Node) → List (String × Json)
  | [] => []
  | (.scalar _ _ key, value) :: entries => (key, untyped value) :: untypedEntries entries
  | _ :: entries => untypedEntries entries

end

/-! ## Questions to a node -/

/-- The text of any scalar. -/
def text? : Node → Option String
  | .scalar _ _ text => some text
  | _ => none

/-- The text of a scalar that may be other than text: one that is plain, or a
literal block whose tag says what it is. -/
def bareText? (tag : String) : Node → Option String
  | .scalar _ .plain text => some text
  | .scalar (some given) .literal text => if given = tag then some text else none
  | _ => none

/-- Whether a node stands for nothing. -/
def isNull : Node → Bool
  | .scalar none .plain text => text == "" || isNullWord text
  | .scalar (some tag) .plain text => tag == "tag:yaml.org,2002:null" && isNullWord text
  | _ => false

/-- Whether nothing is written. -/
def isMissing : Node → Bool
  | .scalar _ .plain text => text == ""
  | _ => false

def items? : Node → Option (List Node)
  | .list _ items => some items
  | node => if node.isMissing then some [] else none

/-- The entries of a table, all of whose keys have to be scalars. -/
def entries? : Node → Option (List (String × Node))
  | .table _ entries => entries.mapM fun (key, value) => key.text?.map fun key => (key, value)
  | node => if node.isMissing then some [] else none

/-- The entries of a record, among which no field of the record may occur
twice. -/
def fields? (names : List String) (node : Node) : Option (List (String × Node)) :=
  node.entries?.bind fun entries =>
    if names.all fun name => entries.countP (fun entry => entry.1 == name) ≤ 1 then some entries
    else none

/-- The name that a local tag gives. -/
def localTag? (tag : Option String) : Option String :=
  tag.bind fun tag =>
    match tag.toList with
    | '!' :: name => some (String.ofList name)
    | _ => none

/-- An alternative is named by a local tag, or by a scalar when it carries
nothing. -/
def alternative? : Node → Option (String × Option Node)
  | .scalar tag style text =>
    match localTag? tag with
    | some name => some (name, some (.scalar none style text))
    | none => some (text, none)
  | .list tag items => (localTag? tag).map fun name => (name, some (.list none items))
  | .table tag entries => (localTag? tag).map fun name => (name, some (.table none entries))
  | .endless => none

instance : Document Node where
  isNull := isNull
  text? := text?
  flag? node := (node.bareText? "tag:yaml.org,2002:bool").bind flagOfWord?
  natural? node := (node.bareText? "tag:yaml.org,2002:int").bind natural?
  integer? node := (node.bareText? "tag:yaml.org,2002:int").bind integer?
  items? := items?
  entries? := entries?
  fields? := fields?
  alternative? := alternative?
  untyped := untyped

end Node

/-- What the only document of a text means to a decoder. -/
def decode? {α : Type} (read? : Node → Option α) (text : String) : Option α :=
  (Node.parse? text).bind read?

end MeshSidecar.Yaml
