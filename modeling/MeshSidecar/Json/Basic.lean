import MeshSidecar.SortedMap

namespace MeshSidecar

/-!
# JSON values

Pods, configurations and template variables are exchanged as JSON.  A number is
kept as an integer when it is written as one and as an exact decimal otherwise,
so reading never rounds.  The members of an object that was read are sorted by
key, the last of several members with one key standing.
-/

/-- A JSON value.  `decimal` stands for `mantissa` times ten to the power of
`exponent`, negated when `negative` holds. -/
inductive Json where
  | null
  | bool (value : Bool)
  | int (value : Int)
  | decimal (negative : Bool) (mantissa : Nat) (exponent : Int)
  | str (value : String)
  | arr (items : List Json)
  | obj (members : List (String × Json))
  deriving Inhabited

namespace Json

mutual

/-- Equality of values is decided along their structure. -/
def decEq : (a b : Json) → Decidable (a = b)
  | .null, .null => isTrue rfl
  | .bool a, .bool b => decidable_of_iff (a = b) (by simp)
  | .int a, .int b => decidable_of_iff (a = b) (by simp)
  | .decimal n m e, .decimal n' m' e' => decidable_of_iff (n = n' ∧ m = m' ∧ e = e') (by simp)
  | .str a, .str b => decidable_of_iff (a = b) (by simp)
  | .arr a, .arr b =>
    match decEqItems a b with
    | isTrue h => isTrue (by rw [h])
    | isFalse h => isFalse (by simpa using h)
  | .obj a, .obj b =>
    match decEqMembers a b with
    | isTrue h => isTrue (by rw [h])
    | isFalse h => isFalse (by simpa using h)
  | .null, .bool _ | .null, .int _ | .null, .decimal .. | .null, .str _ | .null, .arr _
  | .null, .obj _ | .bool _, .null | .bool _, .int _ | .bool _, .decimal .. | .bool _, .str _
  | .bool _, .arr _ | .bool _, .obj _ | .int _, .null | .int _, .bool _ | .int _, .decimal ..
  | .int _, .str _ | .int _, .arr _ | .int _, .obj _ | .decimal .., .null | .decimal .., .bool _
  | .decimal .., .int _ | .decimal .., .str _ | .decimal .., .arr _ | .decimal .., .obj _
  | .str _, .null | .str _, .bool _ | .str _, .int _ | .str _, .decimal .. | .str _, .arr _
  | .str _, .obj _ | .arr _, .null | .arr _, .bool _ | .arr _, .int _ | .arr _, .decimal ..
  | .arr _, .str _ | .arr _, .obj _ | .obj _, .null | .obj _, .bool _ | .obj _, .int _
  | .obj _, .decimal .. | .obj _, .str _ | .obj _, .arr _ => isFalse nofun

def decEqItems : (a b : List Json) → Decidable (a = b)
  | [], [] => isTrue rfl
  | a :: as, b :: bs =>
    match decEq a b, decEqItems as bs with
    | isTrue h, isTrue hs => isTrue (by rw [h, hs])
    | isFalse h, _ => isFalse (by simp [h])
    | _, isFalse hs => isFalse (by simp [hs])
  | [], _ :: _ | _ :: _, [] => isFalse nofun

def decEqMembers : (a b : List (String × Json)) → Decidable (a = b)
  | [], [] => isTrue rfl
  | (k, a) :: as, (l, b) :: bs =>
    match decEq a b, decEqMembers as bs with
    | isTrue h, isTrue hs => decidable_of_iff (k = l) (by simp [h, hs])
    | isFalse h, _ => isFalse (by simp [h])
    | _, isFalse hs => isFalse (by simp [hs])
  | [], _ :: _ | _ :: _, [] => isFalse nofun

end

instance : DecidableEq Json := decEq

/-- The member of an object under `key`. -/
def get? (value : Json) (key : String) : Option Json :=
  match value with
  | .obj members => SortedMap.lookup key members
  | _ => none

/-- The object of a list of members, sorted, of which the last with one key stands. -/
def ofMembers (members : List (String × Json)) : Json :=
  .obj (members.foldl (fun done member => SortedMap.insertEntry member.1 member.2 done) [])

/-- A text, or null when there is none. -/
def ofText? : Option String → Json
  | some text => .str text
  | none => .null

/-- An array of texts. -/
def ofTexts (texts : List String) : Json :=
  .arr (texts.map .str)

/-- An object of texts. -/
def ofTextMap (map : SortedMap String) : Json :=
  .obj (map.entries.map fun entry => (entry.1, .str entry.2))

end Json

end MeshSidecar
