import MeshSidecar.Json.Printer
import MeshSidecar.Template.Parser
import MeshSidecar.Text.Quoted

namespace MeshSidecar.Template

/-!
# Rendering templates

A name that is not among the variables, or an attribute that a value does not
have, is undefined.  An undefined value may be passed to `tojson`, which writes it
as null; printing it, testing it, or asking it for an attribute fails.  Only the
alternative of a branch that is taken is rendered, and the right side of `and`
and `or` is evaluated only when the left one does not decide.
-/

/-- Whether a value counts as true: all but false, null, zero, and the empty
text, array and object do. -/
def isTrue : Json → Bool
  | .null => false
  | .bool value => value
  | .int value => value != 0
  | .decimal _ mantissa _ => mantissa != 0
  | .str value => value != ""
  | .arr items => !items.isEmpty
  | .obj members => !members.isEmpty

mutual

/-- The printed form of a value inside an array or object: texts are quoted. -/
def showInside : Json → List Char
  | .null => ['N', 'o', 'n', 'e']
  | .bool true => ['T', 'r', 'u', 'e']
  | .bool false => ['F', 'a', 'l', 's', 'e']
  | .int value => Text.intDigits value
  | .decimal negative mantissa exponent => Json.writeDecimal negative mantissa exponent
  | .str value => (Text.quote value).toList
  | .arr items => '[' :: showItems items
  | .obj members => '{' :: showMembers members

def showItems : List Json → List Char
  | [] => [']']
  | [item] => showInside item ++ [']']
  | item :: next :: items => showInside item ++ [',', ' '] ++ showItems (next :: items)

def showMembers : List (String × Json) → List Char
  | [] => ['}']
  | [(key, value)] => (Text.quote key).toList ++ [':', ' '] ++ showInside value ++ ['}']
  | (key, value) :: next :: members =>
    (Text.quote key).toList ++ [':', ' '] ++ showInside value ++ [',', ' '] ++
      showMembers (next :: members)

end

/-- The printed form of a value: a text as it is, any other as inside an array. -/
def display : Json → List Char
  | .str value => value.toList
  | value => showInside value

/-- Applies a filter to a value, which is none when it is undefined. -/
def applyFilter (filter : String) (value : Option Json) : Except Failure Json :=
  if filter = "tojson" then
    .ok (.str (String.ofList (Json.write Json.embedChar (value.getD .null))))
  else if filter = "string" then
    match value with
    | some value => .ok (.str (String.ofList (display value)))
    | none => .error .undefinedValue
  else if filter = "flag" then
    match value with
    | some (.bool true) => .ok (.str "1")
    | some (.bool false) => .ok (.str "0")
    | _ => .error .invalidOperation
  else .error .unknownFilter

/-- Whether a value that may be undefined counts as true. -/
def truth (value : Option Json) : Except Failure Bool :=
  match value with
  | some value => .ok (isTrue value)
  | none => .error .undefinedValue

/-- The value of an expression, which is none when it is undefined. -/
def Expr.eval (vars : Json) : Expr → Except Failure (Option Json)
  | .name key => .ok (vars.get? key)
  | .literal value => .ok (some value)
  | .attribute of key =>
    match of.eval vars with
    | .ok (some value) => .ok (value.get? key)
    | .ok none => .error .undefinedValue
    | .error failure => .error failure
  | .filtered value filter =>
    match value.eval vars with
    | .ok value => (applyFilter filter value).map some
    | .error failure => .error failure
  | .negation value =>
    match (value.eval vars).bind truth with
    | .ok holds => .ok (some (.bool !holds))
    | .error failure => .error failure
  | .conjunction left right =>
    match left.eval vars with
    | .ok value =>
      match truth value with
      | .ok true => right.eval vars
      | .ok false => .ok value
      | .error failure => .error failure
    | .error failure => .error failure
  | .disjunction left right =>
    match left.eval vars with
    | .ok value =>
      match truth value with
      | .ok true => .ok value
      | .ok false => right.eval vars
      | .error failure => .error failure
    | .error failure => .error failure

/-- The text of an expression. -/
def Expr.render (vars : Json) (value : Expr) : Except Failure (List Char) :=
  match value.eval vars with
  | .ok (some value) => .ok (display value)
  | .ok none => .error .undefinedValue
  | .error failure => .error failure

mutual

/-- The text of one node. -/
def Node.render (vars : Json) : Node → Except Failure (List Char)
  | .text cs => .ok cs
  | .print value => value.render vars
  | .branch condition yes no =>
    match (condition.eval vars).bind truth with
    | .ok true => renderNodes vars yes
    | .ok false => renderNodes vars no
    | .error failure => .error failure

/-- The text of a sequence of nodes; the first that fails decides the failure. -/
def renderNodes (vars : Json) : List Node → Except Failure (List Char)
  | [] => .ok []
  | node :: nodes =>
    match node.render vars with
    | .ok text => (renderNodes vars nodes).map fun rest => text ++ rest
    | .error failure => .error failure

end

end MeshSidecar.Template
