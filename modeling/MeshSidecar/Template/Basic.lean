import MeshSidecar.Json.Basic

namespace MeshSidecar.Template

/-!
# Templates

A container definition is written as a template: literal text with expressions
to print and parts that depend on a condition.  Templates have no loops, so
rendering one is bounded by its size.

    template = { text | "{{" expr "}}" | "{#" comment "#}" | branch }
    branch   = "{% if" expr "%}" template
               { "{% elif" expr "%}" template }
               [ "{% else %}" template ]
               "{% endif %}"
    expr     = conj { "or" conj }
    conj     = neg { "and" neg }
    neg      = "not" neg | operand { "." name } { "|" name }
    operand  = name | string | number | "(" expr ")"

A `-` inside any delimiter removes the blanks next to it on the outside, line
breaks included; nothing is removed without it.
-/

/-- An expression over the variables of a template. -/
inductive Expr where
  | name (name : String)
  | literal (value : Json)
  | attribute (of : Expr) (name : String)
  | filtered (value : Expr) (filter : String)
  | negation (value : Expr)
  | conjunction (left right : Expr)
  | disjunction (left right : Expr)
  deriving DecidableEq

/-- A part of a template.  A branch renders `yes` or `no`; a chain of
alternatives is nested in `no`. -/
inductive Node where
  | text (cs : List Char)
  | print (value : Expr)
  | branch (condition : Expr) (yes no : List Node)

/-- Why a template that is well formed cannot be rendered. -/
inductive Failure where
  | undefinedValue
  | unknownFilter
  | invalidOperation
  deriving DecidableEq

def Failure.message : Failure → String
  | .undefinedValue => "undefined value"
  | .unknownFilter => "unknown filter"
  | .invalidOperation => "invalid operation"

end MeshSidecar.Template
