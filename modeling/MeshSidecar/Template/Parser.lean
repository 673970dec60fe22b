import MeshSidecar.Template.Token

namespace MeshSidecar.Template

/-!
# Reading templates

The pieces of a template are read from left to right with the branches that are
still open on a stack, so only expressions need recursion.  Every misplaced or
unclosed tag and every expression that is not one makes the template unreadable.
-/

/-- Attributes behind an operand. -/
def attributes : Expr → List Token → Option (Expr × List Token)
  | value, .sign '.' :: .word name :: rest => attributes (.attribute value name) rest
  | _, .sign '.' :: _ => none
  | value, rest => some (value, rest)

/-- Filters behind an operand and its attributes. -/
def filters : Expr → List Token → Option (Expr × List Token)
  | value, .sign '|' :: .word name :: rest => filters (.filtered value name) rest
  | _, .sign '|' :: _ => none
  | value, rest => some (value, rest)

/-- The constant that a word stands for. -/
def constant? (word : String) : Option Json :=
  if word = "true" ∨ word = "True" then some (.bool true)
  else if word = "false" ∨ word = "False" then some (.bool false)
  else if word = "none" ∨ word = "None" then some .null
  else none

mutual

/-- A name, a constant, or an expression in parentheses. -/
def operand : Nat → List Token → Option (Expr × List Token)
  | 0, _ => none
  | fuel + 1, tokens =>
    match tokens with
    | .word name :: rest => some ((constant? name).elim (.name name) .literal, rest)
    | .string value :: rest => some (.literal (.str value), rest)
    | .number value :: rest => some (.literal (.int value), rest)
    | .sign '(' :: rest =>
      match disjunction fuel rest with
      | some (value, .sign ')' :: rest) => some (value, rest)
      | _ => none
    | _ => none

/-- An operand with attributes and filters, negated or not. -/
def negation : Nat → List Token → Option (Expr × List Token)
  | 0, _ => none
  | fuel + 1, tokens =>
    match tokens with
    | .word "not" :: rest => (negation fuel rest).map fun (value, rest) => (.negation value, rest)
    | _ =>
      (operand fuel tokens).bind fun (value, rest) =>
        (attributes value rest).bind fun (value, rest) => filters value rest

/-- Negations joined by `and`. -/
def conjunction : Nat → List Token → Option (Expr × List Token)
  | 0, _ => none
  | fuel + 1, tokens =>
    (negation fuel tokens).bind fun (left, rest) => conjunctionTail fuel left rest

/-- Further negations joined by `and`, the leftmost binding first. -/
def conjunctionTail : Nat → Expr → List Token → Option (Expr × List Token)
  | 0, _, _ => none
  | fuel + 1, left, tokens =>
    match tokens with
    | .word "and" :: rest =>
      (negation fuel rest).bind fun (right, rest) =>
        conjunctionTail fuel (.conjunction left right) rest
    | _ => some (left, tokens)

/-- Conjunctions joined by `or`. -/
def disjunction : Nat → List Token → Option (Expr × List Token)
  | 0, _ => none
  | fuel + 1, tokens =>
    (conjunction fuel tokens).bind fun (left, rest) => disjunctionTail fuel left rest

/-- Further conjunctions joined by `or`, the leftmost binding first. -/
def disjunctionTail : Nat → Expr → List Token → Option (Expr × List Token)
  | 0, _, _ => none
  | fuel + 1, left, tokens =>
    match tokens with
    | .word "or" :: rest =>
      (conjunction fuel rest).bind fun (right, rest) =>
        disjunctionTail fuel (.disjunction left right) rest
    | _ => some (left, tokens)

end

/-- The expression that a whole piece holds.  A token costs at most one pass
through the five levels of the grammar. -/
def expression? (tokens : List Token) : Option Expr :=
  match disjunction (5 * tokens.length + 5) tokens with
  | some (value, []) => some value
  | _ => none

/-- A branch whose end has not been read.  `before` is what precedes it, `arms`
its finished alternatives, both most recent first; `condition` is that of the
alternative being read, which is none after `else`. -/
structure OpenBranch where
  before : List Node
  arms : List (Expr × List Node)
  condition : Option Expr

/-- What has been read: the nodes of the innermost open branch, most recent
first, and the open branches from the inside out. -/
structure Progress where
  nodes : List Node
  stack : List OpenBranch

/-- Blocks may be nested this deep. -/
def depthLimit : Nat := 150

/-- The alternatives of a branch as nested branches; `arms` is most recent
first. -/
def nest (arms : List (Expr × List Node)) (otherwise : List Node) : List Node :=
  arms.foldl (fun no arm => [.branch arm.1 arm.2 no]) otherwise

/-- What a tag does. -/
def Progress.tag? (progress : Progress) : List Token → Option Progress
  | .word "if" :: tokens => do
    let condition ← expression? tokens
    guard (progress.stack.length < depthLimit)
    return ⟨[], ⟨progress.nodes, [], some condition⟩ :: progress.stack⟩
  | .word "elif" :: tokens =>
    match progress.stack with
    | ⟨before, arms, some condition⟩ :: stack => do
      let next ← expression? tokens
      return ⟨[], ⟨before, (condition, progress.nodes.reverse) :: arms, some next⟩ :: stack⟩
    | _ => none
  | [.word "else"] =>
    match progress.stack with
    | ⟨before, arms, some condition⟩ :: stack =>
      some ⟨[], ⟨before, (condition, progress.nodes.reverse) :: arms, none⟩ :: stack⟩
    | _ => none
  | [.word "endif"] =>
    match progress.stack with
    | ⟨before, arms, some condition⟩ :: stack =>
      some ⟨nest ((condition, progress.nodes.reverse) :: arms) [] ++ before, stack⟩
    | ⟨before, arms, none⟩ :: stack =>
      some ⟨nest arms progress.nodes.reverse ++ before, stack⟩
    | [] => none
  | _ => none

/-- What a piece does. -/
def Progress.piece? (progress : Progress) : Piece → Option Progress
  | .text [] => some progress
  | .text cs => some { progress with nodes := .text cs :: progress.nodes }
  | .print tokens => (expression? tokens).map fun value =>
    { progress with nodes := .print value :: progress.nodes }
  | .tag tokens => progress.tag? tokens

/-- The nodes of a template given as characters. -/
def parseChars? (cs : List Char) : Option (List Node) := do
  let pieces ← pieces? (cs.length + 1) false cs
  let progress ← pieces.foldlM Progress.piece? ⟨[], []⟩
  guard progress.stack.isEmpty
  return progress.nodes.reverse

/-- The nodes of a template. -/
def parse? (text : String) : Option (List Node) :=
  parseChars? text.toList

end MeshSidecar.Template
