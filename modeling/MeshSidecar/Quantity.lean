import MeshSidecar.Pod.Basic

namespace MeshSidecar

/-!
# Resource quantities

A quantity is a decimal number with a unit, such as `100m`, `32Mi` or `1e3`:

    quantity = [sign] number suffix
    number   = digits [ "." [digits] ] | "." digits
    suffix   = "" | "Ki" | "Mi" | "Gi" | "Ti" | "Pi" | "Ei"
             | "n" | "u" | "m" | "k" | "M" | "G" | "T" | "P" | "E"
             | ("e" | "E") [sign] digits

Quantities are kept as written.  A text is cut after the longest run of digits
and points behind its sign; what is before the cut has to be a number and what
is behind it a suffix.
-/

namespace Quantity

/-- Why a text is not a quantity. -/
inductive Fault where
  | number
  | suffix
  deriving DecidableEq

/-- The fault in the words of the Kubernetes quantity grammar. -/
def Fault.message : Fault → String
  | .number => "quantities must match the regular expression '^([+-]?[0-9.]+)([eEinumkKMGTP]*[-+]?[0-9]*)$'"
  | .suffix => "unable to parse quantity's suffix"

/-- A text without its leading sign. -/
def unsigned : List Char → List Char
  | '+' :: rest => rest
  | '-' :: rest => rest
  | cs => cs

/-- Characters that a number is made of. -/
def isNumberChar (c : Char) : Bool :=
  c.isDigit || c == '.'

/-- Whether a run of digits and points is a number.  It is cut at the first
point: there has to be something before the point or behind it, and no further
point behind it. -/
def isNumber (run : List Char) : Bool :=
  let whole := run.takeWhile (· != '.')
  match run.dropWhile (· != '.') with
  | _ :: fraction => !fraction.contains '.' && (!whole.isEmpty || !fraction.isEmpty)
  | [] => !whole.isEmpty

/-- The suffixes without an exponent. -/
def units : List (List Char) :=
  [[], ['K', 'i'], ['M', 'i'], ['G', 'i'], ['T', 'i'], ['P', 'i'], ['E', 'i'], ['n'], ['u'], ['m'],
    ['k'], ['M'], ['G'], ['T'], ['P'], ['E']]

/-- Whether a text is a decimal exponent. -/
def isExponent : List Char → Bool
  | c :: rest => (c == 'e' || c == 'E') && unsigned rest != [] && (unsigned rest).all Char.isDigit
  | [] => false

/-- Whether a text may follow the number. -/
def isSuffix (cs : List Char) : Bool :=
  units.contains cs || isExponent cs

/-- What is wrong with a text as a quantity, if anything. -/
def fault? (cs : List Char) : Option Fault :=
  let body := unsigned cs
  if !isNumber (body.takeWhile isNumberChar) then some .number
  else if !isSuffix (body.dropWhile isNumberChar) then some .suffix
  else none

end Quantity

/-- A quantity that is not one, with what is wrong with it. -/
structure BadQuantity where
  text : String
  fault : Quantity.Fault
  deriving DecidableEq

namespace Quantity

/-- A text that is a quantity, as written. -/
def parse (text : String) : Except BadQuantity String :=
  match fault? text.toList with
  | some fault => .error ⟨text, fault⟩
  | none => .ok text

/-- Puts a quantity under `resource`, unless it is absent or empty. -/
def place (resource : String) (quantity : Option String) (list : SortedMap String) :
    Except BadQuantity (SortedMap String) :=
  match quantity with
  | none => .ok list
  | some text =>
    if text = "" then .ok list
    else match parse text with
      | .ok quantity => .ok (list.insert resource quantity)
      | .error bad => .error bad

/-- The quantities of processor time and memory, or nothing when both are
absent. -/
def resourceList (cpu memory : Option String) :
    Except BadQuantity (Option (SortedMap String)) := do
  let list ← place "cpu" cpu .empty
  let list ← place "memory" memory list
  return if list.isEmpty then none else some list

end Quantity

namespace Resources

/-- The resources given by up to four quantities; absent and empty ones count as
not given.  The first that is not a quantity decides the error. -/
def ofQuantities (cpuRequest memoryRequest cpuLimit memoryLimit : Option String) :
    Except BadQuantity Resources := do
  let requests ← Quantity.resourceList cpuRequest memoryRequest
  let limits ← Quantity.resourceList cpuLimit memoryLimit
  return { requests, limits, claims := none }

end Resources

end MeshSidecar
