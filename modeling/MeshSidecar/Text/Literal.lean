import MeshSidecar.Text.Decimal

namespace MeshSidecar.Text

/-!
# Numbers as written

A number may be written with a sign, a point, and a power of ten.  It is read
exactly; whether it is then rounded, and how, is for whoever asked.
-/

/-- A number as written: `mantissa` times ten to the power of `exponent`, with a
sign, or one of the words for infinity and for no number. -/
inductive Literal where
  | finite (negative : Bool) (mantissa : Nat) (exponent : Int)
  | infinite
  | undefined

namespace Literal

/-- The exponent part: nothing, or `e` with an optional sign and digits. -/
def exponentPart? : List Char → Option Int
  | [] => some 0
  | c :: rest =>
    if c = 'e' ∨ c = 'E' then
      let (negative, ds) := match rest with
        | '-' :: ds => (true, ds)
        | '+' :: ds => (false, ds)
        | ds => (false, ds)
      if ds ≠ [] ∧ ds.all Char.isDigit then
        some (if negative then -(digitsValue ds : Int) else digitsValue ds)
      else none
    else none

/-- An unsigned decimal: digits with an optional point among them, before or
behind, and an optional exponent. -/
def unsigned? (negative : Bool) (cs : List Char) : Option Literal :=
  let whole := cs.takeWhile Char.isDigit
  let rest := cs.dropWhile Char.isDigit
  let (fraction, rest) := match rest with
    | '.' :: rest => (rest.takeWhile Char.isDigit, rest.dropWhile Char.isDigit)
    | rest => ([], rest)
  if whole = [] ∧ fraction = [] then none
  else (exponentPart? rest).map fun e =>
    .finite negative (digitsValue (whole ++ fraction)) (e - fraction.length)

/-- The number that a text stands for. -/
def read? (cs : List Char) : Option Literal :=
  let (negative, unsigned) := match cs with
    | '-' :: rest => (true, rest)
    | '+' :: rest => (false, rest)
    | rest => (false, rest)
  let word := unsigned.map Char.toLower
  if word = ['i', 'n', 'f'] ∨ word = ['i', 'n', 'f', 'i', 'n', 'i', 't', 'y'] then some .infinite
  else if word = ['n', 'a', 'n'] then some .undefined
  else unsigned? negative unsigned

end Literal

end MeshSidecar.Text
