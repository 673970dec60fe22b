import MeshSidecar.Text.Blank
import MeshSidecar.Text.Literal

namespace MeshSidecar.SamplingRate

/-!
# Sampling rates

The share of requests that are traced is configured as text and handed on as
text, after a check that it reads as a number between zero and one.  The number
is meant as a binary floating-point number of 64 bits, so the bounds are those of
the decimals that round into the interval: half a unit in the last place above
one, and half the smallest number below zero, both included because a tie goes
to the even neighbour.
-/

/-- Why a text is not a sampling rate. -/
inductive Fault where
  | empty
  | notANumber
  | outOfRange
  deriving DecidableEq

def Fault.message : Fault → String
  | .empty => "cannot parse float from empty string"
  | .notANumber => "invalid float literal"
  | .outOfRange => "out of range"

/-- Whether `mantissa` times ten to the power of `exponent` is at most
`num / den`.  A number whose size alone decides is not computed. -/
def atMost (mantissa : Nat) (exponent : Int) (num den : Nat) : Bool :=
  let length : Int := (Text.digits mantissa).length
  if mantissa = 0 then true
  else if exponent + length > 3 then false
  else if exponent + length < -400 then true
  else match exponent with
    | .ofNat e => mantissa * Nat.pow 10 e * den ≤ num
    | .negSucc e => mantissa * den ≤ num * Nat.pow 10 (e + 1)

/-- Whether a number rounds into the interval from zero to one. -/
def inRange : Text.Literal → Bool
  | .finite false mantissa exponent => atMost mantissa exponent ((1 <<< 53) + 1) (1 <<< 53)
  | .finite true mantissa exponent => atMost mantissa exponent 1 (1 <<< 1075)
  | .infinite | .undefined => false

/-- What is wrong with a text as a sampling rate, if anything.  Blanks around it
do not count. -/
def fault? (rate : String) : Option Fault :=
  let cs := Text.trim rate.toList
  if cs = [] then some .empty
  else match Text.Literal.read? cs with
    | none => some .notANumber
    | some number => if inRange number then none else some .outOfRange

end MeshSidecar.SamplingRate
