namespace MeshSidecar.Text

/-!
# Whole numbers in decimal

Numbers appear in the output as the shortest decimal text: no sign for a
natural number, no leading zero except in `0` itself.
-/

/-- The character of a digit below ten. -/
def digitChar (d : Nat) : Char :=
  Char.ofNat ('0'.toNat + d)

/-- Puts the digits of `n` in front of `done`, at most `fuel` of them. -/
def digitsOnto : Nat → Nat → List Char → List Char
  | 0, _, done => done
  | fuel + 1, n, done =>
    let done := digitChar (n % 10) :: done
    if n < 10 then done else digitsOnto fuel (n / 10) done

/-- The decimal text of a natural number. -/
def digits (n : Nat) : List Char :=
  digitsOnto (n + 1) n []

/-- The decimal text of an integer. -/
def intDigits : Int → List Char
  | .ofNat n => digits n
  | .negSucc n => '-' :: digits (n + 1)

/-- The decimal text of a natural number, as a string. -/
def ofNat (n : Nat) : String :=
  String.ofList (digits n)

/-- The decimal text of an integer, as a string. -/
def ofInt (n : Int) : String :=
  String.ofList (intDigits n)

/-- The number that a run of ASCII digits stands for. -/
def digitsValue (cs : List Char) : Nat :=
  cs.foldl (fun n c => 10 * n + (c.toNat - '0'.toNat)) 0

/-- The value of a hexadecimal digit, in either case. -/
def hexValue? (c : Char) : Option Nat :=
  if '0' ≤ c ∧ c ≤ '9' then some (c.toNat - '0'.toNat)
  else if 'a' ≤ c ∧ c ≤ 'f' then some (c.toNat - 'a'.toNat + 10)
  else if 'A' ≤ c ∧ c ≤ 'F' then some (c.toNat - 'A'.toNat + 10)
  else none

/-- The number that a run of digits below `base` stands for; `none` for an empty
run and for any other character. -/
def valueInBase? (base : Nat) (cs : List Char) : Option Nat :=
  if cs.isEmpty then none
  else cs.foldlM (fun n c =>
    match hexValue? c with
    | some d => if d < base then some (base * n + d) else none
    | none => none) 0

/-- The lower-case hexadecimal character of a number below sixteen. -/
def hexChar (d : Nat) : Char :=
  if d < 10 then Char.ofNat ('0'.toNat + d) else Char.ofNat ('a'.toNat + (d - 10))

/-- Puts the hexadecimal digits of `n` in front of `done`, at most `fuel` of them. -/
def hexOnto : Nat → Nat → List Char → List Char
  | 0, _, done => done
  | fuel + 1, n, done =>
    let done := hexChar (n % 16) :: done
    if n < 16 then done else hexOnto fuel (n / 16) done

/-- The shortest lower-case hexadecimal text. -/
def hex (n : Nat) : List Char :=
  hexOnto (n + 1) n []

end MeshSidecar.Text
