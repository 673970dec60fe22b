import MeshSidecar.Json.Basic
import MeshSidecar.Text.Decimal

namespace MeshSidecar.Json

/-!
# Writing JSON

Values are written without blanks.  What stands for a character inside a string
is a parameter: `escapeChar` escapes only what JSON requires, `embedChar` also
keeps the four characters that markup and shell quoting give a meaning to.
-/

/-- Four hexadecimal digits of a code unit. -/
def fourHex (n : Nat) : List Char :=
  [Text.hexChar (n / 4096 % 16), Text.hexChar (n / 256 % 16), Text.hexChar (n / 16 % 16),
    Text.hexChar (n % 16)]

/-- How a character is written inside a string.  Only the quotation mark, the
backslash and the control characters below the space cannot stand for
themselves. -/
def escapeChar (c : Char) : List Char :=
  if c = '"' then ['\\', '"']
  else if c = '\\' then ['\\', '\\']
  else if c = '\n' then ['\\', 'n']
  else if c = '\r' then ['\\', 'r']
  else if c = '\t' then ['\\', 't']
  else if c = '\x08' then ['\\', 'b']
  else if c = '\x0c' then ['\\', 'f']
  else if c.toNat < 0x20 then ['\\', 'u'] ++ fourHex c.toNat
  else [c]

/-- As `escapeChar`, with `<`, `>`, `&` and the apostrophe given by number, so
that the written value can be embedded in markup or in single quotes. -/
def embedChar (c : Char) : List Char :=
  if c = '<' ∨ c = '>' ∨ c = '&' ∨ c = '\'' then ['\\', 'u'] ++ fourHex c.toNat
  else escapeChar c

/-- A string between quotation marks. -/
def writeText (escape : Char → List Char) (text : String) : List Char :=
  '"' :: text.toList.flatMap escape ++ ['"']

/-- A decimal in positional notation, with at least one digit on each side of
the point. -/
def writeDecimal (negative : Bool) (mantissa : Nat) (exponent : Int) : List Char :=
  let sign := if negative then ['-'] else []
  match exponent with
  | .ofNat e => sign ++ Text.digits (mantissa * Nat.pow 10 e) ++ ['.', '0']
  | .negSucc e =>
    let places := e + 1
    let ds := Text.digits mantissa
    let padded := List.replicate (places + 1 - ds.length) '0' ++ ds
    sign ++ padded.take (padded.length - places) ++ '.' :: padded.drop (padded.length - places)

mutual

/-- The text of a value. -/
def write (escape : Char → List Char) : Json → List Char
  | .null => ['n', 'u', 'l', 'l']
  | .bool true => ['t', 'r', 'u', 'e']
  | .bool false => ['f', 'a', 'l', 's', 'e']
  | .int value => Text.intDigits value
  | .decimal negative mantissa exponent => writeDecimal negative mantissa exponent
  | .str value => writeText escape value
  | .arr items => '[' :: writeItems escape items
  | .obj members => '{' :: writeMembers escape members

/-- The items of an array with the closing bracket. -/
def writeItems (escape : Char → List Char) : List Json → List Char
  | [] => [']']
  | [item] => write escape item ++ [']']
  | item :: next :: items => write escape item ++ ',' :: writeItems escape (next :: items)

/-- The members of an object with the closing brace. -/
def writeMembers (escape : Char → List Char) : List (String × Json) → List Char
  | [] => ['}']
  | [(key, value)] => writeText escape key ++ ':' :: write escape value ++ ['}']
  | (key, value) :: next :: members =>
    writeText escape key ++ ':' :: write escape value ++
      ',' :: writeMembers escape (next :: members)

end

/-- The shortest text of a value. -/
def compact (value : Json) : String :=
  String.ofList (write escapeChar value)

end MeshSidecar.Json
