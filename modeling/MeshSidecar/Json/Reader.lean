import MeshSidecar.Json.Basic
import MeshSidecar.Text.Decimal

namespace MeshSidecar.Json

/-!
# Reading JSON

The reader is a machine that takes one character at a time.  Its state says what
may come next and holds the arrays and objects that are still open, innermost
first.  Reading a text is therefore a fold over its characters, and reading two
texts one after the other is reading their concatenation: `run_append`.

No character is looked at twice, except that the character after a number or a
word both ends it and stands for itself.
-/

/-- An array or object that is still open, its contents most recent first.
`member` is an object whose next value belongs to `key`. -/
inductive Frame where
  | items (done : List Json)
  | members (done : List (String × Json))
  | member (done : List (String × Json)) (key : String)

/-- Where a string stands between two of its characters: at an ordinary
character, after a backslash, inside the four digits of a code unit, or between
the two halves of a surrogate pair. -/
inductive Escape where
  | plain
  | backslash
  | unit (high : Option Nat) (value : Nat) (digits : Nat)
  | low (high : Nat)
  | lowBackslash (high : Nat)

/-- What may come next. -/
inductive Expecting where
  | value
  | firstItem
  | firstKey
  | key
  | colon (key : String)
  | separator
  | text (isKey : Bool) (done : List Char) (escape : Escape)
  | number (done : List Char)
  | word (done : List Char)
  | ended (value : Json)

/-- The state of the reader. -/
structure Reader where
  expecting : Expecting
  stack : List Frame

namespace Reader

/-- Before the first character. -/
def start : Reader where
  expecting := .value
  stack := []

/-- Hands a complete value to the innermost open array or object. -/
def deliver (value : Json) : List Frame → Option Reader
  | [] => some ⟨.ended value, []⟩
  | .items done :: stack => some ⟨.separator, .items (value :: done) :: stack⟩
  | .member done key :: stack => some ⟨.separator, .members ((key, value) :: done) :: stack⟩
  | .members _ :: _ => none

/-- Closes the innermost array. -/
def closeArray : List Frame → Option Reader
  | .items done :: stack => deliver (.arr done.reverse) stack
  | _ => none

/-- Closes the innermost object. -/
def closeObject : List Frame → Option Reader
  | .members done :: stack => deliver (ofMembers done.reverse) stack
  | _ => none

/-- The blanks between tokens. -/
def isSpace (c : Char) : Bool :=
  c == ' ' || c == '\n' || c == '\t' || c == '\r'

/-- Characters that continue a number. -/
def isNumberChar (c : Char) : Bool :=
  c.isDigit || c == '-' || c == '+' || c == '.' || c == 'e' || c == 'E'

/-- A decimal without trailing zeros in its mantissa, at most `fuel` removed. -/
def normalDecimal (negative : Bool) : Nat → Nat → Int → Json
  | 0, mantissa, exponent => .decimal negative mantissa exponent
  | fuel + 1, mantissa, exponent =>
    if mantissa = 0 then .decimal negative 0 0
    else if mantissa % 10 = 0 then normalDecimal negative fuel (mantissa / 10) (exponent + 1)
    else .decimal negative mantissa exponent

/-- The exponent part of a number: nothing, or `e` with an optional sign and at
least one digit. -/
def readExponent : List Char → Option Int
  | [] => some 0
  | c :: rest =>
    if c = 'e' ∨ c = 'E' then
      match rest with
      | '-' :: ds => if ds ≠ [] ∧ ds.all Char.isDigit then some (-(Text.digitsValue ds : Int)) else none
      | '+' :: ds => if ds ≠ [] ∧ ds.all Char.isDigit then some (Text.digitsValue ds) else none
      | ds => if ds ≠ [] ∧ ds.all Char.isDigit then some (Text.digitsValue ds) else none
    else none

/-- The number written by `cs`: an integer part without a leading zero, then
optionally a fraction and an exponent.  Without either it is an integer. -/
def readNumber (cs : List Char) : Option Json :=
  let (negative, unsigned) := match cs with
    | '-' :: rest => (true, rest)
    | rest => (false, rest)
  let whole := unsigned.takeWhile Char.isDigit
  let rest := unsigned.dropWhile Char.isDigit
  if whole = [] ∨ (whole.head? = some '0' ∧ whole ≠ ['0']) then none
  else match rest with
    | [] =>
      let n := Text.digitsValue whole
      if negative ∧ n = 0 then some (.decimal true 0 0)
      else some (.int (if negative then -(n : Int) else n))
    | '.' :: rest =>
      let fraction := rest.takeWhile Char.isDigit
      if fraction = [] then none
      else (readExponent (rest.dropWhile Char.isDigit)).map fun e =>
        normalDecimal negative (whole.length + fraction.length)
          (Text.digitsValue (whole ++ fraction)) (e - fraction.length)
    | rest => (readExponent rest).map fun e =>
      normalDecimal negative whole.length (Text.digitsValue whole) e

/-- The value that a bare word stands for. -/
def readWord (cs : List Char) : Option Json :=
  if cs = ['t', 'r', 'u', 'e'] then some (.bool true)
  else if cs = ['f', 'a', 'l', 's', 'e'] then some (.bool false)
  else if cs = ['n', 'u', 'l', 'l'] then some .null
  else none

/-- A character at the start of a value. -/
def openValue (c : Char) (stack : List Frame) : Option Reader :=
  if c = '"' then some ⟨.text false [] .plain, stack⟩
  else if c = '{' then some ⟨.firstKey, .members [] :: stack⟩
  else if c = '[' then some ⟨.firstItem, .items [] :: stack⟩
  else if c = '-' ∨ c.isDigit then some ⟨.number [c], stack⟩
  else if c.isLower then some ⟨.word [c], stack⟩
  else none

/-- A character after a complete value. -/
def afterValue (c : Char) (reader : Reader) : Option Reader :=
  match reader.expecting with
  | .ended _ => if isSpace c then some reader else none
  | .separator =>
    if isSpace c then some reader
    else if c = ']' then closeArray reader.stack
    else if c = '}' then closeObject reader.stack
    else if c = ',' then
      match reader.stack with
      | .items _ :: _ => some ⟨.value, reader.stack⟩
      | .members _ :: _ => some ⟨.key, reader.stack⟩
      | _ => none
    else none
  | _ => none

/-- The end of a string: a key waits for its colon, any other is a value. -/
def closeText (isKey : Bool) (done : List Char) (stack : List Frame) : Option Reader :=
  let text := String.ofList done.reverse
  if isKey then some ⟨.colon text, stack⟩ else deliver (.str text) stack

/-- The character that a backslash and `c` stand for. -/
def shortEscape? (c : Char) : Option Char :=
  if c = '"' then some '"'
  else if c = '\\' then some '\\'
  else if c = '/' then some '/'
  else if c = 'n' then some '\n'
  else if c = 'r' then some '\r'
  else if c = 't' then some '\t'
  else if c = 'b' then some '\x08'
  else if c = 'f' then some '\x0c'
  else none

/-- A code unit given by number: a character of its own, the first half of a
pair, or the second half of one. -/
def deliverUnit (isKey : Bool) (done : List Char) (high : Option Nat) (value : Nat)
    (stack : List Frame) : Option Reader :=
  match high with
  | some h =>
    if 0xDC00 ≤ value ∧ value < 0xE000 then
      let c := Char.ofNat (0x10000 + (h - 0xD800) * 0x400 + (value - 0xDC00))
      some ⟨.text isKey (c :: done) .plain, stack⟩
    else none
  | none =>
    if 0xD800 ≤ value ∧ value < 0xDC00 then some ⟨.text isKey done (.low value), stack⟩
    else if 0xDC00 ≤ value ∧ value < 0xE000 then none
    else some ⟨.text isKey (Char.ofNat value :: done) .plain, stack⟩

/-- A character inside a string. -/
def insideText (c : Char) (isKey : Bool) (done : List Char) (escape : Escape)
    (stack : List Frame) : Option Reader :=
  match escape with
  | .plain =>
    if c = '"' then closeText isKey done stack
    else if c = '\\' then some ⟨.text isKey done .backslash, stack⟩
    else if c.toNat < 0x20 then none
    else some ⟨.text isKey (c :: done) .plain, stack⟩
  | .backslash =>
    if c = 'u' then some ⟨.text isKey done (.unit none 0 0), stack⟩
    else (shortEscape? c).map fun plain => ⟨.text isKey (plain :: done) .plain, stack⟩
  | .unit high value digits =>
    match Text.hexValue? c with
    | none => none
    | some d =>
      if digits < 3 then some ⟨.text isKey done (.unit high (16 * value + d) (digits + 1)), stack⟩
      else deliverUnit isKey done high (16 * value + d) stack
  | .low high => if c = '\\' then some ⟨.text isKey done (.lowBackslash high), stack⟩ else none
  | .lowBackslash high =>
    if c = 'u' then some ⟨.text isKey done (.unit (some high) 0 0), stack⟩ else none

/-- What one character does. -/
def step (reader : Reader) (c : Char) : Option Reader :=
  match reader.expecting with
  | .value => if isSpace c then some reader else openValue c reader.stack
  | .firstItem =>
    if isSpace c then some reader
    else if c = ']' then closeArray reader.stack
    else openValue c reader.stack
  | .firstKey =>
    if isSpace c then some reader
    else if c = '}' then closeObject reader.stack
    else if c = '"' then some ⟨.text true [] .plain, reader.stack⟩
    else none
  | .key =>
    if isSpace c then some reader
    else if c = '"' then some ⟨.text true [] .plain, reader.stack⟩
    else none
  | .colon key =>
    if isSpace c then some reader
    else if c = ':' then
      match reader.stack with
      | .members done :: stack => some ⟨.value, .member done key :: stack⟩
      | _ => none
    else none
  | .text isKey done escape => insideText c isKey done escape reader.stack
  | .number done =>
    if isNumberChar c then some ⟨.number (c :: done), reader.stack⟩
    else (readNumber done.reverse).bind fun value =>
      (deliver value reader.stack).bind (afterValue c)
  | .word done =>
    if c.isLower then some ⟨.word (c :: done), reader.stack⟩
    else (readWord done.reverse).bind fun value =>
      (deliver value reader.stack).bind (afterValue c)
  | .separator | .ended _ => afterValue c reader

/-- Reads a text from a state. -/
def run (reader : Reader) (cs : List Char) : Option Reader :=
  cs.foldlM step reader

/-- The value once the text has ended. -/
def result (reader : Reader) : Option Json :=
  match reader.stack, reader.expecting with
  | [], .ended value => some value
  | [], .number done => readNumber done.reverse
  | [], .word done => readWord done.reverse
  | _, _ => none

theorem run_append (reader : Reader) (first second : List Char) :
    reader.run (first ++ second) = (reader.run first).bind fun r => r.run second := by
  simp [run, List.foldlM_append, Option.bind_eq_bind]

end Reader

/-- The value of a text that holds exactly one. -/
def parse? (text : String) : Option Json :=
  (Reader.start.run text.toList).bind Reader.result

end MeshSidecar.Json
