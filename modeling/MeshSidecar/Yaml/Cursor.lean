namespace MeshSidecar.Yaml

/-!
# Places in a YAML text

Whether a character of a YAML text means anything depends on its column and on
what precedes it on its line.  The text is normalised first: line breaks of the
usual kinds become line feeds, so that a line break is always one character.
The two Unicode separators break lines too, but are kept.
-/

/-- Whether a text may contain a character. -/
def isAllowed (c : Char) : Bool :=
  let n := c.toNat
  n == 0x09 || n == 0x0A || n == 0x0D || (0x20 ≤ n && n ≤ 0x7E) || n == 0x85 ||
    (0xA0 ≤ n && n ≤ 0xFFFD && n != 0xFEFF) || 0x10000 ≤ n

/-- A text with line feeds for all other usual line breaks. -/
def normalBreaks : List Char → List Char
  | [] => []
  | '\r' :: '\n' :: rest => '\n' :: normalBreaks rest
  | c :: rest => (if c = '\r' ∨ c = '\x85' then '\n' else c) :: normalBreaks rest

/-- Whether a character breaks a line of a normalised text. -/
def isBreak (c : Char) : Bool :=
  c == '\n' || c == '\u2028' || c == '\u2029'

/-- Whether a character separates words on a line. -/
def isSpace (c : Char) : Bool :=
  c == ' ' || c == '\t'

/-- Whether a word ends where `rest` follows. -/
def wordEnds (rest : List Char) : Bool :=
  rest.head?.all fun c => isSpace c || isBreak c

/-- Whether the next character is one of `signs`. -/
def startsWithAny (signs : String) (rest : List Char) : Bool :=
  rest.head?.any fun c => signs.toList.contains c

/-- Whether a line with this text starts or ends a document. -/
def isMarker (rest : List Char) : Bool :=
  (rest.take 3 == ['-', '-', '-'] || rest.take 3 == ['.', '.', '.']) && wordEnds (rest.drop 3)

/-- The characters of names. -/
def isNameChar (c : Char) : Bool :=
  c.isAlphanum || c == '_' || c == '-'

/-- A place in a text, with what follows it. -/
structure Cursor where
  line : Nat
  column : Nat
  rest : List Char

namespace Cursor

/-- The start of a text. -/
def start (cs : List Char) : Cursor :=
  ⟨0, 0, cs⟩

/-- The place behind the next `n` characters, none of which breaks the line. -/
def skip (cursor : Cursor) (n : Nat) : Cursor :=
  { cursor with column := cursor.column + n, rest := cursor.rest.drop n }

/-- The place behind the characters for which `p` holds, with those characters;
none of them breaks the line. -/
def span (cursor : Cursor) (p : Char → Bool) : List Char × Cursor :=
  let run := cursor.rest.takeWhile p
  (run, cursor.skip run.length)

/-- The place behind the line break that comes next, if one does. -/
def skipBreak (cursor : Cursor) : Cursor :=
  match cursor.rest with
  | c :: rest => if isBreak c then ⟨cursor.line + 1, 0, rest⟩ else cursor
  | [] => cursor

/-- The place behind the rest of the line, with that rest. -/
def restOfLine (cursor : Cursor) : List Char × Cursor :=
  cursor.span fun c => !isBreak c

/-- The place behind blanks and a comment, which have to fill the line. -/
def finishLine? (cursor : Cursor) : Option Cursor :=
  let cursor := (cursor.span isSpace).2
  let cursor := if cursor.rest.head? = some '#' then cursor.restOfLine.2 else cursor
  if cursor.rest.head?.all isBreak then some cursor.skipBreak else none

end Cursor

end MeshSidecar.Yaml
