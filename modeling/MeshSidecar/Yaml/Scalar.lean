import MeshSidecar.Text.Decimal
import MeshSidecar.Yaml.Cursor

namespace MeshSidecar.Yaml

/-!
# Scalars

A scalar is written plainly, in quotes, or as an indented block.  Inside plain
and quoted scalars a single line break is folded to a space and of several line
breaks the first is dropped; the blanks next to a line break do not count.  A
block keeps its line breaks, or folds those between lines that are not indented
further.
-/

/-- How a scalar is written.  Which of the other ways was chosen never matters. -/
inductive Style where
  | plain
  | literal
  | other
  deriving DecidableEq

/-- What separates two words of a scalar: blanks on a line, or line breaks, of
which the first is absent when it was escaped.  Latest character first. -/
inductive Gap where
  | spaces (cs : List Char)
  | breaks (first : Option Char) (more : List Char)

namespace Gap

/-- No gap at all. -/
def empty : Gap :=
  .spaces []

def isEmpty : Gap → Bool
  | spaces cs => cs.isEmpty
  | breaks .. => false

def hasBreak : Gap → Bool
  | spaces _ => false
  | breaks .. => true

/-- A blank in the gap; it counts only before a line break. -/
def addSpace (c : Char) : Gap → Gap
  | spaces cs => spaces (c :: cs)
  | breaks first more => breaks first more

/-- A line break in the gap. -/
def addBreak (c : Char) : Gap → Gap
  | spaces _ => breaks (some c) []
  | breaks first more => breaks first (c :: more)

/-- What the gap adds to the text, latest character first. -/
def folded : Gap → List Char
  | spaces cs => cs
  | breaks none more => more
  | breaks (some '\n') [] => [' ']
  | breaks (some '\n') more => more
  | breaks (some c) more => more ++ [c]

end Gap

/-! ## Plain scalars -/

/-- The text of a plain scalar, whether line breaks follow it, and the place
behind them.  `done` holds its last character first.  In flow style the signs of
collections end it; else a line that is not indented to `indent` does. -/
def scanPlain (flow : Bool) (indent line column : Nat) (done : List Char) (gap : Gap) :
    List Char → Option (List Char × Bool × Cursor)
  | [] => some (done.reverse, gap.hasBreak, ⟨line, column, []⟩)
  | c :: rest =>
    let ended := some (done.reverse, gap.hasBreak, ⟨line, column, c :: rest⟩)
    if isSpace c then
      if gap.hasBreak && c == '\t' && column < indent then none
      else scanPlain flow indent line (column + 1) done (gap.addSpace c) rest
    else if isBreak c then scanPlain flow indent (line + 1) 0 done (gap.addBreak c) rest
    else if gap.hasBreak && !flow && column < indent then ended
    else if !gap.isEmpty && (c == '#' || (column == 0 && isMarker (c :: rest))) then ended
    else if flow && c == ':' && startsWithAny ",?[]\x7b\x7d" rest then none
    else if (c == ':' && wordEnds rest) || (flow && startsWithAny ",[]\x7b\x7d" [c]) then ended
    else scanPlain flow indent line (column + 1) (c :: (gap.folded ++ done)) .empty rest

/-! ## Quoted scalars -/

/-- The character that a backslash and `c` stand for. -/
def shortEscape? (c : Char) : Option Char :=
  [('0', '\x00'), ('a', '\x07'), ('b', '\x08'), ('t', '\t'), ('\t', '\t'), ('n', '\n'),
    ('v', '\x0b'), ('f', '\x0c'), ('r', '\r'), ('e', '\x1b'), (' ', ' '), ('"', '"'), ('/', '/'),
    ('\\', '\\'), ('N', '\x85'), ('_', '\xa0'), ('L', '\u2028'), ('P', '\u2029')].lookup c

/-- How many hexadecimal digits follow a backslash and `c`. -/
def escapeLength? (c : Char) : Option Nat :=
  [('x', 2), ('u', 4), ('U', 8)].lookup c

/-- The character with a given code; surrogates are none. -/
def charOfCode? (code : Nat) : Option Char :=
  if code < 0xD800 ∨ (0xDFFF < code ∧ code < 0x110000) then some (Char.ofNat code) else none

/-- The character that an escape stands for, and what follows the escape; `rest`
is what follows the backslash. -/
def readEscape? : List Char → Option (Char × List Char)
  | [] => none
  | c :: rest =>
    match shortEscape? c with
    | some plain => some (plain, rest)
    | none => do
      let length ← escapeLength? c
      guard (length ≤ rest.length)
      let code ← Text.valueInBase? 16 (rest.take length)
      return (← charOfCode? code, rest.drop length)

/-- The text of a scalar in quotes and the place behind it; the cursor is behind
the opening quote.  Each round uses up a character. -/
def scanQuoted (quote : Char) : Nat → List Char → Gap → Cursor → Option (List Char × Cursor)
  | 0, _, _, _ => none
  | fuel + 1, done, gap, cursor =>
    match cursor.rest with
    | [] => none
    | c :: rest =>
      if isSpace c then scanQuoted quote fuel done (gap.addSpace c) (cursor.skip 1)
      else if isBreak c then scanQuoted quote fuel done (gap.addBreak c) cursor.skipBreak
      else if cursor.column = 0 ∧ isMarker cursor.rest then none
      else
        let done := gap.folded ++ done
        if c = quote then
          if quote = '\'' ∧ rest.head? = some '\'' then
            scanQuoted quote fuel ('\'' :: done) .empty (cursor.skip 2)
          else some (done.reverse, cursor.skip 1)
        else if c = '\\' ∧ quote = '"' then
          if rest.head?.any isBreak then
            scanQuoted quote fuel done (.breaks none []) (cursor.skip 1).skipBreak
          else do
            let (plain, after) ← readEscape? rest
            scanQuoted quote fuel (plain :: done) .empty
              (cursor.skip (cursor.rest.length - after.length))
        else scanQuoted quote fuel (c :: done) .empty (cursor.skip 1)

/-! ## Blocks -/

/-- What becomes of the line breaks at the end of a block. -/
inductive Chomping where
  | strip
  | clip
  | keep
  deriving DecidableEq

/-- The header of a block: the chomping and the indentation, both optional and in
either order. -/
structure BlockHeader where
  chomping : Chomping
  indent : Option Nat

/-- The chomping that a sign asks for. -/
def Chomping.ofSign? (c : Char) : Option Chomping :=
  if c = '+' then some .keep else if c = '-' then some .strip else none

/-- The indentation that a digit asks for, which is not zero. -/
def blockIndent? (c : Char) : Option Nat :=
  if '1' ≤ c ∧ c ≤ '9' then some (c.toNat - '0'.toNat) else none

/-- The header of a block and the place behind its line. -/
def scanHeader? (cursor : Cursor) : Option (BlockHeader × Cursor) :=
  let sign := fun cs : List Char => cs.head?.bind Chomping.ofSign?
  let digit := fun cs : List Char => cs.head?.bind blockIndent?
  let (header, length) : BlockHeader × Nat :=
    match sign cursor.rest, digit cursor.rest with
    | some chomping, _ =>
      match digit (cursor.rest.drop 1) with
      | some indent => (⟨chomping, some indent⟩, 2)
      | none => (⟨chomping, none⟩, 1)
    | none, some indent =>
      match sign (cursor.rest.drop 1) with
      | some chomping => (⟨chomping, some indent⟩, 2)
      | none => (⟨.clip, some indent⟩, 1)
    | none, none => (⟨.clip, none⟩, 0)
  (cursor.skip length).finishLine?.map fun cursor => (header, cursor)

/-- The empty lines that come next, latest first, the widest column reached in
them, and the place of the first character that belongs to a line.  Without an
indentation, any number of spaces is passed over; with one, that many.  A tab
cannot indent. -/
def scanEmptyLines (indent : Option Nat) (line column widest : Nat) (breaks : List Char) :
    List Char → Option (List Char × Nat × Cursor)
  | [] => some (breaks, max widest column, ⟨line, column, []⟩)
  | c :: rest =>
    let indents := indent.all fun indent => column < indent
    if c == ' ' && indents then scanEmptyLines indent line (column + 1) widest breaks rest
    else if c == '\t' && indents then none
    else if isBreak c then
      scanEmptyLines indent (line + 1) 0 (max widest column) (c :: breaks) rest
    else some (breaks, max widest column, ⟨line, column, c :: rest⟩)

/-- The text of a block that has been read so far, latest character first, and
what separates it from the next line: the break of its last line, whether that
line started with a blank, and the empty lines behind it. -/
structure BlockText where
  done : List Char
  lineBreak : List Char
  wasIndented : Bool
  emptyLines : List Char

/-- Puts the separation before the next line.  In a folded block the break
between two lines that are not indented further becomes a space, or vanishes when
empty lines follow it. -/
def BlockText.separate (folds isIndented : Bool) (text : BlockText) : List Char :=
  if folds && text.lineBreak == ['\n'] && !text.wasIndented && !isIndented then
    if text.emptyLines.isEmpty then ' ' :: text.done else text.emptyLines ++ text.done
  else text.emptyLines ++ text.lineBreak ++ text.done

/-- The text of a block whose lines are indented to `indent`, and the place
behind it.  Each round uses up a line. -/
def scanLines (folds : Bool) (indent : Nat) : Nat → BlockText → Cursor → Option (BlockText × Cursor)
  | 0, _, _ => none
  | fuel + 1, text, cursor =>
    if cursor.column ≠ indent ∨ cursor.rest = [] then some (text, cursor)
    else do
      let isIndented := cursor.rest.head?.any isSpace
      let (line, atBreak) := cursor.restOfLine
      let after := atBreak.skipBreak
      let (emptyLines, _, next) ← scanEmptyLines (some indent) after.line after.column 0 [] after.rest
      scanLines folds indent fuel
        ⟨line.reverse ++ text.separate folds isIndented, atBreak.rest.head?.toList.filter isBreak,
          isIndented, emptyLines⟩ next

/-- The text of a block and the place behind it; the cursor is behind the sign
that starts the block, and `parent` is the indentation of what contains it, plus
one. -/
def scanBlock? (folds : Bool) (parent : Nat) (cursor : Cursor) : Option (List Char × Cursor) := do
  let (header, cursor) ← scanHeader? cursor
  let given := header.indent.map fun increment => parent - 1 + increment
  let (emptyLines, widest, cursor) ← scanEmptyLines given cursor.line cursor.column 0 [] cursor.rest
  let indent := given.getD (max (max widest parent) 1)
  let (text, cursor) ← scanLines folds indent (cursor.rest.length + 1) ⟨[], [], false, emptyLines⟩ cursor
  let tail := match header.chomping with
    | .strip => []
    | .clip => text.lineBreak
    | .keep => text.emptyLines ++ text.lineBreak
  return ((tail ++ text.done).reverse, cursor)

end MeshSidecar.Yaml
