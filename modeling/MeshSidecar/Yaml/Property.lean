import MeshSidecar.Text.Decimal
import MeshSidecar.Yaml.Cursor

namespace MeshSidecar.Yaml

/-!
# Names, tags and directives

A node may carry a name for later reference and a tag that says what it is.  A
tag is written out or abbreviated by a handle; directives before a document say
what its handles stand for.
-/

/-- A tag as written: in full, or as a handle and a suffix. -/
inductive TagName where
  | full (tag : String)
  | shorthand (handle suffix : String)

/-- What a directive says: the version of the language, or what a handle stands
for. -/
inductive Directive where
  | version (major minor : Nat)
  | handle (handle stands : String)

/-- The name behind the sign of an anchor or alias. -/
def scanName? (cursor : Cursor) : Option (String × Cursor) :=
  let (name, cursor) := cursor.span isNameChar
  if name = [] ∨ !(wordEnds cursor.rest || startsWithAny "?:,]\x7d%@`" cursor.rest) then none
  else some (String.ofList name, cursor)

/-- The characters of tags, which are those of addresses; brackets and commas
are among them only where nothing else could be meant. -/
def isTagChar (inFull : Bool) (c : Char) : Bool :=
  isNameChar c || ";/?:@&=+$.%!~*'()".toList.contains c || (inFull && ",[]".toList.contains c)

/-- Replaces every escaped ASCII character of a tag by the character. -/
def unescapeTag? : List Char → Option (List Char)
  | [] => some []
  | '%' :: high :: low :: rest => do
    let code ← Text.valueInBase? 16 [high, low]
    let rest ← unescapeTag? rest
    return if code < 128 then Char.ofNat code :: rest else '%' :: high :: low :: rest
  | c :: rest => if c = '%' then none else (unescapeTag? rest).map (c :: ·)

/-- The characters of a tag and the place behind them. -/
def scanTagText? (inFull : Bool) (cursor : Cursor) : Option (List Char × Cursor) :=
  let (text, cursor) := cursor.span (isTagChar inFull)
  (unescapeTag? text).map fun text => (text, cursor)

/-- A tag; the cursor is behind its first sign. -/
def scanTagName? (cursor : Cursor) : Option (TagName × Cursor) := do
  if cursor.rest.head? = some '<' then
    let (text, cursor) ← scanTagText? true (cursor.skip 1)
    guard (text ≠ [] ∧ cursor.rest.head? = some '>')
    return (.full (String.ofList text), cursor.skip 1)
  else
    let (name, behind) := cursor.span isNameChar
    if behind.rest.head? = some '!' then
      let (suffix, cursor) ← scanTagText? false (behind.skip 1)
      guard (suffix ≠ [])
      return (.shorthand (String.ofList ('!' :: name ++ ['!'])) (String.ofList suffix), cursor)
    else
      let (suffix, cursor) ← scanTagText? false cursor
      if suffix = [] then return (.full "!", cursor)
      else return (.shorthand "!" (String.ofList suffix), cursor)

/-- A tag, which ends with its word, or at a comma in flow style; the cursor is
behind its first sign. -/
def scanTag? (flow : Bool) (cursor : Cursor) : Option (TagName × Cursor) := do
  let (tag, cursor) ← scanTagName? cursor
  guard (wordEnds cursor.rest || (flow && cursor.rest.head? = some ','))
  return (tag, cursor)

/-- A decimal number of at most nine digits. -/
def scanNumber? (cursor : Cursor) : Option (Nat × Cursor) :=
  let (run, cursor) := cursor.span Char.isDigit
  if run = [] ∨ run.length > 9 then none else some (Text.digitsValue run, cursor)

/-- A directive and the place behind its line; the cursor is behind its first
sign. -/
def scanDirective? (cursor : Cursor) : Option (Directive × Cursor) := do
  let (name, cursor) := cursor.span isNameChar
  guard (wordEnds cursor.rest)
  let cursor := (cursor.span isSpace).2
  if name = ['Y', 'A', 'M', 'L'] then
    let (major, cursor) ← scanNumber? cursor
    guard (cursor.rest.head? = some '.')
    let (minor, cursor) ← scanNumber? (cursor.skip 1)
    return (.version major minor, ← cursor.finishLine?)
  else if name = ['T', 'A', 'G'] then
    guard (cursor.rest.head? = some '!')
    let (name, behind) := (cursor.skip 1).span isNameChar
    let isNamed := behind.rest.head? = some '!'
    guard (isNamed ∨ name = [])
    let behind := if isNamed then behind.skip 1 else behind
    let handle := '!' :: name ++ if isNamed then ['!'] else []
    guard (behind.rest.head?.any isSpace)
    let (stands, cursor) ← scanTagText? true (behind.span isSpace).2
    guard (stands ≠ [] ∧ wordEnds cursor.rest)
    return (.handle (String.ofList handle) (String.ofList stands), ← cursor.finishLine?)
  else none

end MeshSidecar.Yaml
