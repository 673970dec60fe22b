import MeshSidecar.Yaml.Property
import MeshSidecar.Yaml.Scalar

namespace MeshSidecar.Yaml

/-!
# Tokens of a YAML text

In block style the nesting of collections shows in the indentation only, so
tokens for the start and end of a block are made up where the indentation
changes.  That a scalar is a key is known only when the colon behind it is met;
the token that announces a key is then put in front of what has already been
read.
-/

/-- A token.  `streamEnd` is the last one. -/
inductive Token where
  | directive (directive : Directive)
  | documentStart
  | documentEnd
  | blockList
  | blockTable
  | blockEnd
  | flowList
  | flowListEnd
  | flowTable
  | flowTableEnd
  | item
  | comma
  | key
  | value
  | alias (name : String)
  | anchor (name : String)
  | tag (tag : TagName)
  | scalar (style : Style) (text : String)
  | streamEnd

/-- A token that may turn out to be the start of a key: how many tokens precede
it, and where it stands.  A required one has to be a key, since it stands where
only a key may. -/
structure Candidate where
  position : Nat
  isRequired : Bool
  line : Nat
  column : Nat

/-- A scan in progress.  `tokens` holds the latest first.  `indents` are the
columns of the open block collections, innermost first.  `candidate` belongs to
the innermost flow collection, `outer` to those around it and to the blocks
around all of them. -/
structure Scan where
  cursor : Cursor
  tokens : List Token
  indents : List Nat
  candidate : Option Candidate
  outer : List (Option Candidate)
  mayStartKey : Bool

namespace Scan

def start (cs : List Char) : Scan where
  cursor := .start cs
  tokens := []
  indents := []
  candidate := none
  outer := []
  mayStartKey := true

/-- Whether a flow collection is open, inside of which indentation is free. -/
def inFlow (scan : Scan) : Bool :=
  !scan.outer.isEmpty

/-- The least column of what belongs to the innermost block. -/
def leastColumn (scan : Scan) : Nat :=
  scan.indents.head?.elim 0 (· + 1)

def push (scan : Scan) (token : Token) : Scan :=
  { scan with tokens := token :: scan.tokens }

/-- Adds a token that `n` characters form. -/
def take (scan : Scan) (n : Nat) (token : Token) : Scan :=
  { scan.push token with cursor := scan.cursor.skip n }

/-! ## Blanks -/

/-- Passes over blanks, comments and line breaks.  A new line may start a key in
block style; there a tab is no blank where a key may start, since it could be
taken for indentation. -/
def skipBlanks (inFlow : Bool) (mayStartKey inComment : Bool) (line column : Nat) :
    List Char → Bool × Cursor
  | [] => (mayStartKey, ⟨line, column, []⟩)
  | c :: rest =>
    if isBreak c then skipBlanks inFlow (mayStartKey || !inFlow) false (line + 1) 0 rest
    else if inComment || c == ' ' || (c == '\t' && (inFlow || !mayStartKey)) then
      skipBlanks inFlow mayStartKey inComment line (column + 1) rest
    else if c == '#' then skipBlanks inFlow mayStartKey true line (column + 1) rest
    else (mayStartKey, ⟨line, column, c :: rest⟩)

/-! ## Keys -/

/-- Keeps a candidate while it may still become a key: on its own line, and not
too far to the left. -/
def fresh? (cursor : Cursor) (candidate : Option Candidate) : Option (Option Candidate) :=
  match candidate with
  | none => some none
  | some candidate =>
    if candidate.line < cursor.line ∨ candidate.column + 1024 < cursor.column then
      if candidate.isRequired then none else some none
    else some (some candidate)

/-- Drops candidates that can no longer become keys. -/
def dropStale? (scan : Scan) : Option Scan := do
  let candidate ← fresh? scan.cursor scan.candidate
  let outer ← scan.outer.mapM (fresh? scan.cursor)
  return { scan with candidate, outer }

/-- Drops the candidate, which must not be a required one. -/
def dropCandidate? (scan : Scan) : Option Scan :=
  if scan.candidate.any Candidate.isRequired then none else some { scan with candidate := none }

/-- Makes the next token a candidate, where a key may start. -/
def propose? (scan : Scan) : Option Scan :=
  if scan.mayStartKey then do
    let dropped ← scan.dropCandidate?
    return { dropped with candidate := some {
      position := scan.tokens.length
      isRequired := !scan.inFlow && scan.indents.head? == some scan.cursor.column
      line := scan.cursor.line
      column := scan.cursor.column } }
  else some scan

/-! ## Indentation -/

/-- Ends the blocks that are indented further than `column`. -/
def unroll (column : Nat) : List Nat → List Token → List Nat × List Token
  | [], tokens => ([], tokens)
  | indent :: indents, tokens =>
    if column < indent then unroll column indents (.blockEnd :: tokens)
    else (indent :: indents, tokens)

/-- Ends the blocks that the current column does not belong to. -/
def closeBlocks (scan : Scan) : Scan :=
  if scan.inFlow then scan
  else
    let (indents, tokens) := unroll scan.cursor.column scan.indents scan.tokens
    { scan with indents, tokens }

/-- Ends all blocks. -/
def closeAllBlocks (scan : Scan) : Scan :=
  if scan.inFlow then scan
  else { scan with
    indents := [], tokens := scan.indents.map (fun _ => Token.blockEnd) ++ scan.tokens }

/-- Starts a block at `column`, behind the first `position` tokens, where one is
to start. -/
def openBlock (scan : Scan) (column position : Nat) (token : Token) : Scan :=
  if scan.inFlow || column < scan.leastColumn then scan
  else
    let later := scan.tokens.length - position
    { scan with
      indents := column :: scan.indents
      tokens := scan.tokens.take later ++ token :: scan.tokens.drop later }

/-- Starts a block at the current column with the next token, which is only
allowed where a key may start. -/
def openBlockHere? (scan : Scan) (token : Token) : Option Scan :=
  if scan.inFlow then some scan
  else if scan.mayStartKey then
    some (scan.openBlock scan.cursor.column scan.tokens.length token)
  else none

/-! ## Collections -/

/-- The sign that starts a flow collection, which may be a key as a whole. -/
def openFlow? (scan : Scan) (token : Token) : Option Scan := do
  let proposed ← scan.propose?
  return { proposed.take 1 token with
    candidate := none
    outer := proposed.candidate :: proposed.outer
    mayStartKey := true }

/-- The sign that ends a flow collection. -/
def closeFlow? (scan : Scan) (token : Token) : Option Scan := do
  let dropped ← scan.dropCandidate?
  return { dropped.take 1 token with
    candidate := dropped.outer.head?.join
    outer := dropped.outer.tail
    mayStartKey := false }

/-- A sign that separates the entries of a collection. -/
def separate? (scan : Scan) (token : Token) (mayStartKey : Bool) : Option Scan := do
  let dropped ← scan.dropCandidate?
  return { dropped.take 1 token with mayStartKey }

/-- The sign of an item of a block list. -/
def item? (scan : Scan) : Option Scan := do
  let opened ← scan.openBlockHere? .blockList
  opened.separate? .item true

/-- The sign of a key. -/
def key? (scan : Scan) : Option Scan := do
  let opened ← scan.openBlockHere? .blockTable
  opened.separate? .key (!scan.inFlow)

/-- The sign of a value.  Where there is a candidate, it was a key. -/
def value? (scan : Scan) : Option Scan :=
  match scan.candidate with
  | some candidate =>
    let later := scan.tokens.length - candidate.position
    let announced := { scan with
      tokens := scan.tokens.take later ++ Token.key :: scan.tokens.drop later }
    let opened := announced.openBlock candidate.column candidate.position .blockTable
    some { opened.take 1 .value with candidate := none, mayStartKey := false }
  | none => do
    let opened ← scan.openBlockHere? .blockTable
    return { opened.take 1 .value with mayStartKey := !scan.inFlow }

/-! ## Scalars and properties -/

/-- A token that may start a key, as read by `read?` from behind its first
character. -/
def startOfKey? (scan : Scan) (read? : Cursor → Option (Token × Cursor)) : Option Scan := do
  let proposed ← scan.propose?
  let (token, cursor) ← read? (scan.cursor.skip 1)
  return { proposed.push token with cursor, mayStartKey := false }

/-- A scalar in quotes. -/
def quoted? (scan : Scan) (quote : Char) : Option Scan :=
  scan.startOfKey? fun cursor =>
    (scanQuoted quote (cursor.rest.length + 1) [] .empty cursor).map fun (text, cursor) =>
      (.scalar .other (String.ofList text), cursor)

/-- A scalar written as a block, which is never a key. -/
def block? (scan : Scan) (folds : Bool) : Option Scan := do
  let dropped ← scan.dropCandidate?
  let (text, cursor) ← scanBlock? folds scan.leastColumn (scan.cursor.skip 1)
  let style := if folds then Style.other else .literal
  return { dropped.push (.scalar style (String.ofList text)) with cursor, mayStartKey := true }

/-- A plain scalar; a key may start on a line behind it. -/
def plain? (scan : Scan) : Option Scan := do
  let proposed ← scan.propose?
  let (text, brokeLine, cursor) ← scanPlain scan.inFlow scan.leastColumn scan.cursor.line
    scan.cursor.column [] .empty scan.cursor.rest
  return { proposed.push (.scalar .plain (String.ofList text)) with
    cursor, mayStartKey := brokeLine }

/-! ## Documents -/

/-- A line that is not part of a document's content. -/
def outside? (scan : Scan) : Option Scan := do
  let dropped ← scan.closeAllBlocks.dropCandidate?
  return { dropped with mayStartKey := false }

def directive? (scan : Scan) : Option Scan := do
  let outside ← scan.outside?
  let (directive, cursor) ← scanDirective? (scan.cursor.skip 1)
  return { outside.push (.directive directive) with cursor }

/-! ## One token after the other -/

/-- Whether a plain scalar starts with `c`, which `rest` follows.  A sign that
means something by itself may start one when no blank follows it. -/
def startsPlain (inFlow : Bool) (c : Char) (rest : List Char) : Bool :=
  if c = '-' then !rest.head?.any isSpace
  else if c = '?' ∨ c = ':' then !inFlow && !wordEnds rest
  else !wordEnds [c] && !startsWithAny ",[]\x7b\x7d#&*!|>'\"%@`" [c]

/-- Scans the token that starts with `c`, which `rest` follows. -/
def token? (scan : Scan) (c : Char) (rest : List Char) : Option Scan :=
  if scan.cursor.column = 0 ∧ c = '%' then scan.directive?
  else if scan.cursor.column = 0 ∧ isMarker (c :: rest) then
    scan.outside?.map fun scan => scan.take 3 (if c = '-' then .documentStart else .documentEnd)
  else if c = '[' then scan.openFlow? .flowList
  else if c = '{' then scan.openFlow? .flowTable
  else if c = ']' then scan.closeFlow? .flowListEnd
  else if c = '}' then scan.closeFlow? .flowTableEnd
  else if c = ',' then scan.separate? .comma true
  else if c = '-' ∧ wordEnds rest then scan.item?
  else if c = '?' ∧ (scan.inFlow ∨ wordEnds rest) then scan.key?
  else if c = ':' ∧ (scan.inFlow ∨ wordEnds rest) then scan.value?
  else if c = '*' then
    scan.startOfKey? fun cursor => (scanName? cursor).map fun (name, cursor) => (.alias name, cursor)
  else if c = '&' then
    scan.startOfKey? fun cursor => (scanName? cursor).map fun (name, cursor) => (.anchor name, cursor)
  else if c = '!' then
    scan.startOfKey? fun cursor =>
      (scanTag? scan.inFlow cursor).map fun (tag, cursor) => (.tag tag, cursor)
  else if c = '|' ∧ !scan.inFlow then scan.block? false
  else if c = '>' ∧ !scan.inFlow then scan.block? true
  else if c = '\'' ∨ c = '"' then scan.quoted? c
  else if startsPlain scan.inFlow c rest then scan.plain?
  else none

/-- Gets ready for the next token. -/
def advance? (scan : Scan) : Option Scan := do
  let (mayStartKey, cursor) :=
    skipBlanks scan.inFlow scan.mayStartKey false scan.cursor.line scan.cursor.column
      scan.cursor.rest
  let kept ← { scan with mayStartKey, cursor }.dropStale?
  return kept.closeBlocks

/-- All tokens from here on.  Every token but the last uses up a character, so
the length of the text is enough `fuel`. -/
def run? : Nat → Scan → Option (List Token)
  | 0, _ => none
  | fuel + 1, scan => do
    let ready ← scan.advance?
    match ready.cursor.rest with
    | [] => return ((← ready.outside?).push .streamEnd).tokens.reverse
    | c :: rest => run? fuel (← ready.token? c rest)

end Scan

/-- The tokens of a text.  A byte order mark may precede it. -/
def Token.ofText? (text : String) : Option (List Token) :=
  let cs := match text.toList with
    | '\ufeff' :: rest => rest
    | cs => cs
  if cs.all isAllowed then
    let cs := normalBreaks cs
    (Scan.start cs).run? (cs.length + 1)
  else none

end MeshSidecar.Yaml
