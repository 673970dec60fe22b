import MeshSidecar.Template.Basic
import MeshSidecar.Text.Blank
import MeshSidecar.Text.Decimal

namespace MeshSidecar.Template

/-!
# Cutting a template into pieces

A template is a sequence of literal texts and of delimited pieces.  The inside of
a piece is cut into tokens at once, since a string in it may contain what would
otherwise close it.  Comments leave no piece behind.
-/

/-- A token inside a piece. -/
inductive Token where
  | word (name : String)
  | string (value : String)
  | number (value : Nat)
  | sign (c : Char)
  deriving DecidableEq

/-- A literal text, an expression to print, or a tag such as `if`. -/
inductive Piece where
  | text (cs : List Char)
  | print (tokens : List Token)
  | tag (tokens : List Token)

/-- Blanks between the tokens of a piece. -/
def isGap (c : Char) : Bool :=
  c == ' ' || c == '\n' || c == '\t' || c == '\r' || c == '\x0c'

def isWordStart (c : Char) : Bool :=
  c.isAlpha || c == '_'

def isWordChar (c : Char) : Bool :=
  c.isAlphanum || c == '_'

/-- The characters that form a token of their own. -/
def isSign (c : Char) : Bool :=
  "+-*/%~.,:|=!<>()[]\x7b\x7d".toList.contains c

/-- The character that a backslash and `c` stand for inside a string. -/
def unescape? (c : Char) : Option Char :=
  if c = '"' ∨ c = '\'' ∨ c = '\\' ∨ c = '/' then some c
  else if c = 'n' then some '\n'
  else if c = 't' then some '\t'
  else if c = 'r' then some '\r'
  else if c = 'b' then some '\x08'
  else if c = 'f' then some '\x0c'
  else none

/-- The rest of a string that `close` ends, and what follows it. -/
def readString? (close : Char) : List Char → Option (List Char × List Char)
  | [] => none
  | '\\' :: c :: rest => do
    let plain ← unescape? c
    let (value, rest) ← readString? close rest
    return (plain :: value, rest)
  | c :: rest =>
    if c = close then some ([], rest)
    else do
      let (value, rest) ← readString? close rest
      return (c :: value, rest)

/-- The text behind a closing delimiter that starts with `mark`, and whether the
delimiter removes blanks. -/
def closes? (mark : Char) : List Char → Option (Bool × List Char)
  | '-' :: c :: '}' :: rest => if c = mark then some (true, rest) else none
  | '+' :: c :: '}' :: rest => if c = mark then some (false, rest) else none
  | c :: '}' :: rest => if c = mark then some (false, rest) else none
  | _ => none

/-- The tokens up to the closing delimiter, whether it removes blanks, and the
text behind it.  No step is taken without using up a character, so the length of
the text is enough `fuel`. -/
def tokens? (mark : Char) : Nat → List Char → Option (List Token × Bool × List Char)
  | 0, _ => none
  | fuel + 1, cs =>
    match closes? mark cs with
    | some (removes, rest) => some ([], removes, rest)
    | none =>
      match cs with
      | [] => none
      | c :: rest =>
        if isGap c then tokens? mark fuel rest
        else if isWordStart c then do
          let word := cs.takeWhile isWordChar
          let (tokens, removes, rest) ← tokens? mark fuel (cs.dropWhile isWordChar)
          return (.word (String.ofList word) :: tokens, removes, rest)
        else if c.isDigit then do
          let run := cs.takeWhile Char.isDigit
          let (tokens, removes, rest) ← tokens? mark fuel (cs.dropWhile Char.isDigit)
          return (.number (Text.digitsValue run) :: tokens, removes, rest)
        else if c = '"' ∨ c = '\'' then do
          let (value, rest) ← readString? c rest
          let (tokens, removes, rest) ← tokens? mark fuel rest
          return (.string (String.ofList value) :: tokens, removes, rest)
        else if isSign c then do
          let (tokens, removes, rest) ← tokens? mark fuel rest
          return (.sign c :: tokens, removes, rest)
        else none

/-- The end of a comment: whether it removes blanks, and the text behind it. -/
def skipComment? : List Char → Option (Bool × List Char)
  | [] => none
  | '-' :: '#' :: '}' :: rest => some (true, rest)
  | '#' :: '}' :: rest => some (false, rest)
  | _ :: rest => skipComment? rest

/-- The literal text before the next opening delimiter, and the text from that
delimiter on. -/
def literal : List Char → List Char × List Char
  | [] => ([], [])
  | c :: rest =>
    if c = '{' ∧ (rest.head? = some '{' ∨ rest.head? = some '%' ∨ rest.head? = some '#') then
      ([], c :: rest)
    else
      let (text, rest) := literal rest
      (c :: text, rest)

/-- The text behind the sign that may follow an opening delimiter, and whether
that sign removes blanks. -/
def openingSign : List Char → Bool × List Char
  | '-' :: rest => (true, rest)
  | '+' :: rest => (false, rest)
  | rest => (false, rest)

/-- The pieces of a template; `trimStart` says whether the delimiter before it
removes blanks.  Each round uses up an opening delimiter, so the length of the
text is enough `fuel`. -/
def pieces? : Nat → Bool → List Char → Option (List Piece)
  | 0, _, _ => none
  | fuel + 1, trimStart, cs =>
    let (text, rest) := literal cs
    let text := if trimStart then Text.trimStartWhere Text.isBlank text else text
    match rest with
    | _ :: kind :: inside =>
      let (removes, inside) := openingSign inside
      let text := Piece.text (if removes then Text.trimEndWhere Text.isBlank text else text)
      if kind = '#' then do
        let (removes, rest) ← skipComment? inside
        return text :: (← pieces? fuel removes rest)
      else if kind = '%' then do
        let (tokens, removes, rest) ← tokens? '%' (inside.length + 1) inside
        return text :: .tag tokens :: (← pieces? fuel removes rest)
      else do
        let (tokens, removes, rest) ← tokens? '}' (inside.length + 1) inside
        return text :: .print tokens :: (← pieces? fuel removes rest)
    | _ => some [.text text]

end MeshSidecar.Template
