import MeshSidecar.Text.Decimal
import MeshSidecar.Text.Hidden

namespace MeshSidecar.Text

/-!
# Quoted texts in messages

A message quotes the text that it complains about, so that blanks and invisible
characters in it can be seen.  Five control characters, the backslash and the
quotation marks that are told to be escaped have short forms; every other hidden
character is shown as its code point between braces.
-/

/-- How one character appears between double quotes.  `marks` are the quotation
marks that take a backslash. -/
def quoteChar (marks : List Char) (c : Char) : List Char :=
  if c = '\x00' then ['\\', '0']
  else if c = '\t' then ['\\', 't']
  else if c = '\r' then ['\\', 'r']
  else if c = '\n' then ['\\', 'n']
  else if c = '\\' ∨ c ∈ marks then ['\\', c]
  else if isHidden c then ['\\', 'u', '{'] ++ hex c.toNat ++ ['}']
  else [c]

/-- A text between double quotes, with `marks` escaped. -/
def quoteWith (marks : List Char) (text : String) : String :=
  String.ofList ('"' :: text.toList.flatMap (quoteChar marks) ++ ['"'])

/-- A quoted value: only the double quote needs escaping inside. -/
def quote (text : String) : String :=
  quoteWith ['"'] text

/-- A quoted file name: both quotation marks are escaped inside. -/
def quotePath (text : String) : String :=
  quoteWith ['"', '\''] text

end MeshSidecar.Text
