namespace MeshSidecar.Text

/-!
# Blank characters and trimming

Blank means the Unicode property `White_Space`: 25 code points, of which only
six are ASCII.  Annotation values are written by people and tools that pad them
freely, so their parts are trimmed of every one of these.
-/

/-- The Unicode property `White_Space`. -/
def isBlank (c : Char) : Bool :=
  let n := c.toNat
  (0x09 ≤ n && n ≤ 0x0D) || n == 0x20 || n == 0x85 || n == 0xA0 || n == 0x1680 ||
    (0x2000 ≤ n && n ≤ 0x200A) || n == 0x2028 || n == 0x2029 || n == 0x202F ||
    n == 0x205F || n == 0x3000

/-- Drops every leading character for which `p` holds, and every trailing one. -/
def trimStartWhere (p : Char → Bool) (cs : List Char) : List Char :=
  cs.dropWhile p

def trimEndWhere (p : Char → Bool) (cs : List Char) : List Char :=
  (cs.reverse.dropWhile p).reverse

/-- Drops blanks at both ends. -/
def trim (cs : List Char) : List Char :=
  trimEndWhere isBlank (trimStartWhere isBlank cs)

end MeshSidecar.Text
