import MeshSidecar.Yaml.Token

namespace MeshSidecar.Yaml

/-!
# Nodes of a YAML document

A document is a tree of scalars, lists and tables.  A reference stands for the
node that was last given its name, as if that node were written out again; a
reference from inside that very node has no finite meaning, and is kept as such
because nobody may ever look at it.
-/

/-- A node with its tag. -/
inductive Node where
  | scalar (tag : Option String) (style : Style) (text : String)
  | list (tag : Option String) (items : List Node)
  | table (tag : Option String) (entries : List (Node × Node))
  | endless

namespace Node

/-- What stands where nothing is written. -/
def empty : Node :=
  .scalar none .plain ""

/-- A named node; it is none until it has been read to its end. -/
structure Named where
  name : String
  node : Option Node

/-- The reading of a document: the tokens that are left, what the handles of tags
stand for, and the named nodes, in order of their names. -/
structure Reading where
  tokens : List Token
  handles : List (String × String)
  named : List Named

namespace Reading

/-- Passes over the next token. -/
def next (reading : Reading) : Reading :=
  { reading with tokens := reading.tokens.tail }

/-- The node that a name refers to. -/
def resolve? (reading : Reading) (name : String) : Option Node :=
  (reading.named.reverse.find? fun named => named.name == name).map fun named =>
    named.node.getD .endless

/-- Gives a name to the node that is about to be read. -/
def announce (reading : Reading) (name : Option String) : Reading :=
  { reading with named := reading.named ++ (name.map fun name => ⟨name, none⟩).toList }

/-- Completes the node whose name was the `position`th, if it has one. -/
def settle (reading : Reading) (name : Option String) (position : Nat) (node : Node) : Reading :=
  match name with
  | none => reading
  | some name => { reading with named := reading.named.set position ⟨name, some node⟩ }

end Reading

/-- What precedes the content of a node. -/
structure Properties where
  anchor : Option String
  tag : Option TagName

/-- The properties in front of a node: a name and a tag at most, in either
order. -/
def properties (reading : Reading) : Properties × Reading :=
  match reading.tokens with
  | .anchor name :: .tag tag :: rest => (⟨some name, some tag⟩, { reading with tokens := rest })
  | .tag tag :: .anchor name :: rest => (⟨some name, some tag⟩, { reading with tokens := rest })
  | .anchor name :: rest => (⟨some name, none⟩, { reading with tokens := rest })
  | .tag tag :: rest => (⟨none, some tag⟩, { reading with tokens := rest })
  | _ => (⟨none, none⟩, reading)

/-- The tag in full; a handle has to be known. -/
def fullTag? (handles : List (String × String)) : Option TagName → Option (Option String)
  | none => some none
  | some (.full tag) => some (some tag)
  | some (.shorthand handle suffix) => (handles.lookup handle).map fun stands => some (stands ++ suffix)

/-- A scalar, for which the tag `!` means none. -/
def ofScalar (tag : Option String) (style : Style) (text : String) : Node :=
  .scalar (if tag = some "!" then none else tag) style text

/-! ## Where nothing may be written -/

/-- Tokens before which the item of a block list may be missing. -/
def endsItem : Token → Bool
  | .item | .blockEnd => true
  | _ => false

/-- Tokens before which the item of a list that is not indented may be missing. -/
def endsFlatItem : Token → Bool
  | .item | .key | .value | .blockEnd => true
  | _ => false

/-- Tokens before which a key or value of a block table may be missing. -/
def endsEntry : Token → Bool
  | .key | .value | .blockEnd => true
  | _ => false

/-- Tokens before which a key in a flow table may be missing. -/
def endsFlowKey : Token → Bool
  | .value | .comma | .flowTableEnd => true
  | _ => false

/-- Tokens before which a value in a flow table may be missing. -/
def endsFlowValue : Token → Bool
  | .comma | .flowTableEnd => true
  | _ => false

/-- Tokens before which the key of a pair in a flow list may be missing. -/
def endsPairKey : Token → Bool
  | .value | .comma | .flowListEnd => true
  | _ => false

/-- Tokens before which the value of a pair in a flow list may be missing. -/
def endsPairValue : Token → Bool
  | .comma | .flowListEnd => true
  | _ => false

/-- The separator between two entries of a flow collection, or nothing before the
first. -/
def separator? (isFirst : Bool) (reading : Reading) : Option Reading :=
  if isFirst then some reading
  else match reading.tokens with
    | .comma :: _ => some reading.next
    | _ => none

/-! ## Reading -/

mutual

/-- The next node.  `inBlock` says whether it may be a block collection, `mayBeFlat`
whether it may be a list whose items are not indented. -/
def node? : Nat → Bool → Bool → Reading → Option (Node × Reading)
  | 0, _, _, _ => none
  | fuel + 1, inBlock, mayBeFlat, reading =>
    match reading.tokens with
    | .alias name :: _ => (reading.resolve? name).map fun node => (node, reading.next)
    | _ => do
      let (properties, behind) := properties reading
      let tag ← fullTag? reading.handles properties.tag
      let position := behind.named.length
      let (node, reading) ← content? fuel inBlock mayBeFlat tag
        (properties.anchor.isSome || properties.tag.isSome) (behind.announce properties.anchor)
      return (node, reading.settle properties.anchor position node)

/-- The content of a node, which may be missing behind properties. -/
def content? : Nat → Bool → Bool → Option String → Bool → Reading → Option (Node × Reading)
  | 0, _, _, _, _, _ => none
  | fuel + 1, inBlock, mayBeFlat, tag, hasProperties, reading =>
    let missing := if hasProperties then some (ofScalar tag .plain "", reading) else none
    match reading.tokens with
    | .scalar style text :: _ => some (ofScalar tag style text, reading.next)
    | .flowList :: _ => (flowItems? fuel true reading.next).map fun (items, reading) =>
      (.list tag items, reading)
    | .flowTable :: _ => (flowEntries? fuel true reading.next).map fun (entries, reading) =>
      (.table tag entries, reading)
    | .item :: _ =>
      if mayBeFlat then (flatItems? fuel reading).map fun (items, reading) =>
        (.list tag items, reading)
      else missing
    | .blockList :: _ =>
      if inBlock then (blockItems? fuel reading.next).map fun (items, reading) =>
        (.list tag items, reading)
      else missing
    | .blockTable :: _ =>
      if inBlock then (blockEntries? fuel reading.next).map fun (entries, reading) =>
        (.table tag entries, reading)
      else missing
    | _ => missing

/-- The next node, or the empty one before a token that ends its place. -/
def nodeUnless? : Nat → (Token → Bool) → Bool → Bool → Reading → Option (Node × Reading)
  | 0, _, _, _, _ => none
  | fuel + 1, ends, inBlock, mayBeFlat, reading =>
    if reading.tokens.head?.any ends then some (.empty, reading)
    else node? fuel inBlock mayBeFlat reading

/-- The items of a block list, up to its end. -/
def blockItems? : Nat → Reading → Option (List Node × Reading)
  | 0, _ => none
  | fuel + 1, reading =>
    match reading.tokens with
    | .blockEnd :: _ => some ([], reading.next)
    | .item :: _ => do
      let (item, reading) ← nodeUnless? fuel endsItem true false reading.next
      let (items, reading) ← blockItems? fuel reading
      return (item :: items, reading)
    | _ => none

/-- The items of a list that is not indented, up to the first token that is none
of them. -/
def flatItems? : Nat → Reading → Option (List Node × Reading)
  | 0, _ => none
  | fuel + 1, reading =>
    match reading.tokens with
    | .item :: _ => do
      let (item, reading) ← nodeUnless? fuel endsFlatItem true false reading.next
      let (items, reading) ← flatItems? fuel reading
      return (item :: items, reading)
    | _ => some ([], reading)

/-- The entries of a block table, up to its end. -/
def blockEntries? : Nat → Reading → Option (List (Node × Node) × Reading)
  | 0, _ => none
  | fuel + 1, reading =>
    match reading.tokens with
    | .blockEnd :: _ => some ([], reading.next)
    | .key :: _ => do
      let (key, reading) ← nodeUnless? fuel endsEntry true true reading.next
      let (value, reading) ← blockValue? fuel reading
      let (entries, reading) ← blockEntries? fuel reading
      return ((key, value) :: entries, reading)
    | _ => none

/-- The value behind a key of a block table. -/
def blockValue? : Nat → Reading → Option (Node × Reading)
  | 0, _ => none
  | fuel + 1, reading =>
    match reading.tokens with
    | .value :: _ => nodeUnless? fuel endsEntry true true reading.next
    | _ => some (.empty, reading)

/-- The items of a flow list, up to its end.  A pair among them is a table of its
own. -/
def flowItems? : Nat → Bool → Reading → Option (List Node × Reading)
  | 0, _, _ => none
  | fuel + 1, isFirst, reading =>
    match reading.tokens with
    | .flowListEnd :: _ => some ([], reading.next)
    | _ => do
      let reading ← separator? isFirst reading
      match reading.tokens with
      | .flowListEnd :: _ => return ([], reading.next)
      | .key :: _ =>
        let (key, reading) ← pairKey? fuel reading.next
        let (value, reading) ← pairValue? fuel reading
        let (items, reading) ← flowItems? fuel false reading
        return (.table none [(key, value)] :: items, reading)
      | _ =>
        let (item, reading) ← node? fuel false false reading
        let (items, reading) ← flowItems? fuel false reading
        return (item :: items, reading)

/-- The key of a pair in a flow list.  A missing key takes the token in its place
with it. -/
def pairKey? : Nat → Reading → Option (Node × Reading)
  | 0, _ => none
  | fuel + 1, reading =>
    if reading.tokens.head?.any endsPairKey then some (.empty, reading.next)
    else node? fuel false false reading

/-- The value of a pair in a flow list. -/
def pairValue? : Nat → Reading → Option (Node × Reading)
  | 0, _ => none
  | fuel + 1, reading =>
    match reading.tokens with
    | .value :: _ => nodeUnless? fuel endsPairValue false false reading.next
    | _ => some (.empty, reading)

/-- The entries of a flow table, up to its end.  An entry that no sign announces
is a key alone. -/
def flowEntries? : Nat → Bool → Reading → Option (List (Node × Node) × Reading)
  | 0, _, _ => none
  | fuel + 1, isFirst, reading =>
    match reading.tokens with
    | .flowTableEnd :: _ => some ([], reading.next)
    | _ => do
      let reading ← separator? isFirst reading
      match reading.tokens with
      | .flowTableEnd :: _ => return ([], reading.next)
      | .key :: _ =>
        let (key, reading) ← nodeUnless? fuel endsFlowKey false false reading.next
        let (value, reading) ← flowValue? fuel reading
        let (entries, reading) ← flowEntries? fuel false reading
        return ((key, value) :: entries, reading)
      | _ =>
        let (key, reading) ← node? fuel false false reading
        let (entries, reading) ← flowEntries? fuel false reading
        return ((key, .empty) :: entries, reading)

/-- The value behind a key of a flow table. -/
def flowValue? : Nat → Reading → Option (Node × Reading)
  | 0, _ => none
  | fuel + 1, reading =>
    match reading.tokens with
    | .value :: _ => nodeUnless? fuel endsFlowValue false false reading.next
    | _ => some (.empty, reading)

end

/-! ## Documents -/

/-- What the usual handles stand for. -/
def usualHandles : List (String × String) :=
  [("!", "!"), ("!!", "tag:yaml.org,2002:")]

/-- The directives before a document: whether a version has been given, and what
handles stand for.  Neither is said twice, and the version is a known one. -/
def directives? (hasVersion : Bool) (handles : List (String × String)) :
    List Token → Option (List (String × String) × List Token)
  | .directive (.version major minor) :: rest =>
    if hasVersion ∨ major ≠ 1 ∨ (minor ≠ 1 ∧ minor ≠ 2) then none
    else directives? true handles rest
  | .directive (.handle handle stands) :: rest =>
    if (handles.lookup handle).isSome then none
    else directives? hasVersion (handles ++ [(handle, stands)]) rest
  | rest => some (handles, rest)

/-- Whether nothing follows a document but marks of its end. -/
def isLast : List Token → Bool
  | .documentEnd :: rest => isLast rest
  | [.streamEnd] => true
  | _ => false

/-- Whether a document that has been announced holds nothing. -/
def isVacant : List Token → Bool
  | .directive _ :: _ | .documentStart :: _ | .documentEnd :: _ | .streamEnd :: _ => true
  | _ => false

/-- The only document among tokens.  Each token costs at most four rounds of
reading. -/
def ofTokens? (tokens : List Token) : Option Node := do
  let fuel := 4 * tokens.length + 4
  match tokens with
  | [.streamEnd] => return .empty
  | .directive _ :: _ | .documentStart :: _ =>
    let (handles, rest) ← directives? false [] tokens
    match rest with
    | .documentStart :: rest =>
      if isVacant rest then
        guard (isLast rest)
        return .empty
      else
        let (node, reading) ← node? fuel true false ⟨rest, handles ++ usualHandles, []⟩
        guard (isLast reading.tokens)
        return node
    | _ => none
  | _ =>
    let (node, reading) ← node? fuel true false ⟨tokens, usualHandles, []⟩
    guard (isLast reading.tokens)
    return node

/-- The only document of a text. -/
def parse? (text : String) : Option Node :=
  (Token.ofText? text).bind ofTokens?

end Node

end MeshSidecar.Yaml
