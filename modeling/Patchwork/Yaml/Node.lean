import Patchwork.Yaml.Token

/-!
# Nodes of YAML documents

A document is a graph of scalars, sequences and mappings: an alias stands for the very node that
carries the anchor, which may be one of the nodes around it.  `Yaml.readDocument` builds the graph
of the next document out of tokens, with tags expanded.

A node keeps the tag that was written on it, if any.  What an untagged scalar means is decided
later, from its text and from whether it was plain.
-/

set_option autoImplicit false

namespace Patchwork
namespace Yaml

/-- What is known about the meaning of a node from the way it is written. -/
inductive Mark where
  /-- A tag, in full. -/
  | tagged (tag : String)
  /-- No tag, and a text that may mean more than itself. -/
  | plain
  /-- No tag, and a text that means itself, or a collection. -/
  | untagged
  deriving DecidableEq, Repr, Inhabited

/-- The number of a node in its graph. -/
abbrev NodeId := Nat

/-- A key and a value. -/
abbrev Entry := NodeId × NodeId

/-- What a node holds. -/
inductive Content where
  | scalar (text : Text)
  | sequence (items : List NodeId)
  | mapping (entries : List Entry)
  deriving DecidableEq, Repr, Inhabited

/-- A node of a document. -/
structure Node where
  mark : Mark
  content : Content
  deriving DecidableEq, Repr, Inhabited

/-- The nodes of a document. -/
structure Graph where
  nodes : Array Node
  root : NodeId
  deriving Repr, Inhabited

/-- The address that the handle `!!` stands for. -/
def coreAddress : String := "tag:yaml.org,2002:"

/-- The handles that need no directive. -/
def defaultHandles : List (String × String) := [("!", "!"), ("!!", coreAddress)]

/-- The greatest number of collections inside each other. -/
def maxDepth : Nat := 488

/-- What a reader of nodes works on: the tokens that are left, the nodes so far, those with an
anchor, the tag handles, and the number of collections around the place. -/
structure Source where
  tokens : List Token
  nodes : Array Node := #[]
  anchors : List (String × NodeId) := []
  handles : List (String × String) := defaultHandles
  depth : Nat := 0

/-- A reader of tokens, which may fail. -/
abbrev Reader := StateT Source (Except ReadError)

namespace Reader

/-- The text is no YAML. -/
def invalid {α : Type} : Reader α := throw .invalid

/-- The next token, which must be readable. -/
def peek : Reader Token := do
  match (← get).tokens with
  | .fault e :: _ => throw e
  | t :: _ => return t
  | [] => invalid

/-- Moves behind the next token. -/
def advance : Reader Unit := modify fun s => { s with tokens := s.tokens.tail }

/-- Moves behind the next token if it is `t`, and says whether it was. -/
def accept (t : Token) : Reader Bool := do
  if (← peek) = t then advance; return true else return false

/-- The next token is one of `ts`. -/
def next (ts : List Token) : Reader Bool := do return ts.contains (← peek)

/-- The anchor before a node, if there is one. -/
def anchor? : Reader (Option String) := do
  match ← peek with
  | .anchor name => advance; return some name
  | _ => return none

/-- The tag before a node, if there is one. -/
def tag? : Reader (Option WrittenTag) := do
  match ← peek with
  | .tag tag => advance; return some tag
  | _ => return none

/-- The full form of a tag; its handle must be known. -/
def expand (tag : WrittenTag) : Reader String := do
  match tag.handle with
  | none => return tag.suffix
  | some handle =>
    match (← get).handles.lookup handle with
    | some address => return address ++ tag.suffix
    | none => invalid

/-- The mark of a scalar: the tag `!` asks for the meaning of plain text. -/
def scalarMark (tag : Option String) (plain : Bool) : Mark :=
  match tag with
  | none => if plain then .plain else .untagged
  | some tag => if tag = "!" then .plain else .tagged tag

/-- The mark of a collection: the tag `!` is the same as none. -/
def collectionMark : Option String → Mark
  | none => .untagged
  | some tag => if tag = "!" then .untagged else .tagged tag

/-- A new node; its anchor, if it has one, must be new in the document. -/
def place (anchor : Option String) (node : Node) : Reader NodeId := do
  let s ← get
  if anchor.any fun name => (s.anchors.lookup name).isSome then invalid
  set { s with
    nodes := s.nodes.push node
    anchors := (anchor.map fun name => (name, s.nodes.size)).toList ++ s.anchors }
  return s.nodes.size

/-- A node where nothing is written. -/
def empty : Reader NodeId := place none ⟨.plain, .scalar ""⟩

/-- A collection.  Its node is there before its content is read, so that an alias inside can stand
for it. -/
def collection (anchor : Option String) (mark : Mark) (start : Content)
    (content : Reader Content) : Reader NodeId := do
  let id ← place anchor ⟨mark, start⟩
  let depth := (← get).depth
  if maxDepth ≤ depth then throw .tooDeep
  modify fun s => { s with depth := depth + 1 }
  let content ← content
  modify fun s => { s with depth, nodes := s.nodes.setIfInBounds id ⟨mark, content⟩ }
  return id

/-- A sequence. -/
def sequence (anchor tag : Option String) (items : Reader (List NodeId)) : Reader NodeId :=
  collection anchor (collectionMark tag) (.sequence []) (.sequence <$> items)

/-- A mapping. -/
def mapping (anchor tag : Option String) (entries : Reader (List Entry)) : Reader NodeId :=
  collection anchor (collectionMark tag) (.mapping []) (.mapping <$> entries)

/-- A node where only its anchor or tag is written. -/
def bare (anchor tag : Option String) : Reader NodeId := do
  if anchor.isNone && tag.isNone then invalid
  place anchor ⟨scalarMark tag true, .scalar ""⟩

/-- Moves behind the comma between entries, which must be there. -/
def entryMark : Reader Unit := do
  if !(← accept .flowEntry) then invalid

mutual

/-- A node.  `block` admits collections in block form, `indentless` a sequence whose hyphens stand
at the column of the key before it. -/
def node (block indentless : Bool) : (fuel : Nat) → Reader NodeId
  | 0 => invalid
  | fuel + 1 => do
    match ← peek with
    | .alias name =>
      advance
      match (← get).anchors.lookup name with
      | some id => return id
      | none => invalid
    | _ =>
      let before ← anchor?
      let written ← tag?
      let anchor ← if before.isSome then pure before else
        if written.isSome then anchor? else pure none
      let tag ← written.mapM expand
      match ← peek with
      | .scalar text plain =>
        advance
        place anchor ⟨scalarMark tag plain, .scalar text⟩
      | .flowSequenceStart =>
        advance
        sequence anchor tag (flowItems true fuel)
      | .flowMappingStart =>
        advance
        mapping anchor tag (flowEntries true fuel)
      | .blockEntry =>
        if indentless then sequence anchor tag (indentlessItems fuel) else bare anchor tag
      | .blockSequenceStart =>
        if block then
          advance
          sequence anchor tag (blockItems fuel)
        else bare anchor tag
      | .blockMappingStart =>
        if block then
          advance
          mapping anchor tag (blockEntries fuel)
        else bare anchor tag
      | _ => bare anchor tag

/-- A node, or the empty one before any of the tokens `stops`. -/
def nodeUnless (stops : List Token) (block indentless : Bool) : (fuel : Nat) → Reader NodeId
  | 0 => invalid
  | fuel + 1 => do
    if ← next stops then empty else node block indentless fuel

/-- The items of a block sequence. -/
def blockItems : (fuel : Nat) → Reader (List NodeId)
  | 0 => invalid
  | fuel + 1 => do
    if ← accept .blockEntry then
      let item ← nodeUnless [.blockEntry, .blockEnd] true false fuel
      return item :: (← blockItems fuel)
    else if ← accept .blockEnd then return []
    else invalid

/-- The items of a sequence at the column of the key before it. -/
def indentlessItems : (fuel : Nat) → Reader (List NodeId)
  | 0 => invalid
  | fuel + 1 => do
    if ← accept .blockEntry then
      let item ← nodeUnless [.blockEntry, .key, .value, .blockEnd] true false fuel
      return item :: (← indentlessItems fuel)
    else return []

/-- The entries of a block mapping.  Each begins with a key; its value may be missing. -/
def blockEntries : (fuel : Nat) → Reader (List Entry)
  | 0 => invalid
  | fuel + 1 => do
    if ← accept .key then
      let key ← nodeUnless [.key, .value, .blockEnd] true true fuel
      let value ← if ← accept .value then nodeUnless [.key, .value, .blockEnd] true true fuel
        else empty
      return (key, value) :: (← blockEntries fuel)
    else if ← accept .blockEnd then return []
    else invalid

/-- A mapping of one entry, as it can stand for an item of a sequence in brackets. -/
def pair : (fuel : Nat) → Reader (List Entry)
  | 0 => invalid
  | fuel + 1 => do
    let key ← nodeUnless [.value, .flowEntry, .flowSequenceEnd] false false fuel
    let value ← if ← accept .value then
        nodeUnless [.flowEntry, .flowSequenceEnd] false false fuel
      else empty
    return [(key, value)]

/-- The items of a sequence in brackets. -/
def flowItems (first : Bool) : (fuel : Nat) → Reader (List NodeId)
  | 0 => invalid
  | fuel + 1 => do
    if ← accept .flowSequenceEnd then return []
    unless first do entryMark
    if ← accept .flowSequenceEnd then return []
    let item ← if ← accept .key then mapping none none (pair fuel) else node false false fuel
    return item :: (← flowItems false fuel)

/-- The entries of a mapping in braces. -/
def flowEntries (first : Bool) : (fuel : Nat) → Reader (List Entry)
  | 0 => invalid
  | fuel + 1 => do
    if ← accept .flowMappingEnd then return []
    unless first do entryMark
    if ← accept .flowMappingEnd then return []
    let entry ←
      if ← accept .key then
        let key ← nodeUnless [.value, .flowEntry, .flowMappingEnd] false false fuel
        let value ← if ← accept .value then
            nodeUnless [.flowEntry, .flowMappingEnd] false false fuel
          else empty
        pure (key, value)
      else
        let key ← node false false fuel
        pure (key, ← empty)
    return entry :: (← flowEntries false fuel)

end

/-! ## Documents -/

/-- The directives before a document: at most one version, which must be 1, and handles that are
each given once. -/
def directives : (fuel : Nat) → (versioned : Bool) → List (String × String) →
    Reader (List (String × String))
  | 0, _, _ => invalid
  | fuel + 1, versioned, handles => do
    match ← peek with
    | .versionDirective major _ =>
      if versioned || major ≠ 1 then invalid
      advance
      directives fuel true handles
    | .tagDirective handle address =>
      if (handles.lookup handle).isSome then invalid
      advance
      directives fuel versioned ((handle, address) :: handles)
    | .otherDirective _ =>
      advance
      directives fuel versioned handles
    | _ => return handles

/-- Moves behind marks of the end of a document. -/
def skipEnds : (fuel : Nat) → Reader Unit
  | 0 => return ()
  | fuel + 1 => do
    if ← accept .documentEnd then skipEnds fuel

/-- The token is a directive. -/
def isDirective : Token → Bool
  | .versionDirective .. | .tagDirective .. | .otherDirective _ => true
  | _ => false

/-- The content of a document behind its opening mark. -/
def content (fuel : Nat) : Reader NodeId := do
  let t ← peek
  if isDirective t || [Token.documentStart, .documentEnd, .streamEnd].contains t then empty
  else node true false fuel

/-- The graph of a document, with its root read. -/
def graph (root : NodeId) : Reader Graph := do
  let _ ← accept .documentEnd
  return ⟨(← get).nodes, root⟩

/-- The next document, absent at the end.  Only the first one can do without an opening mark. -/
def document? (first : Bool) (fuel : Nat) : Reader (Option Graph) := do
  let t ← peek
  let opened := isDirective t || t = .documentStart || t = .streamEnd
  if first && !opened then
    let root ← node true false fuel
    return some (← graph root)
  else
    skipEnds fuel
    if (← peek) = .streamEnd then return none
    let handles ← directives fuel false []
    modify fun s => { s with handles := handles ++ defaultHandles }
    if !(← accept .documentStart) then invalid
    let root ← content fuel
    return some (← graph root)

end Reader

/-- The next document of the tokens, absent at the end, with the tokens behind it.  `first` says
that no document came before. -/
def readDocument (first : Bool) (tokens : List Token) :
    Except ReadError (Option Graph × List Token) := do
  let (graph, s) ← (Reader.document? first (4 * tokens.length + 8)).run { tokens }
  return (graph, s.tokens)

end Yaml
end Patchwork
