import Patchwork.Yaml.Scalar

/-!
# Values of YAML nodes

`Graph.value` gives the document value that a graph means under rules for plain scalars.

* The nodes are made into parts of the value from the root on: a scalar at once, a collection in
  its turn behind those that were met before it.  So of several faults the one inside the fewest
  collections decides, and a node is only made once, however many aliases stand for it.
* A later entry of a mapping replaces an earlier one with an equal key, in the place of the earlier
  one; a key must be hashable.
* The entries of the mappings under a merge key `<<` are put in front of the others, which so
  replace them; of several merged mappings in a sequence the earlier ones go before the later ones.
  This changes the mapping itself, for all that refer to it.
* A mapping can stand for a scalar if it has the key `=`.
* The parts are put together level by level.  What lies too deep becomes `Value.endless` in a
  collection inside itself, and `Value.tooDeep` elsewhere.
-/

set_option autoImplicit false

namespace Patchwork
namespace Yaml

/-! ## Parts -/

/-- What a node was made into. -/
inductive Part where
  | value (v : Value)
  /-- What is not a number, where all nodes that spell it so share one. -/
  | sharedNan
  | list (items : List NodeId)
  | map (entries : List (Value × NodeId))
  | set (members : List Value)
  | pairs (entries : List Entry)
  deriving Repr, Inhabited

/-- A key of a mapping.  What is not a number equals no value, but is the same key as itself:
`origin` is the node that it comes from, if it is not the shared one. -/
structure Key where
  origin : Option NodeId
  value : Value

/-- The keys are the same. -/
def Key.same (k l : Key) : Bool := k.origin = l.origin || k.value.same l.value

/-- The entries with a value under a key: in the place of the first entry with the same key, which
stays, or else at the end. -/
def putEntry (key : Key) (node : NodeId) : List (Key × NodeId) → List (Key × NodeId)
  | [] => [(key, node)]
  | (k, n) :: rest =>
    if k.same key then (k, node) :: rest else (k, n) :: putEntry key node rest

/-- The state of making parts: the tags and contents of the nodes as they stand, the parts so far,
and the collections whose turn will come, the last one first. -/
structure Assembly where
  tags : Array Tag
  contents : Array Content
  parts : Array (Option Part)
  pending : List NodeId := []

/-- A step of making parts, which may fail. -/
abbrev Assembling := StateT Assembly (Except ReadError)

/-- The tag of a node under rules for plain texts. -/
def Node.tag (rules : List ImplicitRule) (node : Node) : Tag :=
  match node.mark, node.content with
  | .tagged address, _ => .ofAddress address
  | mark, .scalar text => tagOf rules text mark
  | _, .sequence _ => .seq
  | _, .mapping _ => .map

namespace Assembly

/-- The state before any node is made. -/
def ofGraph (rules : List ImplicitRule) (g : Graph) : Assembly where
  tags := g.nodes.map (·.tag rules)
  contents := g.nodes.map (·.content)
  parts := g.nodes.map fun _ => none

/-! ## Looking up and changing nodes -/

/-- The document is not valid. -/
def invalid {α : Type} : Assembling α := throw .invalid

/-- The tag of a node as it stands. -/
def tagAt (id : NodeId) : Assembling Tag := do return (← get).tags.getD id .null

/-- The content of a node as it stands. -/
def contentAt (id : NodeId) : Assembling Content := do
  return (← get).contents.getD id (.scalar "")

/-- Gives a node another tag. -/
def setTag (id : NodeId) (tag : Tag) : Assembling Unit :=
  modify fun s => { s with tags := s.tags.setIfInBounds id tag }

/-- The entries of a mapping as they stand, none for any other node. -/
def entriesAt (id : NodeId) : Assembling (List Entry) := do
  match ← contentAt id with
  | .mapping entries => return entries
  | _ => return []

/-- Gives a mapping other entries. -/
def setEntries (id : NodeId) (entries : List Entry) : Assembling Unit :=
  modify fun s => { s with contents := s.contents.setIfInBounds id (.mapping entries) }

/-- Notes what a node was made into. -/
def setPart (id : NodeId) (part : Part) : Assembling Unit :=
  modify fun s => { s with parts := s.parts.setIfInBounds id (some part) }

/-! ## Merging -/

/-- The entries that the mappings among nodes bring in, those of the last one first; `flatten` puts
what is merged into a mapping in front of its entries. -/
def mergedItems (flatten : NodeId → Assembling Unit) : List NodeId → Assembling (List Entry)
  | [] => return []
  | item :: rest => do
    match ← contentAt item with
    | .mapping _ =>
      flatten item
      let entries ← entriesAt item
      return (← mergedItems flatten rest) ++ entries
    | _ => invalid

/-- The entries that a node under a merge key brings in: those of a mapping, or of the mappings in a
sequence. -/
def mergedNode (flatten : NodeId → Assembling Unit) (id : NodeId) :
    Assembling (List Entry) := do
  match ← contentAt id with
  | .mapping _ =>
    flatten id
    entriesAt id
  | .sequence items => mergedItems flatten items
  | .scalar _ => invalid

/-- Takes the merge keys out of a mapping, whose entries are those `kept`, in reverse, and the ones
behind them, and gives the entries that they bring in.  The text `=` becomes a key like any
other.  If the mapping is merged into itself, its other merge keys are gone after the first. -/
def takeMerges (flatten : NodeId → Assembling Unit) (id : NodeId) (kept : List Entry) :
    List Entry → Assembling (List Entry)
  | [] => return []
  | (k, v) :: rest => do
    match ← tagAt k with
    | .merge =>
      let others := kept.reverse ++ rest
      setEntries id others
      let merged ← mergedNode flatten v
      if (← entriesAt id) = others then
        return merged ++ (← takeMerges flatten id kept rest)
      else return merged
    | .value =>
      setTag k .str
      takeMerges flatten id ((k, v) :: kept) rest
    | _ => takeMerges flatten id ((k, v) :: kept) rest

/-- Puts the entries that the merge keys of a mapping bring in in front of the others.  A merge key
is taken out before what stands under it is looked at, so `fuel` need not be more than their
number. -/
def flatten : (fuel : Nat) → NodeId → Assembling Unit
  | 0, _ => throw .tooDeep
  | fuel + 1, id => do
    let merged ← takeMerges (flatten fuel) id [] (← entriesAt id)
    setEntries id (merged ++ (← entriesAt id))

/-- A bound of the number of merge keys. -/
def mergeFuel : Assembling Nat := do
  return (← get).contents.foldl (fun n content =>
    match content with
    | .mapping entries => n + entries.length
    | _ => n) 1

/-! ## Scalars -/

/-- The value of the first entry whose key is the text `=`. -/
def valueEntry? : List Entry → Assembling (Option NodeId)
  | [] => return none
  | (k, v) :: rest => do
    match ← tagAt k with
    | .value => return some v
    | _ => valueEntry? rest

/-- The text of a node that is wanted as a scalar; `fuel` bounds the number of mappings on the
way. -/
def textOf : (fuel : Nat) → NodeId → Assembling Text
  | 0, _ => throw .tooDeep
  | fuel + 1, id => do
    match ← contentAt id with
    | .scalar text => return text
    | .sequence _ => invalid
    | .mapping entries =>
      match ← valueEntry? entries with
      | some v => textOf fuel v
      | none => invalid

/-- What a node with the tag of a scalar is made into. -/
def scalarPart (id : NodeId) (tag : Tag) : Assembling Part := do
  let text ← textOf ((← get).contents.size + 1) id
  match tag, ← contentAt id with
  | .timestamp, .mapping _ => throw (.scalar .notAScalar)
  | .float, _ =>
    if text.toString?.any fun s => spellsNan s.toList then return .sharedNan
    else return .value (← scalarValue .float text)
  | _, _ => return .value (← scalarValue tag text)

/-! ## Making parts -/

/-- Makes a collection, which is empty until its turn comes. -/
def announce (id : NodeId) (part : Part) : Assembling Unit := do
  setPart id part
  modify fun s => { s with pending := id :: s.pending }

/-- Makes a node, unless it is made. -/
def make (id : NodeId) : Assembling Unit := do
  if ((← get).parts.getD id none).isSome then return ()
  match ← tagAt id with
  | .seq => announce id (.list [])
  | .omap | .pairs => announce id (.pairs [])
  | .map => announce id (.map [])
  | .set => announce id (.set [])
  | .merge | .value | .other _ => invalid
  | tag => setPart id (← scalarPart id tag)

/-- Makes a node that is a key; collections are none. -/
def makeKey (id : NodeId) : Assembling Key := do
  make id
  match (← get).parts.getD id none with
  | some (.value v) => return ⟨some id, v⟩
  | some .sharedNan => return ⟨none, .float .nan⟩
  | _ => invalid

/-- Makes the keys and values of entries. -/
def makeEntries (made : List (Key × NodeId)) :
    List Entry → Assembling (List (Key × NodeId))
  | [] => return made
  | (k, v) :: rest => do
    let key ← makeKey k
    make v
    makeEntries (putEntry key v made) rest

/-- Makes the entries of a mapping, merged ones included. -/
def makeMapping (id : NodeId) : Assembling (List (Key × NodeId)) := do
  match ← contentAt id with
  | .mapping _ =>
    flatten (← mergeFuel) id
    makeEntries [] (← entriesAt id)
  | _ => invalid

/-- Makes the keys and values of a sequence of mappings with one entry each. -/
def makePairs : List NodeId → Assembling (List Entry)
  | [] => return []
  | id :: rest => do
    match ← contentAt id with
    | .mapping [(k, v)] =>
      make k
      make v
      return (k, v) :: (← makePairs rest)
    | _ => invalid

/-- The items of a node that is wanted as a sequence. -/
def itemsAt (id : NodeId) : Assembling (List NodeId) := do
  match ← contentAt id with
  | .sequence items => return items
  | _ => invalid

/-- Fills a collection whose turn has come. -/
def fill (id : NodeId) : Assembling Unit := do
  match ← tagAt id with
  | .seq =>
    let items ← itemsAt id
    items.forM make
    setPart id (.list items)
  | .omap | .pairs => setPart id (.pairs (← makePairs (← itemsAt id)))
  | .map =>
    let entries ← makeMapping id
    setPart id (.map (entries.map fun (key, v) => (key.value, v)))
  | .set =>
    let entries ← makeMapping id
    setPart id (.set (entries.map fun (key, _) => key.value))
  | _ => return ()

/-- Fills the collections whose turn will come; `fuel` bounds the number of rounds. -/
def fillAll : (fuel : Nat) → Assembling Unit
  | 0 => return ()
  | fuel + 1 => do
    match (← get).pending with
    | [] => return ()
    | pending =>
      modify fun s => { s with pending := [] }
      pending.reverse.forM fill
      fillAll fuel

/-- Makes the nodes of a graph from its root on. -/
def run (root : NodeId) : Assembling Unit := do
  make root
  fillAll ((← get).contents.size + 1)

end Assembly

/-! ## Putting parts together -/

/-- A value, and whether it is whole. -/
abbrev Built := Value × Bool

namespace Part

/-- The value of a node among those built so far. -/
def builtAt (below : Array Built) (id : NodeId) : Built := below.getD id (.endless, false)

/-- The value that a part is with the values below it. -/
def build (below : Array Built) : Part → Built
  | .value v => (v, true)
  | .sharedNan => (.float .nan, true)
  | .list items =>
    let built := items.map (builtAt below)
    (.list (built.map (·.1)), built.all (·.2))
  | .map entries =>
    let built := entries.map fun (k, id) => (k, builtAt below id)
    (.map (built.map fun (k, b) => (k, b.1)), built.all (·.2.2))
  | .set members => (.set members, true)
  | .pairs entries =>
    let built := entries.map fun (k, v) => (builtAt below k, builtAt below v)
    (.list (built.map fun (k, v) => .tuple [k.1, v.1]), built.all fun (k, v) => k.2 && v.2)

/-- The number of levels that are followed. -/
def maxLevels : Nat := 1000

/-- The values of parts, built level by level upon those `below` until all are whole. -/
def buildAll (parts : Array Part) : (levels : Nat) → (below : Array Built) → Array Built
  | 0, below => below
  | levels + 1, below =>
    if below.all (·.2) then below
    else buildAll parts levels
      (Array.zipWith (fun part built => if built.2 then built else part.build below) parts below)

/-- The values of parts, of which a bounded number of levels is followed. -/
def values (parts : Array Part) : Array Built :=
  let start : Array Built := parts.map fun _ => (.endless, false)
  let built := buildAll parts maxLevels start
  if built.all (·.2) then built
  else
    -- A part has an end if it is whole once as many levels are followed as there are parts.
    let ended := buildAll parts (parts.size + 1) start
    let cut := buildAll parts maxLevels (parts.map fun _ => (.tooDeep, false))
    buildAll parts maxLevels
      (Array.zipWith (fun c e => if e.2 then (c.1, true) else (.endless, false)) cut ended)

end Part

/-- The value of a document under rules for plain scalars. -/
def Graph.value (rules : List ImplicitRule) (g : Graph) : Except ReadError Value := do
  let ((), made) ← (Assembly.run g.root).run (.ofGraph rules g)
  let parts := made.parts.map fun part => part.getD (.value .null)
  return (Part.builtAt (Part.values parts) g.root).1

end Yaml
end Patchwork
