import Patchwork.FieldPath

/-!
# Reading and writing documents by path

A document is a value whose root is a map.

* `Value.getAt` reads the value at a path.
* `Value.setAt` writes a value at a path and gives the new document.  Missing and null nodes on the
  way become maps or arrays as the path needs, and arrays are padded with null.
* `Value.overwriteAt` writes into a document in place: it tells what the document is afterwards,
  also when the write was cut short.  `Value.overwriteCopyAt` also covers a value that cannot be
  copied, which shows only when the walk has come to the last segment.

All follow the path segment by segment (`Value.readFrom`, `Value.writeFrom`,
`Value.overwriteFrom`) and report the first place where the document does not fit the path.  How
far an array can be padded is up to the machine.
-/

set_option autoImplicit false

namespace Patchwork
namespace Value

/-- The child of a node that a segment selects; `trail` is the path to the node. -/
def child (trail : FieldPath) : Segment → Value → Except PathError Value
  | s, .null => .error (.noSuchField (trail ++ [s]))
  | .index i, .list items =>
    match items[i]? with
    | some v => .ok v
    | none => .error (.outOfBounds (trail ++ [.index i]))
  | .index _, _ => .error (.notArray trail)
  | .field name, .map entries =>
    match lookup name entries with
    | some v => .ok v
    | none => .error (.noSuchField (trail ++ [.field name]))
  | .field _, _ => .error (.notObject trail)

/-- The value that a path reaches from a node; `trail` is the path to the node. -/
def readFrom (trail : FieldPath) : FieldPath → Value → Except PathError Value
  | [], node => .ok node
  | s :: rest, node => child trail s node >>= readFrom (trail ++ [s]) rest

/-- The value that a path reaches in a document. -/
def read (path : FieldPath) (document : Value) : Except PathError Value :=
  readFrom [] path document

/-- The items of an array, none for null. -/
def itemsAt (trail : FieldPath) : Value → Except PathError (List Value)
  | .null => .ok []
  | .list items => .ok items
  | _ => .error (.notArray trail)

/-- The entries of a map, none for null. -/
def entriesAt (trail : FieldPath) : Value → Except PathError (List (Value × Value))
  | .null => .ok []
  | .map entries => .ok entries
  | _ => .error (.notObject trail)

/-- The list with `value` at a position, padded with null up to it. -/
def setPadded (value : Value) (i : Nat) (items : List Value) : List Value :=
  if i < items.length then items.set i value
  else items ++ List.replicate (i - items.length) .null ++ [value]

/-- The array can be padded up to a position. -/
def checkGrowth [Machine] (trail : FieldPath) (i : Nat) (items : List Value) :
    Except PathError Unit :=
  match Limit.ofGrowth? items.length (i + 1) with
  | some limit => .error (.tooLong trail limit)
  | none => .ok ()

/-- A node with `value` written where a path leads from it; `trail` is the path to the node. -/
def writeFrom [Machine] (trail : FieldPath) :
    FieldPath → (value node : Value) → Except PathError Value
  | [], value, _ => .ok value
  | .index i :: rest, value, node => do
    let items ← itemsAt trail node
    checkGrowth trail i items
    let item ← writeFrom (trail ++ [.index i]) rest value (items.getD i .null)
    return .list (setPadded item i items)
  | .field name :: rest, value, node => do
    let entries ← entriesAt trail node
    let item ← writeFrom (trail ++ [.field name]) rest value (field entries name)
    return .map (insert name item entries)

/-- The document with a value written where a path leads. -/
def write [Machine] (path : FieldPath) (value document : Value) : Except PathError Value :=
  writeFrom [] path value document

/-! ## Writing in place -/

/-- A node that was written in place: what it is now, and the error that cut the write short, if
there was one. -/
structure Overwritten (ε : Type := PathError) where
  node : Value
  error : Option ε
  deriving Repr, Inhabited

/-- The node, with an empty container for the first segment of a path in the place of null. -/
def orContainer : FieldPath → Value → Value
  | .index _ :: _, .null => .list []
  | .field _ :: _, .null => .map []
  | _, node => node

/-- The array with null behind its items up to a position. -/
def padTo (i : Nat) (items : List Value) : List Value :=
  items ++ List.replicate (i + 1 - items.length) .null

/-- Steps from a node to the child that a segment selects, in place: an array is padded up to it,
and in the place of null goes an empty container for the path that follows, `rest`.  What becomes
of the child is up to `next`. -/
def stepInto [Machine] (trail rest : FieldPath) (next : Value → Overwritten) :
    Segment → (node : Value) → Overwritten
  | .index i, .list items =>
    match checkGrowth trail i items with
    | .error e => ⟨.list items, some e⟩
    | .ok () =>
      let padded := padTo i items
      let item := next (orContainer rest (padded.getD i .null))
      ⟨.list (padded.set i item.node), item.error⟩
  | .index _, node => ⟨node, some (.notArray trail)⟩
  | .field name, .map entries =>
    let item := next (orContainer rest (field entries name))
    ⟨.map (insert name item.node entries), item.error⟩
  | .field _, node => ⟨node, some (.notObject trail)⟩

/-- Writes `value` where a path leads from a node, in place: containers are created and arrays
padded on the way, before it is known whether the rest of the path can be followed. -/
def overwriteFrom [Machine] (trail : FieldPath) (value : Value) :
    FieldPath → (node : Value) → Overwritten
  | [], _ => ⟨value, none⟩
  | s :: rest, node => stepInto trail rest (overwriteFrom (trail ++ [s]) value rest) s node

/-- Writes a value in place where a path leads. -/
def overwrite [Machine] (path : FieldPath) (value document : Value) : Overwritten :=
  overwriteFrom [] value path document

/-- Walks along a path from a node, in place, up to where its last segment is to be written. -/
def approachFrom [Machine] (trail : FieldPath) : FieldPath → (node : Value) → Overwritten
  | s :: t :: rest, node =>
    stepInto trail (t :: rest) (approachFrom (trail ++ [s]) (t :: rest)) s node
  | _, node => ⟨node, none⟩

/-- The value at a path of a document. -/
def getAt (document : Value) (path : Text) : Except PathError Value := do
  read (← FieldPath.ofText path) document

/-- The document with a value written at a path. -/
def setAt [Machine] (document : Value) (path : Text) (value : Value) : Except PathError Value := do
  write (← FieldPath.ofText path) value document

/-- Writes a value at a path of a document, in place. -/
def overwriteAt [Machine] (document : Value) (path : Text) (value : Value) : Overwritten :=
  match FieldPath.ofText path with
  | .ok segments => overwrite segments value document
  | .error e => ⟨document, some e⟩

/-! ## Values that cannot be copied -/

/-- Why a value cannot be copied. -/
inductive CopyFault where
  /-- It is nested deeper than it is followed. -/
  | tooDeep
  /-- It is, or holds, something of a kind that has no copies. -/
  | refused
  deriving DecidableEq, Repr

/-- What can go wrong in writing a copy of a value. -/
inductive WriteError where
  | path (e : PathError)
  | copy (fault : CopyFault)
  deriving DecidableEq, Repr

/-- Writes a copy of a value at a path of a document, in place; `copied` is what comes of copying
it.  The copy is made when the walk has come to the last segment. -/
def overwriteCopyAt [Machine] (document : Value) (path : Text) (copied : Except CopyFault Value) :
    Overwritten WriteError :=
  match copied with
  | .ok value =>
    let after := document.overwriteAt path value
    ⟨after.node, after.error.map .path⟩
  | .error fault =>
    match FieldPath.ofText path with
    | .ok segments =>
      let after := approachFrom [] segments document
      ⟨after.node, (after.error.map .path).or (some (.copy fault))⟩
    | .error e => ⟨document, some (.path e)⟩

end Value
end Patchwork
