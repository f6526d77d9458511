import Patchwork.KindError
import Patchwork.Schema

/-!
# Schemas given as documents

A schema can itself be a document, and then nothing is known of it before it is used.
`SchemaDocument.check` checks a value against such a schema.  An entry of the schema is looked at
only when it applies to the value; if it is of a kind that cannot serve there, the check stops with
a `KindError`.

Whatever has members can list allowed values (`SchemaDocument.contains`), whatever can be gone
through can list required entries (`SchemaDocument.membersOf`), and whatever can be asked for a
member can hold the schemas of entries (`SchemaDocument.memberAt`).
-/

set_option autoImplicit false

namespace Patchwork
namespace SchemaDocument

/-! ## Members of values -/

/-- The list has `part` in it as a run of neighbours. -/
def hasRun {α : Type} [BEq α] (part : List α) : List α → Bool
  | [] => part.isEmpty
  | c :: rest => part.isPrefixOf (c :: rest) || hasRun part rest

/-- The byte of a number. -/
def byteOf (i : Int) : Except KindError UInt8 :=
  if 0 ≤ i && i < 256 then .ok (UInt8.ofNat i.toNat) else .error .notAByte

/-- A value is a member of a container: an item, a key, or a part of a text or of bytes. -/
def contains (v : Value) : Value → Except KindError Bool
  | .list items | .tuple items => .ok (items.any v.same)
  | .map entries =>
    if v.hashable then .ok (entries.any fun e => v.same e.1) else .error .unhashable
  | .set members =>
    match v with
    | .set _ => .ok (members.any v.same)
    | _ => if v.hashable then .ok (members.any v.same) else .error .unhashable
  | .str text =>
    match v with
    | .str part => .ok (hasRun part.toList text.toList)
    | _ => .error .notText
  | .bytes bytes =>
    match v, v.whole? with
    | .bytes part, _ => .ok (hasRun part bytes)
    | _, some i => bytes.contains <$> byteOf i
    | _, none => .error .notAContainer
  | _ => .error .notAContainer

/-- The members of a value in order; those of a map are its keys. -/
def membersOf : Value → Except KindError (List Value)
  | .list items | .tuple items | .set items => .ok items
  | .map entries => .ok (entries.map (·.1))
  | .str text => .ok (text.toList.map fun c => .str (Text.ofList [c]))
  | .bytes bytes => .ok (bytes.map fun b => .int (Int.ofNat b.toNat))
  | _ => .error .notIterable

/-- The item at a position, counted from the end if it is negative. -/
def itemAt (items : List Value) (i : Int) : Except KindError Value :=
  let place := if i < 0 then i + Int.ofNat items.length else i
  match (if place < 0 then none else items[place.toNat]?) with
  | some v => .ok v
  | none => .error .outOfRange

/-- The value under a key of any kind. -/
def entryAt? (key : Value) (entries : List (Value × Value)) : Option Value :=
  (entries.find? fun e => key.same e.1).map (·.2)

/-- What a container holds under a key or at a position. -/
def memberAt (key : Value) : Value → Except KindError Value
  | .map entries =>
    match entryAt? key entries with
    | some v => .ok v
    | none => .error .outOfRange
  | .list items | .tuple items =>
    match key.whole? with
    | some i => itemAt items i
    | none => .error .notAContainer
  | .bytes bytes =>
    match key.whole? with
    | some i => itemAt (bytes.map fun b => .int (Int.ofNat b.toNat)) i
    | none => .error .notAContainer
  | _ => .error .notAContainer

/-! ## Locations -/

/-- The location of an entry; a key that counts as unset leaves the root. -/
def entryLocation (location key : Value) : Value :=
  if location.truthy then .str (location.display ++ "." ++ key.display) else key

/-- The location of an item. -/
def itemLocation (location : Value) (i : Nat) : Value := .str (Location.item location.display i)

/-- A fault at a location. -/
def issueAt (location : Value) (fault : SchemaFault) : SchemaIssue :=
  ⟨location.displayIfSet, fault⟩

/-! ## Checking -/

/-- The fault of a value whose kind is not the one that the schema asks for. -/
def kindFault? (schema : List (Value × Value)) (v : Value) :
    Except KindError (Option SchemaFault) :=
  match Value.field schema "type" with
  | .str name =>
    .ok (if name.isEmpty || (SchemaType.ofText name).admits v then none
      else some (.wrongType name v.kindName))
  | wanted => if !wanted.truthy || wanted.hashable then .ok none else .error .unhashable

/-- The fault of a value that is not among the allowed ones. -/
def enumFaults (schema : List (Value × Value)) (v : Value) :
    Except KindError (List SchemaFault) :=
  match Value.lookup "enum" schema with
  | none => .ok []
  | some allowed => do
    return if ← contains v allowed then [] else [.notAllowed v allowed]

/-- A length is below a bound. -/
def isBelow (n : Nat) : Value → Except KindError Bool
  | .float x => .ok (x.exceeds n)
  | bound =>
    match bound.whole? with
    | some i => .ok (Int.ofNat n < i)
    | none => .error .notComparable

/-- The faults of a text. -/
def textFaults (schema : List (Value × Value)) (s : Text) :
    Except KindError (List SchemaFault) := do
  let least := Value.fieldOr schema "minLength" (.int 0)
  let short := if ← isBelow s.length least then [SchemaFault.tooShort least s.length] else []
  match Value.lookup "pattern" schema with
  | none => return short
  | some (.str pattern) =>
    return short ++ (if s.startsWith pattern then [] else [.mismatch s pattern])
  | some _ => throw .notText

/-- The faults of a map from which required entries are missing. -/
def missingFaults (schema entries : List (Value × Value)) :
    Except KindError (List SchemaFault) := do
  let keys ← membersOf (Value.fieldOr schema "required" (.list []))
  let faults ← keys.mapM fun key =>
    if key.hashable then
      .ok (if ((entryAt? key entries).getD .null).isNull then [SchemaFault.missing key] else [])
    else .error KindError.unhashable
  return faults.flatten

/-- The faults of a value itself, when its kind fits. -/
def ownFaults (schema : List (Value × Value)) (v : Value) :
    Except KindError (List SchemaFault) := do
  let faults ← enumFaults schema v
  match v with
  | .str s => return faults ++ (← textFaults schema s)
  | .map entries => return faults ++ (← missingFaults schema entries)
  | _ => return faults

/-- The issues of a value: the one of its kind, or else its own and, where `below` goes on with the
schema, those of its parts. -/
def issues (location schema v : Value)
    (below : List (Value × Value) → Except KindError (List SchemaIssue)) :
    Except KindError (List SchemaIssue) := do
  let schema ← schema.entriesOf
  match ← kindFault? schema v with
  | some fault => return [issueAt location fault]
  | none =>
    let own ← ownFaults schema v
    return own.map (issueAt location) ++ (← below schema)

mutual

/-- All issues of the value at `location`. -/
def check (location schema : Value) : Value → Except KindError (List SchemaIssue)
  | .map entries =>
    issues location schema (.map entries) fun schema =>
      if (Value.field schema "x-kubernetes-preserve-unknown-fields").truthy then .ok []
      else checkEntries location (Value.fieldOr schema "properties" (.map [])) entries
  | .list items =>
    issues location schema (.list items) fun schema =>
      match Value.lookup "items" schema with
      | some itemSchema => checkItems location itemSchema 0 items
      | none => .ok []
  | v => issues location schema v fun _ => .ok []
termination_by structural v => v

/-- The issues of the entries that have a schema. -/
def checkEntries (location properties : Value) :
    List (Value × Value) → Except KindError (List SchemaIssue)
  | [] => .ok []
  | (key, v) :: rest => do
    let known ← contains key properties
    let own ←
      if known && !v.isNull then
        memberAt key properties >>= fun schema => check (entryLocation location key) schema v
      else .ok []
    return own ++ (← checkEntries location properties rest)
termination_by structural entries => entries

/-- The issues of the items from position `i` on. -/
def checkItems (location schema : Value) (i : Nat) :
    List Value → Except KindError (List SchemaIssue)
  | [] => .ok []
  | v :: rest => do
    let own ← check (itemLocation location i) schema v
    return own ++ (← checkItems location schema (i + 1) rest)
termination_by structural items => items

end

end SchemaDocument
end Patchwork
