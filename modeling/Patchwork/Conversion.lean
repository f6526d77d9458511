import Patchwork.Value.Literal

/-!
# Conversion of document values

Typed data is read out of document values, and a value that does not fit is refused together
with its location.

* `Value.unstructured` accepts the values that JSON can hold and gives a copy in which tuples
  are arrays.
* `Value.optional` reads an entry of a wanted kind, null counting as absent.
* `Value.pave` accepts the values that can be a document.
-/

set_option autoImplicit false

namespace Patchwork

/-- Why a value was refused. -/
inductive ConversionFault where
  | keyNotText (key : Value)
  | unsupported (kind : String)
  | expected (wanted kind : String)
  | unknownDeletionPolicy (text : Text)
  | notPaveable (kind : String)
  | notAnObject (kind : String)
  /-- The value is nested deeper than it is followed. -/
  | endless
  deriving Repr

/-- The fault in words. -/
def ConversionFault.message : ConversionFault → String
  | .keyNotText key => "object key " ++ key.literal ++ " is not a string"
  | .unsupported kind => "unsupported value type " ++ kind
  | .expected wanted kind => "expected " ++ wanted ++ ", got " ++ kind
  | .unknownDeletionPolicy text => "unknown deletion policy " ++ Text.quoted text
  | .notPaveable kind => "cannot pave " ++ kind
  | .notAnObject kind => "cannot pave " ++ kind ++ ", expected an object"
  | .endless => Limit.nesting.message

/-- A value at a location was refused. -/
structure ConversionError where
  location : Text
  fault : ConversionFault
  deriving Repr

/-- The location, if there is one, and the fault. -/
def ConversionError.message (e : ConversionError) : Text :=
  if e.location.isEmpty then e.fault.message else e.location ++ ": " ++ e.fault.message

/-- The limit that was met, in following the value or in naming what is wrong with it. -/
def ConversionError.limit? (e : ConversionError) : Option Limit :=
  match e.fault with
  | .keyNotText key => key.limit?
  | .endless => some .nesting
  | _ => none

/-! ## Locations -/

/-- The location of an entry of the map at `location`. -/
def Location.entry (location key : Text) : Text :=
  if location.isEmpty then key else location ++ "." ++ key

/-- The location of the part named `key` of the typed value at `location`. -/
def Location.part (location key : Text) : Text := location ++ "." ++ key

/-- The location of an item of the array at `location`. -/
def Location.item (location : Text) (i : Nat) : Text :=
  location ++ "[" ++ toString i ++ "]"

namespace Value

/-! ## JSON-compatible values -/

mutual

/-- The copy of a value with arrays for tuples, if JSON can hold it. -/
def unstructured (location : Text) : Value → Except ConversionError Value
  | .null => .ok .null
  | .bool b => .ok (.bool b)
  | .int i => .ok (.int i)
  | .float x => .ok (.float x)
  | .str s => .ok (.str s)
  | .map entries => .map <$> unstructuredEntries location entries
  | .list items => .list <$> unstructuredItems location 0 items
  | .tuple items => .list <$> unstructuredItems location 0 items
  | .date _ => .error ⟨location, .unsupported "date"⟩
  | .datetime _ => .error ⟨location, .unsupported "datetime"⟩
  | .bytes _ => .error ⟨location, .unsupported "bytes"⟩
  | .set _ => .error ⟨location, .unsupported "set"⟩
  | .endless => .error ⟨location, .endless⟩

/-- The copies of entries; every key must be a text. -/
def unstructuredEntries (location : Text) :
    List (Value × Value) → Except ConversionError (List (Value × Value))
  | [] => .ok []
  | (.str key, v) :: rest => do
    let copy ← unstructured (Location.entry location key) v
    let copies ← unstructuredEntries location rest
    return (.str key, copy) :: copies
  | (key, _) :: _ => .error ⟨location, .keyNotText key⟩

/-- The copies of the items from position `i` on. -/
def unstructuredItems (location : Text) (i : Nat) :
    List Value → Except ConversionError (List Value)
  | [] => .ok []
  | v :: rest => do
    let copy ← unstructured (Location.item location i) v
    let copies ← unstructuredItems location (i + 1) rest
    return copy :: copies

end

/-! ## Entries of a wanted kind -/

/-- A kind of value that typed data is made of: its name, and the values that have it. -/
structure Shape (α : Type) where
  name : String
  ofValue? : Value → Option α

namespace Shape

/-- Texts. -/
def string : Shape Text := ⟨"string", fun | .str s => some s | _ => none⟩

/-- Truth values. -/
def boolean : Shape Bool := ⟨"boolean", fun | .bool b => some b | _ => none⟩

/-- Arrays. -/
def array : Shape (List Value) := ⟨"array", fun | .list items => some items | _ => none⟩

/-- Maps. -/
def object : Shape (List (Value × Value)) :=
  ⟨"object", fun | .map entries => some entries | _ => none⟩

end Shape

/-- The value as one of the wanted kind. -/
def expect {α : Type} (shape : Shape α) (location : Text) (v : Value) :
    Except ConversionError α :=
  match shape.ofValue? v with
  | some a => .ok a
  | none => .error ⟨location, .expected shape.name v.kindName⟩

/-- The entry under a key as one of the wanted kind; null counts as absent. -/
def optional {α : Type} (entries : List (Value × Value)) (key : Text) (shape : Shape α)
    (location : Text) : Except ConversionError (Option α) :=
  match field entries key with
  | .null => .ok none
  | v => some <$> expect shape (Location.entry location key) v

/-- The entry under a key as `convert` reads it; null counts as absent. -/
def optionalWith {α : Type} (entries : List (Value × Value)) (key : Text)
    (convert : Value → Except ConversionError α) : Except ConversionError (Option α) :=
  match field entries key with
  | .null => .ok none
  | v => some <$> convert v

/-- Each item converted by `convert`, which gets the location of the item. -/
def convertItems {α : Type} (location : Text)
    (convert : Text → Value → Except ConversionError α) (i : Nat) :
    List Value → Except ConversionError (List α)
  | [] => .ok []
  | v :: rest => do
    let a ← convert (Location.item location i) v
    let rest ← convertItems location convert (i + 1) rest
    return a :: rest

/-! ## Documents -/

/-- The value as a document. -/
def pave : Value → Except ConversionError Value
  | .map entries => .ok (.map entries)
  | v => .error ⟨"", .notPaveable v.kindName⟩

/-- The value as a document that is written in place. -/
def paveInPlace : Value → Except ConversionError Value
  | .map entries => .ok (.map entries)
  | v => .error ⟨"", .notAnObject v.kindName⟩

end Value
end Patchwork
