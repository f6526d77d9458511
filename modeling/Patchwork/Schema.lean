import Patchwork.Conversion

/-!
# Schemas

A schema states the kind of a value, which values are allowed, how long a text must be, which
entries a map must have, and the schemas of entries and items.

* `Schema.check` lists every place where a value breaks a schema, in document order.
* `Schema.toValue` is the document form of a schema.

A null entry counts as absent.  A value of the wrong kind gives one issue and none for anything
below it.
-/

set_option autoImplicit false

namespace Patchwork

/-- The kinds that a schema can ask for; a name that is not one of them asks for nothing. -/
inductive SchemaType where
  | string
  | integer
  | number
  | boolean
  | array
  | object
  | null
  | other (name : Text)
  deriving DecidableEq, Repr, Inhabited

namespace SchemaType

/-- The name of a kind. -/
def text : SchemaType → Text
  | .string => "string"
  | .integer => "integer"
  | .number => "number"
  | .boolean => "boolean"
  | .array => "array"
  | .object => "object"
  | .null => "null"
  | .other name => name

/-- The kind of a name. -/
def ofText (name : Text) : SchemaType :=
  ([string, integer, number, boolean, array, object, null].find? fun t => t.text = name).getD
    (.other name)

/-- The value is of the kind; truth values are not numbers. -/
def admits : SchemaType → Value → Bool
  | .string, .str _ => true
  | .integer, .int _ => true
  | .number, .int _ => true
  | .number, .float _ => true
  | .boolean, .bool _ => true
  | .array, .list _ => true
  | .object, .map _ => true
  | .null, .null => true
  | .other _, _ => true
  | _, _ => false

end SchemaType

/-- A schema.  The fields from `default?` on only inform the reader of the schema. -/
structure Schema where
  type? : Option SchemaType := none
  enum? : Option (List Value) := none
  minLength : Nat := 0
  /-- The text that a value must begin with. -/
  pattern? : Option Text := none
  required : List Text := []
  preserveUnknown : Bool := false
  properties : List (Text × Schema) := []
  items? : Option Schema := none
  default? : Option Value := none
  description? : Option Text := none
  embeddedResource : Bool := false
  deriving Repr, Inhabited

/-- How a value breaks a schema. -/
inductive SchemaFault where
  | wrongType (expected : Text) (kind : String)
  | notAllowed (value allowed : Value)
  | tooShort (least : Value) (actual : Nat)
  | mismatch (text pattern : Text)
  | missing (key : Value)
  deriving Repr

/-- The fault in words. -/
def SchemaFault.message : SchemaFault → Text
  | .wrongType expected kind => "expected type '" ++ expected ++ "', got " ++ kind
  | .notAllowed value allowed =>
    "value '" ++ value.display ++ "' not in allowed values " ++ allowed.display
  | .tooShort least actual =>
    "string too short (min " ++ least.display ++ ", got " ++ toString actual ++ ")"
  | .mismatch text pattern =>
    "string '" ++ text ++ "' does not match pattern '" ++ pattern ++ "'"
  | .missing key => "missing required property '" ++ key.display ++ "'"

/-- A fault at a location; the empty location is the root. -/
structure SchemaIssue where
  location : Text
  fault : SchemaFault
  deriving Repr

/-- The location, a slash for the root, and the fault. -/
def SchemaIssue.message (i : SchemaIssue) : Text :=
  (if i.location.isEmpty then ("/" : Text) else i.location) ++ ": " ++ i.fault.message

namespace Schema

/-! ## Checking -/

/-- The faults of a value itself, when its kind fits. -/
def ownFaults (schema : Schema) (v : Value) : List SchemaFault :=
  let enumFaults := match schema.enum? with
    | some allowed => if allowed.any v.same then [] else [.notAllowed v (.list allowed)]
    | none => []
  let textFaults := match v with
    | .str s =>
      (if s.length < schema.minLength then
        [SchemaFault.tooShort (.int schema.minLength) s.length] else [])
      ++ (match schema.pattern? with
        | some pattern => if s.startsWith pattern then [] else [.mismatch s pattern]
        | none => [])
    | _ => []
  let entryFaults := match v with
    | .map es =>
      (schema.required.filter fun key => (Value.field es key).isNull).map fun key =>
        .missing (.str key)
    | _ => []
  enumFaults ++ textFaults ++ entryFaults

/-- The kind of the value is the one that the schema asks for, if it asks. -/
def typeFits (schema : Schema) (v : Value) : Bool := schema.type?.all (·.admits v)

/-- The fault of a value whose kind does not fit. -/
def typeFault (schema : Schema) (v : Value) : List SchemaFault :=
  match schema.type? with
  | some t => [.wrongType t.text v.kindName]
  | none => []

mutual

/-- All issues of the value at `location`. -/
def check (location : Text) (schema : Schema) : Value → List SchemaIssue
  | .map es =>
    if schema.typeFits (.map es) then
      (schema.ownFaults (.map es)).map (⟨location, ·⟩)
        ++ (if schema.preserveUnknown then [] else checkEntries location schema.properties es)
    else (schema.typeFault (.map es)).map (⟨location, ·⟩)
  | .list items =>
    if schema.typeFits (.list items) then
      (schema.ownFaults (.list items)).map (⟨location, ·⟩)
        ++ (match schema.items? with
          | some itemSchema => checkItems location itemSchema 0 items
          | none => [])
    else (schema.typeFault (.list items)).map (⟨location, ·⟩)
  | v =>
    (if schema.typeFits v then schema.ownFaults v else schema.typeFault v).map (⟨location, ·⟩)

/-- The issues of the entries that have a schema. -/
def checkEntries (location : Text) (properties : List (Text × Schema)) :
    List (Value × Value) → List SchemaIssue
  | [] => []
  | (.str key, v) :: rest =>
    (if v.isNull then []
      else match properties.lookup key with
        | some schema => check (Location.entry location key) schema v
        | none => [])
    ++ checkEntries location properties rest
  | _ :: rest => checkEntries location properties rest

/-- The issues of the items from position `i` on. -/
def checkItems (location : Text) (schema : Schema) (i : Nat) : List Value → List SchemaIssue
  | [] => []
  | v :: rest =>
    check (Location.item location i) schema v ++ checkItems location schema (i + 1) rest

end

/-! ## Document form -/

/-- The entry when the condition holds. -/
def entryIf (condition : Bool) (key : Text) (v : Value) : List (Value × Value) :=
  if condition then [(.str key, v)] else []

/-- The entry when there is a value. -/
def entryOf (key : Text) : Option Value → List (Value × Value)
  | some v => [(.str key, v)]
  | none => []

mutual

/-- The document form of a schema. -/
def toValue : Schema → Value
  | ⟨type?, enum?, minLength, pattern?, required, preserveUnknown, properties, items?,
      default?, description?, embeddedResource⟩ =>
    .map (entryOf "type" (type?.map (.str ·.text))
      ++ entryIf embeddedResource "x-kubernetes-embedded-resource" (.bool true)
      ++ entryIf preserveUnknown "x-kubernetes-preserve-unknown-fields" (.bool true)
      ++ entryIf (!required.isEmpty) "required" (.list (required.map .str))
      ++ entryOf "default" default?
      ++ entryOf "enum" (enum?.map .list)
      ++ entryIf (minLength != 0) "minLength" (.int minLength)
      ++ entryOf "pattern" (pattern?.map .str)
      ++ entryIf (!properties.isEmpty) "properties" (.map (propertyValues properties))
      ++ itemsEntry items?
      ++ entryOf "description" (description?.map .str))

/-- The document forms of named schemas. -/
def propertyValues : List (Text × Schema) → List (Value × Value)
  | [] => []
  | (key, schema) :: rest => (.str key, toValue schema) :: propertyValues rest

/-- The entry for the schema of items. -/
def itemsEntry : Option Schema → List (Value × Value)
  | some schema => [(.str "items", toValue schema)]
  | none => []

end

/-- The entries of the document form. -/
def entries (schema : Schema) : List (Value × Value) :=
  match schema.toValue with
  | .map es => es
  | _ => []

end Schema
end Patchwork
