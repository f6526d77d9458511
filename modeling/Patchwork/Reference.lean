import Patchwork.ApiGroup
import Patchwork.Conversion

/-!
# References between resources

A reference makes an Object depend on another resource.  One that carries `patchesFrom` also
copies a value from there.

* `DependsOn` identifies a resource, `PatchesFrom` adds the path of the value to copy, and
  `Reference` holds either or both, with the path that receives the value.
* Each has `ofValue`, which reads its document form, and `toValue`, which writes it.  An absent
  or empty `apiVersion` or `kind` stands for an Object's own.
-/

set_option autoImplicit false

namespace Patchwork

/-- What identifies a resource.  The parts are values because documents are indexed by whatever
they hold there. -/
structure ResourceKey where
  apiVersion : Value
  kind : Value
  ns : Value
  name : Value
  deriving Repr, Inhabited

namespace ResourceKey

/-- The parts in order. -/
def parts (k : ResourceKey) : List Value := [k.apiVersion, k.kind, k.ns, k.name]

/-- Equality of all parts by value. -/
def same (k l : ResourceKey) : Bool := Value.sameItems k.parts l.parts

/-- All parts can be part of a key. -/
def hashable (k : ResourceKey) : Bool := Value.allHashable k.parts

end ResourceKey

/-- The text, or `default` when it is absent or empty. -/
def textOr (default : Text) : Option Text → Text
  | none => default
  | some s => if s.isEmpty then default else s

/-- The entry unless the text is empty. -/
def entryUnlessEmpty (key text : Text) : List (Value × Value) :=
  if text.isEmpty then [] else [(.str key, .str text)]

/-- The entry when there is a value. -/
def entryIfSome {α : Type} (key : Text) (toValue : α → Value) : Option α → List (Value × Value)
  | none => []
  | some a => [(.str key, toValue a)]

theorem textOr_textOr (default : Text) (text : Option Text) :
    textOr default (some (textOr default text)) = textOr default text := by
  cases text with
  | none => simp [textOr]
  | some s => by_cases h : s.isEmpty <;> simp [textOr, h]

@[simp] theorem lookup_entryUnlessEmpty (key k text : Text) :
    Value.lookup key (entryUnlessEmpty k text) =
      if k = key then (if text.isEmpty then none else some (.str text)) else none := by
  simp [entryUnlessEmpty]

@[simp] theorem lookup_entryIfSome {α : Type} (key k : Text) (toValue : α → Value)
    (value : Option α) :
    Value.lookup key (entryIfSome k toValue value) =
      if k = key then value.map toValue else none := by
  cases value <;> simp [entryIfSome]

/-! ## What a reference points at -/

/-- Identifies an Object or any other resource. -/
structure DependsOn where
  name : Text
  apiVersion : Text := ApiGroup.apiVersion
  kind : Text := ApiGroup.kind
  ns : Text := ""
  blockOwnerDeletion : Option Bool := none
  deriving DecidableEq, Repr, Inhabited

namespace DependsOn

/-- The key of the resource. -/
def key (d : DependsOn) : ResourceKey := ⟨.str d.apiVersion, .str d.kind, .str d.ns, .str d.name⟩

/-- The resource as messages name it, with its namespace if it has one. -/
def displayName (d : DependsOn) : Text := if d.ns.isEmpty then d.name else d.ns ++ "/" ++ d.name

/-- The entries of the document form. -/
def entries (d : DependsOn) : List (Value × Value) :=
  [(.str "apiVersion", .str d.apiVersion), (.str "kind", .str d.kind), (.str "name", .str d.name)]
    ++ entryUnlessEmpty "namespace" d.ns
    ++ entryIfSome "blockOwnerDeletion" .bool d.blockOwnerDeletion

/-- The document form. -/
def toValue (d : DependsOn) : Value := .map d.entries

/-- Reads the identifying entries. -/
def ofEntries (location : Text) (es : List (Value × Value)) :
    Except ConversionError DependsOn := do
  let name ← Value.optional es "name" .string location
  let apiVersion ← Value.optional es "apiVersion" .string location
  let kind ← Value.optional es "kind" .string location
  let ns ← Value.optional es "namespace" .string location
  let block ← Value.optional es "blockOwnerDeletion" .boolean location
  return {
    name := name.getD ""
    apiVersion := textOr ApiGroup.apiVersion apiVersion
    kind := textOr ApiGroup.kind kind
    ns := ns.getD ""
    blockOwnerDeletion := block }

/-- The location when none is given. -/
def defaultLocation : Text := "dependsOn"

/-- Reads the document form. -/
def ofValue (location : Text) (v : Value) : Except ConversionError DependsOn := do
  ofEntries location (← Value.expect .object location v)

end DependsOn

/-- A dependency that also copies the value at `fieldPath`. -/
structure PatchesFrom extends DependsOn where
  fieldPath : Option Text := none
  deriving DecidableEq, Repr, Inhabited

namespace PatchesFrom

/-- The document form. -/
def toValue (p : PatchesFrom) : Value :=
  .map (p.entries ++ entryIfSome "fieldPath" .str p.fieldPath)

/-- The location when none is given. -/
def defaultLocation : Text := "patchesFrom"

/-- Reads the document form. -/
def ofValue (location : Text) (v : Value) : Except ConversionError PatchesFrom := do
  let es ← Value.expect .object location v
  let descriptor ← DependsOn.ofEntries location es
  let fieldPath ← Value.optional es "fieldPath" .string location
  return { toDependsOn := descriptor, fieldPath }

end PatchesFrom

/-! ## References -/

/-- A relationship to another resource.  `toFieldPath` is relative to the manifest; without it a
patch lands on the path it was read from. -/
structure Reference where
  dependsOn : Option DependsOn := none
  patchesFrom : Option PatchesFrom := none
  toFieldPath : Option Text := none
  deriving DecidableEq, Repr, Inhabited

namespace Reference

/-- The resource referred to; `patchesFrom` goes before `dependsOn`. -/
def target (r : Reference) : Option DependsOn :=
  (r.patchesFrom.map (·.toDependsOn)).or r.dependsOn

/-- The document form of the resource referred to. -/
def targetValue (r : Reference) : Option Value :=
  (r.patchesFrom.map (·.toValue)).or (r.dependsOn.map (·.toValue))

/-- The reference copies a value. -/
def isPatch (r : Reference) : Bool := r.patchesFrom.isSome

/-- The document form. -/
def toValue (r : Reference) : Value :=
  .map (entryIfSome "dependsOn" (·.toValue) r.dependsOn
    ++ entryIfSome "patchesFrom" (·.toValue) r.patchesFrom
    ++ entryIfSome "toFieldPath" .str r.toFieldPath)

/-- The location when none is given. -/
def defaultLocation : Text := "reference"

/-- Reads the document form. -/
def ofValue (location : Text) (v : Value) : Except ConversionError Reference := do
  let es ← Value.expect .object location v
  let dependsOn ← Value.optionalWith es "dependsOn"
    (DependsOn.ofValue (Location.part location "dependsOn"))
  let patchesFrom ← Value.optionalWith es "patchesFrom"
    (PatchesFrom.ofValue (Location.part location "patchesFrom"))
  let toFieldPath ← Value.optional es "toFieldPath" .string location
  return { dependsOn, patchesFrom, toFieldPath }

end Reference
end Patchwork
