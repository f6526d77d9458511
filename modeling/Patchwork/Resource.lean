import Patchwork.KindError
import Patchwork.Object

/-!
# Resources

A resource is given as a document or as a typed Object.

* `Resource.content` is its document; `Resource.indexKey` is the key it is known by.
-/

set_option autoImplicit false

namespace Patchwork

/-- A resource, as a document or typed. -/
inductive Resource where
  | document (v : Value)
  | object (o : Object)
  deriving Repr, Inhabited

namespace Resource

/-- The document form. -/
def toValue : Resource → Value
  | .document v => v
  | .object o => o.toValue

/-- The document of a resource; one given as a document must be a map. -/
def content : Resource → Except ConversionError Value
  | .document v => v.pave
  | .object o => .ok o.toValue

/-- The key of a document, with the empty text for what is absent. -/
def keyOf (document : Value) : Except KindError ResourceKey := do
  let entries ← document.entriesOf
  let metadata ← (Value.field entries "metadata").entriesIfSet
  return {
    apiVersion := Value.fieldOr entries "apiVersion" (.str "")
    kind := Value.fieldOr entries "kind" (.str "")
    ns := Value.fieldOr metadata "namespace" (.str "")
    name := Value.fieldOr metadata "name" (.str "") }

/-- The key that a resource is known by. -/
def indexKey (r : Resource) : Except KindError ResourceKey := do
  let key ← keyOf r.toValue
  if key.hashable then return key else throw .unhashable

end Resource
end Patchwork
