import Patchwork.FieldPath

/-!
# The API group of managed Objects

The names by which an Object document announces itself, and where in it the manifest lies.
-/

set_option autoImplicit false

namespace Patchwork
namespace ApiGroup

/-- The API group. -/
def group : String := "kubernetes.crossplane.io"

/-- The version of the API group. -/
def version : String := "v1alpha1"

/-- The `apiVersion` of an Object document. -/
def apiVersion : String := group ++ "/" ++ version

/-- The `kind` of an Object document. -/
def kind : String := "Object"

/-- The keys that lead from the root of an Object document to its desired manifest. -/
def manifestKeys : List Text := ["spec", "forProvider", "manifest"]

/-- The path of the desired manifest. -/
def manifestPath : FieldPath := manifestKeys.map .field

/-- The document announces itself as an Object. -/
def isObject (entries : List (Value × Value)) : Bool :=
  (Value.field entries "apiVersion").same (.str apiVersion) &&
    (Value.field entries "kind").same (.str kind)

end ApiGroup
end Patchwork
