import Patchwork.Object
import Patchwork.Schema

/-!
# The schema of Object documents

`ObjectSchema.schema` is the contract of the document form: references, policies and the wrappers
of the two manifests.  What the manifests hold is left open.

* `ObjectSchema.document` is its published form.
* `ObjectSchema.check` lists the issues of a document.
-/

set_option autoImplicit false

namespace Patchwork
namespace ObjectSchema

/-- Any text. -/
def text : Schema := { type? := some .string }

/-- A map with the given entries, of which some are required. -/
def object (required : List Text) (properties : List (Text × Schema)) : Schema :=
  { type? := some .object, required, properties }

/-- One of the given texts. -/
def oneOf (names : List Text) : Schema :=
  { type? := some .string, enum? := some (names.map .str) }

/-- An array of items of one schema. -/
def arrayOf (items : Schema) : Schema := { type? := some .array, items? := some items }

/-- A manifest, whose contents are open. -/
def manifest : Schema :=
  { type? := some .object, embeddedResource := true, preserveUnknown := true }

/-- What identifies a resource. -/
def descriptor : List (Text × Schema) :=
  [("apiVersion", { text with
      default? := some (.str ApiGroup.apiVersion)
      description? := some "APIVersion of the referenced object." }),
    ("kind", { text with
      default? := some (.str ApiGroup.kind)
      description? := some "Kind of the referenced object." }),
    ("name", { text with
      minLength := 1
      description? := some "Name of the referenced object." }),
    ("namespace", { text with
      description? := some "Namespace of the referenced object." }),
    ("blockOwnerDeletion", {
      type? := some .boolean
      description? := some "BlockOwnerDeletion flag to support cascading forward deletion." })]

/-- A reference. -/
def reference : Schema :=
  object []
    [("dependsOn", object ["name"] descriptor),
      ("patchesFrom", object ["name", "fieldPath"] (descriptor ++
        [(.string "fieldPath", { text with
          minLength := 1
          description? := some
            "Path of the field on the referenced object whose value is copied." })])),
      ("toFieldPath", { text with
        description? := some
          "Path inside the manifest that receives the value. Defaults to patchesFrom.fieldPath." })]

/-- The desired state. -/
def spec : Schema :=
  object ["forProvider"]
    [("managementPolicy", { oneOf (ManagementPolicy.known.map (·.text)) with
        default? := some (.str ManagementPolicy.default.text) }),
      ("deletionPolicy", { oneOf [DeletionPolicy.orphan.text, DeletionPolicy.delete.text] with
        default? := some (.str DeletionPolicy.delete.text) }),
      ("providerConfigRef", object ["name"] [("name", text)]),
      ("writeConnectionSecretToRef",
        object ["name", "namespace"] [("name", text), ("namespace", text)]),
      ("references", arrayOf reference),
      ("forProvider", object ["manifest"] [("manifest", manifest)])]

/-- A condition. -/
def condition : Schema :=
  object ["type", "status"]
    [("type", text), ("status", oneOf ["True", "False", "Unknown"]), ("reason", text),
      ("message", text), ("lastTransitionTime", text)]

/-- The observed state. -/
def status : Schema :=
  object []
    [("conditions", arrayOf condition), ("atProvider", object [] [("manifest", manifest)])]

/-- An Object document. -/
def schema : Schema :=
  object ["apiVersion", "kind", "spec"]
    [("apiVersion", oneOf [ApiGroup.apiVersion]), ("kind", oneOf [ApiGroup.kind]),
      ("metadata", { type? := some .object }), ("spec", spec), ("status", status)]

/-- The schema as it is published, with its identity in front. -/
def document : Value :=
  .map ([(.str "$schema", .str "https://json-schema.org/draft/2020-12/schema"),
      (.str "$id", .str ("https://" ++ ApiGroup.group ++ "/schema/" ++ ApiGroup.version ++ "/"
        ++ ApiGroup.kind.toLower)),
      (.str "title", .str (ApiGroup.kind ++ " (" ++ ApiGroup.apiVersion ++ ")")),
      (.str "description", .str ("A managed Kubernetes object whose manifest can be patched from "
        ++ "other resources before it is applied."))]
    ++ schema.entries)

/-- The issues of a document. -/
def check (document : Value) : List SchemaIssue := schema.check "" document

end ObjectSchema
end Patchwork
