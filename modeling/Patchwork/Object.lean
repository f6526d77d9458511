import Patchwork.Policy
import Patchwork.Reference

/-!
# Managed Objects

An Object carries the manifest of a resource to create, references to other resources, and a
management policy.  Its metadata is kept as it is.

* `Object.ofValue` reads the document form and refuses a value of the wrong shape with its
  location; null counts as absent throughout.
* `Object.toValue` writes the document form, with defaults filled in and unknown entries gone.
-/

set_option autoImplicit false

namespace Patchwork

/-- What happens to the external resource when its Object is deleted. -/
inductive DeletionPolicy where
  | delete
  | orphan
  deriving DecidableEq, Repr, Inhabited

namespace DeletionPolicy

/-- The name of a deletion policy. -/
def text : DeletionPolicy → String
  | .delete => "Delete"
  | .orphan => "Orphan"

/-- The deletion policy of a name. -/
def ofText? (name : Text) : Option DeletionPolicy :=
  [DeletionPolicy.delete, .orphan].find? fun p => (p.text : Text) = name

/-- Reads a deletion policy. -/
def ofText (location name : Text) : Except ConversionError DeletionPolicy :=
  match ofText? name with
  | some p => .ok p
  | none => .error ⟨location, .unknownDeletionPolicy name⟩

end DeletionPolicy

/-! ## Manifests -/

/-- Reads the manifest out of its wrapper; an absent one is empty. -/
def manifestOf (location : Text) (v : Value) :
    Except ConversionError (List (Value × Value)) := do
  let es ← Value.expect .object location v
  let manifest ← Value.optional es "manifest" .object location
  Value.unstructuredEntries (Location.part location "manifest") (manifest.getD [])

/-- The desired state: the manifest of the resource to create. -/
structure ObjectParameters where
  manifest : List (Value × Value) := []
  deriving Repr, Inhabited

namespace ObjectParameters

/-- The document form. -/
def toValue (p : ObjectParameters) : Value := .map [(.str "manifest", .map p.manifest)]

/-- The location when none is given. -/
def defaultLocation : Text := "spec.forProvider"

/-- Reads the document form. -/
def ofValue (location : Text) (v : Value) : Except ConversionError ObjectParameters := do
  return ⟨← manifestOf location v⟩

end ObjectParameters

/-- The observed state: the manifest of the remote resource. -/
structure ObjectObservation where
  manifest : List (Value × Value) := []
  deriving Repr, Inhabited

namespace ObjectObservation

/-- The entries of the document form, none for an empty manifest. -/
def entries (o : ObjectObservation) : List (Value × Value) :=
  if o.manifest.isEmpty then [] else [(.str "manifest", .map o.manifest)]

/-- The document form. -/
def toValue (o : ObjectObservation) : Value := .map o.entries

/-- The location when none is given. -/
def defaultLocation : Text := "status.atProvider"

/-- Reads the document form. -/
def ofValue (location : Text) (v : Value) : Except ConversionError ObjectObservation := do
  return ⟨← manifestOf location v⟩

end ObjectObservation

/-! ## Status -/

/-- An observed condition, such as `Ready` or `Synced`. -/
structure Condition where
  type : Text
  status : Text
  reason : Text := ""
  message : Text := ""
  lastTransitionTime : Text := ""
  deriving DecidableEq, Repr, Inhabited

namespace Condition

/-- The document form. -/
def toValue (c : Condition) : Value :=
  .map ([(.str "type", .str c.type), (.str "status", .str c.status)]
    ++ entryUnlessEmpty "reason" c.reason
    ++ entryUnlessEmpty "message" c.message
    ++ entryUnlessEmpty "lastTransitionTime" c.lastTransitionTime)

/-- The location when none is given. -/
def defaultLocation : Text := "condition"

/-- Reads the document form. -/
def ofValue (location : Text) (v : Value) : Except ConversionError Condition := do
  let es ← Value.expect .object location v
  let type ← Value.optional es "type" .string location
  let status ← Value.optional es "status" .string location
  let reason ← Value.optional es "reason" .string location
  let message ← Value.optional es "message" .string location
  let lastTransitionTime ← Value.optional es "lastTransitionTime" .string location
  return {
    type := type.getD ""
    status := status.getD ""
    reason := reason.getD ""
    message := message.getD ""
    lastTransitionTime := lastTransitionTime.getD "" }

end Condition

/-- The observed state of an Object. -/
structure ObjectStatus where
  atProvider : ObjectObservation := {}
  conditions : List Condition := []
  deriving Repr, Inhabited

namespace ObjectStatus

/-- The first condition of a type. -/
def condition? (s : ObjectStatus) (type : Text) : Option Condition :=
  s.conditions.find? fun c => c.type = type

/-- The entries of the document form. -/
def entries (s : ObjectStatus) : List (Value × Value) :=
  (if s.conditions.isEmpty then []
    else [(.str "conditions", .list (s.conditions.map (·.toValue)))])
  ++ (if s.atProvider.entries.isEmpty then []
    else [(.str "atProvider", s.atProvider.toValue)])

/-- The document form. -/
def toValue (s : ObjectStatus) : Value := .map s.entries

/-- The location when none is given. -/
def defaultLocation : Text := "status"

/-- Reads the document form. -/
def ofValue (location : Text) (v : Value) : Except ConversionError ObjectStatus := do
  let es ← Value.expect .object location v
  let conditions ← Value.optional es "conditions" .array location
  let atProvider ← Value.optionalWith es "atProvider"
    (ObjectObservation.ofValue (Location.part location "atProvider"))
  let conditions ← Value.convertItems (Location.part location "conditions") Condition.ofValue 0
    (conditions.getD [])
  return { atProvider := atProvider.getD {}, conditions }

end ObjectStatus

/-! ## Spec -/

/-- The name and namespace of a secret. -/
structure SecretReference where
  name : Text
  ns : Text
  deriving DecidableEq, Repr, Inhabited

namespace SecretReference

/-- The entries of the document form. -/
def entries (s : SecretReference) : List (Value × Value) :=
  [(.str "name", .str s.name), (.str "namespace", .str s.ns)]

/-- The document form. -/
def toValue (s : SecretReference) : Value := .map s.entries

/-- Reads the entries of the document form. -/
def ofEntries (location : Text) (es : List (Value × Value)) :
    Except ConversionError SecretReference := do
  let name ← Value.optional es "name" .string location
  let ns ← Value.optional es "namespace" .string location
  return ⟨name.getD "", ns.getD ""⟩

end SecretReference

/-- The desired state of an Object. -/
structure ObjectSpec where
  forProvider : ObjectParameters := {}
  managementPolicy : ManagementPolicy := .default
  references : List Reference := []
  deletionPolicy : DeletionPolicy := .delete
  providerConfig : Text := "default"
  connectionSecret : Option SecretReference := none
  deriving Repr, Inhabited

namespace ObjectSpec

/-- The references that copy a value, in the order of declaration. -/
def patchReferences (s : ObjectSpec) : List Reference := s.references.filter (·.isPatch)

/-- The document forms of the resources that the Object depends on, in the order of
declaration. -/
def dependencies (s : ObjectSpec) : List Value := s.references.filterMap (·.targetValue)

/-- The document form. -/
def toValue (s : ObjectSpec) : Value :=
  .map ([(.str "deletionPolicy", .str s.deletionPolicy.text),
      (.str "providerConfigRef", .map [(.str "name", .str s.providerConfig)]),
      (.str "managementPolicy", .str s.managementPolicy.text)]
    ++ entryIfSome "writeConnectionSecretToRef" (·.toValue) s.connectionSecret
    ++ (if s.references.isEmpty then []
      else [(.str "references", .list (s.references.map (·.toValue)))])
    ++ [(.str "forProvider", s.forProvider.toValue)])

/-- The policy of a name, the default one when it is absent or empty. -/
def policyOf : Option Text → ManagementPolicy
  | none => .default
  | some name => if name.isEmpty then .default else .ofText name

/-- The location when none is given. -/
def defaultLocation : Text := "spec"

/-- Reads the document form.  The kinds of the direct entries are checked first, then the parts
below them. -/
def ofValue (location : Text) (v : Value) : Except ConversionError ObjectSpec := do
  let es ← Value.expect .object location v
  let references ← Value.optional es "references" .array location
  let policy ← Value.optional es "managementPolicy" .string location
  let deletion ← Value.optional es "deletionPolicy" .string location
  let deletionPolicy ← DeletionPolicy.ofText (Location.part location "deletionPolicy")
    (deletion.getD DeletionPolicy.delete.text)
  let providerRef ← Value.optional es "providerConfigRef" .object location
  let secretRef ← Value.optional es "writeConnectionSecretToRef" .object location
  let forProvider ← Value.optionalWith es "forProvider"
    (ObjectParameters.ofValue (Location.part location "forProvider"))
  let references ← Value.convertItems (Location.part location "references") Reference.ofValue 0
    (references.getD [])
  let providerConfig ← Value.optional (providerRef.getD []) "name" .string
    (Location.part location "providerConfigRef")
  let connectionSecret ← secretRef.mapM
    (SecretReference.ofEntries (Location.part location "writeConnectionSecretToRef"))
  return {
    forProvider := forProvider.getD {}
    managementPolicy := policyOf policy
    references
    deletionPolicy
    providerConfig := providerConfig.getD "default"
    connectionSecret }

end ObjectSpec

/-! ## The Object -/

/-- A managed Object. -/
structure Object where
  metadata : List (Value × Value) := []
  spec : ObjectSpec := {}
  status : ObjectStatus := {}
  apiVersion : Text := ApiGroup.apiVersion
  kind : Text := ApiGroup.kind
  deriving Repr, Inhabited

namespace Object

/-- The name in the metadata as it stands, empty when absent. -/
def name (o : Object) : Value := Value.fieldOr o.metadata "name" (.str "")

/-- The namespace in the metadata as it stands, empty when absent. -/
def ns (o : Object) : Value := Value.fieldOr o.metadata "namespace" (.str "")

/-- The key of the Object. -/
def key (o : Object) : ResourceKey := ⟨.str o.apiVersion, .str o.kind, o.ns, o.name⟩

/-- The document form; an empty status is left out. -/
def toValue (o : Object) : Value :=
  .map ([(.str "apiVersion", .str o.apiVersion), (.str "kind", .str o.kind),
      (.str "metadata", .map o.metadata), (.str "spec", o.spec.toValue)]
    ++ (if o.status.entries.isEmpty then [] else [(.str "status", o.status.toValue)]))

/-- Reads the document form. -/
def ofValue (v : Value) : Except ConversionError Object := do
  let es ← Value.expect .object "" v
  let metadata ← Value.optional es "metadata" .object ""
  let metadata ← Value.unstructuredEntries "metadata" (metadata.getD [])
  let spec ← Value.optionalWith es "spec" (ObjectSpec.ofValue ObjectSpec.defaultLocation)
  let status ← Value.optionalWith es "status" (ObjectStatus.ofValue ObjectStatus.defaultLocation)
  let apiVersion ← Value.optional es "apiVersion" .string ""
  let kind ← Value.optional es "kind" .string ""
  return {
    metadata
    spec := spec.getD {}
    status := status.getD {}
    apiVersion := apiVersion.getD ApiGroup.apiVersion
    kind := kind.getD ApiGroup.kind }

end Object
end Patchwork
