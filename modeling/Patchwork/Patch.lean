import Patchwork.Document
import Patchwork.Resolver

/-!
# Patching

A patch copies the value at `patchesFrom.fieldPath` of a source into the desired manifest of a
destination, at `toFieldPath` or, without it, at the path it was read from.

* `Patch.writeManifest` writes into the manifest of a document.  The manifest is a document of its
  own there, so no path leads out of it.
* `Object.patch` and `Resource.patch` patch a destination and convert it back to what it was.
* `Reference.apply` applies one reference, and `Reference.applyRecording` also records the path that
  was used.
* `Object.applyPatches` applies all references of an Object in turn, whatever way their sources are
  found; `Object.applyReferences` finds them in a resolver.
-/

set_option autoImplicit false

namespace Patchwork
namespace Patch

/-- The entries of the map that keys lead to from a node; missing and null nodes are empty
maps. -/
def descend (trail : FieldPath) : List Text → Value → Except PathError (List (Value × Value))
  | [], node => Value.entriesAt trail node
  | key :: rest, node => do
    let entries ← Value.entriesAt trail node
    descend (trail ++ [.field key]) rest (Value.field entries key)

/-- The entries of the desired manifest of a document. -/
def manifestEntries (document : Value) : Except PathError (List (Value × Value)) :=
  descend [] ApiGroup.manifestKeys document

/-- The document with a value written at a path of its desired manifest. -/
def writeManifest [Machine] (document : Value) (path : Text) (value : Value) :
    Except PathError Value := do
  let manifest ← manifestEntries document
  let patched ← (Value.map manifest).setAt path value
  Value.write ApiGroup.manifestPath patched document

end Patch

/-- The Object with a value written at a path of its desired manifest. -/
def Object.patch [Machine] (o : Object) (path : Text) (value : Value) : Except Error Object := do
  let document ← Error.ofPath (Patch.writeManifest o.toValue path value)
  Error.ofConversion (Object.ofValue document)

/-- The document with a value written at a path of its desired manifest, if JSON can hold the
result. -/
def Value.patch [Machine] (document : Value) (path : Text) (value : Value) :
    Except Error Value := do
  let document ← Error.ofConversion document.pave
  let document ← Error.ofPath (Patch.writeManifest document path value)
  Error.ofConversion (document.unstructured "")

/-- The resource with a value written at a path of its desired manifest. -/
def Resource.patch [Machine] (resource : Resource) (path : Text) (value : Value) :
    Except Error Resource :=
  match resource with
  | .document v => .document <$> v.patch path value
  | .object o => .object <$> o.patch path value

/-! ## Applying references -/

/-- The outcome of one patch: the destination, the path that was written relative to the manifest,
and the value. -/
structure PatchResult where
  destination : Resource
  toFieldPath : Text
  value : Value
  deriving Repr

namespace Reference

/-- The paths that a patch reads and writes. -/
def patchPaths (r : Reference) : Except PathError (Text × Text) :=
  match r.patchesFrom.bind (·.fieldPath) with
  | some source => .ok (source, r.toFieldPath.getD source)
  | none => .error .nothingToRead

/-- The path that a patch writes and the value that it reads from its source. -/
def readSource (r : Reference) (source : Resource) : Except Error (Text × Value) := do
  let (fromPath, toPath) ← Error.ofPath r.patchPaths
  let document ← Error.ofConversion source.content
  let value ← Error.ofPath (document.getAt fromPath)
  return (toPath, value)

/-- Copies the value that the reference names from `source` into `destination`. -/
def apply [Machine] (r : Reference) (source destination : Resource) :
    Except Error PatchResult := do
  let (toPath, value) ← r.readSource source
  let patched ← destination.patch toPath value
  return ⟨patched, toPath, value⟩

/-- The reference with the path it writes filled in, where `patchesFrom` gives one. -/
def recordPath (r : Reference) : Reference :=
  { r with toFieldPath := r.toFieldPath.or (r.patchesFrom.bind (·.fieldPath)) }

/-- Applies the reference; the path it writes is recorded in it, whether or not that succeeds. -/
def applyRecording [Machine] (r : Reference) (source destination : Resource) :
    Reference × Except Error Resource :=
  (r.recordPath, (·.destination) <$> r.recordPath.apply source destination)

end Reference

/-- A way to find the resource that `patchesFrom` names. -/
abbrev SourceLookup := PatchesFrom → Except UnknownResource Resource

/-- The lookup among the resources that a resolver holds. -/
def Resolver.lookup (resolver : Resolver) : SourceLookup :=
  fun target => resolver.resolve target.toDependsOn

namespace Object

/-- The Object with one reference applied, whose source is looked up; a reference that copies
nothing leaves it as it is. -/
def applyReference [Machine] (lookup : SourceLookup) (o : Object) (r : Reference) :
    Except Error Object :=
  match r.patchesFrom with
  | none => .ok o
  | some target => do
    let source ← (lookup target).mapError .unknownResource
    let (toPath, value) ← r.readSource source
    o.patch toPath value

/-- One step is the application of the reference to the typed Object. -/
theorem applyReference_of_lookup [Machine] {lookup : SourceLookup} {r : Reference}
    {target : PatchesFrom} {source : Resource} (o : Object) (hr : r.patchesFrom = some target)
    (hs : lookup target = .ok source) :
    Resource.object <$> o.applyReference lookup r =
      (·.destination) <$> r.apply source (.object o) := by
  have hstep : o.applyReference lookup r =
      r.readSource source >>= fun read => o.patch read.1 read.2 := by
    simp only [applyReference, hr, hs]
    rfl
  rw [hstep, Reference.apply]
  cases r.readSource source with
  | error e => rfl
  | ok read =>
    change Resource.object <$> o.patch read.1 read.2 = (·.destination) <$>
      ((Resource.object <$> o.patch read.1 read.2) >>= fun patched =>
        (Except.ok ⟨patched, read.1, read.2⟩ : Except Error PatchResult))
    cases o.patch read.1 read.2 <;> rfl

/-- The Object with all references that copy a value applied, in the order of declaration. -/
def applyPatches [Machine] (lookup : SourceLookup) (o : Object) : Except Error Object :=
  o.spec.patchReferences.foldlM (applyReference lookup) o

/-- The Object with all references that copy a value applied, their sources being those of a
resolver. -/
def applyReferences [Machine] (resolver : Resolver) (o : Object) : Except Error Object :=
  o.applyPatches resolver.lookup

end Object
end Patchwork
