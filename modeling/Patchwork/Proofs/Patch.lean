import Patchwork.Proofs.Manifest
import Patchwork.Proofs.RoundTrip

/-!
# What patching does

A patch of an Object goes the long way: the Object is written as a document, the value is put into
its manifest, and all of the document is read again.  It comes to a write into the manifest alone.

* `Object.Tracks` — the invariant of a run of patches: the current Object is the one at the start
  but for its manifest, and reads back.
* `Object.Tracks.patch`, `Object.Tracks.applyReference`, `Object.applyPatches_tracks` — one patch,
  one reference and all references of an Object keep it.
* `Object.applyPatches_confined` — all patches of an Object are a fold over its manifest.
* `Value.patch_agree` — a patch of a document and a patch of the Object that it holds come to the
  same.
-/

set_option autoImplicit false

namespace Patchwork

open Value

/-! ## One patch -/

/-- The manifest with a value written at a path, if JSON can hold the result. -/
def Patch.setUnstructured [Machine] (manifest : Value) (path : Text) (value : Value) :
    Except Error Value := do
  let patched ← Error.ofPath (manifest.setAt path value)
  Error.ofConversion (patched.unstructured manifestLocation)

namespace Object

/-- The Object is `o` with the manifest in place of its own, and it can be read out of a
document. -/
structure Tracks (o current : Object) (manifest : Value) : Prop where
  manifest_eq : manifest = .map current.spec.forProvider.manifest
  frame : current = o.withManifest current.spec.forProvider.manifest
  readable : ∃ document, ofValue document = .ok current

variable {o current : Object} {manifest : Value}

/-- **A patch of an Object writes into its manifest** and leaves the rest as it is. -/
theorem Tracks.patch [Machine] (h : o.Tracks current manifest) (path : Text) (value : Value) :
    Agree o.Tracks (current.patch path value) (Patch.setUnstructured manifest path value) := by
  obtain ⟨rfl, hframe, document, hdocument⟩ := h
  obtain ⟨root, spec, forProvider, given, hroot, hregions, -, hreplace⟩ :=
    Patch.exists_regions (ofValue_toValue hdocument)
  have hgiven := hregions.manifest_of_toValue hroot
  subst hgiven
  rw [Object.patch, Patch.setUnstructured, hroot, hregions.writeManifest_eq]
  cases hset : (Value.map current.spec.forProvider.manifest).setAt path value with
  | error e => exact .error _
  | ok w =>
    obtain ⟨patched, rfl⟩ := Patch.setAt_map_eq_ok hset
    have hread := hreplace patched
    simp only [map_ok, Error.ofPath_ok, ok_bind, unstructured]
    cases hcopy : unstructuredEntries Patch.manifestLocation patched with
    | error e =>
      rw [hread, hcopy]
      exact .error _
    | ok copies =>
      rw [hcopy, map_ok] at hread
      rw [hread]
      refine .ok ⟨rfl, ?_, _, hread⟩
      rw [hframe]
      rfl

end Object

theorem Patch.Regions.patch [Machine] {root spec forProvider entries : List (Value × Value)}
    (h : Patch.Regions root spec forProvider entries) (hjson : Value.entriesJson root = true)
    (path : Text) (value : Value) :
    Agree (fun raw manifest => raw = Patch.replaceManifest root spec forProvider manifest ∧
        manifest.isJson = true)
      ((Value.map root).patch path value) (Patch.setUnstructured (.map entries) path value) := by
  have hpave : Error.ofConversion (Value.map root).pave = .ok (.map root) := rfl
  rw [Value.patch, hpave, ok_bind, h.writeManifest_eq, Patch.setUnstructured]
  cases (Value.map entries).setAt path value with
  | error e => exact .error _
  | ok patched =>
    simp only [map_ok, Error.ofPath_ok, ok_bind, h.unstructured_replaceManifest hjson]
    cases hcopy : patched.unstructured Patch.manifestLocation with
    | error e => exact .error _
    | ok copy => exact .ok ⟨rfl, isJson_of_unstructured _ hcopy⟩

/-- **Patching a document and patching the Object that it holds come to the same**: the same error,
or a document that holds the patched Object. -/
theorem Value.patch_agree [Machine] {document : Value} {x : Object} (hjson : document.isJson = true)
    (h : Object.ofValue document = .ok x) (path : Text) (value : Value) :
    Agree (fun raw typed => Object.ofValue raw = .ok typed) (document.patch path value)
      (x.patch path value) := by
  obtain ⟨root, spec, forProvider, entries, rfl, hregions, hcopy, hreplace⟩ :=
    Patch.exists_regions h
  obtain ⟨-, -, hentries⟩ := hregions.entriesJson hjson
  rw [unstructuredEntries_of_entriesJson _ _ hentries, Except.ok.injEq] at hcopy
  subst hcopy
  have hraw := hregions.patch hjson path value
  have htyped := Object.Tracks.patch ⟨rfl, rfl, _, h⟩ path value
  refine (hraw.trans htyped).imp ?_
  rintro raw typed ⟨manifest, ⟨rfl, hmanifest⟩, rfl, hframe, -⟩
  rw [hreplace, unstructuredEntries_of_entriesJson _ _ hmanifest, map_ok, ← hframe]

open Machine in
/-- A document whose `spec` is null gets one around the manifest, and an array for a tuple. -/
theorem Value.patch_agree_null_spec :
    let document := Value.map [(.str "kind", .str "Object"), (.str "spec", .null)]
    let x : Object := {}
    let ports := fun port => [(Value.str "data", Value.map [(.str "ports", .list [.null, port])])]
    let patched := x.withManifest (ports (.list [.int 80]))
    (document.isJson = true ∧ Object.ofValue document = .ok x) ∧
      x.patch "data.ports[1]" (.tuple [.int 80]) = .ok patched ∧
      ∃ raw, document.patch "data.ports[1]" (.tuple [.int 80]) = .ok raw ∧
        Object.ofValue raw = .ok patched := by
  intro document x ports patched
  have hx : Object.ofValue document = .ok x := rfl
  have hwrite : Patch.writeManifest x.toValue "data.ports[1]" (.tuple [.int 80]) =
      .ok (x.withManifest (ports (.tuple [.int 80]))).toValue := rfl
  have hread : Object.ofValue (x.withManifest (ports (.tuple [.int 80]))).toValue = .ok patched :=
    rfl
  have htyped : x.patch "data.ports[1]" (.tuple [.int 80]) = .ok patched := by
    rw [Object.patch, hwrite, Error.ofPath_ok, ok_bind, hread, Error.ofConversion_ok]
  have hjson : document.isJson = true := rfl
  have h := Value.patch_agree hjson hx "data.ports[1]" (.tuple [.int 80])
  rw [htyped] at h
  exact ⟨⟨hjson, hx⟩, htyped, h.exists_ok⟩

/-! ## All patches of an Object -/

namespace Reference

/-- The manifest after one reference: the value at `fieldPath` of the source goes to `toFieldPath`,
or to `fieldPath` where that is not set.  A reference without `patchesFrom` copies nothing. -/
def patchManifest [Machine] (lookup : SourceLookup) (manifest : Value) (r : Reference) :
    Except Error Value :=
  match r.patchesFrom with
  | none => .ok manifest
  | some target => do
    let source ← (lookup target).mapError .unknownResource
    match target.fieldPath with
    | none => throw (.path .nothingToRead)
    | some fieldPath =>
      let document ← Error.ofConversion source.content
      let value ← Error.ofPath (document.getAt fieldPath)
      Patch.setUnstructured manifest (r.toFieldPath.getD fieldPath) value

end Reference

namespace Object

variable {o current : Object} {manifest : Value}

/-- One reference keeps an Object and its manifest in step. -/
theorem Tracks.applyReference [Machine] (h : o.Tracks current manifest) (lookup : SourceLookup)
    (r : Reference) :
    Agree o.Tracks (current.applyReference lookup r) (r.patchManifest lookup manifest) := by
  unfold Object.applyReference Reference.patchManifest
  cases hfrom : r.patchesFrom with
  | none => exact .ok h
  | some target =>
    refine Agree.bind (Agree.refl _) ?_
    rintro source _ rfl
    simp only [Reference.readSource, Reference.patchPaths, hfrom, Option.bind_some]
    cases target.fieldPath with
    | none => exact .error _
    | some fieldPath =>
      simp only [Error.ofPath_ok, ok_bind]
      cases Error.ofConversion source.content with
      | error e => exact .error e
      | ok document =>
        simp only [ok_bind]
        cases document.getAt fieldPath with
        | error e => exact .error _
        | ok value => exact h.patch (r.toFieldPath.getD fieldPath) value

/-- All references of an Object keep it and its manifest in step. -/
theorem applyPatches_tracks [Machine] {document : Value} {x : Object} (h : ofValue document = .ok x)
    (lookup : SourceLookup) :
    Agree x.Tracks (x.applyPatches lookup)
      (x.spec.patchReferences.foldlM (Reference.patchManifest lookup)
        (.map x.spec.forProvider.manifest)) := by
  have hstart : x.Tracks x (.map x.spec.forProvider.manifest) := ⟨rfl, rfl, document, h⟩
  exact Agree.foldlM (fun _ _ r htracks => Tracks.applyReference htracks lookup r) hstart

/-- **Patching is confined to the manifest.**  Applying the references of an Object fails as the
fold of single writes over its manifest does, or gives the Object with the manifest of the fold and
everything else as it was. -/
theorem applyPatches_confined [Machine] {document : Value} {x : Object}
    (h : ofValue document = .ok x)
    (lookup : SourceLookup) :
    Agree (fun y manifest => manifest = .map y.spec.forProvider.manifest ∧
        y = { x with spec := { x.spec with forProvider := y.spec.forProvider } })
      (x.applyPatches lookup)
      (x.spec.patchReferences.foldlM (Reference.patchManifest lookup)
        (.map x.spec.forProvider.manifest)) := by
  have hrun := applyPatches_tracks h lookup
  exact hrun.imp fun y manifest htracks => ⟨htracks.manifest_eq, htracks.frame⟩

open Machine in
/-- A number goes from a source that a resolver holds into an array that is padded up to it. -/
theorem applyPatches_confined_port :
    let source : PatchesFrom := { name := "source", fieldPath := some "port" }
    let data := Value.map [(.str "port", .int 80)]
    let r : Reference := { patchesFrom := some source, toFieldPath := some "ports[1]" }
    let x : Object := { spec := { references := [r] } }
    let resolver := ({} : Resolver).put source.key (.document data)
    let manifest := [(Value.str "ports", Value.list [.null, .int 80])]
    ofValue x.toValue = .ok x ∧
      x.applyReferences resolver =
        .ok { x with spec := { x.spec with forProvider := ⟨manifest⟩ } } := by
  intro source data r x resolver manifest
  have hx : ofValue x.toValue = .ok x := rfl
  have hlookup : resolver.lookup source = .ok (.document data) := rfl
  have hread : data.getAt "port" = .ok (.int 80) := rfl
  have hset : (Value.map []).setAt "ports[1]" (.int 80) = .ok (.map manifest) := rfl
  have hcopy : (Value.map manifest).unstructured Patch.manifestLocation = .ok (.map manifest) := rfl
  have hstep : r.patchManifest resolver.lookup (.map []) = .ok (.map manifest) := by
    have hpave : data.pave = .ok data := rfl
    simp only [Reference.patchManifest, r, hlookup, mapError_ok, ok_bind, Resource.content,
      hpave, Error.ofConversion_ok, source, hread, Error.ofPath_ok, Option.getD_some,
      Patch.setUnstructured, hset, hcopy]
  have hfold : x.spec.patchReferences.foldlM (Reference.patchManifest resolver.lookup)
      (.map x.spec.forProvider.manifest) = .ok (.map manifest) := by
    change ([r].foldlM (Reference.patchManifest resolver.lookup) (.map []) : Except Error Value) = _
    rw [List.foldlM_cons, hstep]
    rfl
  have h := applyPatches_confined hx resolver.lookup
  rw [hfold] at h
  obtain ⟨y, hy, hmanifest, hframe⟩ := h.exists_ok
  rw [Value.map.injEq] at hmanifest
  refine ⟨hx, hy.trans ?_⟩
  rw [hframe, hmanifest]

end Object
end Patchwork
