import Patchwork.Object
import Patchwork.Patch
import Patchwork.Proofs.Conversion
import Patchwork.Proofs.FieldPath

/-!
# The manifest inside an Object document

Three maps lie around the desired manifest: the document, its `spec` and `spec.forProvider`.  Any
but the first may be missing or null and then counts as empty.  A patch puts another manifest into
the innermost and leaves the rest as it is.

* `Patch.Regions` — the entries of the maps around the manifest, and of the manifest.
* `Patch.Regions.writeManifest_eq` — what a patch makes of the document.
* `Patch.exists_regions` — every document that an Object is read out of has such maps.
* `Patch.Regions.unstructured_replaceManifest` — of the document with another manifest, nothing
  but that manifest can be refused.
-/

set_option autoImplicit false

namespace Patchwork

open Value

/-! ## Maps that may be missing -/

/-- The entries that a value stands for: those of a map, none for null. -/
def Value.IsEntries (v : Value) (entries : List (Value × Value)) : Prop :=
  v = .map entries ∨ (v = .null ∧ entries = [])

variable {v : Value} {entries : List (Value × Value)}

@[simp] theorem Value.entriesAt_map (trail : FieldPath) (entries : List (Value × Value)) :
    (Value.map entries).entriesAt trail = .ok entries := rfl

theorem Value.IsEntries.entriesAt (h : v.IsEntries entries) (trail : FieldPath) :
    v.entriesAt trail = .ok entries := by
  rcases h with rfl | ⟨rfl, rfl⟩ <;> rfl

theorem Value.IsEntries.entriesJson (h : v.IsEntries entries) (hv : v.isJson = true) :
    Value.entriesJson entries = true := by
  rcases h with rfl | ⟨rfl, rfl⟩
  · exact hv
  · rfl

theorem Value.IsEntries.eq_of_lookup {key : Text} {fields written : List (Value × Value)}
    (h : (field entries key).IsEntries fields)
    (hwritten : lookup key entries = some (.map written)) : fields = written := by
  rw [field_of_lookup hwritten] at h
  rcases h with hmap | ⟨hnull, -⟩
  · cases hmap
    rfl
  · cases hnull

variable {α : Type} {key : Text} {convert : Value → Except ConversionError α} {a : Option α}

/-- A part that is read out of a map reads the same whether its entry is missing or an empty
map. -/
theorem Value.exists_entries_of_optionalWith {default : α}
    (h : Value.optionalWith entries key convert = .ok a)
    (hmap : ∀ w b, convert w = .ok b → ∃ fields, w = .map fields)
    (hdefault : convert (.map []) = .ok default) :
    ∃ fields, (field entries key).IsEntries fields ∧
      convert (.map fields) = .ok (a.getD default) := by
  unfold Value.optionalWith at h
  split at h
  · rename_i hnull
    cases h
    exact ⟨[], .inr ⟨hnull, rfl⟩, hdefault⟩
  · obtain ⟨b, hb, rfl⟩ := map_eq_ok.1 h
    obtain ⟨fields, hfields⟩ := hmap _ b hb
    rw [hfields] at hb
    exact ⟨fields, .inl hfields, hb⟩

/-! ## The maps around a manifest -/

namespace Patch

/-- The entries of a document, of its `spec`, of `spec.forProvider` and of the manifest there. -/
structure Regions (root spec forProvider manifest : List (Value × Value)) : Prop where
  atSpec : (field root "spec").IsEntries spec
  atForProvider : (field spec "forProvider").IsEntries forProvider
  atManifest : (field forProvider "manifest").IsEntries manifest

/-- The document with another manifest in the maps around it. -/
def replaceManifest (root spec forProvider : List (Value × Value)) (manifest : Value) : Value :=
  .map (insert "spec" (.map (insert "forProvider" (.map (insert "manifest" manifest forProvider))
    spec)) root)

variable {root spec forProvider manifest : List (Value × Value)}

/-- **A patch writes into the manifest and puts it back**; nothing but the write can fail. -/
theorem Regions.writeManifest_eq [Machine] (h : Regions root spec forProvider manifest)
    (path : Text)
    (v : Value) :
    writeManifest (.map root) path v =
      replaceManifest root spec forProvider <$> (Value.map manifest).setAt path v := by
  have hentries : manifestEntries (.map root) = .ok manifest := by
    simp only [manifestEntries, ApiGroup.manifestKeys, descend, entriesAt_map, ok_bind,
      h.atSpec.entriesAt, h.atForProvider.entriesAt, h.atManifest.entriesAt]
  have hwrite : ∀ patched, write ApiGroup.manifestPath patched (.map root) =
      .ok (replaceManifest root spec forProvider patched) := by
    intro patched
    simp only [write, ApiGroup.manifestPath, ApiGroup.manifestKeys, List.map, writeFrom,
      entriesAt_map, ok_bind, h.atSpec.entriesAt, h.atForProvider.entriesAt]
    rfl
  rw [writeManifest, hentries, ok_bind]
  cases (Value.map manifest).setAt path v with
  | error e => rfl
  | ok patched => rw [ok_bind, hwrite, map_ok]

theorem setAt_map_eq_ok [Machine] {path : Text} {v w : Value}
    (h : (Value.map manifest).setAt path v = .ok w) : ∃ patched, w = .map patched := by
  obtain ⟨segments, hsegments, hwrite⟩ := bind_eq_ok.1 h
  have hne := FieldPath.parse_ne_nil (mapError_eq_ok.1 hsegments)
  cases segments with
  | nil => exact absurd rfl hne
  | cons s rest =>
    cases s with
    | index i => cases hwrite
    | field name =>
      simp only [write, writeFrom, entriesAt_map, ok_bind] at hwrite
      obtain ⟨item, -, hw⟩ := bind_eq_ok.1 hwrite
      cases hw
      exact ⟨_, rfl⟩

def manifestLocation : Text := "spec.forProvider.manifest"

theorem Regions.entriesJson (h : Regions root spec forProvider manifest)
    (hjson : Value.entriesJson root = true) :
    Value.entriesJson spec = true ∧ Value.entriesJson forProvider = true ∧
      Value.entriesJson manifest = true := by
  have hspec := h.atSpec.entriesJson (isJson_field hjson "spec")
  have hforProvider := h.atForProvider.entriesJson (isJson_field hspec "forProvider")
  exact ⟨hspec, hforProvider, h.atManifest.entriesJson (isJson_field hforProvider "manifest")⟩

/-- **In a document that JSON can hold, only the new manifest can be refused.** -/
theorem Regions.unstructured_replaceManifest (h : Regions root spec forProvider manifest)
    (hjson : Value.entriesJson root = true) (patched : Value) :
    (replaceManifest root spec forProvider patched).unstructured "" =
      replaceManifest root spec forProvider <$> patched.unstructured manifestLocation := by
  obtain ⟨hspec, hforProvider, -⟩ := h.entriesJson hjson
  have hlocation : Location.entry (Location.entry (Location.entry "" "spec") "forProvider")
      "manifest" = manifestLocation := rfl
  simp only [replaceManifest, unstructured, unstructuredEntries_insert hjson,
    unstructuredEntries_insert hspec, unstructuredEntries_insert hforProvider, hlocation]
  cases patched.unstructured manifestLocation <;> rfl

end Patch

/-! ## The manifest in typed data -/

theorem ObjectParameters.exists_manifest {location : Text} {p : ObjectParameters}
    (h : ofValue location v = .ok p) :
    ∃ fields manifest, v = .map fields ∧ (field fields "manifest").IsEntries manifest ∧
      unstructuredEntries (Location.part location "manifest") manifest = .ok p.manifest := by
  simp only [ofValue, manifestOf, bind_eq_ok, expect_object_eq_ok] at h
  obtain ⟨manifest, ⟨fields, hfields, given, hgiven, hcopy⟩, hp⟩ := h
  cases hp
  refine ⟨fields, given.getD [], hfields, ?_, hcopy⟩
  unfold Value.optional at hgiven
  split at hgiven
  · rename_i hnull
    cases hgiven
    exact .inr ⟨hnull, rfl⟩
  · obtain ⟨entries, hentries, rfl⟩ := map_eq_ok.1 hgiven
    exact .inl (expect_object_eq_ok.1 hentries)

theorem ObjectSpec.exists_forProvider {location : Text} {s : ObjectSpec}
    (h : ofValue location v = .ok s) :
    ∃ entries fields, v = .map entries ∧ (field entries "forProvider").IsEntries fields ∧
      ObjectParameters.ofValue (Location.part location "forProvider") (.map fields) =
        .ok s.forProvider := by
  simp only [ofValue, bind_eq_ok, expect_object_eq_ok] at h
  obtain ⟨entries, hentries, _, -, _, -, _, -, _, -, _, -, _, -, forProvider, hforProvider, _, -, _,
    -, _, -, hs⟩ := h
  have hmap : ∀ w p, ObjectParameters.ofValue (Location.part location "forProvider") w = .ok p →
      ∃ fields, w = .map fields := by
    intro w p hw
    obtain ⟨fields, _, hfields, -⟩ := ObjectParameters.exists_manifest hw
    exact ⟨fields, hfields⟩
  obtain ⟨fields, hfields, hread⟩ := exists_entries_of_optionalWith hforProvider hmap rfl
  cases hs
  exact ⟨entries, fields, hentries, hfields, hread⟩

theorem Object.exists_spec {o : Object} (h : ofValue v = .ok o) :
    ∃ root spec, v = .map root ∧ (field root "spec").IsEntries spec ∧
      ObjectSpec.ofValue ObjectSpec.defaultLocation (.map spec) = .ok o.spec := by
  simp only [ofValue, bind_eq_ok, expect_object_eq_ok] at h
  obtain ⟨root, hroot, _, -, _, -, spec, hspec, _, -, _, -, _, -, ho⟩ := h
  have hmap : ∀ w s, ObjectSpec.ofValue ObjectSpec.defaultLocation w = .ok s →
      ∃ fields, w = .map fields := by
    intro w s hw
    obtain ⟨fields, _, hfields, -⟩ := ObjectSpec.exists_forProvider hw
    exact ⟨fields, hfields⟩
  obtain ⟨fields, hfields, hread⟩ := exists_entries_of_optionalWith hspec hmap rfl
  cases ho
  exact ⟨root, fields, hroot, hfields, hread⟩

theorem ObjectSpec.ofValue_insert_forProvider {location : Text} {s : ObjectSpec}
    (h : ofValue location (.map entries) = .ok s) (fields : List (Value × Value)) :
    ofValue location (.map (insert "forProvider" (.map fields) entries)) =
      (fun p => { s with forProvider := p }) <$>
        ObjectParameters.ofValue (Location.part location "forProvider") (.map fields) := by
  simp only [ofValue, expect_object, ok_bind, bind_eq_ok] at h
  obtain ⟨_, hreferences, _, hpolicy, _, hdeletion, _, hdeletionPolicy, _, hproviderRef, _,
    hsecretRef, _, -, _, hitems, _, hproviderConfig, _, hsecret, hs⟩ := h
  simp (disch := decide) only [ofValue, expect_object, ok_bind, optional_insert_of_ne,
    optionalWith_insert_self, hreferences, hpolicy, hdeletion, hdeletionPolicy, hproviderRef,
    hsecretRef, hitems, hproviderConfig, hsecret]
  cases hs
  cases ObjectParameters.ofValue (Location.part location "forProvider") (.map fields) <;> rfl

theorem Object.ofValue_insert_spec {o : Object} (h : ofValue (.map entries) = .ok o)
    (fields : List (Value × Value)) :
    ofValue (.map (insert "spec" (.map fields) entries)) =
      (fun s => { o with spec := s }) <$>
        ObjectSpec.ofValue ObjectSpec.defaultLocation (.map fields) := by
  simp only [ofValue, expect_object, ok_bind, bind_eq_ok] at h
  obtain ⟨_, hmetadata, _, hcopy, _, -, _, hstatus, _, hapiVersion, _, hkind, ho⟩ := h
  simp (disch := decide) only [ofValue, expect_object, ok_bind, optional_insert_of_ne,
    optionalWith_insert_of_ne, optionalWith_insert_self, hmetadata, hcopy, hstatus, hapiVersion,
    hkind]
  cases ho
  cases ObjectSpec.ofValue ObjectSpec.defaultLocation (.map fields) <;> rfl

/-- The Object with another desired manifest, and everything else as it is. -/
def Object.withManifest (o : Object) (manifest : List (Value × Value)) : Object :=
  { o with spec := { o.spec with forProvider := ⟨manifest⟩ } }

namespace Patch

variable {root spec forProvider manifest : List (Value × Value)} {o : Object}

/-- **Another manifest in a document gives the Object with another manifest.**  Every document that
an Object is read out of has maps around a manifest; another manifest there is all that the Object
changes in, and only a manifest that JSON cannot hold is refused. -/
theorem exists_regions (h : Object.ofValue v = .ok o) :
    ∃ root spec forProvider manifest, v = .map root ∧ Regions root spec forProvider manifest ∧
      unstructuredEntries manifestLocation manifest = .ok o.spec.forProvider.manifest ∧
      ∀ patched, Object.ofValue (replaceManifest root spec forProvider (.map patched)) =
        o.withManifest <$> unstructuredEntries manifestLocation patched := by
  obtain ⟨root, spec, rfl, hspec, hreadS⟩ := Object.exists_spec h
  obtain ⟨_, fields, hmap, hforProvider, hreadF⟩ := ObjectSpec.exists_forProvider hreadS
  cases hmap
  obtain ⟨_, manifest, hmap, hmanifest, hreadM⟩ := ObjectParameters.exists_manifest hreadF
  cases hmap
  refine ⟨root, spec, fields, manifest, rfl, ⟨hspec, hforProvider, hmanifest⟩, hreadM, ?_⟩
  intro patched
  rw [replaceManifest, Object.ofValue_insert_spec h, ObjectSpec.ofValue_insert_forProvider hreadS,
    ObjectParameters.ofValue, manifestOf, expect_object, ok_bind, optional_insert_self, ok_bind,
    Option.getD_some]
  have hlocation : Location.part (Location.part ObjectSpec.defaultLocation "forProvider")
      "manifest" = manifestLocation := rfl
  rw [hlocation]
  cases unstructuredEntries manifestLocation patched <;> rfl

/-- The manifest in the document form of an Object is the manifest of the Object. -/
theorem Regions.manifest_of_toValue (h : Regions root spec forProvider manifest)
    (hroot : o.toValue = .map root) : manifest = o.spec.forProvider.manifest := by
  obtain ⟨entries, hentries⟩ : ∃ es, o.spec.toValue = .map es := ⟨_, rfl⟩
  have hrootS : lookup "spec" root = some (.map entries) := by
    cases hroot
    simp [hentries]
  have hspecF : lookup "forProvider" spec = some o.spec.forProvider.toValue := by
    cases hentries
    rw [h.atSpec.eq_of_lookup hrootS]
    simp [lookup_append]
  have hforProviderM : lookup "manifest" forProvider =
      some (.map o.spec.forProvider.manifest) := by
    rw [h.atForProvider.eq_of_lookup hspecF]
    simp
  exact h.atManifest.eq_of_lookup hforProviderM

end Patch
end Patchwork
