import Patchwork.Proofs.Document.Copy
import Patchwork.Proofs.Document.Run
import Patchwork.Proofs.Patch

/-!
# References as updates of a manifest

What a reference writes depends on its source alone: a copy of the value that it reads there.  So
applying the references of an Object is a run of updates of its manifest, one for each reference.

* `Reference.update?` — the path that a reference writes and the copy that it puts there.
* `Reference.patchManifest_eq_ok` — a reference patches a manifest by its update.
* `Object.applyPatches_eq_ok` — the references of an Object succeed as the run of their updates
  does, and give the Object with the manifest of the run.
-/

set_option autoImplicit false

namespace Patchwork

open Value

/-! ## One value -/

theorem Patch.setUnstructured_eq_ok [Machine] {manifest value patched : Value} {path : Text}
    (hjson : manifest.isJson = true) :
    Patch.setUnstructured manifest path value = .ok patched ↔
      ∃ p c, FieldPath.ofText path = .ok p ∧ value.unstructured "" = .ok c ∧
        update? p c manifest = some patched := by
  simp only [Patch.setUnstructured, Error.ofPath, Error.ofConversion, bind_eq_ok, mapError_eq_ok,
    setAt, write, writeFrom_eq_ok]
  constructor
  · rintro ⟨w, ⟨p, hp, hw⟩, hcopy⟩
    obtain ⟨c, hc, hpatched⟩ := (unstructured_update? hjson hw).1 hcopy
    exact ⟨p, c, hp, hc, hpatched⟩
  · rintro ⟨p, c, hp, hc, hpatched⟩
    obtain ⟨w, hw⟩ := exists_update? hpatched value
    exact ⟨w, ⟨p, hp, hw⟩, (unstructured_update? hjson hw).2 ⟨c, hc, hpatched⟩⟩

/-! ## One reference -/

namespace Reference

/-- The segments of the path that a reference writes. -/
def destination (r : Reference) : Except PathError FieldPath := do
  let (_, toPath) ← r.patchPaths
  FieldPath.ofText toPath

/-- What a reference writes: the segments of its path, and the copy of the value that it reads from
its source. -/
def update? (lookup : SourceLookup) (r : Reference) : Option (FieldPath × Value) := do
  let target ← r.patchesFrom
  let source ← (lookup target).toOption
  let (toPath, value) ← (r.readSource source).toOption
  let path ← (FieldPath.ofText toPath).toOption
  let copy ← (value.unstructured "").toOption
  return (path, copy)

variable {lookup : SourceLookup} {r : Reference} {p : FieldPath} {c : Value}

theorem update?_eq_some :
    r.update? lookup = some (p, c) ↔
      ∃ target source toPath value, r.patchesFrom = some target ∧ lookup target = .ok source ∧
        r.readSource source = .ok (toPath, value) ∧ FieldPath.ofText toPath = .ok p ∧
        value.unstructured "" = .ok c := by
  simp only [update?, Option.bind_eq_bind, Option.bind_eq_some_iff, toOption_eq_some, Prod.exists]
  simp

theorem readSource_eq_ok {source : Resource} {toPath : Text} {value : Value} :
    r.readSource source = .ok (toPath, value) ↔
      ∃ content fromPath, source.content = .ok content ∧ r.patchPaths = .ok (fromPath, toPath) ∧
        content.getAt fromPath = .ok value := by
  simp only [readSource, Error.ofPath, Error.ofConversion, bind_eq_ok, mapError_eq_ok]
  constructor
  · rintro ⟨⟨fromPath, toPath⟩, hpaths, content, hcontent, value, hvalue, ⟨⟩⟩
    exact ⟨content, fromPath, hcontent, hpaths, hvalue⟩
  · rintro ⟨content, fromPath, hcontent, hpaths, hvalue⟩
    exact ⟨(fromPath, toPath), hpaths, content, hcontent, value, hvalue, rfl⟩

theorem destination_of_update? {a : FieldPath × Value} (h : r.update? lookup = some a) :
    r.destination = .ok a.1 := by
  obtain ⟨target, source, toPath, value, -, -, hread, hpath, -⟩ := update?_eq_some.1 h
  obtain ⟨content, fromPath, -, hpaths, -⟩ := readSource_eq_ok.1 hread
  rw [destination, hpaths, ok_bind]
  exact hpath

theorem patchManifest_eq [Machine] {target : PatchesFrom} (h : r.patchesFrom = some target)
    (manifest : Value) :
    r.patchManifest lookup manifest =
      (lookup target).mapError .unknownResource >>= fun source =>
        r.readSource source >>= fun read => Patch.setUnstructured manifest read.1 read.2 := by
  simp only [patchManifest, readSource, patchPaths, h, Option.bind_some]
  cases hfrom : target.fieldPath with
  | none => rfl
  | some fromPath =>
    refine congrArg _ (funext fun source => ?_)
    simp only [Error.ofPath_ok, ok_bind]
    cases Error.ofConversion source.content with
    | error e => rfl
    | ok document =>
      simp only [ok_bind]
      cases document.getAt fromPath <;> rfl

/-- **A reference patches a manifest by its update.** -/
theorem patchManifest_eq_ok [Machine] {manifest patched : Value} (hpatch : r.isPatch = true)
    (hjson : manifest.isJson = true) :
    r.patchManifest lookup manifest = .ok patched ↔
      ∃ p c, r.update? lookup = some (p, c) ∧ Value.update? p c manifest = some patched := by
  obtain ⟨target, htarget⟩ := Option.isSome_iff_exists.1 hpatch
  simp only [patchManifest_eq htarget, bind_eq_ok, mapError_eq_ok,
    Patch.setUnstructured_eq_ok hjson, update?_eq_some]
  constructor
  · rintro ⟨source, hsource, ⟨toPath, value⟩, hread, p, c, hp, hc, hpatched⟩
    exact ⟨p, c, ⟨target, source, toPath, value, htarget, hsource, hread, hp, hc⟩, hpatched⟩
  · rintro ⟨p, c, ⟨target', source, toPath, value, htarget', hsource, hread, hp, hc⟩, hpatched⟩
    rw [htarget, Option.some.injEq] at htarget'
    subst htarget'
    exact ⟨source, hsource, (toPath, value), hread, p, c, hp, hc, hpatched⟩

theorem isJson_of_patchManifest [Machine] {manifest patched : Value} (hpatch : r.isPatch = true)
    (h : r.patchManifest lookup manifest = .ok patched) : patched.isJson = true := by
  obtain ⟨target, htarget⟩ := Option.isSome_iff_exists.1 hpatch
  rw [patchManifest_eq htarget] at h
  obtain ⟨source, -, h⟩ := bind_eq_ok.1 h
  obtain ⟨read, -, h⟩ := bind_eq_ok.1 h
  obtain ⟨w, -, hcopy⟩ := bind_eq_ok.1 h
  exact isJson_of_unstructured w (mapError_eq_ok.1 hcopy)

end Reference

/-! ## All references of an Object -/

namespace Object

/-- The updates of the manifest that the references of an Object come to. -/
def updates (lookup : SourceLookup) (o : Object) : List (FieldPath × Value) :=
  o.spec.patchReferences.filterMap (·.update? lookup)

variable {lookup : SourceLookup} {x y : Object}

/-- References patch a manifest as the run of their updates does. -/
theorem foldlM_patchManifest_eq_ok [Machine] {references : List Reference}
    {manifest patched : Value}
    (hpatch : ∀ r ∈ references, r.isPatch = true) (hjson : manifest.isJson = true) :
    references.foldlM (Reference.patchManifest lookup) manifest = .ok patched ↔
      (∀ r ∈ references, ∃ a, r.update? lookup = some a) ∧
        updates? (references.filterMap (·.update? lookup)) manifest = some patched := by
  induction references generalizing manifest with
  | nil => simp [pure, Except.pure, updates?]
  | cons r rest ih =>
    obtain ⟨hr, hrest⟩ := List.forall_mem_cons.1 hpatch
    simp only [List.foldlM_cons, bind_eq_ok, List.forall_mem_cons]
    constructor
    · rintro ⟨next, hnext, hrun⟩
      obtain ⟨p, c, hupdate, hstep⟩ := (Reference.patchManifest_eq_ok hr hjson).1 hnext
      have hnextJson := Reference.isJson_of_patchManifest hr hnext
      obtain ⟨hall, hrun⟩ := (ih hrest hnextJson).1 hrun
      refine ⟨⟨⟨(p, c), hupdate⟩, hall⟩, ?_⟩
      rw [List.filterMap_cons_some hupdate]
      exact updates?_cons.2 ⟨next, hstep, hrun⟩
    · rintro ⟨⟨⟨⟨p, c⟩, hupdate⟩, hall⟩, hrun⟩
      rw [List.filterMap_cons_some hupdate] at hrun
      obtain ⟨next, hstep, hrun⟩ := updates?_cons.1 hrun
      have hnext := (Reference.patchManifest_eq_ok hr hjson).2 ⟨p, c, hupdate, hstep⟩
      have hnextJson := Reference.isJson_of_patchManifest hr hnext
      exact ⟨next, hnext, (ih hrest hnextJson).2 ⟨hall, hrun⟩⟩

theorem isPatch_of_mem_patchReferences {o : Object} :
    ∀ r ∈ o.spec.patchReferences, r.isPatch = true :=
  fun _ hr => (List.mem_filter.1 hr).2

theorem isJson_manifest {document : Value} (h : ofValue document = .ok x) :
    (Value.map x.spec.forProvider.manifest).isJson = true := by
  obtain ⟨_, _, _, manifest, _, _, hcopy, _⟩ := Patch.exists_regions h
  exact entriesJson_of_unstructured manifest hcopy

/-- **The references of an Object succeed as the run of their updates does**, and give the Object
with the manifest of the run. -/
theorem applyPatches_eq_ok [Machine] {document : Value} (h : ofValue document = .ok x) :
    x.applyPatches lookup = .ok y ↔
      (∀ r ∈ x.spec.patchReferences, ∃ a, r.update? lookup = some a) ∧
        updates? (x.updates lookup) (.map x.spec.forProvider.manifest) =
          some (.map y.spec.forProvider.manifest) ∧
        y = x.withManifest y.spec.forProvider.manifest := by
  have hrun := applyPatches_tracks h lookup
  rw [← and_assoc, updates,
    ← foldlM_patchManifest_eq_ok isPatch_of_mem_patchReferences (isJson_manifest h)]
  constructor
  · intro hy
    rw [hy] at hrun
    obtain ⟨manifest, hfold, rfl, hframe, -⟩ := hrun.exists_ok_right
    exact ⟨hfold, hframe⟩
  · rintro ⟨hy, hframe⟩
    rw [hy] at hrun
    obtain ⟨y', hy', hmanifest, hframe', -⟩ := hrun.exists_ok
    rw [Value.map.injEq] at hmanifest
    rw [hy', hframe', ← hmanifest, ← hframe]

theorem applyPatches_of_updates [Machine] {document : Value} {manifest : List (Value × Value)}
    (h : ofValue document = .ok x) (ws : List (FieldPath × Value))
    (hws : x.spec.patchReferences.map (·.update? lookup) = ws.map some)
    (hrun : updates? ws (.map x.spec.forProvider.manifest) = some (.map manifest)) :
    x.applyPatches lookup = .ok (x.withManifest manifest) := by
  have hupdates : x.updates lookup = ws := by
    have hmap : x.updates lookup =
        (x.spec.patchReferences.map (·.update? lookup)).filterMap id := by
      rw [List.filterMap_map]
      rfl
    rw [hmap, hws, List.filterMap_map, Function.id_comp, List.filterMap_some]
  refine (applyPatches_eq_ok h).2 ⟨fun r hr => ?_, hupdates ▸ hrun, rfl⟩
  have hmem : r.update? lookup ∈ ws.map some := hws ▸ List.mem_map_of_mem hr
  obtain ⟨a, -, ha⟩ := List.mem_map.1 hmem
  exact ⟨a, ha.symm⟩

theorem exists_ofValue_applyPatches [Machine] {document : Value} (h : ofValue document = .ok x)
    (hy : x.applyPatches lookup = .ok y) : ∃ document', ofValue document' = .ok y := by
  have hrun := applyPatches_tracks h lookup
  rw [hy] at hrun
  obtain ⟨_, -, htracks⟩ := hrun.exists_ok_right
  exact htracks.readable

end Object
end Patchwork
