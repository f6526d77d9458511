import Patchwork.Proofs.Document.InPlace
import Patchwork.Proofs.Json.Refused
import Patchwork.Proofs.Schema.Written

/-!
# Patching what was checked

A document that passes the schema and the consistency check has no patch that is malformed: where
applying the references of its Object fails, the data is to blame, that of a source or of the
manifest.  And a patch that the consistency check calls malformed fails with every source.

* `Reference.PatchFault` — why a reference whose paths are read cannot be applied.
* `Reference.patchManifest_failsWith` — a reference that says what it reads, with paths that are
  read, fails for nothing else.
* `Reference.pathsRead_of_update?` — a reference that is applied has paths that are read.
* `Object.applyPatches_of_checked` — both for all references of a document that was checked.
-/

set_option autoImplicit false

namespace Patchwork

open Value

/-! ## One value -/

theorem Value.getAt_failsWith {text : Text} {path : FieldPath}
    (h : FieldPath.ofText text = .ok path) (document : Value) :
    FailsWith (document.Blocks path) (document.getAt text) := by
  intro e he
  rw [getAt, h, ok_bind] at he
  exact read_eq_error.1 he

theorem Value.setAt_failsWith [Machine] {text : Text} {path : FieldPath}
    (h : FieldPath.ofText text = .ok path) (document v : Value) :
    FailsWith (fun e => (document.Blocks path e ∧ e.isNotFound = false) ∨ GrowthFailure path e)
      (document.setAt text v) := by
  intro e he
  rw [setAt, h, ok_bind, write] at he
  rcases readFrom_of_writeFrom_error he with ⟨hread, hfound, -⟩ | ⟨hgrow, -⟩
  · exact .inl ⟨read_eq_error.1 hread, hfound⟩
  · exact .inr hgrow

/-! ## One reference -/

namespace Reference

/-- Why a reference cannot be applied to a manifest although its paths are read: there is no source,
what it reads is not there, what it writes meets a node of the wrong kind or an array that cannot
grow, or the value cannot be held by JSON. -/
inductive PatchFault [Machine] (lookup : SourceLookup) (manifest : Value) (r : Reference) :
    Error → Prop where
  | unknown {target : PatchesFrom} {e : UnknownResource} (htarget : r.patchesFrom = some target)
      (h : lookup target = .error e) : PatchFault lookup manifest r (.unknownResource e)
  | unreadable {target : PatchesFrom} {source : Resource} {text : Text} {path : FieldPath}
      {e : PathError} (htarget : r.patchesFrom = some target) (hsource : lookup target = .ok source)
      (htext : target.fieldPath = some text) (hpath : FieldPath.ofText text = .ok path)
      (h : source.toValue.Blocks path e) : PatchFault lookup manifest r (.path e)
  | unwritable {path : FieldPath} {e : PathError} (hpath : r.destination = .ok path)
      (h : manifest.Blocks path e) (hfound : e.isNotFound = false) :
      PatchFault lookup manifest r (.path e)
  | tooLong {path : FieldPath} {e : PathError} (hpath : r.destination = .ok path)
      (h : GrowthFailure path e) : PatchFault lookup manifest r (.path e)
  | unconvertible {path : FieldPath} {value patched : Value} {e : ConversionError}
      (hpath : r.destination = .ok path) (hpatched : Value.write path value manifest = .ok patched)
      (h : patched.RefusedWithin Patch.manifestLocation e) :
      PatchFault lookup manifest r (.conversion e)

def FindsMaps (lookup : SourceLookup) : Prop :=
  ∀ target v, lookup target = .ok (.document v) → ∃ entries, v = .map entries

variable {lookup : SourceLookup} {r : Reference} {target : PatchesFrom} {text : Text}
  {path : FieldPath} {a : FieldPath × Value}

theorem content_of_findsMaps (h : FindsMaps lookup) {source : Resource}
    (hsource : lookup target = .ok source) : source.content = .ok source.toValue := by
  cases source with
  | document v =>
    obtain ⟨entries, rfl⟩ := h target v hsource
    rfl
  | object o => rfl

/-- The paths of a patch are read, its source and its destination. -/
theorem PathsRead.exists_paths (h : r.PathsRead) (htarget : r.patchesFrom = some target)
    (htext : target.fieldPath = some text) :
    ∃ source path toPath, FieldPath.ofText text = .ok source ∧
      r.patchPaths = .ok (text, toPath) ∧ FieldPath.ofText toPath = .ok path ∧
      r.destination = .ok path := by
  have hbind : r.patchesFrom.bind (·.fieldPath) = some text := by
    rw [htarget, Option.bind_some, htext]
  obtain ⟨source, hsource⟩ := h.fieldPath text hbind
  have hpaths : r.patchPaths = .ok (text, r.toFieldPath.getD text) := by
    rw [patchPaths, hbind]
  obtain ⟨path, hpath⟩ : ∃ path, FieldPath.ofText (r.toFieldPath.getD text) = .ok path := by
    cases hto : r.toFieldPath with
    | none => exact ⟨source, hsource⟩
    | some toText => exact h.toFieldPath toText hto
  refine ⟨source, path, _, hsource, hpaths, hpath, ?_⟩
  rw [destination, hpaths, ok_bind]
  exact hpath

/-- **A patch whose paths are read fails for its data only.** -/
theorem patchManifest_failsWith [Machine] (h : r.PathsRead) (hfinds : FindsMaps lookup)
    (hreads : ∀ target, r.patchesFrom = some target → ∃ text, target.fieldPath = some text)
    (manifest : Value) :
    FailsWith (r.PatchFault lookup manifest) (r.patchManifest lookup manifest) := by
  cases htarget : r.patchesFrom with
  | none =>
    rw [patchManifest, htarget]
    exact failsWith_ok _
  | some target =>
    obtain ⟨text, htext⟩ := hreads target htarget
    obtain ⟨path, destination, toPath, hpath, hpaths, hto, hdestination⟩ :=
      h.exists_paths htarget htext
    rw [patchManifest_eq htarget]
    refine FailsWith.bind ?_ fun source hsource => FailsWith.bind ?_ fun read hread => ?_
    · have hlookup : FailsWith (fun e => lookup target = .error e) (lookup target) := fun _ he => he
      exact hlookup.mapError fun e he => .unknown htarget he
    · have hfound : lookup target = .ok source := mapError_eq_ok.1 hsource
      rw [readSource, hpaths, content_of_findsMaps hfinds hfound]
      simp only [Error.ofPath_ok, Error.ofConversion_ok, ok_bind]
      have hvalue : FailsWith (r.PatchFault lookup manifest)
          (Error.ofPath (source.toValue.getAt text)) :=
        (getAt_failsWith hpath source.toValue).mapError fun e he =>
          .unreadable htarget hfound htext hpath he
      exact hvalue.bind fun _ _ => failsWith_ok _
    · obtain ⟨readPath, value⟩ := read
      obtain ⟨_, _, -, hpaths', -⟩ := readSource_eq_ok.1 hread
      rw [hpaths, Except.ok.injEq, Prod.mk.injEq] at hpaths'
      obtain ⟨-, rfl⟩ := hpaths'
      have hset : FailsWith (r.PatchFault lookup manifest)
          (Error.ofPath (manifest.setAt toPath value)) := by
        refine (setAt_failsWith hto manifest value).mapError ?_
        rintro e (⟨hblocks, hkind⟩ | hgrow)
        · exact .unwritable hdestination hblocks hkind
        · exact .tooLong hdestination hgrow
      refine hset.bind fun patched hpatched => ?_
      have hwrite : Value.write destination value manifest = .ok patched := by
        rw [← mapError_eq_ok.1 hpatched, setAt, hto, ok_bind]
      exact (unstructured_failsWith patched Patch.manifestLocation).mapError
        fun e he => PatchFault.unconvertible hdestination hwrite he

/-- No path that is not read is to blame, and no reference that reads nothing. -/
theorem PatchFault.not_malformed [Machine] {manifest : Value} {e : Error}
    (h : r.PatchFault lookup manifest e) :
    (∀ path fault, e ≠ .path (.malformed path fault)) ∧ e ≠ .path .nothingToRead := by
  have hstuck : ∀ {document : Value} {path : FieldPath} {e : PathError}, document.Blocks path e →
      (∀ path fault, e ≠ .malformed path fault) ∧ e ≠ .nothingToRead := by
    rintro document path e ⟨p, s, rest, stop, -, -, hstuck⟩
    cases hstuck <;> exact ⟨nofun, nofun⟩
  cases h with
  | unknown _ _ => exact ⟨nofun, nofun⟩
  | unreadable _ _ _ _ h => simpa using hstuck h
  | unwritable _ h _ => simpa using hstuck h
  | tooLong _ h =>
    obtain ⟨hgrow, -⟩ := h
    refine ⟨?_, ?_⟩
    · rintro path fault ⟨⟩
      cases hgrow
    · rintro ⟨⟩
      cases hgrow
  | unconvertible _ _ _ => exact ⟨nofun, nofun⟩

/-- **A reference that can be applied has paths that are read.** -/
theorem pathsRead_of_update? (h : r.update? lookup = some a) : r.PathsRead := by
  obtain ⟨path, copy⟩ := a
  obtain ⟨target, source, toPath, value, -, -, hread, hpath, -⟩ := update?_eq_some.1 h
  obtain ⟨content, fromPath, -, hpaths, hvalue⟩ := readSource_eq_ok.1 hread
  obtain ⟨segments, hsegments, -⟩ := bind_eq_ok.1 hvalue
  unfold patchPaths at hpaths
  split at hpaths
  · rename_i text htext
    cases hpaths
    refine ⟨fun text' htext' => ?_, fun text' htext' => ?_⟩
    · rw [htext, Option.some.injEq] at htext'
      exact htext' ▸ ⟨segments, hsegments⟩
    · rw [htext', Option.getD_some] at hpath
      exact ⟨path, hpath⟩
  · cases hpaths

end Reference

/-! ## All references -/

namespace Semantics

theorem not_passed_of_mem {report : SemanticReport} {issue : SemanticIssue}
    (hissue : issue ∈ report.issues) (hcode : issue.code = "FIELD_PATH_INVALID") :
    report.passed = false := by
  have hsevere : issue.severity = .error := by
    obtain ⟨location, fault⟩ := issue
    cases fault <;> first | rfl | simp [SemanticIssue.code, SemanticFault.code] at hcode
  have hmem : issue ∈ report.errors := List.mem_filter.2 ⟨hissue, by simpa using hsevere⟩
  cases herrors : report.errors with
  | nil =>
    rw [herrors] at hmem
    cases hmem
  | cons first rest => rw [SemanticReport.passed, herrors, List.isEmpty_cons]

end Semantics

namespace Object

variable {document : Value} {x : Object} {lookup : SourceLookup} {report : SemanticReport}

/-- The error comes of one of the references of the Object that copy a value: those before it were
applied to the manifest, and it could not be. -/
def PatchFault [Machine] (lookup : SourceLookup) (x : Object) (e : Error) : Prop :=
  ∃ before r after manifest, x.spec.patchReferences = before ++ r :: after ∧
    before.foldlM (Reference.patchManifest lookup) (.map x.spec.forProvider.manifest) =
      .ok manifest ∧
    r.PatchFault lookup manifest e

/-- A reference that sets `patchesFrom` in a document is a patch of the Object. -/
theorem exists_patch_of_reach? {i : Nat} {v : Value} (hread : ofValue document = .ok x)
    (hv : document.reach? [.field "spec", .field "references", .index i, .field "patchesFrom"] =
      some v) (hset : v ≠ .null) :
    ∃ r, x.spec.references[i]? = some r ∧ r ∈ x.spec.patchReferences := by
  obtain ⟨root, rfl, hreads⟩ := exists_reads hread
  simp only [reach?, Option.bind_eq_some_iff] at hv
  obtain ⟨spec, hspec, references, hreferences, item, hitem, w, hw, hv⟩ := hv
  cases hv
  obtain ⟨fields, rfl⟩ : ∃ fields, spec = .map fields := by
    cases spec <;> first | exact ⟨_, rfl⟩ | cases hreferences
  obtain ⟨items, rfl⟩ : ∃ items, references = .list items := by
    cases references <;> first | exact ⟨_, rfl⟩ | cases hitem
  obtain ⟨ref, rfl⟩ : ∃ ref, item = .map ref := by
    cases item <;> first | exact ⟨_, rfl⟩ | cases hw
  have hitems : Semantics.references root = .ok items := by
    have hlookupS : lookup "spec" root = some (.map fields) := hspec
    have hlookupR : lookup "references" fields = some (.list items) := hreferences
    have hitem' : items[i]? = some (.map ref) := hitem
    rw [Semantics.references, field_of_lookup hlookupS, Option.getD_some, entriesIfSet_map, ok_bind,
      field_of_lookup hlookupR, Option.getD_some]
    cases items with
    | nil => cases hitem'
    | cons first rest => rfl
  obtain ⟨r, ref', hr, hmap, hfrom⟩ := hreads.exists_reference hitems hitem
  cases hmap
  refine ⟨r, hr, List.mem_filter.2 ⟨List.mem_of_getElem? hr, ?_⟩⟩
  rcases hfrom.patchesFrom with ⟨-, hnull⟩ | ⟨p, _, hp, -, -⟩
  · have hlookup : lookup "patchesFrom" ref = some v := hw
    rw [field_of_lookup hlookup, Option.getD_some] at hnull
    exact absurd hnull hset
  · rw [Reference.isPatch, hp, Option.isSome_some]

/-- References whose paths are read fail for their data only. -/
theorem applyPatches_failsWith [Machine] (hread : ofValue document = .ok x)
    (hfinds : Reference.FindsMaps lookup) (hpaths : ∀ r ∈ x.spec.references, r.PathsRead)
    (hreads : ∀ r ∈ x.spec.references, ∀ target, r.patchesFrom = some target →
      ∃ text, target.fieldPath = some text) :
    FailsWith (x.PatchFault lookup) (x.applyPatches lookup) := by
  intro e he
  rw [(applyPatches_tracks hread lookup).error_iff, foldlM_eq_error] at he
  obtain ⟨before, r, after, manifest, hsplit, hbefore, hfault⟩ := he
  have hmem : r ∈ x.spec.references := by
    have hr : r ∈ x.spec.patchReferences := by
      rw [hsplit]
      exact List.mem_append_right _ List.mem_cons_self
    exact (List.mem_filter.1 hr).1
  refine ⟨before, r, after, manifest, hsplit, hbefore, ?_⟩
  exact Reference.patchManifest_failsWith (hpaths r hmem) hfinds (hreads r hmem) manifest e hfault

/-- **A document that was checked has no malformed patch, and one that was called malformed is never
applied.**  Take a document without issues of the schema.  If it passes the consistency check, then
whatever documents are found for its references, applying them fails for the data of a source or of
the manifest.  If the check finds an invalid path at a reference that sets `patchesFrom`, applying
the references fails whatever is found. -/
theorem applyPatches_of_checked [Machine] (hcheck : ObjectSchema.check document = [])
    (hread : ofValue document = .ok x) (hsemantics : Semantics.check document = .ok report) :
    (report.passed = true → ∀ lookup, Reference.FindsMaps lookup → ∀ e,
      x.applyPatches lookup = .error e →
        x.PatchFault lookup e ∧ (∀ path fault, e ≠ .path (.malformed path fault)) ∧
          e ≠ .path .nothingToRead) ∧
    ∀ i v issue,
      document.reach? [.field "spec", .field "references", .index i, .field "patchesFrom"] =
        some v → v ≠ .null →
      issue ∈ report.issues → Semantics.IsAt issue i → issue.code = "FIELD_PATH_INVALID" →
      ∀ lookup, ∃ e, x.applyPatches lookup = .error e := by
  obtain ⟨root, rfl, hreads⟩ := exists_reads hread
  constructor
  · intro hpassed lookup hfinds e he
    have hpaths : ∀ r ∈ x.spec.references, r.PathsRead := by
      intro r hr
      obtain ⟨i, hi⟩ := List.mem_iff_getElem?.1 hr
      refine (Semantics.pathsRead_iff_check hreads hsemantics hi).2 fun issue hissue _ hcode => ?_
      rw [Semantics.not_passed_of_mem hissue hcode] at hpassed
      cases hpassed
    have haccepts : ObjectSchema.schema.Accepts (.map root) := (Schema.check_eq_nil_iff _).1 hcheck
    have hfault : x.PatchFault lookup e :=
      applyPatches_failsWith hread hfinds hpaths (exists_fieldPath haccepts hread) e he
    obtain ⟨before, r, after, manifest, -, -, hr⟩ := id hfault
    exact ⟨hfault, hr.not_malformed⟩
  · intro i v issue hv hset hissue hat hcode lookup
    obtain ⟨r, hr, hpatch⟩ := exists_patch_of_reach? hread hv hset
    cases happly : x.applyPatches lookup with
    | error e => exact ⟨e, rfl⟩
    | ok y =>
      -- A run that succeeds reads the paths of all references that copy a value.
      obtain ⟨a, ha⟩ := ((applyPatches_eq_ok hread).1 happly).1 r hpatch
      have hpaths : r.PathsRead := Reference.pathsRead_of_update? ha
      have hvalid := (Semantics.pathsRead_iff_check hreads hsemantics hr).1 hpaths issue hissue hat
      exact absurd hcode hvalid

/-- A document whose one reference copies `port` of a source to a path. -/
def portDocument (toPath : Text) : Value := .map [
  (.str "apiVersion", .str ApiGroup.apiVersion), (.str "kind", .str ApiGroup.kind),
  (.str "spec", .map [
    (.str "references", .list [.map [
      (.str "patchesFrom", .map [(.str "name", .str "source"), (.str "fieldPath", .str "port")]),
      (.str "toFieldPath", .str toPath)]]),
    (.str "forProvider", .map [(.str "manifest", .map [])])])]

def portObject (toPath : Text) : Object :=
  { spec := { references := [
      { patchesFrom := some { name := "source", fieldPath := some "port" }
        toFieldPath := some toPath }] } }

theorem ofValue_portDocument (toPath : Text) :
    ObjectSchema.check (portDocument toPath) = [] ∧
      ofValue (portDocument toPath) = .ok (portObject toPath) := ⟨rfl, rfl⟩

open Machine in
/-- A patch into an array finds nothing to read in an empty source; one whose destination lacks a
bracket is refused with every source. -/
theorem applyPatches_of_checked_item :
    let lookup : SourceLookup := fun _ => .ok (.document (.map []))
    let e : Error := .path (.noSuchField [.field "port"])
    (∀ toPath, ObjectSchema.check (portDocument toPath) = [] ∧
        ofValue (portDocument toPath) = .ok (portObject toPath)) ∧
      ((portObject "ports[0]").applyPatches lookup = .error e ∧
        (portObject "ports[0]").PatchFault lookup e) ∧
      ∀ lookup, ∃ e, (portObject "ports[0").applyPatches lookup = .error e := by
  intro lookup e
  have hcheck := fun toPath => (ofValue_portDocument toPath).1
  have hread := fun toPath => (ofValue_portDocument toPath).2
  have hpassed : Semantics.check (portDocument "ports[0]") = .ok ⟨[]⟩ := rfl
  have hfinds : Reference.FindsMaps lookup := by
    rintro target _ ⟨⟩
    exact ⟨[], rfl⟩
  have happly : (portObject "ports[0]").applyPatches lookup = .error e :=
    (applyPatches_tracks (hread _) lookup).error_iff.2 rfl
  have hissues : Semantics.check (portDocument "ports[0") = .ok ⟨[
      ⟨Location.part (Semantics.referenceLocation 0) "toFieldPath",
        .invalidFieldPath (.str "ports[0") (.malformed "ports[0" (.unterminated 5))⟩]⟩ := rfl
  obtain ⟨hfault, -⟩ :=
    (applyPatches_of_checked (hcheck _) (hread _) hpassed).1 rfl lookup hfinds e happly
  have hrefused := (applyPatches_of_checked (hcheck _) (hread _) hissues).2 0 _ _ rfl nofun
    List.mem_cons_self (Semantics.isAt_part rfl) rfl
  exact ⟨ofValue_portDocument, ⟨happly, hfault⟩, hrefused⟩

open Machine in
/-- **Some destinations are read and yet out of reach, and some values are no data**: no array can
be counted up to the position, and no value is copied that has no end. -/
theorem applyPatches_limits :
    let lookup : Value → SourceLookup := fun v _ => .ok (.document (.map [(.str "port", v)]))
    (∀ toPath ∈ ["a[9223372036854775807]", "a"],
      ObjectSchema.check (portDocument toPath) = [] ∧
        ofValue (portDocument toPath) = .ok (portObject toPath) ∧
        ∃ report, Semantics.check (portDocument toPath) = .ok report ∧ report.passed = true) ∧
      (portObject "a[9223372036854775807]").applyPatches (lookup (.int 80)) =
        .error (.path (.tooLong [.field "a"] .magnitude)) ∧
      (portObject "a").applyPatches (lookup .endless) =
        .error (.conversion ⟨"spec.forProvider.manifest.a", .endless⟩) := by
  intro lookup
  have hread := fun toPath => (ofValue_portDocument toPath).2
  refine ⟨?_, ?_, ?_⟩
  · simp only [List.forall_mem_cons]
    exact ⟨⟨rfl, rfl, _, rfl, rfl⟩, ⟨rfl, rfl, _, rfl, rfl⟩, List.forall_mem_nil _⟩
  · exact (applyPatches_tracks (hread _) _).error_iff.2 rfl
  · exact (applyPatches_tracks (hread _) _).error_iff.2 rfl

end Object
end Patchwork
