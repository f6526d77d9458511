import Patchwork.Proofs.Document.Copy
import Patchwork.Proofs.Document.InPlace
import Patchwork.Proofs.FieldPath.Join
import Patchwork.Proofs.Manifest

/-!
# Patching as a write at an absolute path

A patch looks for the manifest first and writes into it as a document of its own.  Where the path
begins with a key, this is the write at the absolute path, from the root of the document through
`spec.forProvider.manifest`: missing and null nodes become maps in the one way as in the other, and
the write stops at the same node.  A path that begins with a position finds no array at the root of
a manifest, whatever stands there.

* `PathError.under` — an error as it reads from further up.
* `Value.writeFrom_append_trail` — where a node stands matters for the errors of a write only.
* `Patch.writeFrom_keys` — a write through keys looks for the map behind them, writes there and puts
  the map back.
* `Patch.writeManifest_iff_setAt`, `Patch.writeManifest_error` — a write into the manifest is the
  write at the absolute path.
* `Value.patch_refines_setAt` — a patch comes to the write at the absolute path, and to the check
  that JSON can hold what was written.
-/

set_option autoImplicit false

namespace Patchwork

open Value

/-! ## Errors from further up -/

namespace PathError

/-- The error as it reads from a node that `base` leads down from. -/
def under (base : FieldPath) : PathError → PathError
  | .notArray place => .notArray (base ++ place)
  | .notObject place => .notObject (base ++ place)
  | .noSuchField place => .noSuchField (base ++ place)
  | .outOfBounds place => .outOfBounds (base ++ place)
  | .tooLong place limit => .tooLong (base ++ place) limit
  | e => e

/-- The path or the document is wrong, as opposed to a place that is not there or a limit that is
met. -/
def isInvalid (e : PathError) : Bool := !e.isNotFound && e.limit?.isNone

@[simp] theorem isInvalid_under (base : FieldPath) (e : PathError) :
    (e.under base).isInvalid = e.isInvalid := by
  cases e <;> rfl

end PathError

namespace Value

variable {base trail path : FieldPath} {v node : Value}

theorem entriesAt_append_trail (base trail : FieldPath) (node : Value) :
    node.entriesAt (base ++ trail) = (node.entriesAt trail).mapError (·.under base) := by
  cases node <;> rfl

theorem itemsAt_append_trail (base trail : FieldPath) (node : Value) :
    node.itemsAt (base ++ trail) = (node.itemsAt trail).mapError (·.under base) := by
  cases node <;> rfl

theorem checkGrowth_append_trail [Machine] (base trail : FieldPath) (i : Nat) (items : List Value) :
    checkGrowth (base ++ trail) i items = (checkGrowth trail i items).mapError (·.under base) := by
  unfold checkGrowth
  split <;> rfl

/-- **Where a node stands matters for the errors of a write only.** -/
theorem writeFrom_append_trail [Machine] (base trail path : FieldPath) (v node : Value) :
    writeFrom (base ++ trail) path v node =
      (writeFrom trail path v node).mapError (·.under base) := by
  induction path generalizing trail node with
  | nil => rfl
  | cons s rest ih =>
    cases s with
    | index i =>
      simp only [writeFrom, itemsAt_append_trail, checkGrowth_append_trail, List.append_assoc, ih,
        mapError_bind]
      rfl
    | field name =>
      simp only [writeFrom, entriesAt_append_trail, List.append_assoc, ih, mapError_bind]
      rfl

end Value

/-! ## Writing through keys -/

namespace Patch

theorem writeFrom_field [Machine] (trail : FieldPath) (name : Text) (rest : FieldPath)
    (v node : Value) :
    writeFrom trail (.field name :: rest) v node =
      node.entriesAt trail >>= fun entries =>
        writeFrom trail (.field name :: rest) v (.map entries) := by
  cases node <;> rfl

/-- **A write through keys looks for the map behind them, writes there and puts the map back**, for
any path that goes on into a map. -/
theorem writeFrom_keys [Machine] {path : FieldPath} {v : Value}
    (hpath : ∀ trail node, writeFrom trail path v node =
      node.entriesAt trail >>= fun entries => writeFrom trail path v (.map entries))
    (trail : FieldPath) (keys : List Text) (node : Value) :
    writeFrom trail (keys.map .field ++ path) v node =
      descend trail keys node >>= fun entries =>
        writeFrom (trail ++ keys.map .field) path v (.map entries) >>=
          fun written => writeFrom trail (keys.map .field) written node := by
  induction keys generalizing trail node with
  | nil =>
    have hput : ∀ written, writeFrom trail [] written node = .ok written := fun _ => rfl
    simp only [List.map_nil, List.nil_append, List.append_nil, descend, hput, bind_ok]
    exact hpath trail node
  | cons key keys ih =>
    simp only [List.map_cons, List.cons_append, writeFrom, descend]
    cases node.entriesAt trail with
    | error e => rfl
    | ok entries =>
      simp only [ok_bind, ih, bind_assoc, List.append_assoc, List.singleton_append]

theorem write_manifest [Machine] (name : Text) (rest : FieldPath) (v document : Value) :
    Value.write (ApiGroup.manifestPath ++ .field name :: rest) v document =
      manifestEntries document >>= fun manifest =>
        (Value.write (.field name :: rest) v (.map manifest)).mapError
            (·.under ApiGroup.manifestPath) >>=
          fun written => Value.write ApiGroup.manifestPath written document := by
  have hkeys := writeFrom_keys (fun trail node => writeFrom_field trail name rest v node) []
    ApiGroup.manifestKeys document
  have hunder := fun manifest : List (Value × Value) =>
    writeFrom_append_trail ApiGroup.manifestPath [] (.field name :: rest) v (.map manifest)
  simp only [List.append_nil] at hunder
  simp only [List.nil_append, ApiGroup.manifestPath] at hkeys hunder ⊢
  simp only [Value.write, manifestEntries, hkeys, hunder]

/-! ## The manifest as a document of its own -/

theorem descend_error {trail : FieldPath} {keys : List Text} {node : Value} {e : PathError}
    (h : descend trail keys node = .error e) : ∃ place, e = .notObject place := by
  have hentries : ∀ {trail : FieldPath} {node : Value} {e : PathError},
      node.entriesAt trail = .error e → ∃ place, e = .notObject place := by
    intro trail node e he
    cases node <;> cases he <;> exact ⟨trail, rfl⟩
  induction keys generalizing trail node with
  | nil => exact hentries h
  | cons key keys ih =>
    rcases bind_eq_error.1 h with he | ⟨entries, -, hrest⟩
    · exact hentries he
    · exact ih hrest

variable {name path : Text} {rest : FieldPath} {v w document : Value}

theorem ofText_absolute (h : FieldPath.parse path = .ok (.field name :: rest)) :
    FieldPath.ofText (FieldPath.join (ApiGroup.manifestPath ++ .field name :: rest)) =
      .ok (ApiGroup.manifestPath ++ .field name :: rest) := by
  have hkeys : ∀ s ∈ ApiGroup.manifestPath, s.Addressable := by
    simp [ApiGroup.manifestPath, ApiGroup.manifestKeys, Segment.Addressable]
  have habsolute : FieldPath.Addressable (ApiGroup.manifestPath ++ .field name :: rest) := by
    refine ⟨List.cons_ne_nil _ _, fun s hs => ?_⟩
    rcases List.mem_append.1 hs with hs | hs
    · exact hkeys s hs
    · exact (FieldPath.addressable_of_parse h).2 s hs
  rw [FieldPath.ofText, habsolute.parse_join, mapError_ok]

theorem setAt_absolute [Machine] (h : FieldPath.parse path = .ok (.field name :: rest))
    (v document : Value) :
    document.setAt (FieldPath.join (ApiGroup.manifestPath ++ .field name :: rest)) v =
      manifestEntries document >>= fun manifest =>
        ((Value.map manifest).setAt path v).mapError (·.under ApiGroup.manifestPath) >>=
          fun written => Value.write ApiGroup.manifestPath written document := by
  have hpath : FieldPath.ofText path = .ok (.field name :: rest) := by
    rw [FieldPath.ofText, h, mapError_ok]
  simp only [Value.setAt, ofText_absolute h, hpath, ok_bind, write_manifest]

/-- **A write into the manifest makes of the document what the write at the absolute path does.** -/
theorem writeManifest_iff_setAt [Machine] (h : FieldPath.parse path = .ok (.field name :: rest)) :
    writeManifest document path v = .ok w ↔
      document.setAt (FieldPath.join (ApiGroup.manifestPath ++ .field name :: rest)) v = .ok w := by
  rw [setAt_absolute h]
  simp only [writeManifest, bind_eq_ok, mapError_eq_ok]

/-- Where the write at the absolute path fails, the write into the manifest does, with the error as
it reads from the root or from the manifest. -/
theorem writeManifest_error [Machine] (h : FieldPath.parse path = .ok (.field name :: rest))
    {e : PathError}
    (he : document.setAt (FieldPath.join (ApiGroup.manifestPath ++ .field name :: rest)) v =
      .error e) :
    ∃ e', writeManifest document path v = .error e' ∧
      (e = e' ∨ e = e'.under ApiGroup.manifestPath) := by
  rw [setAt_absolute h] at he
  unfold writeManifest
  cases hmanifest : manifestEntries document with
  | error stopped =>
    rw [hmanifest] at he
    cases he
    exact ⟨e, rfl, .inl rfl⟩
  | ok manifest =>
    rw [hmanifest, ok_bind] at he
    rw [ok_bind]
    cases hwrite : (Value.map manifest).setAt path v with
    | error e' =>
      rw [hwrite] at he
      cases he
      exact ⟨e', rfl, .inr rfl⟩
    | ok written =>
      rw [hwrite, mapError_ok, ok_bind] at he
      exact ⟨e, he, .inl rfl⟩

/-- **A path that begins with a position leads nowhere in a manifest**: its root is no array, and
where it is not a map either, the way to it stops. -/
theorem writeManifest_index [Machine] {i : Nat}
    (h : FieldPath.parse path = .ok (.index i :: rest)) :
    ∃ e, writeManifest document path v = .error e ∧ e.isInvalid = true := by
  unfold writeManifest
  cases hmanifest : manifestEntries document with
  | error e =>
    obtain ⟨place, rfl⟩ := descend_error hmanifest
    exact ⟨_, rfl, rfl⟩
  | ok manifest =>
    refine ⟨.notArray [], ?_, rfl⟩
    rw [ok_bind, Value.setAt, FieldPath.ofText, h]
    rfl

theorem exists_manifest_of_writeManifest [Machine] (h : writeManifest document path v = .ok w) :
    ∃ manifest, w.reach? ApiGroup.manifestPath = some (.map manifest) := by
  simp only [writeManifest, bind_eq_ok] at h
  obtain ⟨manifest, -, written, hwritten, hw⟩ := h
  obtain ⟨patched, rfl⟩ := setAt_map_eq_ok hwritten
  have hreach := reach?_write_append hw []
  rw [List.append_nil] at hreach
  exact ⟨patched, hreach⟩

end Patch

/-! ## Patching -/

namespace Value

theorem patch_map_eq [Machine] (root : List (Value × Value)) (path : Text) (v : Value) :
    (Value.map root).patch path v =
      Error.ofPath (Patch.writeManifest (.map root) path v) >>= fun written =>
        Error.ofConversion (written.unstructured "") := rfl

/-- **Patching inside the manifest is writing at the absolute path.**  For a path that begins with a
key, a patch succeeds exactly when the write at the path below `spec.forProvider.manifest` does and
JSON can hold what was written, and gives the copy of that; it fails as the write does, or as the
copy does.  A path that begins with a position is always refused as an invalid one.  So whatever was
patched has a map for its manifest. -/
theorem patch_refines_setAt [Machine] (root : List (Value × Value)) (path : Text) (v : Value) :
    let document := Value.map root
    (∀ name rest, FieldPath.parse path = .ok (.field name :: rest) →
      let absolute := FieldPath.join (ApiGroup.manifestPath ++ .field name :: rest)
      (∀ w, document.patch path v = .ok w ↔
        ∃ written, document.setAt absolute v = .ok written ∧ written.unstructured "" = .ok w) ∧
      (∀ e, document.setAt absolute v = .error e →
        ∃ e', document.patch path v = .error (.path e') ∧
          (e = e' ∨ e = e'.under ApiGroup.manifestPath) ∧ e'.isInvalid = e.isInvalid) ∧
      (∀ written e, document.setAt absolute v = .ok written → written.unstructured "" = .error e →
        document.patch path v = .error (.conversion e))) ∧
    (∀ i rest, FieldPath.parse path = .ok (.index i :: rest) →
      ∃ e, document.patch path v = .error (.path e) ∧ e.isInvalid = true) ∧
    ∀ w, document.patch path v = .ok w →
      ∃ manifest, w.reach? ApiGroup.manifestPath = some (.map manifest) := by
  intro document
  have hpatch := patch_map_eq root path v
  refine ⟨fun name rest hparse => ⟨fun w => ?_, fun e he => ?_, fun written e hset hcopy => ?_⟩,
    fun i rest hparse => ?_, fun w hw => ?_⟩
  · rw [hpatch]
    simp only [bind_eq_ok, Error.ofPath, Error.ofConversion, mapError_eq_ok,
      Patch.writeManifest_iff_setAt hparse]
    exact Iff.rfl
  · obtain ⟨e', he', heq⟩ := Patch.writeManifest_error hparse he
    refine ⟨e', by rw [hpatch, he']; rfl, heq, ?_⟩
    rcases heq with rfl | rfl
    · rfl
    · exact (PathError.isInvalid_under _ _).symm
  · have hwrite := (Patch.writeManifest_iff_setAt hparse).2 hset
    rw [hpatch, hwrite, Error.ofPath_ok, ok_bind, hcopy, Error.ofConversion_error]
  · have hrefused : ∃ e, Patch.writeManifest document path v = .error e ∧ e.isInvalid = true :=
      Patch.writeManifest_index hparse
    obtain ⟨e, he, hinvalid⟩ := hrefused
    exact ⟨e, by rw [hpatch, he]; rfl, hinvalid⟩
  · rw [hpatch] at hw
    simp only [bind_eq_ok, Error.ofPath, Error.ofConversion, mapError_eq_ok] at hw
    obtain ⟨written, hwritten, hcopy⟩ := hw
    obtain ⟨manifest, hmanifest⟩ := Patch.exists_manifest_of_writeManifest hwritten
    obtain ⟨copy, hv, hreach⟩ := reach?_copy hcopy hmanifest
    obtain ⟨copies, -, rfl⟩ := map_eq_ok.1 hv
    exact ⟨copies, hreach⟩

open Machine in
/-- A key with a dot in it and a position below, written under a null `spec`; a position at the root
of the manifest is refused. -/
theorem patch_refines_setAt_null_spec :
    let document := Value.map [(.str "spec", .null)]
    let patched := Value.map [(.str "spec", .map [(.str "forProvider", .map [(.str "manifest",
      .map [(.str "data", .map [(.str "app.io/name", .list [.null, .int 7])])])])])]
    let absolute := "spec.forProvider.manifest.data[app.io/name][1]"
    document.patch "data[app.io/name][1]" (.int 7) = .ok patched ∧
      (∃ written, document.setAt absolute (.int 7) = .ok written ∧
        written.unstructured "" = .ok patched) ∧
      ∃ e, document.patch "[0]" (.int 7) = .error (.path e) ∧ e.isInvalid = true := by
  intro document patched absolute
  have hparse : FieldPath.parse "data[app.io/name][1]" =
      .ok [.field "data", .field "app.io/name", .index 1] := rfl
  have hindex : FieldPath.parse "[0]" = .ok [.index 0] := rfl
  have hwrite : Patch.writeManifest document "data[app.io/name][1]" (.int 7) = .ok patched := rfl
  have hpatch : document.patch "data[app.io/name][1]" (.int 7) = .ok patched := by
    rw [patch_map_eq, hwrite, Error.ofPath_ok, ok_bind, unstructured_of_isJson patched "" rfl,
      Error.ofConversion_ok]
  obtain ⟨-, hposition, -⟩ := patch_refines_setAt [(.str "spec", .null)] "[0]" (.int 7)
  have hset := ((patch_refines_setAt [(.str "spec", .null)] "data[app.io/name][1]" (.int 7)).1 _ _
    hparse).1 patched
  exact ⟨hpatch, hset.1 hpatch, hposition 0 [] hindex⟩

end Value
end Patchwork
