import Patchwork.Proofs.Patch.Updates
import Patchwork.Proofs.Schema.Accepts
import Patchwork.Proofs.Schema.Declared
import Patchwork.Proofs.Semantics

/-!
# What is written has no issues

A document without issues is read, and what is written of it has no issues either: what the schema
requires is written, allowed values are written as they were, and defaults are allowed.  The schema
leaves the manifest open, so patching does not matter.

* `Reference.accepts_toValue`, `ObjectStatus.accepts_toValue`, `ObjectSpec.accepts_toValue`,
  `Object.accepts_toValue` — what is written of a value that is accepted is accepted.
* `Object.exists_fieldPath` — references that copy a value say what they read.
* `Object.validity_survives` — a document without issues stays so, read and written again and
  patched, and the consistency check says what it said.
-/

set_option autoImplicit false

namespace Patchwork

open Value Schema

variable {location : Text} {v : Value} {es : List (Value × Value)}
  {properties : List (Text × Schema)}

/-! ## References -/

/-- A resource that is named is written so that it is accepted, whatever else there is a schema
for. -/
theorem DependsOn.acceptsEntries_entries {d : DependsOn}
    (hproperties : ∀ {key schema}, ObjectSchema.descriptor.lookup key = some schema →
      properties.lookup key = some schema)
    (hname : field es "name" ≠ .null) (hes : AcceptsEntries properties es)
    (hread : ofEntries location es = .ok d) : AcceptsEntries properties d.entries := by
  simp only [ofEntries, bind_eq_ok] at hread
  obtain ⟨name, hreadName, _, -, _, -, _, -, _, -, hd⟩ := hread
  obtain ⟨text, rfl⟩ := exists_of_required hname hreadName
  have htext := hes.text (hproperties rfl) hreadName text rfl
  cases hd
  refine .append (.append ?_ ?_) ?_
  · exact .cons (hproperties rfl) (accepts_text rfl rfl rfl rfl _)
      (.cons (hproperties rfl) (accepts_text rfl rfl rfl rfl _)
        (acceptsEntries_single (hproperties rfl) htext))
  · exact acceptsEntries_unlessEmpty (hproperties rfl) (accepts_text rfl rfl rfl rfl _)
  · refine acceptsEntries_ifSome (hproperties rfl) fun b _ => ?_
    exact (accepts_iff_suits (by simp) (by simp)).2 ⟨rfl, nofun, nofun, nofun, nofun⟩

theorem DependsOn.accepts_toValue {d : DependsOn}
    (h : (ObjectSchema.object ["name"] ObjectSchema.descriptor).Accepts v)
    (hread : ofValue location v = .ok d) :
    (ObjectSchema.object ["name"] ObjectSchema.descriptor).Accepts d.toValue := by
  obtain ⟨es, rfl, hrequired, hes⟩ := h.exists_map
  have hname := hrequired "name" List.mem_cons_self
  have hlookup : lookup "name" d.entries = some (.str d.name) := by simp [entries]
  refine accepts_object_iff.2 ⟨?_, acceptsEntries_entries id hname hes hread⟩
  exact List.forall_mem_singleton.2 (field_ne_null_of_lookup hlookup Value.noConfusion)

theorem PatchesFrom.accepts_toValue {p : PatchesFrom} {path : Schema}
    (h : (ObjectSchema.object ["name", "fieldPath"]
      (ObjectSchema.descriptor ++ [(.string "fieldPath", path)])).Accepts v)
    (hread : ofValue location v = .ok p) :
    (ObjectSchema.object ["name", "fieldPath"]
      (ObjectSchema.descriptor ++ [(.string "fieldPath", path)])).Accepts p.toValue := by
  obtain ⟨es, rfl, hrequired, hes⟩ := h.exists_map
  simp only [List.forall_mem_cons] at hrequired
  obtain ⟨hname, hpath, -⟩ := hrequired
  simp only [ofValue, expect_object, ok_bind, bind_eq_ok] at hread
  obtain ⟨d, hd, fieldPath, hfieldPath, hp⟩ := hread
  obtain ⟨text, rfl⟩ := exists_of_required hpath hfieldPath
  cases hp
  have hdescriptor :
      AcceptsEntries (ObjectSchema.descriptor ++ [(.string "fieldPath", path)]) d.entries :=
    DependsOn.acceptsEntries_entries (fun h => by rw [List.lookup_append, h, Option.some_or]) hname
      hes hd
  have hlookupN : lookup "name" (d.entries ++ entryIfSome "fieldPath" .str (some text)) =
      some (.str d.name) := by simp [DependsOn.entries]
  have hlookupP : lookup "fieldPath" (d.entries ++ entryIfSome "fieldPath" .str (some text)) =
      some (.str text) := by simp [DependsOn.entries, lookup_append]
  refine accepts_object_iff.2 ⟨?_, hdescriptor.append ?_⟩
  · simp only [List.forall_mem_cons]
    exact ⟨field_ne_null_of_lookup hlookupN Value.noConfusion,
      field_ne_null_of_lookup hlookupP Value.noConfusion, List.forall_mem_nil _⟩
  · exact acceptsEntries_single rfl (hes.text rfl hfieldPath text rfl)

theorem Reference.accepts_toValue {r : Reference} (h : ObjectSchema.reference.Accepts v)
    (hread : ofValue location v = .ok r) : ObjectSchema.reference.Accepts r.toValue := by
  obtain ⟨es, rfl, -, hes⟩ := h.exists_map
  simp only [ofValue, expect_object, ok_bind, bind_eq_ok] at hread
  obtain ⟨dependsOn, hdependsOn, patchesFrom, hpatchesFrom, toFieldPath, htoFieldPath, hr⟩ := hread
  cases hr
  refine accepts_object_iff.2 ⟨List.forall_mem_nil _, .append (.append ?_ ?_) ?_⟩
  · refine acceptsEntries_ifSome rfl fun d hd => ?_
    obtain ⟨w, hw, hconvert⟩ := hes.part rfl hdependsOn d hd
    exact DependsOn.accepts_toValue hw hconvert
  · refine acceptsEntries_ifSome rfl fun p hp => ?_
    obtain ⟨w, hw, hconvert⟩ := hes.part rfl hpatchesFrom p hp
    exact PatchesFrom.accepts_toValue hw hconvert
  · exact acceptsEntries_ifSome rfl fun text _ => accepts_text rfl rfl rfl rfl text

theorem Reference.exists_fieldPath {r : Reference} {p : PatchesFrom}
    (h : ObjectSchema.reference.Accepts v) (hread : ofValue location v = .ok r)
    (hp : r.patchesFrom = some p) : ∃ text, p.fieldPath = some text := by
  obtain ⟨es, rfl, -, hes⟩ := h.exists_map
  simp only [ofValue, expect_object, ok_bind, bind_eq_ok] at hread
  obtain ⟨_, -, patchesFrom, hpatchesFrom, _, -, hr⟩ := hread
  cases hr
  obtain ⟨w, hw, hconvert⟩ := hes.part rfl hpatchesFrom p hp
  obtain ⟨fields, rfl, hrequired, -⟩ := hw.exists_map
  have hpath := hrequired "fieldPath" (List.mem_cons_of_mem _ List.mem_cons_self)
  simp only [PatchesFrom.ofValue, expect_object, ok_bind, bind_eq_ok] at hconvert
  obtain ⟨_, -, fieldPath, hfieldPath, hp'⟩ := hconvert
  cases hp'
  exact exists_of_required hpath hfieldPath

/-! ## Status -/

theorem accepts_manifest (manifest : List (Value × Value)) :
    ObjectSchema.manifest.Accepts (.map manifest) :=
  accepts_open rfl rfl rfl (.inl rfl) manifest

theorem ObjectObservation.accepts_toValue (o : ObjectObservation) :
    (ObjectSchema.object [] [("manifest", ObjectSchema.manifest)]).Accepts o.toValue :=
  accepts_object_iff.2 ⟨List.forall_mem_nil _,
    acceptsEntries_unless rfl fun _ => accepts_manifest o.manifest⟩

theorem Condition.accepts_toValue {c : Condition} (h : ObjectSchema.condition.Accepts v)
    (hread : ofValue location v = .ok c) : ObjectSchema.condition.Accepts c.toValue := by
  obtain ⟨es, rfl, hrequired, hes⟩ := h.exists_map
  simp only [List.forall_mem_cons] at hrequired
  obtain ⟨-, hstatus, -⟩ := hrequired
  simp only [ofValue, expect_object, ok_bind, bind_eq_ok] at hread
  obtain ⟨_, -, status, hreadStatus, _, -, _, -, _, -, hc⟩ := hread
  obtain ⟨text, rfl⟩ := exists_of_required hstatus hreadStatus
  have htext := hes.text rfl hreadStatus text rfl
  cases hc
  refine accepts_object_iff.2 ⟨?_, .append (.append (.append ?_ ?_) ?_) ?_⟩
  · simp [field, fieldOr]
  · exact .cons rfl (accepts_text rfl rfl rfl rfl _) (acceptsEntries_single rfl htext)
  · exact acceptsEntries_unlessEmpty rfl (accepts_text rfl rfl rfl rfl _)
  · exact acceptsEntries_unlessEmpty rfl (accepts_text rfl rfl rfl rfl _)
  · exact acceptsEntries_unlessEmpty rfl (accepts_text rfl rfl rfl rfl _)

theorem ObjectStatus.accepts_toValue {s : ObjectStatus} (h : ObjectSchema.status.Accepts v)
    (hread : ofValue location v = .ok s) : ObjectSchema.status.Accepts s.toValue := by
  obtain ⟨es, rfl, -, hes⟩ := h.exists_map
  simp only [ofValue, expect_object, ok_bind, bind_eq_ok] at hread
  obtain ⟨given, hgiven, _, -, conditions, hconditions, hs⟩ := hread
  have hall := hes.array rfl hgiven hconditions
  cases hs
  refine accepts_object_iff.2 ⟨List.forall_mem_nil _, .append ?_ ?_⟩
  · refine acceptsEntries_unless rfl fun _ => accepts_arrayOf ?_
    rintro _ hw
    obtain ⟨c, hc, rfl⟩ := List.mem_map.1 hw
    obtain ⟨_, w, hw, hconvert⟩ := hall c hc
    exact Condition.accepts_toValue hw hconvert
  · exact acceptsEntries_unless rfl fun _ => ObjectObservation.accepts_toValue _

/-! ## Spec -/

theorem ObjectSpec.text_policyOf_mem {given : Option Text}
    (h : ∀ name, given = some name → name ∈ ManagementPolicy.known.map (·.text)) :
    ((policyOf given).text : Text) ∈ ManagementPolicy.known.map (·.text) := by
  cases given with
  | none => decide
  | some name =>
    have hname := h name rfl
    have hne : name ≠ "" := by
      rintro rfl
      exact absurd hname (by decide)
    simp only [policyOf, Text.isEmpty_iff, hne, if_false, ManagementPolicy.text_ofText hname]
    exact hname

theorem SecretReference.accepts_toValue (s : SecretReference) :
    (ObjectSchema.object ["name", "namespace"] [("name", ObjectSchema.text),
      ("namespace", ObjectSchema.text)]).Accepts s.toValue := by
  refine accepts_object_iff.2 ⟨?_, ?_⟩
  · simp [field, fieldOr, entries]
  · exact .cons rfl (accepts_text rfl rfl rfl rfl _)
      (acceptsEntries_single rfl (accepts_text rfl rfl rfl rfl _))

theorem ObjectSpec.exists_accepted_reference {s : ObjectSpec} (h : ObjectSchema.spec.Accepts v)
    (hread : ofValue location v = .ok s) :
    ∀ r ∈ s.references, ∃ location w, ObjectSchema.reference.Accepts w ∧
      Reference.ofValue location w = .ok r := by
  obtain ⟨es, rfl, -, hes⟩ := h.exists_map
  simp only [ofValue, expect_object, ok_bind, bind_eq_ok] at hread
  obtain ⟨given, hgiven, _, -, _, -, _, -, _, -, _, -, _, -, references, hreferences, _, -, _, -,
    hs⟩ := hread
  cases hs
  exact hes.array rfl hgiven hreferences

/-- A spec is written so that it is accepted, with any manifest. -/
theorem ObjectSpec.accepts_toValue {s : ObjectSpec} (h : ObjectSchema.spec.Accepts v)
    (hread : ofValue location v = .ok s) (p : ObjectParameters) :
    ObjectSchema.spec.Accepts { s with forProvider := p }.toValue := by
  have hall := exists_accepted_reference h hread
  obtain ⟨es, rfl, -, hes⟩ := h.exists_map
  simp only [ofValue, expect_object, ok_bind, bind_eq_ok] at hread
  obtain ⟨_, -, policy, hpolicy, _, -, deletionPolicy, -, _, -, _, -, _, -, references, -, _, -, _,
    -, hs⟩ := hread
  have hname : ((policyOf policy).text : Text) ∈ ManagementPolicy.known.map (·.text) :=
    text_policyOf_mem fun name hn => accepts_oneOf_iff.1 (hes.text rfl hpolicy name hn)
  have hdeletion : (deletionPolicy.text : Text) ∈
      [(DeletionPolicy.orphan.text : Text), DeletionPolicy.delete.text] := by
    cases deletionPolicy <;> decide
  cases hs
  refine accepts_object_iff.2 ⟨?_, .append (.append (.append ?_ ?_) ?_) ?_⟩
  · refine List.forall_mem_singleton.2 (field_ne_null_of_lookup (v := p.toValue) ?_ ?_)
    · simp [lookup_append]
    · exact Value.noConfusion
  · refine .cons rfl (accepts_oneOf_iff.2 hdeletion) (.cons rfl ?_ (acceptsEntries_single rfl
      (accepts_oneOf_iff.2 hname)))
    refine accepts_object_iff.2 ⟨?_, acceptsEntries_single rfl (accepts_text rfl rfl rfl rfl _)⟩
    simp [field, fieldOr]
  · exact acceptsEntries_ifSome rfl fun secret _ => SecretReference.accepts_toValue secret
  · refine acceptsEntries_unless rfl fun _ => accepts_arrayOf ?_
    rintro _ hw
    obtain ⟨r, hr, rfl⟩ := List.mem_map.1 hw
    obtain ⟨_, w, hw, hconvert⟩ := hall r hr
    exact Reference.accepts_toValue hw hconvert
  · refine acceptsEntries_single rfl (accepts_object_iff.2 ⟨?_, ?_⟩)
    · simp [field, fieldOr]
    · exact acceptsEntries_single rfl (accepts_manifest p.manifest)

/-! ## The Object -/

namespace Object

variable {x : Object}

theorem exists_accepted_spec (h : ObjectSchema.schema.Accepts v) (hread : ofValue v = .ok x) :
    ∃ w, ObjectSchema.spec.Accepts w ∧
      ObjectSpec.ofValue ObjectSpec.defaultLocation w = .ok x.spec := by
  obtain ⟨es, rfl, hrequired, hes⟩ := h.exists_map
  have hspecR := hrequired "spec" (by decide)
  simp only [ofValue, expect_object, ok_bind, bind_eq_ok] at hread
  obtain ⟨_, -, _, -, spec, hspec, _, -, _, -, _, -, hx⟩ := hread
  obtain ⟨spec, rfl⟩ := exists_of_required_part hspecR hspec
  cases hx
  exact hes.part rfl hspec spec rfl

/-- **The references of a document without issues that copy a value say what they read.** -/
theorem exists_fieldPath (h : ObjectSchema.schema.Accepts v) (hread : ofValue v = .ok x) :
    ∀ r ∈ x.spec.references, ∀ p, r.patchesFrom = some p → ∃ text, p.fieldPath = some text := by
  intro r hr p hp
  obtain ⟨w, hw, hspec⟩ := exists_accepted_spec h hread
  obtain ⟨_, u, hu, hreference⟩ := ObjectSpec.exists_accepted_reference hw hspec r hr
  exact Reference.exists_fieldPath hu hreference hp

/-- **What is written of a document that is accepted is accepted**, with any manifest. -/
theorem accepts_toValue (h : ObjectSchema.schema.Accepts v)
    (hread : ofValue v = .ok x) (manifest : List (Value × Value)) :
    ObjectSchema.schema.Accepts (x.withManifest manifest).toValue := by
  obtain ⟨given, hgiven, hreadSpec⟩ := exists_accepted_spec h hread
  obtain ⟨es, rfl, hrequired, hes⟩ := h.exists_map
  simp only [List.forall_mem_cons] at hrequired
  obtain ⟨hrequiredVersion, hrequiredKind, -⟩ := hrequired
  simp only [ofValue, expect_object, ok_bind, bind_eq_ok] at hread
  obtain ⟨_, -, _, -, _, -, status, hstatus, apiVersion, hapiVersion, kind, hkind, hx⟩ := hread
  obtain ⟨apiVersion, rfl⟩ := exists_of_required hrequiredVersion hapiVersion
  obtain ⟨kind, rfl⟩ := exists_of_required hrequiredKind hkind
  cases hx
  refine accepts_object_iff.2 ⟨?_, .append (.cons rfl ?_ (.cons rfl ?_ (.cons rfl ?_
    (acceptsEntries_single rfl ?_)))) ?_⟩
  · simp [field, fieldOr, ObjectSpec.toValue]
  · exact hes.text rfl hapiVersion apiVersion rfl
  · exact hes.text rfl hkind kind rfl
  · exact accepts_open rfl rfl rfl (.inr rfl) _
  · exact ObjectSpec.accepts_toValue hgiven hreadSpec ⟨manifest⟩
  · refine acceptsEntries_unless rfl fun hne => ?_
    cases status with
    | none => exact absurd rfl hne
    | some s =>
      obtain ⟨w, hw, hconvert⟩ := hes.part rfl hstatus s rfl
      exact ObjectStatus.accepts_toValue hw hconvert

/-- **Validity survives conversion and patching.**  What is written of a document without issues has
none; after its references were applied neither the schema nor the consistency check has anything
new to say, and the latter stops for nothing but a number with too many digits in a path. -/
theorem validity_survives [Machine] {document : Value} (hcheck : ObjectSchema.check document = [])
    (hread : ofValue document = .ok x) :
    ObjectSchema.check x.toValue = [] ∧
      FailsWith (Semantics.StopsAtDigits x.spec.references) (Semantics.check x.toValue) ∧
      ∀ lookup y, x.applyPatches lookup = .ok y →
        ObjectSchema.check y.toValue = [] ∧
          Semantics.check y.toValue = Semantics.check x.toValue := by
  have haccepts : ObjectSchema.schema.Accepts document := (check_eq_nil_iff document).1 hcheck
  have hwritten : ∀ manifest, ObjectSchema.check (x.withManifest manifest).toValue = [] :=
    fun manifest => (check_eq_nil_iff _).2 (accepts_toValue haccepts hread manifest)
  obtain ⟨root, hroot, hreads⟩ := exists_reads (ofValue_toValue hread)
  refine ⟨hwritten x.spec.forProvider.manifest, ?_, fun lookup y hy => ?_⟩
  · rw [hroot]
    exact hreads.check_failsWith
  · obtain ⟨-, -, hframe⟩ := (applyPatches_eq_ok hread).1 hy
    rw [hframe]
    exact ⟨hwritten _, check_withManifest x _⟩

open Machine in
/-- An Object with a destination that is of no use: it is patched, and the warning stays. -/
theorem validity_survives_warning :
    let document := Value.map [
      (.str "apiVersion", .str ApiGroup.apiVersion), (.str "kind", .str ApiGroup.kind),
      (.str "spec", .map [
        (.str "references", .list [
          .map [(.str "patchesFrom", .map [(.str "name", .str "source"),
            (.str "fieldPath", .str "port")])],
          .map [(.str "dependsOn", .map [(.str "name", .str "other")]),
            (.str "toFieldPath", .str "unused")]]),
        (.str "forProvider", .map [(.str "manifest", .map [])])])]
    let x : Object := { spec := { references := [
      { patchesFrom := some { name := "source", fieldPath := some "port" } },
      { dependsOn := some { name := "other" }, toFieldPath := some "unused" }] } }
    let lookup : SourceLookup := fun _ => .ok (.document (.map [(.str "port", .int 80)]))
    let y := x.withManifest [(.str "port", .int 80)]
    (ObjectSchema.check document = [] ∧ ofValue document = .ok x ∧ x.applyPatches lookup = .ok y) ∧
      (ObjectSchema.check y.toValue = [] ∧ Semantics.check y.toValue = Semantics.check x.toValue) ∧
      ∃ report, Semantics.check x.toValue = .ok report ∧ report.warnings.length = 1 := by
  intro document x lookup y
  have hcheck : ObjectSchema.check document = [] := rfl
  have hread : ofValue document = .ok x := rfl
  have hupdate : x.spec.patchReferences.map (·.update? lookup) =
      [([.field "port"], .int 80)].map some := rfl
  have hy : x.applyPatches lookup = .ok y := applyPatches_of_updates hread _ hupdate rfl
  obtain ⟨-, -, hpatched⟩ := validity_survives hcheck hread
  exact ⟨⟨hcheck, hread, hy⟩, hpatched lookup y hy, _, rfl, rfl⟩

end Object
end Patchwork
