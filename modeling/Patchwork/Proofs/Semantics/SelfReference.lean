import Patchwork.Proofs.Document.Copy
import Patchwork.Proofs.Semantics.Checked

/-!
# References of an Object to itself

The consistency check compares the key of a document with what its references point at, both as they
stand in the document, while references are resolved by the keys that were read.  The two agree on
the defaults of `apiVersion` and `kind`.  They part where a reference gives null for the namespace:
reading takes that for no namespace, and the check for a namespace of its own.

* `Object.IsTargetOf` — a reference points at the Object that has it.
* `Reference.PointsAt` — what the check sees of the resource that a reference points at.
* `Semantics.Checked.ownKey_eq` — the check sees the key of the Object.
* `Semantics.check_finds_self_references` — the check reports the references of an Object to itself,
  unless they give null for the namespace.
-/

set_option autoImplicit false

namespace Patchwork

open Value

/-! ## Keys -/

/-- A reference points at the Object that has it, which has a name. -/
def Object.IsTargetOf (o : Object) (r : Reference) : Prop :=
  o.name.truthy = true ∧ ∃ d, r.target = some d ∧ d.key.same o.key = true

/-- The key of a resource with null for its namespace. -/
def DependsOn.keyOfNullNamespace (d : DependsOn) : ResourceKey := { d.key with ns := .null }

/-- The entry of a reference that holds what it points at. -/
def Reference.targetKey (r : Reference) : Text :=
  if r.isPatch then "patchesFrom" else "dependsOn"

variable {es fields ref root : List (Value × Value)} {key location : Text} {v : Value}
  {d : DependsOn} {r : Reference} {o : Object} {items : List Value} {i : Nat}

theorem Value.fieldOr_text {given : Option Text}
    (h : Value.optional es key .string location = .ok given) (hne : lookup key es ≠ some .null)
    (default : Text) : fieldOr es key (.str default) = .str (given.getD default) := by
  rcases optional_eq_ok h with ⟨rfl, hnull⟩ | ⟨text, w, rfl, hw, -, hvalue⟩
  · cases hlookup : lookup key es with
    | none => rw [fieldOr, hlookup]; rfl
    | some w =>
      rw [field_of_lookup hlookup] at hnull
      exact absurd (hlookup.trans (congrArg some hnull)) hne
  · obtain rfl := Shape.string_eq_some.1 hvalue
    rw [fieldOr, hw]
    rfl

theorem Value.lookup_ne_null (h : field es key ≠ .null) : lookup key es ≠ some .null :=
  fun hnull => h (field_of_lookup hnull)

namespace Semantics

theorem orElse_textOrNull (given : Option Text) (default : Text) :
    orElse (textOrNull given) (.str default) = .str (textOr default given) := by
  cases given with
  | none => rfl
  | some text =>
    by_cases hempty : text.isEmpty <;> simp [orElse, textOrNull, textOr, truthy, hempty]

/-- **What the check takes for the key of a resource is its key**, but for a null namespace. -/
theorem referencedKey_eq (h : DependsOn.ofEntries location fields = .ok d)
    (hname : field fields "name" ≠ .null) :
    (lookup "namespace" fields ≠ some .null → referencedKey fields = d.key) ∧
      (lookup "namespace" fields = some .null → referencedKey fields = d.keyOfNullNamespace) := by
  simp only [DependsOn.ofEntries, bind_eq_ok] at h
  obtain ⟨name, hnameR, apiVersion, hapiVersion, kind, hkind, ns, hns, block, -, hd⟩ := h
  cases hd
  have hnameK := fieldOr_text hnameR (lookup_ne_null hname) ""
  constructor
  · intro hne
    simp only [referencedKey, DependsOn.key, field_eq_textOrNull hapiVersion,
      field_eq_textOrNull hkind, orElse_textOrNull, fieldOr_text hns hne, hnameK]
  · intro hnull
    have hnsK : fieldOr fields "namespace" (.str "") = .null := by rw [fieldOr, hnull]; rfl
    simp only [referencedKey, DependsOn.keyOfNullNamespace, DependsOn.key,
      field_eq_textOrNull hapiVersion, field_eq_textOrNull hkind, orElse_textOrNull, hnsK, hnameK]

end Semantics

/-! ## What a reference points at -/

/-- What a reference points at was read out of these entries, and the check looks at the same. -/
structure Reference.PointsAt (r : Reference) (ref : List (Value × Value)) (d : DependsOn)
    (fields : List (Value × Value)) : Prop where
  target : r.target = some d
  entry : lookup r.targetKey ref = some (.map fields)
  seen : Semantics.orElse (field ref "patchesFrom") (field ref "dependsOn") = .map fields
  named : field fields "name" ≠ .null
  read : ∃ place, DependsOn.ofEntries place fields = .ok d

theorem DependsOn.exists_entries
    (h : (ObjectSchema.object ["name"] ObjectSchema.descriptor).Accepts v)
    (hread : ofValue location v = .ok d) :
    ∃ fields, v = .map fields ∧ field fields "name" ≠ .null ∧
      ofEntries location fields = .ok d := by
  obtain ⟨fields, rfl, hrequired, -⟩ := h.exists_map
  exact ⟨fields, rfl, hrequired "name" List.mem_cons_self, hread⟩

theorem PatchesFrom.exists_entries {p : PatchesFrom} {properties : List (Text × Schema)}
    (h : (ObjectSchema.object ["name", "fieldPath"] properties).Accepts v)
    (hread : ofValue location v = .ok p) :
    ∃ fields, v = .map fields ∧ field fields "name" ≠ .null ∧
      DependsOn.ofEntries location fields = .ok p.toDependsOn := by
  obtain ⟨fields, rfl, hrequired, -⟩ := h.exists_map
  simp only [ofValue, expect_object, ok_bind, bind_eq_ok] at hread
  obtain ⟨d, hd, fieldPath, -, hp⟩ := hread
  cases hp
  exact ⟨fields, rfl, hrequired "name" List.mem_cons_self, hd⟩

/-- The check looks at what an accepted reference points at, if it points at anything. -/
theorem Reference.exists_pointsAt (h : ObjectSchema.reference.Accepts v)
    (hread : ofValue location v = .ok r) :
    ∃ ref, v = .map ref ∧
      ((r.target = none ∧
          Semantics.orElse (field ref "patchesFrom") (field ref "dependsOn") = .null) ∨
        ∃ d fields, r.PointsAt ref d fields) := by
  obtain ⟨ref, rfl, -, href⟩ := h.exists_map
  simp only [ofValue, expect_object, ok_bind, bind_eq_ok] at hread
  obtain ⟨dependsOn, hdependsOn, patchesFrom, hpatchesFrom, toFieldPath, -, hr⟩ := hread
  cases hr
  refine ⟨ref, rfl, ?_⟩
  rcases optionalWith_eq_ok hpatchesFrom with ⟨rfl, hnull⟩ | ⟨p, w, rfl, hw, hne, hconvert⟩
  · have hunset : Semantics.orElse (field ref "patchesFrom") (field ref "dependsOn") =
        field ref "dependsOn" := by rw [hnull]; rfl
    rcases optionalWith_eq_ok hdependsOn with ⟨rfl, hnone⟩ | ⟨d, w, rfl, hw, hne, hconvert⟩
    · exact .inl ⟨rfl, hunset.trans hnone⟩
    · obtain ⟨fields, rfl, hname, hd⟩ :=
        DependsOn.exists_entries (href.lookup hw hne rfl) hconvert
      exact .inr ⟨d, fields, rfl, hw, hunset.trans (field_of_lookup hw), hname, _, hd⟩
  · obtain ⟨fields, rfl, hname, hd⟩ :=
      PatchesFrom.exists_entries (href.lookup hw hne rfl) hconvert
    refine .inr ⟨p.toDependsOn, fields, rfl, hw, ?_, hname, _, hd⟩
    have hset : (Value.map fields).truthy = true := by
      cases fields with
      | nil => exact absurd rfl hname
      | cons entry rest => rfl
    rw [field_of_lookup hw, Option.getD_some, Semantics.orElse, if_pos hset]

namespace Semantics

/-! ## The key of the document -/

/-- The metadata of a document holds a text under a key, or null, or nothing. -/
def HasTextAt (document : Value) (key : Text) : Prop :=
  ∀ v, document.reach? [.field "metadata", .field key] = some v → ∃ given, v = textOrNull given

theorem fieldOr_unstructuredEntries {copies : List (Value × Value)}
    (h : unstructuredEntries location es = .ok copies)
    (htext : ∀ v, lookup key es = some v → ∃ given, v = textOrNull given) (default : Value) :
    fieldOr copies key default = fieldOr es key default := by
  cases hlookup : lookup key es with
  | none => rw [fieldOr, fieldOr, hlookup, lookup_unstructuredEntries_eq_none h hlookup]
  | some v =>
    obtain ⟨copy, hcopy, hlookupC⟩ := lookup_unstructuredEntries h hlookup
    obtain ⟨given, rfl⟩ := htext v hlookup
    have hself : unstructured "" (textOrNull given) = .ok (textOrNull given) := by
      cases given <;> rfl
    obtain rfl : textOrNull given = copy := Except.ok.inj (hself.symm.trans hcopy)
    rw [fieldOr, fieldOr, hlookup, hlookupC]

/-- **The check sees the key of the Object** that a document without issues holds. -/
theorem Checked.ownKey_eq (h : Checked root items) (hread : Object.ofValue (.map root) = .ok o)
    (hname : HasTextAt (.map root) "name") (hns : HasTextAt (.map root) "namespace") :
    ownKey root = .ok o.key := by
  simp only [Object.ofValue, expect_object, ok_bind, bind_eq_ok] at hread
  obtain ⟨given, hgiven, metadata, hmetadata, spec, -, status, -, apiVersion, hapiVersion, kind,
    hkind, ho⟩ := hread
  cases ho
  have hset : (field root "metadata").entriesIfSet = .ok (given.getD []) := by
    rcases optional_eq_ok hgiven with ⟨rfl, hnull⟩ | ⟨entries, w, rfl, hw, -, hvalue⟩
    · rw [hnull]; rfl
    · obtain rfl := Shape.object_eq_some.1 hvalue
      rw [field_of_lookup hw, Option.getD_some, entriesIfSet_map, Option.getD_some]
  have hreach : ∀ key v, lookup key (given.getD []) = some v →
      (Value.map root).reach? [.field "metadata", .field key] = some v := by
    intro key v hv
    rcases optional_eq_ok hgiven with ⟨rfl, -⟩ | ⟨entries, w, rfl, hw, -, hvalue⟩
    · cases hv
    · obtain rfl := Shape.object_eq_some.1 hvalue
      simpa [reach?, child?, hw] using hv
  have hcopy : ∀ key, HasTextAt (.map root) key → ∀ default,
      fieldOr metadata key default = fieldOr (given.getD []) key default := fun key htext =>
    fieldOr_unstructuredEntries hmetadata fun v hv => htext v (hreach key v hv)
  rw [ownKey, hset, ok_bind, fieldOr_text hapiVersion (lookup_ne_null h.apiVersion),
    fieldOr_text hkind (lookup_ne_null h.kind), ← hcopy _ hname, ← hcopy _ hns]
  rfl

/-! ## What the check finds -/

theorem selfIssues_of_pointsAt {own : ResourceKey} (h : r.PointsAt ref d fields)
    (hown : ownKey root = .ok own) (location : Text) :
    selfIssues root location ref =
      .ok (if own.name.truthy && (referencedKey fields).same own then
        [⟨location, .selfReference own.name⟩] else []) := by
  have hset : (Value.map fields).truthy = true := by
    cases fields with
    | nil => exact absurd rfl h.named
    | cons entry rest => rfl
  simp only [selfIssues, h.seen, hset, hown, entriesOf, ok_bind, Bool.not_true, Bool.false_eq_true,
    if_false]
  rfl

def ReportsSelf (report : SemanticReport) (i : Nat) : Prop :=
  ∃ issue ∈ report.issues, issue.location = referenceLocation i ∧ issue.code = "SELF_REFERENCE"

/-- The report says so where the rule finds it. -/
theorem Checked.reportsSelf_iff {report : SemanticReport} (h : Checked root items)
    (hcheck : check (.map root) = .ok report) (hi : items[i]? = some (.map ref)) :
    ReportsSelf report i ↔ ∃ issue issues,
      selfIssues root (referenceLocation i) ref = .ok issues ∧ issue ∈ issues := by
  obtain ⟨-, -, -, hrules⟩ := h.exists_rules hcheck
  obtain ⟨selfs, hselfs, hiff⟩ := hrules i ref hi
  constructor
  · rintro ⟨issue, hissue, hlocation, hcode⟩
    exact ⟨issue, selfs, hselfs, (hiff issue (isAt_self hlocation) hcode).1 hissue⟩
  · rintro ⟨issue, issues, hissues, hmem⟩
    obtain rfl : selfs = issues := Except.ok.inj (hselfs.symm.trans hissues)
    obtain ⟨hlocation, hcode⟩ := code_of_mem_selfIssues hselfs hmem
    exact ⟨issue, (hiff issue (isAt_self hlocation) hcode).2 hmem, hlocation, hcode⟩

/-- **The check reports the references of an Object to itself, unless they give null for the
namespace.**  Take a document without issues of the schema, whose name and namespace are texts, null
or absent.  The check stops for nothing but a number with too many digits in a path.  What it
reports at a reference is that the Object has a name and the key that was read of the reference is
its own.  Where the reference gives null for the namespace, the report compares the namespace of the
Object with null and not with the empty namespace that was read. -/
theorem check_finds_self_references {document : Value} (hcheck : ObjectSchema.check document = [])
    (hopen : ObjectSchema.OpenIsConvertible document) (hname : HasTextAt document "name")
    (hns : HasTextAt document "namespace") :
    ∃ o, Object.ofValue document = .ok o ∧
      FailsWith (StopsAtDigits o.spec.references) (check document) ∧
      ∀ report, check document = .ok report → ∀ i r, o.spec.references[i]? = some r →
        let givenNamespace := document.reach?
          (referencePath i ++ [.field r.targetKey, .field "namespace"])
        (givenNamespace ≠ some .null → (ReportsSelf report i ↔ o.IsTargetOf r)) ∧
        (givenNamespace = some .null → (ReportsSelf report i ↔
          o.name.truthy = true ∧ ∃ d, r.target = some d ∧
            d.keyOfNullNamespace.same o.key = true)) := by
  obtain ⟨o, hread⟩ := ObjectSchema.exists_ofValue_eq_ok hcheck hopen
  obtain ⟨root, items, rfl, hchecked⟩ := exists_checked hcheck
  obtain ⟨root', hroot, hreads⟩ := Object.exists_reads hread
  cases hroot
  refine ⟨o, hread, hreads.check_failsWith, fun report hreport i r hr => ?_⟩
  have hown := hchecked.ownKey_eq hread hname hns
  obtain ⟨item, place, hi, hreadItem⟩ := hreads.exists_ofValue hchecked.references hr
  obtain ⟨ref, rfl, htarget⟩ := Reference.exists_pointsAt
    (hchecked.accepted item (List.mem_of_getElem? hi)) hreadItem
  have hreach : (Value.map root).reach?
      (referencePath i ++ [.field r.targetKey, .field "namespace"]) =
        (lookup r.targetKey ref).bind (reach? [.field "namespace"]) := by
    rw [reach?_append, (hchecked.place i _).2 hi, Option.bind_some]
    rfl
  rw [hchecked.reportsSelf_iff hreport hi, hreach]
  rcases htarget with ⟨hnone, hseen⟩ | ⟨d, fields, hpoints⟩
  · -- The reference points at nothing, and the rule has nothing to compare.
    have hself : selfIssues root (referenceLocation i) ref = .ok [] := by
      rw [selfIssues, hseen]
      rfl
    simp [hself, hnone, Object.IsTargetOf]
  · obtain ⟨place, hd⟩ := hpoints.read
    obtain ⟨hsame, hnull⟩ := referencedKey_eq hd hpoints.named
    have hself := selfIssues_of_pointsAt hpoints hown (referenceLocation i)
    have hentry : (lookup r.targetKey ref).bind (reach? [.field "namespace"]) =
        lookup "namespace" fields := by
      simp [hpoints.entry, reach?, child?]
    have hname : o.key.name = o.name := rfl
    rw [hentry]
    constructor
    · intro hne
      simp [hself, hname, hsame hne, hpoints.target, Object.IsTargetOf]
    · intro hnamespace
      simp [hself, hname, hnull hnamespace, hpoints.target]

/-- A document whose only reference depends on `app`, with the given metadata and entries beside the
name. -/
def selfReferring (metadata target : List (Value × Value)) : Value := .map [
  (.str "apiVersion", .str ApiGroup.apiVersion), (.str "kind", .str ApiGroup.kind),
  (.str "metadata", .map ((.str "name", .str "app") :: metadata)),
  (.str "spec", .map [
    (.str "references", .list [
      .map [(.str "dependsOn", .map ((.str "name", .str "app") :: target))]]),
    (.str "forProvider", .map [(.str "manifest", .map [])])])]

def selfReferringObject (metadata : List (Value × Value)) : Object :=
  { metadata := (.str "name", .str "app") :: metadata
    spec := { references := [{ dependsOn := some { name := "app" } }] } }

/-- An empty `apiVersion`, a null `kind` and an empty namespace stand for those of the Object: the
reference points at the Object, and the check says so. -/
theorem check_finds_self_references_defaults :
    let document := selfReferring [] [(.str "apiVersion", .str ""), (.str "kind", .null),
      (.str "namespace", .str "")]
    let o := selfReferringObject []
    let report : SemanticReport := ⟨[⟨referenceLocation 0, .selfReference (.str "app")⟩]⟩
    Object.ofValue document = .ok o ∧ check document = .ok report ∧
      o.IsTargetOf { dependsOn := some { name := "app" } } ∧ ReportsSelf report 0 := by
  intro document o report
  have hcheck : ObjectSchema.check document = [] := rfl
  have hopen : ObjectSchema.OpenIsConvertible document :=
    ObjectSchema.openIsConvertible_of_isJson rfl
  have hname : HasTextAt document "name" := by
    rintro _ ⟨⟩
    exact ⟨some "app", rfl⟩
  have hns : HasTextAt document "namespace" := by
    rintro _ ⟨⟩
  have hread : Object.ofValue document = .ok o := rfl
  obtain ⟨o', hread', -, hreport⟩ := check_finds_self_references hcheck hopen hname hns
  obtain rfl : o = o' := Except.ok.inj (hread.symm.trans hread')
  have htarget : o.IsTargetOf { dependsOn := some { name := "app" } } := ⟨rfl, _, rfl, rfl⟩
  have hreported : check document = .ok report := rfl
  have hgiven : document.reach? (referencePath 0 ++ [.field "dependsOn", .field "namespace"]) =
      some (.str "") := rfl
  obtain ⟨hsame, -⟩ := hreport report hreported 0 { dependsOn := some { name := "app" } } rfl
  exact ⟨hread, hreported, htarget, (hsame (by simp [hgiven, Reference.targetKey,
    Reference.isPatch])).2 htarget⟩

/-- With null for the namespace of the target, the check misses the reference of an Object without
namespace to itself.  Where the namespace of the Object is null too it reports the reference,
although the target that was read has the empty namespace and the Object has not. -/
theorem check_misses_null_namespace :
    let noNamespace := [(Value.str "namespace", Value.null)]
    let r : Reference := { dependsOn := some { name := "app" } }
    (∀ metadata ∈ [[], noNamespace],
      let document := selfReferring metadata noNamespace
      ObjectSchema.check document = [] ∧ document.isJson = true ∧ HasTextAt document "name" ∧
        HasTextAt document "namespace" ∧
        Object.ofValue document = .ok (selfReferringObject metadata)) ∧
    (∃ report, check (selfReferring [] noNamespace) = .ok report ∧
      (selfReferringObject []).IsTargetOf r ∧ ¬ ReportsSelf report 0) ∧
    ∃ report, check (selfReferring noNamespace noNamespace) = .ok report ∧
      ¬ (selfReferringObject noNamespace).IsTargetOf r ∧ ReportsSelf report 0 := by
  intro noNamespace r
  refine ⟨?_, ⟨_, rfl, ⟨rfl, _, rfl, rfl⟩, ?_⟩, ⟨_, rfl, ?_, ?_⟩⟩
  · have hname : ∀ metadata, HasTextAt (selfReferring metadata noNamespace) "name" := by
      rintro metadata _ ⟨⟩
      exact ⟨some "app", rfl⟩
    rintro metadata (_ | ⟨_, _ | ⟨_, ⟨⟩⟩⟩)
    · exact ⟨rfl, rfl, hname _, by rintro _ ⟨⟩, rfl⟩
    · refine ⟨rfl, rfl, hname _, ?_, rfl⟩
      rintro _ ⟨⟩
      exact ⟨none, rfl⟩
  · rintro ⟨issue, hissue, -⟩
    cases hissue
  · rintro ⟨-, d, ⟨⟩, hsame⟩
    cases hsame
  · exact ⟨_, List.mem_singleton_self _, rfl, rfl⟩

end Semantics
end Patchwork
