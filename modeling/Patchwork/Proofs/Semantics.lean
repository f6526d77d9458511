import Patchwork.Proofs.FieldPath.Grammar
import Patchwork.Proofs.Manifest
import Patchwork.Semantics

/-!
# The consistency check beside the typed references

The consistency check looks at the references of a document as they stand, and patching uses them as
they were read.  Where they can be read, the check sees the same paths, so what it says about them
holds for patching.

* `Reference.ReadFrom` — what the check sees of a reference that was read.
* `Semantics.Reads` — a document whose references are read; `Object.exists_reads` — every document
  that an Object is read out of is one.
* `Semantics.IsAt.unique` — an issue tells by its location which reference it is about.
* `Semantics.pathsRead_iff_check` — the check finds an invalid path at a reference exactly if the
  paths of the reference are not read.
* `Semantics.Reads.check_failsWith` — the check stops for nothing but a number with too many digits.
* `Object.check_withManifest` — the check of an Object does not depend on its manifest.
-/

set_option autoImplicit false

namespace Patchwork

open Value

variable {v : Value} {es fs : List (Value × Value)} {key location : Text}

/-! ## Entries -/

@[simp] theorem Value.entriesIfSet_map (es : List (Value × Value)) :
    (Value.map es).entriesIfSet = .ok es := by
  cases es <;> rfl

theorem Value.IsEntries.entriesIfSet (h : v.IsEntries es) : v.entriesIfSet = .ok es := by
  rcases h with rfl | ⟨rfl, rfl⟩
  · exact Value.entriesIfSet_map es
  · rfl

def Value.textOrNull : Option Text → Value
  | none => .null
  | some text => .str text

theorem Value.field_eq_textOrNull {given : Option Text}
    (h : Value.optional es key .string location = .ok given) :
    field es key = textOrNull given := by
  rcases optional_eq_ok h with ⟨rfl, hnull⟩ | ⟨text, v, rfl, hv, -, hvalue⟩
  · exact hnull
  · obtain rfl := Shape.string_eq_some.1 hvalue
    rw [field_of_lookup hv]
    rfl

theorem Value.exists_isEntries_of_optionalWith {α : Type} {given : Option α}
    {convert : Value → Except ConversionError α}
    (h : Value.optionalWith es key convert = .ok given)
    (hmap : ∀ w a, convert w = .ok a → ∃ fields, w = .map fields) :
    ∃ fields, (field es key).IsEntries fields := by
  rcases optionalWith_eq_ok h with ⟨-, hnull⟩ | ⟨a, w, -, hw, -, hconvert⟩
  · exact ⟨[], .inr ⟨hnull, rfl⟩⟩
  · obtain ⟨fields, rfl⟩ := hmap w a hconvert
    refine ⟨fields, .inl ?_⟩
    rw [field_of_lookup hw]
    rfl

/-! ## References that were read -/

/-- The reference was read out of these entries, as far as the consistency check looks at them. -/
structure Reference.ReadFrom (r : Reference) (ref : List (Value × Value)) : Prop where
  dependsOn : ∃ fields, (field ref "dependsOn").IsEntries fields
  patchesFrom : (r.patchesFrom = none ∧ field ref "patchesFrom" = .null) ∨
    ∃ p fields, r.patchesFrom = some p ∧ field ref "patchesFrom" = .map fields ∧
      field fields "fieldPath" = textOrNull p.fieldPath
  toFieldPath : field ref "toFieldPath" = textOrNull r.toFieldPath

theorem DependsOn.exists_map {d : DependsOn} (h : ofValue location v = .ok d) :
    ∃ fields, v = .map fields := by
  obtain ⟨fields, hfields, -⟩ := bind_eq_ok.1 h
  exact ⟨fields, expect_object_eq_ok.1 hfields⟩

theorem PatchesFrom.exists_map {p : PatchesFrom} (h : ofValue location v = .ok p) :
    ∃ fields, v = .map fields ∧ field fields "fieldPath" = textOrNull p.fieldPath := by
  simp only [ofValue, bind_eq_ok, expect_object_eq_ok] at h
  obtain ⟨fields, hfields, _, -, fieldPath, hpath, hp⟩ := h
  cases hp
  exact ⟨fields, hfields, field_eq_textOrNull hpath⟩

theorem Reference.exists_readFrom {r : Reference} (h : ofValue location v = .ok r) :
    ∃ ref, v = .map ref ∧ r.ReadFrom ref := by
  simp only [ofValue, bind_eq_ok, expect_object_eq_ok] at h
  obtain ⟨ref, rfl, dependsOn, hdependsOn, patchesFrom, hpatchesFrom, toFieldPath, hpath, hr⟩ := h
  cases hr
  refine ⟨ref, rfl, ?_, ?_, field_eq_textOrNull hpath⟩
  · exact exists_isEntries_of_optionalWith hdependsOn fun w d hd => DependsOn.exists_map hd
  · rcases optionalWith_eq_ok hpatchesFrom with ⟨rfl, hnull⟩ | ⟨p, w, rfl, hw, -, hconvert⟩
    · exact .inl ⟨rfl, hnull⟩
    · obtain ⟨fields, rfl, hfieldPath⟩ := PatchesFrom.exists_map hconvert
      refine .inr ⟨p, fields, rfl, ?_, hfieldPath⟩
      rw [field_of_lookup hw]
      rfl

/-- The text is a path of the reference. -/
def Reference.HasPath (r : Reference) (text : Text) : Prop :=
  r.patchesFrom.bind (·.fieldPath) = some text ∨ r.toFieldPath = some text

/-- The paths of a reference, as far as it has them, are field paths. -/
structure Reference.PathsRead (r : Reference) : Prop where
  fieldPath : ∀ text, r.patchesFrom.bind (·.fieldPath) = some text →
    ∃ segments, FieldPath.ofText text = .ok segments
  toFieldPath : ∀ text, r.toFieldPath = some text →
    ∃ segments, FieldPath.ofText text = .ok segments

namespace Semantics

/-- The references of a document are read, and its metadata is a map if there is any. -/
structure Reads (root : List (Value × Value)) (references : List Reference) : Prop where
  metadata : ∃ fields, (field root "metadata").IsEntries fields
  references : ∃ items place, Semantics.references root = .ok items ∧
    convertItems place Reference.ofValue 0 items = .ok references

variable {root ref : List (Value × Value)} {references : List Reference} {r : Reference}
  {items : List Value} {issue : SemanticIssue} {issues own : List SemanticIssue}

/-! ## Where issues are -/

/-- The location of the issue is that of a reference, or that of a part of it. -/
def IsAt (issue : SemanticIssue) (i : Nat) : Prop :=
  ∃ rest, issue.location = referenceLocation i ++ rest

theorem append_close_inj {xs ys us ws : List CodePoint} (hxs : CodePoint.char ']' ∉ xs)
    (hys : CodePoint.char ']' ∉ ys) (h : xs ++ .char ']' :: us = ys ++ .char ']' :: ws) :
    xs = ys ∧ us = ws := by
  rcases List.append_eq_append_iff.1 h with ⟨c, rfl, hc⟩ | ⟨c, rfl, hc⟩
  · cases c with
    | nil => simp_all
    | cons d c =>
      obtain ⟨rfl, -⟩ := List.cons_eq_cons.1 hc
      simp at hys
  · cases c with
    | nil => simp_all
    | cons d c =>
      obtain ⟨rfl, -⟩ := List.cons_eq_cons.1 hc
      simp at hxs

theorem item_append_inj {base rest rest' : Text} {i j : Nat}
    (h : Location.item base i ++ rest = Location.item base j ++ rest') : i = j ∧ rest = rest' := by
  have hdigits : ∀ k : Nat, (Text.string (toString k)).toList = Segment.digits k :=
    fun k => by simp [Segment.digits]
  have hclose : (Text.string "]").toList = [.char ']'] := rfl
  have hchars := congrArg Text.toList h
  simp only [Location.item, Text.toList_append, List.append_assoc, List.append_cancel_left_eq,
    hdigits, hclose, List.singleton_append] at hchars
  obtain ⟨hposition, hrest⟩ := append_close_inj (FieldPath.close_not_mem_digits i)
    (FieldPath.close_not_mem_digits j) hchars
  refine ⟨?_, Text.toList_inj.1 hrest⟩
  rw [← FieldPath.decimalValue_digits i, hposition, FieldPath.decimalValue_digits]

/-- An issue is at one reference only. -/
theorem IsAt.unique {i j : Nat} (hi : IsAt issue i) (hj : IsAt issue j) : i = j := by
  obtain ⟨rest, hrest⟩ := hi
  obtain ⟨rest', hrest'⟩ := hj
  exact (item_append_inj (hrest.symm.trans hrest')).1

theorem isAt_self {i : Nat} (h : issue.location = referenceLocation i) : IsAt issue i :=
  ⟨"", by rw [h, Text.append_empty]⟩

theorem isAt_part {i : Nat} (h : issue.location = Location.part (referenceLocation i) key) :
    IsAt issue i :=
  ⟨"." ++ key, by rw [h, Location.part, Text.append_assoc]⟩

/-! ## Paths -/

/-- What is said of a text, by what comes of parsing it. -/
theorem fieldPathIssues_str (location text : Text) :
    fieldPathIssues location (.str text) =
      match FieldPath.parse text with
      | .ok _ => .ok []
      | .error fault =>
        if fault = .tooManyDigits then .error (.limit .digits)
        else .ok [⟨location, .invalidFieldPath (.str text) (.malformed text fault)⟩] := by
  have hvalue : FieldPath.ofValue (.str text) = FieldPath.ofText text := rfl
  have hnull : (Value.str text).isNull = false := rfl
  rw [fieldPathIssues, hnull, if_neg Bool.false_ne_true, hvalue, FieldPath.ofText]
  cases FieldPath.parse text with
  | ok segments => rfl
  | error fault =>
    simp only [mapError_error, FieldPath.limit?_malformed]
    by_cases hdigits : fault = .tooManyDigits
    · simp only [if_pos hdigits]
    · simp only [if_neg hdigits]

/-- **A field path has an issue exactly if it is not read**, and the issue says so at its
location. -/
theorem fieldPathIssues_eq_ok {path : Option Text}
    (h : fieldPathIssues location (textOrNull path) = .ok issues) :
    (issues = [] ↔ ∀ text, path = some text → ∃ segments, FieldPath.ofText text = .ok segments) ∧
      ∀ issue ∈ issues, issue.location = location ∧ issue.code = "FIELD_PATH_INVALID" := by
  cases path with
  | none =>
    cases h
    exact ⟨⟨nofun, fun _ => rfl⟩, nofun⟩
  | some text =>
    rw [textOrNull, fieldPathIssues_str] at h
    cases hparse : FieldPath.parse text with
    | ok segments =>
      rw [hparse] at h
      cases h
      refine ⟨⟨fun _ => ?_, fun _ => rfl⟩, nofun⟩
      rintro _ ⟨⟩
      exact ⟨segments, by rw [FieldPath.ofText, hparse, mapError_ok]⟩
    | error fault =>
      simp only [hparse] at h
      split at h
      · cases h
      · cases h
        refine ⟨⟨nofun, fun hread => ?_⟩, fun issue hissue => ?_⟩
        · obtain ⟨segments, hok⟩ := hread text rfl
          rw [FieldPath.ofText, hparse] at hok
          cases hok
        · obtain rfl := List.mem_singleton.1 hissue
          exact ⟨rfl, rfl⟩

/-- A field path that is a text is looked at, unless it has a number with too many digits. -/
theorem fieldPathIssues_failsWith (location : Text) (path : Option Text) :
    FailsWith (fun e => e = .limit .digits ∧
        ∃ text, path = some text ∧ FieldPath.parse text = .error .tooManyDigits)
      (fieldPathIssues location (textOrNull path)) := by
  cases path with
  | none => exact failsWith_ok _
  | some text =>
    rw [textOrNull, fieldPathIssues_str]
    cases hparse : FieldPath.parse text with
    | ok segments => exact failsWith_ok _
    | error fault =>
      simp only
      split
      · rename_i hdigits
        rintro _ ⟨⟩
        exact ⟨rfl, text, rfl, hdigits ▸ hparse⟩
      · exact failsWith_ok _

theorem pathIssues_eq (h : r.ReadFrom ref) (location : Text) :
    pathIssues location ref = do
      let sources ← fieldPathIssues
        (Location.part (Location.part location "patchesFrom") "fieldPath")
        (textOrNull (r.patchesFrom.bind (·.fieldPath)))
      let destinations ← fieldPathIssues (Location.part location "toFieldPath")
        (textOrNull r.toFieldPath)
      return sources ++ destinations := by
  rw [pathIssues, h.toFieldPath]
  rcases h.patchesFrom with ⟨hnone, hnull⟩ | ⟨p, fields, hsome, hmap, hpath⟩
  · rw [hnone, hnull]
    rfl
  · rw [hsome, hmap, entriesIfSet_map, ok_bind, hpath, Option.bind_some]

/-- **The paths of a reference have no issues exactly if both are read**, and any issue says that
the path is invalid, at the reference. -/
theorem pathIssues_eq_ok (h : r.ReadFrom ref) {i : Nat}
    (hpaths : pathIssues (referenceLocation i) ref = .ok issues) :
    (issues = [] ↔ r.PathsRead) ∧
      ∀ issue ∈ issues, IsAt issue i ∧ issue.code = "FIELD_PATH_INVALID" := by
  rw [pathIssues_eq h] at hpaths
  obtain ⟨sources, hsources, hpaths⟩ := bind_eq_ok.1 hpaths
  obtain ⟨destinations, hdestinations, hissues⟩ := bind_eq_ok.1 hpaths
  cases hissues
  obtain ⟨hnoSource, hallSources⟩ := fieldPathIssues_eq_ok hsources
  obtain ⟨hnoDestination, hallDestinations⟩ := fieldPathIssues_eq_ok hdestinations
  constructor
  · rw [List.append_eq_nil_iff, hnoSource, hnoDestination]
    exact ⟨fun ⟨hs, hd⟩ => ⟨hs, hd⟩, fun hread => ⟨hread.fieldPath, hread.toFieldPath⟩⟩
  · intro issue hissue
    rcases List.mem_append.1 hissue with hissue | hissue
    · obtain ⟨hlocation, hcode⟩ := hallSources issue hissue
      refine ⟨⟨"." ++ ("patchesFrom" ++ ("." ++ "fieldPath")), ?_⟩, hcode⟩
      simp only [hlocation, Location.part, Text.append_assoc]
    · obtain ⟨hlocation, hcode⟩ := hallDestinations issue hissue
      exact ⟨isAt_part hlocation, hcode⟩

/-! ## The issues of a reference -/

theorem referenceIssues_eq_ok {document : List (Value × Value)} {i : Nat} :
    referenceIssues document i (.map ref) = .ok own ↔
      ∃ paths selfs, pathIssues (referenceLocation i) ref = .ok paths ∧
        selfIssues document (referenceLocation i) ref = .ok selfs ∧
        variantIssues (referenceLocation i) ref ++ paths ++ selfs = own := by
  simp only [referenceIssues, entriesOf, ok_bind, bind_eq_ok]
  constructor
  · rintro ⟨paths, hpaths, selfs, hselfs, ⟨⟩⟩
    exact ⟨paths, selfs, hpaths, hselfs, rfl⟩
  · rintro ⟨paths, selfs, hpaths, hselfs, rfl⟩
    exact ⟨paths, hpaths, selfs, hselfs, rfl⟩

theorem mem_variantIssues {i : Nat} (h : issue ∈ variantIssues (referenceLocation i) ref) :
    IsAt issue i ∧ issue.code ≠ "FIELD_PATH_INVALID" := by
  simp only [variantIssues, List.mem_append] at h
  rcases h with h | h
  · split at h
    · obtain rfl := List.mem_singleton.1 h
      exact ⟨isAt_self rfl, by simp [SemanticIssue.code, SemanticFault.code]⟩
    · split at h
      · obtain rfl := List.mem_singleton.1 h
        exact ⟨isAt_self rfl, by simp [SemanticIssue.code, SemanticFault.code]⟩
      · cases h
  · split at h
    · obtain rfl := List.mem_singleton.1 h
      exact ⟨isAt_part rfl, by simp [SemanticIssue.code, SemanticFault.code]⟩
    · cases h

theorem mem_selfIssues {document : List (Value × Value)} {i : Nat}
    (h : selfIssues document (referenceLocation i) ref = .ok own) (hissue : issue ∈ own) :
    IsAt issue i ∧ issue.code ≠ "FIELD_PATH_INVALID" := by
  simp only [selfIssues] at h
  split at h
  · cases h
    cases hissue
  · simp only [bind_eq_ok] at h
    obtain ⟨own', -, target, -, h⟩ := h
    cases h
    split at hissue
    · obtain rfl := List.mem_singleton.1 hissue
      exact ⟨isAt_self rfl, by simp [SemanticIssue.code, SemanticFault.code]⟩
    · cases hissue

/-- The issues of a reference are at the reference, and none says that a path is invalid exactly if
its paths are read. -/
theorem pathsRead_iff_referenceIssues {document : List (Value × Value)} {i : Nat}
    (h : r.ReadFrom ref) (hown : referenceIssues document i (.map ref) = .ok own) :
    (∀ issue ∈ own, IsAt issue i) ∧
      (r.PathsRead ↔ ∀ issue ∈ own, issue.code ≠ "FIELD_PATH_INVALID") := by
  obtain ⟨paths, selfs, hpaths, hselfs, rfl⟩ := referenceIssues_eq_ok.1 hown
  obtain ⟨hnil, hall⟩ := pathIssues_eq_ok h hpaths
  constructor
  · simp only [List.forall_mem_append]
    exact ⟨⟨fun issue hi => (mem_variantIssues hi).1, fun issue hi => (hall issue hi).1⟩,
      fun issue hi => (mem_selfIssues hselfs hi).1⟩
  · simp only [List.forall_mem_append, ← hnil]
    constructor
    · rintro rfl
      exact ⟨⟨fun issue hi => (mem_variantIssues hi).2, nofun⟩,
        fun issue hi => (mem_selfIssues hselfs hi).2⟩
    · rintro ⟨⟨-, hvalid⟩, -⟩
      exact List.eq_nil_iff_forall_not_mem.2 fun issue hi => hvalid issue hi (hall issue hi).2

/-! ## The issues of all references -/

variable {document : List (Value × Value)}

/-- Every reference is looked at, and its issues are among those of all. -/
theorem exists_referenceIssues {i j : Nat} {item : Value}
    (h : allReferenceIssues document i items = .ok issues) (hj : items[j]? = some item) :
    ∃ own, referenceIssues document (i + j) item = .ok own ∧ ∀ issue ∈ own, issue ∈ issues := by
  induction items generalizing i j issues with
  | nil => cases hj
  | cons first rest ih =>
    simp only [allReferenceIssues, bind_eq_ok] at h
    obtain ⟨firsts, hfirst, others, hrest, hissues⟩ := h
    cases hissues
    cases j with
    | zero =>
      cases hj
      exact ⟨firsts, hfirst, fun issue hissue => List.mem_append_left _ hissue⟩
    | succ j =>
      obtain ⟨own, hown, hmem⟩ := ih hrest hj
      have hplace : i + 1 + j = i + (j + 1) := by omega
      rw [hplace] at hown
      exact ⟨own, hown, fun issue hissue => List.mem_append_right _ (hmem issue hissue)⟩

/-- Every issue comes of one reference. -/
theorem exists_of_mem_allReferenceIssues {i : Nat}
    (h : allReferenceIssues document i items = .ok issues) (hissue : issue ∈ issues) :
    ∃ j item own, items[j]? = some item ∧ referenceIssues document (i + j) item = .ok own ∧
      issue ∈ own := by
  induction items generalizing i issues with
  | nil =>
    cases h
    cases hissue
  | cons first rest ih =>
    simp only [allReferenceIssues, bind_eq_ok] at h
    obtain ⟨firsts, hfirst, others, hrest, hissues⟩ := h
    cases hissues
    rcases List.mem_append.1 hissue with hissue | hissue
    · exact ⟨0, first, firsts, rfl, hfirst, hissue⟩
    · obtain ⟨j, item, own, hj, hown, hmem⟩ := ih hrest hissue
      have hplace : i + 1 + j = i + (j + 1) := by omega
      rw [hplace] at hown
      exact ⟨j + 1, item, own, hj, hown, hmem⟩

/-- Repeated destinations are said to be just that, each at one of the references. -/
theorem exists_of_mem_destinationIssues {seen : List (Value × Nat)} {i : Nat}
    (h : destinationIssues seen i items = .ok issues) (hissue : issue ∈ issues) :
    ∃ k < items.length, issue.location = referenceLocation (i + k) ∧
      issue.code = "DUPLICATE_DESTINATION" := by
  induction items generalizing seen i issues with
  | nil =>
    cases h
    cases hissue
  | cons first rest ih =>
    have hbehind : ∀ {seen others}, destinationIssues seen (i + 1) rest = .ok others →
        issue ∈ others → ∃ k < (first :: rest).length, issue.location = referenceLocation (i + k) ∧
          issue.code = "DUPLICATE_DESTINATION" := by
      intro seen others hothers hmem
      obtain ⟨k, hk, hlocation, hcode⟩ := ih hothers hmem
      rw [Nat.add_assoc, Nat.add_comm 1] at hlocation
      exact ⟨k + 1, Nat.succ_lt_succ hk, hlocation, hcode⟩
    simp only [destinationIssues] at h
    obtain ⟨destination, -, h⟩ := bind_eq_ok.1 h
    cases destination with
    | none => exact hbehind h hissue
    | some destination =>
      simp only at h
      split at h
      · cases h
      · split at h
        · obtain ⟨others, hothers, hissues⟩ := bind_eq_ok.1 h
          cases hissues
          rcases List.mem_cons.1 hissue with rfl | hissue
          · exact ⟨0, Nat.zero_lt_succ _, rfl, rfl⟩
          · exact hbehind hothers hissue
        · exact hbehind h hissue

theorem code_of_mem_destinationIssues {seen : List (Value × Nat)} {i : Nat}
    (h : destinationIssues seen i items = .ok issues) (hissue : issue ∈ issues) :
    issue.code = "DUPLICATE_DESTINATION" := by
  obtain ⟨_, -, -, hcode⟩ := exists_of_mem_destinationIssues h hissue
  exact hcode

theorem check_map_eq_ok {report : SemanticReport} :
    check (.map root) = .ok report ↔
      ∃ items own repeated, Semantics.references root = .ok items ∧
        allReferenceIssues root 0 items = .ok own ∧ destinationIssues [] 0 items = .ok repeated ∧
        report = ⟨own ++ repeated⟩ := by
  simp only [check, entriesOf, ok_bind, bind_eq_ok]
  constructor
  · rintro ⟨items, hitems, own, hown, repeated, hrepeated, ⟨⟩⟩
    exact ⟨items, own, repeated, hitems, hown, hrepeated, rfl⟩
  · rintro ⟨items, own, repeated, hitems, hown, hrepeated, rfl⟩
    exact ⟨items, hitems, own, hown, repeated, hrepeated, rfl⟩

theorem Reads.exists_reference {j : Nat} {item : Value} (h : Reads root references)
    (hitems : Semantics.references root = .ok items) (hj : items[j]? = some item) :
    ∃ r ref, references[j]? = some r ∧ item = .map ref ∧ r.ReadFrom ref := by
  obtain ⟨items', place, hitems', hconvert⟩ := h.references
  rw [hitems, Except.ok.injEq] at hitems'
  subst hitems'
  obtain ⟨r, hr, hread⟩ := convertItems_getElem? hconvert hj
  obtain ⟨ref, href, hfrom⟩ := Reference.exists_readFrom hread
  exact ⟨r, ref, hr, href, hfrom⟩

theorem Reads.exists_item {i : Nat} (h : Reads root references)
    (hitems : Semantics.references root = .ok items) (hr : references[i]? = some r) :
    ∃ ref, items[i]? = some (.map ref) ∧ r.ReadFrom ref := by
  obtain ⟨items', place, hitems', hconvert⟩ := h.references
  rw [hitems, Except.ok.injEq] at hitems'
  subst hitems'
  obtain ⟨hi, -⟩ := List.getElem?_eq_some_iff.1 hr
  rw [length_convertItems hconvert] at hi
  have hitem := List.getElem?_eq_getElem hi
  obtain ⟨r', ref, hr', href, hfrom⟩ := h.exists_reference hitems hitem
  rw [hr, Option.some.injEq] at hr'
  subst hr'
  exact ⟨ref, by rw [hitem, href], hfrom⟩

/-- **The check finds an invalid path at a reference exactly if the paths of the reference are not
read**, whatever else it finds, there and at other references. -/
theorem pathsRead_iff_check {i : Nat} {report : SemanticReport} (h : Reads root references)
    (hcheck : check (.map root) = .ok report) (hr : references[i]? = some r) :
    r.PathsRead ↔ ∀ issue ∈ report.issues, IsAt issue i → issue.code ≠ "FIELD_PATH_INVALID" := by
  obtain ⟨items, own, repeated, hitems, hown, hrepeated, rfl⟩ := check_map_eq_ok.1 hcheck
  obtain ⟨ref, hitem, hfrom⟩ := h.exists_item hitems hr
  obtain ⟨issues, hissues, hmem⟩ := exists_referenceIssues hown hitem
  rw [Nat.zero_add] at hissues
  obtain ⟨hat, hiff⟩ := pathsRead_iff_referenceIssues hfrom hissues
  rw [hiff]
  constructor
  · intro hvalid issue hissue hissueAt
    rcases List.mem_append.1 hissue with hissue | hissue
    · -- Issues tell by their location which reference they come of, so this one is of `r`.
      obtain ⟨j, item, others, hj, hothers, hother⟩ := exists_of_mem_allReferenceIssues hown hissue
      obtain ⟨_, _, -, rfl, hfromAt⟩ := h.exists_reference hitems hj
      rw [Nat.zero_add] at hothers
      obtain rfl := IsAt.unique ((pathsRead_iff_referenceIssues hfromAt hothers).1 issue hother)
        hissueAt
      rw [hitem, Option.some.injEq] at hj
      rw [← hj, hissues, Except.ok.injEq] at hothers
      subst hothers
      exact hvalid issue hother
    · rw [code_of_mem_destinationIssues hrepeated hissue]
      decide
  · intro hvalid issue hissue
    exact hvalid issue (List.mem_append_left _ (hmem issue hissue)) (hat issue hissue)

/-! ## Where the check stops -/

/-- The check stopped at a number with too many digits in a path of a reference. -/
def StopsAtDigits (references : List Reference) (e : KindError) : Prop :=
  e = .limit .digits ∧
    ∃ r ∈ references, ∃ text, r.HasPath text ∧ FieldPath.parse text = .error .tooManyDigits

theorem pathIssues_failsWith (h : r.ReadFrom ref) (location : Text) (hr : r ∈ references) :
    FailsWith (StopsAtDigits references) (pathIssues location ref) := by
  rw [pathIssues_eq h]
  refine ((fieldPathIssues_failsWith _ _).imp ?_).bind fun _ _ =>
    ((fieldPathIssues_failsWith _ _).imp ?_).bind fun _ _ => failsWith_ok _
  · rintro e ⟨rfl, text, htext, hparse⟩
    exact ⟨rfl, r, hr, text, .inl htext, hparse⟩
  · rintro e ⟨rfl, text, htext, hparse⟩
    exact ⟨rfl, r, hr, text, .inr htext, hparse⟩

theorem Reads.exists_ownKey (h : Reads root references) : ∃ own, ownKey root = .ok own := by
  obtain ⟨fields, hfields⟩ := h.metadata
  rw [ownKey, hfields.entriesIfSet, ok_bind]
  exact ⟨_, rfl⟩

theorem exists_selfIssues (h : r.ReadFrom ref) {own : ResourceKey}
    (hown : ownKey document = .ok own) (location : Text) :
    ∃ issues, selfIssues document location ref = .ok issues := by
  have htarget : (orElse (field ref "patchesFrom") (field ref "dependsOn")).truthy = true →
      ∃ fields, orElse (field ref "patchesFrom") (field ref "dependsOn") = .map fields := by
    obtain ⟨fields, hdepends⟩ := h.dependsOn
    have hdependsOn : (field ref "dependsOn").truthy = true →
        ∃ fields, field ref "dependsOn" = .map fields := by
      rcases hdepends with hmap | ⟨hnull, -⟩
      · exact fun _ => ⟨fields, hmap⟩
      · rw [hnull]
        nofun
    rw [orElse]
    split
    · rename_i htruthy
      intro _
      rcases h.patchesFrom with ⟨-, hnull⟩ | ⟨p, fields, -, hmap, -⟩
      · rw [hnull] at htruthy
        cases htruthy
      · exact ⟨fields, hmap⟩
    · exact hdependsOn
  simp only [selfIssues]
  split
  · exact ⟨[], rfl⟩
  · rename_i hset
    obtain ⟨fields, hfields⟩ := htarget (by simpa using hset)
    rw [hown, hfields]
    exact ⟨_, rfl⟩

theorem exists_destination (h : r.ReadFrom ref) :
    ∃ d, destination? (.map ref) = .ok d ∧ ∀ v, d = some v → v.hashable = true := by
  have hashable_textOrNull : ∀ text, (textOrNull text).hashable = true := by
    rintro (_ | text) <;> rfl
  simp only [destination?, entriesOf, ok_bind]
  split
  · refine ⟨none, rfl, fun v hv => ?_⟩
    cases hv
  · rename_i hset
    rcases h.patchesFrom with ⟨-, hnull⟩ | ⟨p, fields, -, hmap, hpath⟩
    · rw [hnull] at hset
      exact absurd rfl hset
    · simp only [hmap, ok_bind, h.toFieldPath, hpath]
      refine ⟨_, rfl, fun v hv => ?_⟩
      simp only [Option.ite_none_right_eq_some, Option.some.injEq] at hv
      rw [← hv.2]
      split <;> exact hashable_textOrNull _

def ReadItems (references : List Reference) (items : List Value) : Prop :=
  ∀ item ∈ items, ∃ r ∈ references, ∃ ref, item = .map ref ∧ r.ReadFrom ref

theorem allReferenceIssues_failsWith {own : ResourceKey} (hown : ownKey document = .ok own)
    (h : ReadItems references items) (i : Nat) :
    FailsWith (StopsAtDigits references) (allReferenceIssues document i items) := by
  induction items generalizing i with
  | nil => exact failsWith_ok _
  | cons item rest ih =>
    obtain ⟨⟨r, hr, ref, rfl, hfrom⟩, hrest⟩ := List.forall_mem_cons.1 h
    obtain ⟨selfs, hselfs⟩ := exists_selfIssues hfrom hown (referenceLocation i)
    rw [allReferenceIssues, referenceIssues]
    simp only [entriesOf, ok_bind, hselfs]
    refine FailsWith.bind ?_ fun _ _ => (ih hrest (i + 1)).bind fun _ _ => failsWith_ok _
    exact (pathIssues_failsWith hfrom _ hr).bind fun _ _ => failsWith_ok _

theorem exists_destinationIssues (h : ReadItems references items) (seen : List (Value × Nat))
    (i : Nat) : ∃ issues, destinationIssues seen i items = .ok issues := by
  induction items generalizing seen i with
  | nil => exact ⟨[], rfl⟩
  | cons item rest ih =>
    obtain ⟨⟨r, hr, ref, rfl, hfrom⟩, hrest⟩ := List.forall_mem_cons.1 h
    obtain ⟨d, hd, hhashable⟩ := exists_destination hfrom
    rw [destinationIssues, hd, ok_bind]
    cases d with
    | none => exact ih hrest seen (i + 1)
    | some destination =>
      simp only [hhashable destination rfl, Bool.not_true, Bool.false_eq_true, if_false]
      split
      · obtain ⟨others, hothers⟩ := ih hrest seen (i + 1)
        rw [hothers]
        exact ⟨_, rfl⟩
      · exact ih hrest _ (i + 1)

theorem Reads.readItems (h : Reads root references)
    (hitems : Semantics.references root = .ok items) : ReadItems references items := by
  intro item hitem
  obtain ⟨j, hj⟩ := List.mem_iff_getElem?.1 hitem
  obtain ⟨r, ref, hr, href, hfrom⟩ := h.exists_reference hitems hj
  exact ⟨r, List.mem_of_getElem? hr, ref, href, hfrom⟩

/-- **The check stops for nothing but a number with too many digits** where the references are
read. -/
theorem Reads.check_failsWith (h : Reads root references) :
    FailsWith (StopsAtDigits references) (check (.map root)) := by
  obtain ⟨own, hown⟩ := h.exists_ownKey
  obtain ⟨items, -, hitems, -⟩ := h.references
  have hread : ReadItems references items := h.readItems hitems
  obtain ⟨repeated, hrepeated⟩ := exists_destinationIssues hread [] 0
  simp only [check, entriesOf, ok_bind, hitems, hrepeated]
  exact (allReferenceIssues_failsWith hown hread 0).bind fun _ _ => failsWith_ok _

/-! ## What the check depends on -/

theorem allReferenceIssues_congr {other : List (Value × Value)}
    (h : ownKey other = ownKey document) (i : Nat) (items : List Value) :
    allReferenceIssues other i items = allReferenceIssues document i items := by
  induction items generalizing i with
  | nil => rfl
  | cons item rest ih =>
    simp only [allReferenceIssues, referenceIssues, selfIssues, h, ih]

/-- **The check depends on the key of a document and its references.** -/
theorem check_congr {other : List (Value × Value)} (hkey : ownKey other = ownKey document)
    (hreferences : Semantics.references other = Semantics.references document) :
    check (.map other) = check (.map document) := by
  simp only [check, entriesOf, ok_bind, hreferences, allReferenceIssues_congr hkey]

end Semantics

/-! ## The check of an Object -/

theorem ObjectSpec.field_references_toValue {s : ObjectSpec} {spec : List (Value × Value)}
    (h : s.toValue = .map spec) :
    field spec "references" =
      if s.references.isEmpty then .null else .list (s.references.map (·.toValue)) := by
  have hlookup : lookup "references" spec =
      if s.references.isEmpty then none else some (.list (s.references.map (·.toValue))) := by
    cases h
    simp [lookup_append]
  rw [field_of_lookup hlookup]
  split <;> rfl

namespace Object

variable {o : Object}

/-- **Every document that an Object is read out of has its references read.** -/
theorem exists_reads (h : ofValue v = .ok o) :
    ∃ root, v = .map root ∧ Semantics.Reads root o.spec.references := by
  obtain ⟨root, spec, rfl, hspec, hread⟩ := exists_spec h
  refine ⟨root, rfl, ?_, ?_⟩
  · simp only [ofValue, expect_object, ok_bind] at h
    obtain ⟨metadata, hmetadata, -⟩ := bind_eq_ok.1 h
    rcases optional_eq_ok hmetadata with ⟨rfl, hnull⟩ | ⟨fields, w, rfl, hw, -, hvalue⟩
    · exact ⟨[], .inr ⟨hnull, rfl⟩⟩
    · refine ⟨fields, .inl ?_⟩
      rw [field_of_lookup hw]
      exact Shape.object_eq_some.1 hvalue
  · generalize o.spec = s at hread
    simp only [ObjectSpec.ofValue, expect_object, ok_bind, bind_eq_ok] at hread
    obtain ⟨given, hgiven, _, -, _, -, _, -, _, -, _, -, _, -, references, hreferences, _, -, _, -,
      hs⟩ := hread
    cases hs
    refine ⟨given.getD [], _, ?_, hreferences⟩
    rw [Semantics.references, hspec.entriesIfSet, ok_bind]
    rcases optional_eq_ok hgiven with ⟨rfl, hnull⟩ | ⟨items, w, rfl, hw, -, hvalue⟩
    · rw [hnull]
      rfl
    · obtain rfl := Shape.array_eq_some.1 hvalue
      rw [field_of_lookup hw]
      cases items <;> rfl

theorem exists_root_toValue (o : Object) :
    ∃ root, o.toValue = .map root ∧ Semantics.ownKey root = .ok o.key ∧
      Semantics.references root = .ok (o.spec.references.map (·.toValue)) := by
  obtain ⟨root, hroot⟩ : ∃ root, o.toValue = .map root := ⟨_, rfl⟩
  obtain ⟨spec, hspec⟩ : ∃ spec, o.spec.toValue = .map spec := ⟨_, rfl⟩
  refine ⟨root, hroot, ?_, ?_⟩
  · cases hroot
    simp [Semantics.ownKey, Value.field, Value.fieldOr, key, ns, name, pure, Except.pure]
  · have hspecR : field root "spec" = .map spec := by
      cases hroot
      rw [← hspec]
      rfl
    rw [Semantics.references, hspecR, entriesIfSet_map, ok_bind,
      ObjectSpec.field_references_toValue hspec]
    cases o.spec.references <;> rfl

/-- **The manifest of an Object does not matter for the check.** -/
theorem check_withManifest (o : Object) (manifest : List (Value × Value)) :
    Semantics.check (o.withManifest manifest).toValue = Semantics.check o.toValue := by
  obtain ⟨root, hroot, hkey, hreferences⟩ := exists_root_toValue o
  obtain ⟨root', hroot', hkey', hreferences'⟩ := exists_root_toValue (o.withManifest manifest)
  rw [hroot, hroot']
  exact Semantics.check_congr (hkey'.trans hkey.symm) (hreferences'.trans hreferences.symm)

end Object
end Patchwork
