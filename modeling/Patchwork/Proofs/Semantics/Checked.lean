import Patchwork.Proofs.Schema.Written
import Patchwork.Proofs.Semantics

/-!
# The consistency check behind the schema

The consistency check expects a document that passed the schema.  Its references can then be read
one by one, whatever else in the document cannot, and each issue of the report belongs to the rule
that its code names.

* `Semantics.Checked` — what the consistency check finds in a document without issues of the schema;
  `Semantics.exists_checked` — every such document has it.
* `Semantics.ReferenceAt` — the reference at a position of the document;
  `Semantics.Checked.exists_reads` — the references of such a document are read.
* `Semantics.Checked.exists_rules` — an issue of the report comes of the rule that its code names,
  and of the reference that it is at.
-/

set_option autoImplicit false

namespace Patchwork

open Value

variable {v : Value} {location : Text} {items : List Value}

theorem Reference.exists_ofValue (h : ObjectSchema.reference.Accepts v)
    (hlocation : location ≠ "") : ∃ r, ofValue location v = .ok r := by
  cases hread : ofValue location v with
  | ok r => exact ⟨r, rfl⟩
  | error e =>
    rcases ofValue_failsWith hlocation v e hread with ⟨-, issue, hissue, -⟩ | ⟨_, hplace, -⟩
    · rw [(Schema.check_eq_nil_iff v).2 h] at hissue
      cases hissue
    · cases hplace

theorem Value.exists_convertItems {α : Type} {convert : Text → Value → Except ConversionError α}
    (h : ∀ item ∈ items, ∀ j, ∃ a, convert (Location.item location j) item = .ok a) (i : Nat) :
    ∃ as, convertItems location convert i items = .ok as := by
  induction items generalizing i with
  | nil => exact ⟨[], rfl⟩
  | cons item rest ih =>
    obtain ⟨hitem, hrest⟩ := List.forall_mem_cons.1 h
    obtain ⟨a, ha⟩ := hitem i
    obtain ⟨as, has⟩ := ih hrest (i + 1)
    exact ⟨a :: as, by rw [convertItems, ha, ok_bind, has]; rfl⟩

theorem Value.reach?_field_cons (key : Text) (s : Segment) (rest : FieldPath)
    (es : List (Value × Value)) :
    reach? (.field key :: s :: rest) (.map es) = reach? (s :: rest) (field es key) := by
  cases hlookup : lookup key es with
  | none => simp [reach?, child?, hlookup, field_of_lookup hlookup]
  | some w => simp [reach?, child?, hlookup, field_of_lookup hlookup]

namespace Semantics

def referencePath (i : Nat) : FieldPath := [.field "spec", .field "references", .index i]

/-! ## What the schema ensures -/

/-- The document announces itself, its metadata is a map if there is any, and its references stand
in an array, each of them accepted by the schema. -/
structure Checked (root : List (Value × Value)) (items : List Value) : Prop where
  apiVersion : field root "apiVersion" ≠ .null
  kind : field root "kind" ≠ .null
  metadata : ∃ fields, (field root "metadata").IsEntries fields
  references : Semantics.references root = .ok items
  accepted : ∀ item ∈ items, ObjectSchema.reference.Accepts item
  place : ∀ i item, (Value.map root).reach? (referencePath i) = some item ↔ items[i]? = some item

theorem exists_accepted_entry {properties : List (Text × Schema)} {es : List (Value × Value)}
    {key : Text} {child : Schema} (h : Schema.AcceptsEntries properties es)
    (hchild : properties.lookup key = some child) (hne : field es key ≠ .null) :
    ∃ w, lookup key es = some w ∧ child.Accepts w := by
  cases hlookup : lookup key es with
  | none => exact absurd (field_of_lookup hlookup) hne
  | some w =>
    rw [field_of_lookup hlookup] at hne
    exact ⟨w, rfl, h.lookup hlookup hne hchild⟩

theorem exists_accepted_references {fields : List (Value × Value)}
    (h : Schema.AcceptsEntries ObjectSchema.spec.properties fields) :
    ∃ items, (field fields "references" = .list items ∨
        field fields "references" = .null ∧ items = []) ∧
      ∀ item ∈ items, ObjectSchema.reference.Accepts item := by
  by_cases hnull : field fields "references" = .null
  · exact ⟨[], .inr ⟨hnull, rfl⟩, List.forall_mem_nil _⟩
  · obtain ⟨w, hw, haccepts⟩ := exists_accepted_entry h rfl hnull
    obtain ⟨items, rfl, hitems⟩ := Schema.Accepts.exists_list haccepts
    exact ⟨items, .inl (field_of_lookup hw), hitems⟩

/-- **A document without issues of the schema is one that the consistency check expects.** -/
theorem exists_checked {document : Value} (h : ObjectSchema.check document = []) :
    ∃ root items, document = .map root ∧ Checked root items := by
  have haccepts : ObjectSchema.schema.Accepts document := (Schema.check_eq_nil_iff document).1 h
  obtain ⟨root, rfl, hrequired, hentries⟩ := haccepts.exists_map
  obtain ⟨spec, hspec, hspecAccepts⟩ :=
    exists_accepted_entry hentries rfl (hrequired "spec" (by decide))
  obtain ⟨fields, rfl, -, hfields⟩ := hspecAccepts.exists_map
  obtain ⟨items, hitems, haccepted⟩ := exists_accepted_references hfields
  refine ⟨root, items, rfl, hrequired _ (by decide), hrequired _ (by decide), ?_, ?_, haccepted,
    fun i item => ?_⟩
  · by_cases hnull : field root "metadata" = .null
    · exact ⟨[], .inr ⟨hnull, rfl⟩⟩
    · obtain ⟨w, hw, hkind⟩ := exists_accepted_entry hentries rfl hnull
      have hmap := hkind.typeFits
      cases w <;> try cases hmap
      rename_i metadata
      exact ⟨metadata, .inl (field_of_lookup hw)⟩
  · rw [Semantics.references, field_of_lookup hspec, Option.getD_some, entriesIfSet_map, ok_bind]
    rcases hitems with hlist | ⟨hnull, rfl⟩
    · rw [hlist]
      cases items <;> rfl
    · rw [hnull]
      rfl
  · have hplace : reach? (referencePath i) (.map root) =
        reach? [.index i] (field fields "references") := by
      rw [referencePath, reach?_field_cons, field_of_lookup hspec, Option.getD_some,
        reach?_field_cons]
    rw [hplace]
    rcases hitems with hlist | ⟨hnull, rfl⟩
    · simp [hlist, reach?, child?]
    · simp [hnull, reach?]

/-! ## References one by one -/

variable {root ref : List (Value × Value)} {report : SemanticReport} {r : Reference} {i : Nat}
  {issue : SemanticIssue} {own : List SemanticIssue}

/-- The reference at a position of a document, as it is read there. -/
def ReferenceAt (document : Value) (i : Nat) (r : Reference) : Prop :=
  ∃ item, document.reach? (referencePath i) = some item ∧
    Reference.ofValue (referenceLocation i) item = .ok r

theorem ReferenceAt.unique {document : Value} {r' : Reference} (h : ReferenceAt document i r)
    (h' : ReferenceAt document i r') : r = r' := by
  obtain ⟨item, hitem, hread⟩ := h
  obtain ⟨item', hitem', hread'⟩ := h'
  rw [hitem, Option.some.injEq] at hitem'
  subst hitem'
  exact Except.ok.inj (hread.symm.trans hread')

theorem Checked.exists_item (h : Checked root items) (hr : ReferenceAt (.map root) i r) :
    ∃ item, items[i]? = some item ∧ ObjectSchema.reference.Accepts item ∧
      Reference.ofValue (referenceLocation i) item = .ok r := by
  obtain ⟨item, hitem, hread⟩ := hr
  have hi := (h.place i item).1 hitem
  exact ⟨item, hi, h.accepted item (List.mem_of_getElem? hi), hread⟩

/-- **The references of a document without issues are read**, each at its position. -/
theorem Checked.exists_reads (h : Checked root items) :
    ∃ references, Reads root references ∧
      ∀ i r, references[i]? = some r → ReferenceAt (.map root) i r := by
  obtain ⟨references, hread⟩ := exists_convertItems
    (fun item hitem j => Reference.exists_ofValue (h.accepted item hitem)
      (Location.item_ne_empty "spec.references" j)) 0
  refine ⟨references, ⟨h.metadata, items, "spec.references", h.references, hread⟩, fun i r hr => ?_⟩
  obtain ⟨hi, -⟩ := List.getElem?_eq_some_iff.1 hr
  rw [length_convertItems hread] at hi
  have hitem := List.getElem?_eq_getElem hi
  obtain ⟨r', hr', hread'⟩ := convertItems_getElem? hread hitem
  obtain rfl : r = r' := Option.some.inj (hr.symm.trans hr')
  rw [Nat.zero_add] at hread'
  exact ⟨items[i], (h.place i _).2 hitem, hread'⟩

/-- The check stopped at a number with too many digits in a path of a reference of the document. -/
def StopsAtDigitsOf (document : Value) (e : KindError) : Prop :=
  e = .limit .digits ∧ ∃ i r text, ReferenceAt document i r ∧ r.HasPath text ∧
    FieldPath.parse text = .error .tooManyDigits

/-- **The check stops for nothing else** in a document without issues of the schema. -/
theorem Checked.check_failsWith (h : Checked root items) :
    FailsWith (StopsAtDigitsOf (.map root)) (check (.map root)) := by
  obtain ⟨references, hreads, hat⟩ := h.exists_reads
  refine hreads.check_failsWith.imp ?_
  rintro e ⟨rfl, r, hr, text, htext, hparse⟩
  obtain ⟨i, hi⟩ := List.mem_iff_getElem?.1 hr
  exact ⟨rfl, i, r, text, hat i r hi, htext, hparse⟩

theorem Checked.exists_issues (h : Checked root items) (hcheck : check (.map root) = .ok report) :
    ∃ own repeated, allReferenceIssues root 0 items = .ok own ∧
      destinationIssues [] 0 items = .ok repeated ∧ report = ⟨own ++ repeated⟩ := by
  obtain ⟨items', own, repeated, hitems, hown, hrepeated, hreport⟩ := check_map_eq_ok.1 hcheck
  obtain rfl : items = items' := Except.ok.inj (h.references.symm.trans hitems)
  exact ⟨own, repeated, hown, hrepeated, hreport⟩

theorem Reads.exists_ofValue {references : List Reference} (h : Reads root references)
    (hitems : Semantics.references root = .ok items) (hr : references[i]? = some r) :
    ∃ item place, items[i]? = some item ∧ Reference.ofValue place item = .ok r := by
  obtain ⟨items', place, hitems', hconvert⟩ := h.references
  obtain rfl : items = items' := Except.ok.inj (hitems.symm.trans hitems')
  obtain ⟨ref, hi, -⟩ := h.exists_item hitems hr
  obtain ⟨r', hr', hread⟩ := convertItems_getElem? hconvert hi
  obtain rfl : r = r' := Option.some.inj (hr.symm.trans hr')
  exact ⟨_, _, hi, hread⟩

/-! ## Which rule an issue is of -/

theorem code_of_mem_variantIssues (h : issue ∈ variantIssues location ref) :
    issue.code ∈ ["REFERENCE_AMBIGUOUS", "REFERENCE_EMPTY", "TO_FIELD_PATH_UNUSED"] := by
  simp only [variantIssues, List.mem_append] at h
  rcases h with h | h
  · split at h
    · obtain rfl := List.mem_singleton.1 h
      exact List.mem_cons_self
    · split at h
      · obtain rfl := List.mem_singleton.1 h
        exact List.mem_cons_of_mem _ List.mem_cons_self
      · cases h
  · split at h
    · obtain rfl := List.mem_singleton.1 h
      exact List.mem_cons_of_mem _ (List.mem_cons_of_mem _ List.mem_cons_self)
    · cases h

theorem code_of_mem_selfIssues {document : List (Value × Value)}
    (h : selfIssues document location ref = .ok own) (hissue : issue ∈ own) :
    issue.location = location ∧ issue.code = "SELF_REFERENCE" := by
  simp only [selfIssues] at h
  split at h
  · cases h
    cases hissue
  · simp only [bind_eq_ok] at h
    obtain ⟨own', -, target, -, h⟩ := h
    cases h
    split at hissue
    · obtain rfl := List.mem_singleton.1 hissue
      exact ⟨rfl, rfl⟩
    · cases hissue

/-- What is found at a reference alone is no repeated destination, and a reference to the document
itself if its rule finds it. -/
theorem code_of_mem_referenceIssues {document : List (Value × Value)} (h : r.ReadFrom ref)
    (hown : referenceIssues document i (.map ref) = .ok own) :
    (∀ issue ∈ own, issue.code ≠ "DUPLICATE_DESTINATION") ∧
      ∃ selfs, selfIssues document (referenceLocation i) ref = .ok selfs ∧
        ∀ issue, issue.code = "SELF_REFERENCE" → (issue ∈ own ↔ issue ∈ selfs) := by
  obtain ⟨paths, selfs, hpaths, hselfs, rfl⟩ := referenceIssues_eq_ok.1 hown
  obtain ⟨-, hall⟩ := pathIssues_eq_ok h hpaths
  refine ⟨fun issue hissue hcode => ?_, selfs, hselfs, fun issue hcode => ?_⟩
  · simp only [List.mem_append] at hissue
    rcases hissue with (hvariant | hpath) | hself
    · have hmem := code_of_mem_variantIssues hvariant
      rw [hcode] at hmem
      simp at hmem
    · rw [(hall issue hpath).2] at hcode
      simp at hcode
    · rw [(code_of_mem_selfIssues hselfs hself).2] at hcode
      simp at hcode
  · simp only [List.mem_append]
    constructor
    · rintro ((hvariant | hpath) | hself)
      · have hmem := code_of_mem_variantIssues hvariant
        rw [hcode] at hmem
        simp at hmem
      · rw [(hall issue hpath).2] at hcode
        simp at hcode
      · exact hself
    · exact .inr

/-- **The issues of a report at a reference are those of the reference**, but for repeated
destinations, which are those of the table. -/
theorem Checked.exists_rules (h : Checked root items) (hcheck : check (.map root) = .ok report) :
    ∃ repeated, destinationIssues [] 0 items = .ok repeated ∧
      (∀ issue, issue.code = "DUPLICATE_DESTINATION" →
        (issue ∈ report.issues ↔ issue ∈ repeated)) ∧
      ∀ i ref, items[i]? = some (.map ref) → ∃ selfs,
        selfIssues root (referenceLocation i) ref = .ok selfs ∧
          ∀ issue, IsAt issue i → issue.code = "SELF_REFERENCE" →
            (issue ∈ report.issues ↔ issue ∈ selfs) := by
  obtain ⟨references, hreads, -⟩ := h.exists_reads
  obtain ⟨own, repeated, hown, hrepeated, rfl⟩ := h.exists_issues hcheck
  refine ⟨repeated, hrepeated, fun issue hcode => ?_, fun i ref hi => ?_⟩
  · refine ⟨fun hissue => ?_, List.mem_append_right _⟩
    rcases List.mem_append.1 hissue with hissue | hissue
    · obtain ⟨j, item, others, hj, hothers, hother⟩ := exists_of_mem_allReferenceIssues hown hissue
      obtain ⟨_, _, -, rfl, hfrom⟩ := hreads.exists_reference h.references hj
      exact absurd hcode ((code_of_mem_referenceIssues hfrom hothers).1 issue hother)
    · exact hissue
  · obtain ⟨r, _, -, hmap, hfrom⟩ := hreads.exists_reference h.references hi
    cases hmap
    obtain ⟨issues, hissues, hmem⟩ := exists_referenceIssues hown hi
    rw [Nat.zero_add] at hissues
    obtain ⟨-, selfs, hselfs, hiff⟩ := code_of_mem_referenceIssues hfrom hissues
    refine ⟨selfs, hselfs, fun issue hat hcode => ?_⟩
    rw [← hiff issue hcode]
    refine ⟨fun hissue => ?_, fun hissue => List.mem_append_left _ (hmem issue hissue)⟩
    rcases List.mem_append.1 hissue with hissue | hissue
    · -- Issues tell by their location which reference they come of, so this one is of `ref`.
      obtain ⟨j, item, others, hj, hothers, hother⟩ := exists_of_mem_allReferenceIssues hown hissue
      obtain ⟨_, _, -, rfl, hfromAt⟩ := hreads.exists_reference h.references hj
      rw [Nat.zero_add] at hothers
      obtain rfl := IsAt.unique ((pathsRead_iff_referenceIssues hfromAt hothers).1 issue hother) hat
      rw [hi, Option.some.injEq] at hj
      rw [← hj, hissues, Except.ok.injEq] at hothers
      subst hothers
      exact hother
    · rw [code_of_mem_destinationIssues hrepeated hissue] at hcode
      simp at hcode

end Semantics
end Patchwork
