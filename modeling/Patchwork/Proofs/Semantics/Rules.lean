import Patchwork.Proofs.Schema.Located
import Patchwork.Proofs.Semantics.Checked

/-!
# The rules on one reference

Five of the rules look at a reference alone.  Each is due or not by what parts the reference has,
and in a document without issues of the schema the check reports exactly what is due, reference by
reference and rule by rule.

* `Semantics.Rule` — the rules, each with its code, its severity and the place that it blames;
  `Rule.isDue` tells when a reference breaks it.
* `Semantics.rows_referenceIssues`, `Semantics.rows_allReferenceIssues` — what is reported of one
  reference, and of all.
* `Semantics.check_eq_error_iff` — when the check stops.
* `Semantics.check_applies_rules` — the check stops only at a number with too many digits, reports
  what is due, and blames places that can be read.
-/

set_option autoImplicit false

namespace Patchwork

open Value

/-- What stands at a place of a value, unless it is missing or null. -/
def Value.part? (place : FieldPath) (v : Value) : Option Value :=
  (reach? place v).filter (!·.isNull)

/-- The references of a document as they stand. -/
def Value.referencesOf (document : Value) : List Value :=
  match reach? [.field "spec", .field "references"] document with
  | some (.list items) => items
  | _ => []

namespace Semantics

/-- A part of a reference is a text that is no field path. -/
def isUnreadable (place : FieldPath) (reference : Value) : Bool :=
  match reference.part? place with
  | some (.str text) => (FieldPath.parse text).toOption.isNone
  | _ => false

/-- A rule on a reference alone. -/
inductive Rule where
  | ambiguous
  | empty
  | unusedDestination
  | invalidSource
  | invalidDestination

namespace Rule

def all : List Rule := [ambiguous, empty, unusedDestination, invalidSource, invalidDestination]

def code : Rule → String
  | ambiguous => "REFERENCE_AMBIGUOUS"
  | empty => "REFERENCE_EMPTY"
  | unusedDestination => "TO_FIELD_PATH_UNUSED"
  | invalidSource | invalidDestination => "FIELD_PATH_INVALID"

def severity : Rule → Severity
  | unusedDestination => .warning
  | _ => .error

def place : Rule → FieldPath
  | ambiguous | empty => []
  | unusedDestination | invalidDestination => [.field "toFieldPath"]
  | invalidSource => [.field "patchesFrom", .field "fieldPath"]

/-- The reference breaks the rule. -/
def isDue (reference : Value) : Rule → Bool
  | ambiguous =>
    (reference.part? [.field "dependsOn"]).isSome && (reference.part? [.field "patchesFrom"]).isSome
  | empty =>
    (reference.part? [.field "dependsOn"]).isNone && (reference.part? [.field "patchesFrom"]).isNone
  | unusedDestination =>
    (reference.part? [.field "toFieldPath"]).isSome &&
      (reference.part? [.field "patchesFrom"]).isNone
  | invalidSource => isUnreadable invalidSource.place reference
  | invalidDestination => isUnreadable invalidDestination.place reference

/-- What is reported where the reference at a position breaks the rule. -/
def row (i : Nat) (rule : Rule) : Severity × String × Text :=
  (rule.severity, rule.code, Location.below (referenceLocation i) rule.place)

end Rule

/-- The rows of the rules that a reference breaks, in order. -/
def dueRows (reference : Value) (i : Nat) : List (Severity × String × Text) :=
  (Rule.all.filter (·.isDue reference)).map (·.row i)

/-- What an issue reports: how bad it is, its code and where it is. -/
def rowOf (issue : SemanticIssue) : Severity × String × Text :=
  (issue.severity, issue.code, issue.location)

/-- The issue is about a reference alone, neither about the Object nor about other references. -/
def isAlone (issue : SemanticIssue) : Bool :=
  issue.code ≠ "SELF_REFERENCE" && issue.code ≠ "DUPLICATE_DESTINATION"

/-- A path of the reference has a number with too many digits. -/
def HasLongNumber (reference : Value) : Prop :=
  ∃ rule ∈ [Rule.invalidSource, Rule.invalidDestination], ∃ text,
    reference.part? rule.place = some (.str text) ∧ FieldPath.parse text = .error .tooManyDigits

variable {ref root : List (Value × Value)} {r : Reference} {issues own : List SemanticIssue}
  {location text : Text} {given : Option Text} {i : Nat} {items : List Value}
  {references : List Reference}

/-! ## The parts of a reference -/

theorem part?_field (key : Text) :
    (Value.map ref).part? [.field key] = (some (field ref key)).filter (!·.isNull) := by
  rw [part?, field, fieldOr]
  cases hkey : lookup key ref <;> simp only [reach?, child?, hkey] <;> rfl

theorem isSome_part?_field (key : Text) :
    ((Value.map ref).part? [.field key]).isSome = !(field ref key).isNull := by
  rw [part?_field]
  cases hnull : (field ref key).isNull <;> simp [Option.filter, hnull]

theorem filter_textOrNull (given : Option Text) :
    (some (textOrNull given)).filter (!·.isNull) = given.map .str := by
  cases given <;> rfl

theorem part?_destination (h : r.ReadFrom ref) :
    (Value.map ref).part? Rule.invalidDestination.place = r.toFieldPath.map .str := by
  rw [Rule.place, part?_field, h.toFieldPath, filter_textOrNull]

theorem part?_source (h : r.ReadFrom ref) :
    (Value.map ref).part? Rule.invalidSource.place =
      (r.patchesFrom.bind (·.fieldPath)).map .str := by
  have hreach : (Value.map ref).part? Rule.invalidSource.place =
      (field ref "patchesFrom").part? [.field "fieldPath"] := by
    rw [Rule.place, part?, reach?_field_cons, part?]
  rcases h.patchesFrom with ⟨hnone, hnull⟩ | ⟨p, fields, hp, hmap, hpath⟩
  · rw [hreach, hnull, hnone]
    rfl
  · rw [hreach, hmap, part?_field, hpath, filter_textOrNull, hp, Option.bind_some]

theorem hasLongNumber_iff (h : r.ReadFrom ref) :
    HasLongNumber (.map ref) ↔
      ∃ text, r.HasPath text ∧ FieldPath.parse text = .error .tooManyDigits := by
  have htext : ∀ (given : Option Text) text,
      given.map Value.str = some (.str text) ↔ given = some text := by
    rintro (_ | _) _ <;> simp
  simp only [HasLongNumber, List.mem_cons, List.not_mem_nil, or_false, or_and_right, exists_or,
    exists_eq_left, part?_source h, part?_destination h, htext, Reference.HasPath]

/-! ## The issues of one reference -/

/-- What is reported of a text is that it is no field path, if it is none. -/
theorem map_fieldPathIssues (h : fieldPathIssues location (textOrNull given) = .ok issues) :
    (issues.filter isAlone).map rowOf =
      if given.any (fun text => (FieldPath.parse text).toOption.isNone)
        then [(.error, "FIELD_PATH_INVALID", location)] else [] := by
  cases given with
  | none =>
    cases h
    rfl
  | some text =>
    rw [textOrNull, fieldPathIssues_str] at h
    cases hparse : FieldPath.parse text with
    | ok segments =>
      rw [hparse] at h
      cases h
      simp [hparse, Except.toOption]
    | error fault =>
      simp only [hparse] at h
      split at h
      · cases h
      · cases h
        simp only [Option.any_some, hparse, Except.toOption, Option.isNone_none, if_true]
        rfl

theorem isUnreadable_of_part? {place : FieldPath} {reference : Value}
    (h : reference.part? place = given.map .str) :
    isUnreadable place reference =
      given.any fun text => (FieldPath.parse text).toOption.isNone := by
  rw [isUnreadable, h]
  cases given <;> rfl

theorem location_eq_below_destination (i : Nat) :
    Location.part (referenceLocation i) "toFieldPath" =
      Location.below (referenceLocation i) Rule.invalidDestination.place :=
  Location.part_eq_entry (Location.item_ne_empty _ i) _

theorem location_eq_below_source (i : Nat) :
    Location.part (Location.part (referenceLocation i) "patchesFrom") "fieldPath" =
      Location.below (referenceLocation i) Rule.invalidSource.place := by
  have hne : referenceLocation i ≠ "" := Location.item_ne_empty _ i
  rw [Location.part_eq_entry hne, Location.part_eq_entry (Location.entry_ne_empty hne _)]
  rfl

theorem map_pathIssues (h : r.ReadFrom ref)
    (hpaths : pathIssues (referenceLocation i) ref = .ok issues) :
    (issues.filter isAlone).map rowOf =
      ([Rule.invalidSource, Rule.invalidDestination].filter (·.isDue (.map ref))).map
        (·.row i) := by
  rw [pathIssues_eq h] at hpaths
  obtain ⟨sources, hsources, hpaths⟩ := bind_eq_ok.1 hpaths
  obtain ⟨destinations, hdestinations, hissues⟩ := bind_eq_ok.1 hpaths
  cases hissues
  have hsource := isUnreadable_of_part? (part?_source h)
  have hdestination := isUnreadable_of_part? (part?_destination h)
  rw [List.filter_append, List.map_append, map_fieldPathIssues hsources,
    map_fieldPathIssues hdestinations, ← hsource, ← hdestination,
    location_eq_below_source, location_eq_below_destination]
  simp only [List.filter_cons, List.filter_nil, Rule.isDue]
  cases isUnreadable Rule.invalidSource.place (.map ref) <;>
    cases isUnreadable Rule.invalidDestination.place (.map ref) <;> rfl

theorem map_variantIssues :
    ((variantIssues (referenceLocation i) ref).filter isAlone).map rowOf =
      ([Rule.ambiguous, Rule.empty, Rule.unusedDestination].filter (·.isDue (.map ref))).map
        (·.row i) := by
  simp only [variantIssues, location_eq_below_destination, List.filter_cons, List.filter_nil,
    Rule.isDue, ← Option.not_isSome, isSome_part?_field]
  cases (field ref "dependsOn").isNull <;> cases (field ref "patchesFrom").isNull <;>
    cases (field ref "toFieldPath").isNull <;> rfl

/-- **What is reported of one reference** alone are the rules that it breaks. -/
theorem rows_referenceIssues {document : List (Value × Value)} (h : r.ReadFrom ref)
    (hown : referenceIssues document i (.map ref) = .ok own) :
    (own.filter isAlone).map rowOf = dueRows (.map ref) i := by
  obtain ⟨paths, selfs, hpaths, hselfs, rfl⟩ := referenceIssues_eq_ok.1 hown
  have hself : selfs.filter isAlone = [] := by
    refine List.filter_eq_nil_iff.2 fun issue hissue => ?_
    simp [isAlone, (code_of_mem_selfIssues hselfs hissue).2]
  have hrules : Rule.all = [Rule.ambiguous, Rule.empty, Rule.unusedDestination] ++
      [Rule.invalidSource, Rule.invalidDestination] := rfl
  rw [List.filter_append, hself, List.append_nil, List.filter_append, List.map_append,
    map_variantIssues, map_pathIssues h hpaths, dueRows, hrules, List.filter_append,
    List.map_append]

/-! ## The issues of all references -/

/-- **What is reported of all references** alone are the rules that each of them breaks. -/
theorem rows_allReferenceIssues {document : List (Value × Value)} (h : ReadItems references items)
    (hall : allReferenceIssues document i items = .ok issues) :
    (issues.filter isAlone).map rowOf =
      (items.zipIdx i).flatMap fun item => dueRows item.1 item.2 := by
  induction items generalizing i issues with
  | nil =>
    cases hall
    rfl
  | cons item rest ih =>
    obtain ⟨⟨r, -, ref, rfl, hfrom⟩, hrest⟩ := List.forall_mem_cons.1 h
    simp only [allReferenceIssues, bind_eq_ok] at hall
    obtain ⟨own, hown, others, hothers, hissues⟩ := hall
    cases hissues
    rw [List.filter_append, List.map_append, rows_referenceIssues hfrom hown, ih hrest hothers,
      List.zipIdx_cons, List.flatMap_cons]

theorem filter_destinationIssues {seen : List (Value × Nat)}
    (h : destinationIssues seen i items = .ok issues) : issues.filter isAlone = [] := by
  refine List.filter_eq_nil_iff.2 fun issue hissue => ?_
  simp [isAlone, code_of_mem_destinationIssues h hissue]

/-! ## A document without issues of the schema -/

variable {document item v : Value} {report : SemanticReport} {issue : SemanticIssue}
  {place : FieldPath}

theorem getElem?_referencesOf (document : Value) (i : Nat) :
    document.referencesOf[i]? = document.reach? (referencePath i) := by
  rw [referencePath, show ([.field "spec", .field "references", .index i] : FieldPath) =
    [.field "spec", .field "references"] ++ [.index i] from rfl, reach?_append, referencesOf]
  cases reach? [.field "spec", .field "references"] document with
  | none => rfl
  | some w => cases w <;> simp [reach?, child?]

namespace Checked

variable (h : Checked root items)
include h

theorem referencesOf_eq : (Value.map root).referencesOf = items :=
  List.ext_getElem? fun i => Option.ext fun item => by
    rw [getElem?_referencesOf, h.place i item]

theorem exists_readItems : ∃ references, ReadItems references items := by
  obtain ⟨references, hreads, -⟩ := h.exists_reads
  exact ⟨references, hreads.readItems h.references⟩

theorem rows_check (hcheck : check (.map root) = .ok report) :
    (report.issues.filter isAlone).map rowOf =
      items.zipIdx.flatMap fun item => dueRows item.1 item.2 := by
  obtain ⟨own, repeated, hown, hrepeated, rfl⟩ := h.exists_issues hcheck
  obtain ⟨references, hreads⟩ := h.exists_readItems
  rw [List.filter_append, filter_destinationIssues hrepeated, List.append_nil,
    rows_allReferenceIssues hreads hown]

end Checked

/-! ## What stops the check -/

theorem fieldPathIssues_tooManyDigits (h : FieldPath.parse text = .error .tooManyDigits) :
    fieldPathIssues location (.str text) = .error (.limit .digits) := by
  rw [fieldPathIssues_str, h]
  rfl

theorem pathIssues_ne_ok (h : r.ReadFrom ref) (htext : r.HasPath text)
    (hparse : FieldPath.parse text = .error .tooManyDigits) :
    pathIssues location ref ≠ .ok issues := by
  rw [pathIssues_eq h]
  intro hok
  obtain ⟨sources, hsources, hok⟩ := bind_eq_ok.1 hok
  obtain ⟨destinations, hdestinations, -⟩ := bind_eq_ok.1 hok
  rcases htext with hsource | hdestination
  · rw [hsource, textOrNull, fieldPathIssues_tooManyDigits hparse] at hsources
    cases hsources
  · rw [hdestination, textOrNull, fieldPathIssues_tooManyDigits hparse] at hdestinations
    cases hdestinations

/-- The check stops exactly at such a number. -/
theorem Checked.check_eq_error_iff (h : Checked root items) (e : KindError) :
    check (.map root) = .error e ↔
      e = .limit .digits ∧ ∃ reference ∈ items, HasLongNumber reference := by
  have hstops : ∀ e, check (.map root) = .error e →
      e = .limit .digits ∧ ∃ reference ∈ items, HasLongNumber reference := by
    intro e he
    obtain ⟨rfl, i, r, text, hr, htext, hparse⟩ := h.check_failsWith e he
    obtain ⟨item, hi, -, hread⟩ := h.exists_item hr
    obtain ⟨ref, rfl, hfrom⟩ := Reference.exists_readFrom hread
    exact ⟨rfl, _, List.mem_of_getElem? hi, (hasLongNumber_iff hfrom).2 ⟨text, htext, hparse⟩⟩
  refine ⟨hstops e, ?_⟩
  rintro ⟨rfl, reference, hreference, hlong⟩
  cases hcheck : check (.map root) with
  | error e =>
    obtain ⟨rfl, -⟩ := hstops e hcheck
    rfl
  | ok report =>
    obtain ⟨own, repeated, hown, -, -⟩ := h.exists_issues hcheck
    obtain ⟨references, hreads⟩ := h.exists_readItems
    obtain ⟨r, -, ref, rfl, hfrom⟩ := hreads reference hreference
    obtain ⟨i, hi⟩ := List.mem_iff_getElem?.1 hreference
    obtain ⟨issues, hissues, -⟩ := exists_referenceIssues hown hi
    obtain ⟨paths, -, hpaths, -⟩ := referenceIssues_eq_ok.1 hissues
    obtain ⟨text, htext, hparse⟩ := (hasLongNumber_iff hfrom).1 hlong
    exact absurd hpaths (pathIssues_ne_ok hfrom htext hparse)

/-! ## What is blamed can be read -/

theorem reach?_of_part? (h : item.part? place = some v) : item.reach? place = some v :=
  (Option.filter_eq_some_iff.1 h).1

theorem Rule.exists_reach? {rule : Rule} (h : rule.isDue item = true) :
    ∃ v, item.reach? rule.place = some v := by
  have hunreadable : ∀ place, isUnreadable place item = true → ∃ v, item.reach? place = some v := by
    intro place h
    unfold isUnreadable at h
    split at h
    · rename_i hpart
      exact ⟨_, reach?_of_part? hpart⟩
    · cases h
  cases rule with
  | ambiguous | empty => exact ⟨item, rfl⟩
  | unusedDestination =>
    obtain ⟨v, hv⟩ := Option.isSome_iff_exists.1 (Bool.and_eq_true_iff.1 h).1
    exact ⟨v, reach?_of_part? hv⟩
  | invalidSource | invalidDestination => exact hunreadable _ h

theorem Rule.plain_place (rule : Rule) : ∀ s ∈ rule.place, s.Plain := by
  have hplain : ∀ key ∈ ["toFieldPath", "patchesFrom", "fieldPath"], (Segment.field key).Plain := by
    simp only [Segment.Plain]
    decide
  cases rule <;> simp [Rule.place, hplain]

theorem plain_referencePath (hdocument : document.WellFormed)
    (h : document.reach? (referencePath i) = some item) : ∀ s ∈ referencePath i, s.Plain := by
  obtain ⟨spec, hspec, h⟩ := Option.bind_eq_some_iff.1 h
  obtain ⟨references, hreferences, h⟩ := Option.bind_eq_some_iff.1 h
  obtain ⟨item, hitem, -⟩ := Option.bind_eq_some_iff.1 h
  have hwell : references.WellFormed := (hdocument.child hspec).child hreferences
  have hindex : (Segment.index i).Plain := by
    cases references <;> try cases hitem
    case list items => exact Nat.lt_trans (List.getElem?_eq_some_iff.1 hitem).1 hwell.length_lt
  have hkeys : (Segment.field "spec").Plain ∧ (Segment.field "references").Plain := by
    simp only [Segment.Plain]
    decide
  exact List.forall_mem_cons.2 ⟨hkeys.1, List.forall_mem_cons.2 ⟨hkeys.2,
    List.forall_mem_singleton.2 hindex⟩⟩

theorem getAt_below_reference (hdocument : document.WellFormed)
    (hitem : document.reach? (referencePath i) = some item) (hplace : item.reach? place = some v)
    (hplain : ∀ s ∈ place, s.Plain) :
    document.getAt (Location.below (referenceLocation i) place) = .ok v := by
  have hlocation : referenceLocation i = Location.below "" (referencePath i) := rfl
  rw [hlocation, ← Location.below_append, Location.getAt_below
    (List.forall_mem_append.2 ⟨plain_referencePath hdocument hitem, hplain⟩)
    (List.append_ne_nil_of_left_ne_nil (List.cons_ne_nil _ _) _)]
  exact readFrom_eq_ok.2 (by rw [reach?_append, hitem, Option.bind_some, hplace])

/-- An issue at a reference is about it, or about the part that a rule blames. -/
theorem exists_reach?_of_mem_referenceIssues {document : List (Value × Value)} (h : r.ReadFrom ref)
    (hown : referenceIssues document i (.map ref) = .ok own) (hissue : issue ∈ own) :
    ∃ place v, issue.location = Location.below (referenceLocation i) place ∧
      (Value.map ref).reach? place = some v ∧ ∀ s ∈ place, s.Plain := by
  by_cases halone : isAlone issue = true
  · have hrow : rowOf issue ∈ dueRows (.map ref) i := by
      rw [← rows_referenceIssues h hown]
      exact List.mem_map_of_mem (List.mem_filter.2 ⟨hissue, halone⟩)
    obtain ⟨rule, hrule, hrow⟩ := List.mem_map.1 hrow
    obtain ⟨v, hv⟩ := Rule.exists_reach? (List.mem_filter.1 hrule).2
    have hlocation := congrArg (·.2.2) hrow
    exact ⟨rule.place, v, hlocation.symm, hv, rule.plain_place⟩
  · obtain ⟨hnotRepeated, selfs, hselfs, hself⟩ := code_of_mem_referenceIssues h hown
    have hcode : issue.code = "SELF_REFERENCE" := by
      simpa [isAlone, hnotRepeated issue hissue] using halone
    obtain ⟨hlocation, -⟩ := code_of_mem_selfIssues hselfs ((hself issue hcode).1 hissue)
    exact ⟨[], _, hlocation, rfl, nofun⟩

/-- **Every issue is at a location that the document reads.** -/
theorem Checked.exists_getAt (h : Checked root items) (hroot : (Value.map root).WellFormed)
    (hcheck : check (.map root) = .ok report) (hissue : issue ∈ report.issues) :
    ∃ v, (Value.map root).getAt issue.location = .ok v := by
  obtain ⟨own, repeated, hown, hrepeated, rfl⟩ := h.exists_issues hcheck
  rcases List.mem_append.1 hissue with hissue | hissue
  · obtain ⟨i, item, issues, hi, hissues, hissue⟩ := exists_of_mem_allReferenceIssues hown hissue
    obtain ⟨references, hreads⟩ := h.exists_readItems
    obtain ⟨r, -, ref, rfl, hfrom⟩ := hreads item (List.mem_of_getElem? hi)
    rw [Nat.zero_add] at hissues
    obtain ⟨place, v, hlocation, hv, hplain⟩ :=
      exists_reach?_of_mem_referenceIssues hfrom hissues hissue
    exact ⟨v, by rw [hlocation, getAt_below_reference hroot ((h.place i _).2 hi) hv hplain]⟩
  · obtain ⟨i, hi, hlocation, -⟩ := exists_of_mem_destinationIssues hrepeated hissue
    rw [Nat.zero_add] at hlocation
    have hitem := (h.place i _).2 (List.getElem?_eq_getElem hi)
    have hself : items[i].reach? [] = some items[i] := rfl
    exact ⟨items[i], by rw [hlocation]; exact getAt_below_reference hroot hitem hself (by simp)⟩

theorem passed_iff : report.passed = true ↔ ∀ issue ∈ report.issues, issue.severity ≠ .error := by
  simp [SemanticReport.passed, SemanticReport.errors]

/-! ## The check -/

/-- **The check stops exactly at a number with too many digits** in a path of a reference. -/
theorem check_eq_error_iff (hschema : ObjectSchema.check document = []) (e : KindError) :
    check document = .error e ↔
      e = .limit .digits ∧ ∃ reference ∈ document.referencesOf, HasLongNumber reference := by
  obtain ⟨root, items, rfl, h⟩ := exists_checked hschema
  rw [h.referencesOf_eq]
  exact h.check_eq_error_iff e

/-- **The check applies the rules to each reference.**  Take a document without issues of the
schema.  The check stops exactly if a path of a reference has a number with too many digits.
Otherwise it reports, apart from references to the document itself and repeated destinations, the
rules that each reference breaks, reference by reference and rule by rule; whatever it reports is at
a location that the document reads; and it passes if nothing it reports is an error. -/
theorem check_applies_rules (hschema : ObjectSchema.check document = []) :
    (∀ e, check document = .error e ↔
      e = .limit .digits ∧ ∃ reference ∈ document.referencesOf, HasLongNumber reference) ∧
    ∀ report, check document = .ok report →
      (report.issues.filter isAlone).map rowOf =
        document.referencesOf.zipIdx.flatMap (fun item => dueRows item.1 item.2) ∧
      (document.WellFormed →
        ∀ issue ∈ report.issues, ∃ v, document.getAt issue.location = .ok v) ∧
      (report.passed = true ↔ ∀ issue ∈ report.issues, issue.severity ≠ .error) := by
  refine ⟨check_eq_error_iff hschema, fun report hreport => ?_⟩
  obtain ⟨root, items, rfl, h⟩ := exists_checked hschema
  rw [h.referencesOf_eq]
  refine ⟨h.rows_check hreport, fun hroot issue hissue => ?_, passed_iff⟩
  exact h.exists_getAt hroot hreport hissue

def referring (references : List Value) : Value := .map [
  (.str "apiVersion", .str ApiGroup.apiVersion), (.str "kind", .str ApiGroup.kind),
  (.str "metadata", .map [(.str "name", .str "app")]),
  (.str "spec", .map [
    (.str "references", .list references),
    (.str "forProvider", .map [(.str "manifest", .map [])])])]

def described (name : Text) (entries : List (Value × Value)) : Value :=
  .map ((.str "name", .str name) :: entries)

/-- One reference has both variants and reads from no path, one has neither and writes to no path,
and one, which breaks none of the rules, points at the document itself. -/
theorem check_applies_rules_three :
    let document := referring [
      .map [(.str "dependsOn", described "app" []),
        (.str "patchesFrom", described "a" [(.str "fieldPath", .str "data[]")])],
      .map [(.str "patchesFrom", .null), (.str "toFieldPath", .str "data.")],
      .map [(.str "dependsOn", described "app" []), (.str "toFieldPath", .null)]]
    let rows : List (Severity × String × Text) := [
      (.error, "REFERENCE_AMBIGUOUS", "spec.references[0]"),
      (.error, "FIELD_PATH_INVALID", "spec.references[0].patchesFrom.fieldPath"),
      (.error, "REFERENCE_EMPTY", "spec.references[1]"),
      (.warning, "TO_FIELD_PATH_UNUSED", "spec.references[1].toFieldPath"),
      (.error, "FIELD_PATH_INVALID", "spec.references[1].toFieldPath")]
    ObjectSchema.check document = [] ∧ document.WellFormed ∧
    ∃ report, check document = .ok report ∧ (report.issues.filter isAlone).map rowOf = rows ∧
      (∀ issue ∈ report.issues, ∃ v, document.getAt issue.location = .ok v) ∧
      report.passed = false := by
  intro document rows
  have hschema : ObjectSchema.check document = [] := rfl
  have hdocument : document.WellFormed := by decide
  obtain ⟨-, happlies⟩ := check_applies_rules hschema
  obtain ⟨report, hreport⟩ : ∃ report, check document = .ok report := ⟨_, rfl⟩
  obtain ⟨hrows, hread, -⟩ := happlies report hreport
  refine ⟨hschema, hdocument, report, hreport, hrows, hread hdocument, ?_⟩
  cases hreport
  rfl

/-- A document with one reference, which writes to this path. -/
def writingTo (path : Text) : Value := referring [.map [
  (.str "patchesFrom", described "a" [(.str "fieldPath", .str "data")]),
  (.str "toFieldPath", .str path)]]

theorem check_writingTo (path : Text) : ObjectSchema.check (writingTo path) = [] := rfl

theorem check_writingTo_eq_error {path : Text}
    (h : FieldPath.parse path = .error .tooManyDigits) :
    check (writingTo path) = .error (.limit .digits) :=
  (check_eq_error_iff (check_writingTo path) _).2 ⟨rfl, _, List.mem_singleton_self _,
    .invalidDestination, List.mem_cons_of_mem _ (List.mem_singleton_self _), path, rfl, h⟩

/-- Zeros in brackets are a position, but the check stops where they are too many. -/
theorem check_stops_at_long_number :
    let zeros := List.replicate (Limit.maxDigits + 1) (CodePoint.char '0')
    let path := Text.ofList ([.char 'a'] ++ (.char '[' :: (zeros ++ [.char ']']) ++ []))
    ObjectSchema.check (writingTo path) = [] ∧
      check (writingTo path) = .error (.limit .digits) := by
  intro zeros path
  have hparse : FieldPath.parse path = .error .tooManyDigits :=
    (FieldPath.parse_zeros (Nat.lt_succ_self _)).2
  exact ⟨check_writingTo path, check_writingTo_eq_error hparse⟩

end Semantics
end Patchwork
