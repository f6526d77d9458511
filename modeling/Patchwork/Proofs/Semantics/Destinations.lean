import Mathlib.Data.List.Forall2
import Patchwork.Proofs.FieldPath.Join
import Patchwork.Proofs.Semantics.Checked

/-!
# Repeated destinations

The consistency check goes through the references that copy a value, keeps a table of the texts of
their destinations, and reports a reference whose text is in the table already.  Texts that spell
one path differently are different there, while a patch writes where the segments of the path lead.

* `Reference.destination?` — the text of the path that a reference writes.
* `Semantics.destination?_eq` — the check sees that text.
* `Semantics.mem_destinationIssues` — the scan finds what stands in the table, or earlier in the
  list.
* `Semantics.check_finds_repeated_destinations` — the check reports the references that repeat the
  text of an earlier destination; these are the ones that write to an earlier path if no path is
  spelled in two ways.
-/

set_option autoImplicit false

namespace Patchwork

open Value

/-- The text of the path that a reference writes, if it copies a value. -/
def Reference.destination? (r : Reference) : Option Text :=
  r.patchesFrom.bind fun p => r.toFieldPath.or p.fieldPath

namespace Semantics

variable {item : Value} {items : List Value} {location : Text} {r : Reference} {i j : Nat}
  {texts : List (Option Text)} {text : Text} {seen : List (Value × Nat)}
  {issues : List SemanticIssue}

/-! ## What the check sees -/

theorem ne_empty_of_ofText {segments : FieldPath} (h : FieldPath.ofText text = .ok segments) :
    text.isEmpty = false := by
  by_contra hempty
  obtain rfl : text = "" := by simpa using hempty
  cases h

/-- **The check sees the destination of an accepted reference** whose paths are read. -/
theorem destination?_eq (h : ObjectSchema.reference.Accepts item)
    (hread : Reference.ofValue location item = .ok r) (hpaths : r.PathsRead) :
    destination? item = .ok (r.destination?.map .str) := by
  obtain ⟨ref, rfl, hfrom⟩ := Reference.exists_readFrom hread
  simp only [destination?, entriesOf, ok_bind]
  rcases hfrom.patchesFrom with ⟨hnone, hnull⟩ | ⟨p, fields, hp, hmap, hpath⟩
  · rw [hnull, Reference.destination?, hnone]
    rfl
  · obtain ⟨source, hsource⟩ := Reference.exists_fieldPath h hread hp
    have hset : (Value.map fields).truthy = true := by
      cases fields with
      | nil =>
        rw [hsource] at hpath
        cases hpath
      | cons entry rest => rfl
    simp only [hmap, hset, hfrom.toFieldPath, hpath, ok_bind, Bool.not_true, Bool.false_eq_true,
      if_false, Reference.destination?, hp, hsource, Option.bind_some]
    cases hto : r.toFieldPath with
    | none =>
      obtain ⟨_, hok⟩ := hpaths.fieldPath source (by rw [hp, Option.bind_some, hsource])
      simp [textOrNull, isNull, truthy, ne_empty_of_ofText hok, pure, Except.pure]
    | some own =>
      obtain ⟨_, hok⟩ := hpaths.toFieldPath own hto
      simp [textOrNull, isNull, truthy, ne_empty_of_ofText hok, pure, Except.pure]

/-! ## The table -/

def Recorded (seen : List (Value × Nat)) (text : Text) : Prop :=
  ∃ first, (Value.str text, first) ∈ seen

theorem find?_isSome_iff :
    (seen.find? fun s => s.1.same (.str text)).isSome ↔ Recorded seen text := by
  rw [List.find?_isSome]
  constructor
  · rintro ⟨⟨v, first⟩, hmem, hsame⟩
    obtain rfl := same_str_iff.1 hsame
    exact ⟨first, hmem⟩
  · rintro ⟨first, hmem⟩
    exact ⟨_, hmem, same_str_iff.2 rfl⟩

theorem recorded_append {t : Text} :
    Recorded (seen ++ [(.str t, i)]) text ↔ Recorded seen text ∨ t = text := by
  simp [Recorded, exists_or, eq_comm]

theorem referenceLocation_inj (h : referenceLocation i = referenceLocation j) : i = j :=
  (item_append_inj (congrArg (· ++ Text.string "") h)).1

/-- The issues and the table after one reference: what is reported is at the reference, it is
reported if its text is in the table, and its text is in the table afterwards. -/
structure Scanned (seen : List (Value × Nat)) (i : Nat) (given : Option Text)
    (own : List SemanticIssue) (after : List (Value × Nat)) : Prop where
  location : ∀ issue ∈ own, issue.location = referenceLocation i
  reports : (∃ issue, issue ∈ own) ↔ ∃ text, given = some text ∧ Recorded seen text
  records : ∀ text, Recorded after text ↔ Recorded seen text ∨ given = some text

/-- **One step of the scan.**  A reference that writes nothing is passed over, a text that the table
holds is reported, and any other goes into the table. -/
theorem destinationIssues_cons {given : Option Text} {rest : List Value}
    (h : destination? item = .ok (given.map .str))
    (hscan : destinationIssues seen i (item :: rest) = .ok issues) :
    ∃ own after others, Scanned seen i given own after ∧
      destinationIssues after (i + 1) rest = .ok others ∧ issues = own ++ others := by
  cases given with
  | none =>
    rw [destinationIssues, h] at hscan
    exact ⟨[], seen, issues, ⟨List.forall_mem_nil _, by simp, by simp⟩, hscan, rfl⟩
  | some text =>
    have hhashable : (Value.str text).hashable = true := rfl
    simp only [destinationIssues, h, Option.map_some, ok_bind, hhashable, Bool.not_true,
      Bool.false_eq_true, if_false] at hscan
    cases hfind : seen.find? fun s => s.1.same (.str text) with
    | some entry =>
      have hseen : Recorded seen text := find?_isSome_iff.1 (by rw [hfind]; rfl)
      rw [hfind] at hscan
      obtain ⟨others, hothers, hissues⟩ := bind_eq_ok.1 hscan
      cases hissues
      refine ⟨[_], seen, others, ⟨?_, by simp [hseen], ?_⟩, hothers, rfl⟩
      · exact List.forall_mem_singleton.2 rfl
      · rintro t
        exact (or_iff_left_of_imp (by rintro ⟨⟩; exact hseen)).symm
    | none =>
      have hseen : ¬ Recorded seen text := fun hseen => by
        have hsome := find?_isSome_iff.2 hseen
        rw [hfind] at hsome
        cases hsome
      rw [hfind] at hscan
      exact ⟨[], _, issues, ⟨List.forall_mem_nil _, by simp [hseen],
        fun t => by simp [recorded_append]⟩, hscan, rfl⟩

/-- The items have these texts for their destinations. -/
def Destinations (items : List Value) (texts : List (Option Text)) : Prop :=
  List.Forall₂ (fun item text => destination? item = .ok (text.map .str)) items texts

/-- **The scan reports the references whose text is in the table, or earlier in the list.** -/
theorem mem_destinationIssues (h : Destinations items texts)
    (hscan : destinationIssues seen i items = .ok issues) (j : Nat) :
    (∃ issue ∈ issues, issue.location = referenceLocation (i + j)) ↔
      ∃ text, texts[j]? = some (some text) ∧
        (Recorded seen text ∨ ∃ k < j, texts[k]? = some (some text)) := by
  induction h generalizing seen i j issues with
  | nil =>
    cases hscan
    simp
  | @cons item given rest others hitem hrest ih =>
    obtain ⟨own, after, reported, hstep, hreported, rfl⟩ := destinationIssues_cons hitem hscan
    simp only [List.mem_append, or_and_right, exists_or]
    cases j with
    | zero =>
      have hbehind : ¬ ∃ issue ∈ reported, issue.location = referenceLocation i := by
        rintro ⟨issue, hissue, hlocation⟩
        obtain ⟨k, -, hk, -⟩ := exists_of_mem_destinationIssues hreported hissue
        have hpositions := referenceLocation_inj (hlocation.symm.trans hk)
        omega
      have hown : (∃ issue ∈ own, issue.location = referenceLocation i) ↔ ∃ issue, issue ∈ own :=
        exists_congr fun issue => and_iff_left_of_imp (hstep.location issue)
      simp [hbehind, hown, hstep.reports]
    | succ j =>
      have hbefore : ¬ ∃ issue ∈ own, issue.location = referenceLocation (i + (j + 1)) := by
        rintro ⟨issue, hissue, hlocation⟩
        have hpositions :=
          referenceLocation_inj ((hstep.location issue hissue).symm.trans hlocation)
        omega
      have hrestIff := ih hreported j
      rw [show i + 1 + j = i + (j + 1) by omega] at hrestIff
      simp only [hbefore, false_or, hrestIff, hstep.records, List.getElem?_cons_succ, or_assoc,
        Nat.exists_lt_succ_left, List.getElem?_cons_zero, Option.some.injEq]

/-! ## Repeated destinations -/

variable {document : Value} {report : SemanticReport} {segments : FieldPath}

/-- The reference at a position of a document copies a value to the path with this text. -/
def Writes (document : Value) (i : Nat) (text : Text) : Prop :=
  ∃ r, ReferenceAt document i r ∧ r.destination? = some text

/-- It copies a value to where these segments lead. -/
def WritesTo (document : Value) (i : Nat) (segments : FieldPath) : Prop :=
  ∃ text, Writes document i text ∧ FieldPath.parse text = .ok segments

/-- An earlier reference copies a value to the same place. -/
def WritesAgain (document : Value) (i : Nat) : Prop :=
  ∃ segments, WritesTo document i segments ∧ ∃ j < i, WritesTo document j segments

/-- The report says that a reference repeats a destination. -/
def ReportsRepeated (report : SemanticReport) (i : Nat) : Prop :=
  ∃ issue ∈ report.issues,
    issue.location = referenceLocation i ∧ issue.code = "DUPLICATE_DESTINATION"

/-- Every destination is written as its segments are written. -/
def DestinationsPlain (document : Value) : Prop :=
  ∀ i text segments, Writes document i text → FieldPath.parse text = .ok segments →
    FieldPath.join segments = text

theorem exists_segments (hpaths : r.PathsRead) (h : r.destination? = some text) :
    ∃ segments, FieldPath.parse text = .ok segments := by
  obtain ⟨p, hp, htext⟩ := Option.bind_eq_some_iff.1 h
  have hread : ∃ segments, FieldPath.ofText text = .ok segments := by
    rcases Option.or_eq_some_iff.1 htext with hto | ⟨-, hfrom⟩
    · exact hpaths.toFieldPath text hto
    · exact hpaths.fieldPath text (by rw [hp, Option.bind_some, hfrom])
  obtain ⟨segments, hsegments⟩ := hread
  exact ⟨segments, mapError_eq_ok.1 hsegments⟩

/-- The scan sees the destinations of the references, where all paths are read. -/
theorem Checked.exists_destinations {root : List (Value × Value)} (h : Checked root items)
    (hcheck : check (.map root) = .ok report)
    (hvalid : ∀ issue ∈ report.issues, issue.code ≠ "FIELD_PATH_INVALID") :
    ∃ texts, Destinations items texts ∧
      (∀ i text, texts[i]? = some (some text) ↔ Writes (.map root) i text) ∧
      ∀ i text, Writes (.map root) i text → ∃ segments, FieldPath.parse text = .ok segments := by
  obtain ⟨references, hreads, hat⟩ := h.exists_reads
  have hpaths : ∀ i (r : Reference), references[i]? = some r → r.PathsRead := fun i r hr =>
    (pathsRead_iff_check hreads hcheck hr).2 fun issue hissue _ => hvalid issue hissue
  have hlength : references.length = items.length := by
    obtain ⟨items', _, hitems', hconvert⟩ := hreads.references
    obtain rfl : items = items' := Except.ok.inj (h.references.symm.trans hitems')
    exact length_convertItems hconvert
  -- What is at a position is the reference that was read there.
  have hread : ∀ i r, ReferenceAt (.map root) i r → references[i]? = some r := by
    intro i r hr
    obtain ⟨item, hi, -⟩ := h.exists_item hr
    obtain ⟨hlt, -⟩ := List.getElem?_eq_some_iff.1 hi
    have hsome := List.getElem?_eq_getElem (hlength ▸ hlt)
    rw [hsome, hr.unique (hat i _ hsome)]
  refine ⟨references.map (·.destination?), ?_, fun i text => ?_, ?_⟩
  · refine List.forall₂_iff_get.2 ⟨by rw [List.length_map, hlength], fun i hi hi' => ?_⟩
    rw [List.length_map] at hi'
    have hr := List.getElem?_eq_getElem hi'
    obtain ⟨item, hitem, haccepts, hof⟩ := h.exists_item (hat i _ hr)
    obtain rfl : items[i] = item := Option.some.inj ((List.getElem?_eq_getElem hi).symm.trans hitem)
    simpa using destination?_eq haccepts hof (hpaths i _ hr)
  · simp only [List.getElem?_map, Option.map_eq_some_iff]
    constructor
    · rintro ⟨r, hr, htext⟩
      exact ⟨r, hat i r hr, htext⟩
    · rintro ⟨r, hr, htext⟩
      exact ⟨r, hread i r hr, htext⟩
  · rintro i text ⟨r, hr, htext⟩
    exact exists_segments (hpaths i r (hread i r hr)) htext

/-- The report says so of the references whose text an earlier one has. -/
theorem Checked.reportsRepeated_iff {root : List (Value × Value)} (h : Checked root items)
    (hcheck : check (.map root) = .ok report)
    (hvalid : ∀ issue ∈ report.issues, issue.code ≠ "FIELD_PATH_INVALID") (i : Nat) :
    ReportsRepeated report i ↔
      ∃ text, Writes (.map root) i text ∧ ∃ j < i, Writes (.map root) j text := by
  obtain ⟨texts, htexts, hwrites, -⟩ := h.exists_destinations hcheck hvalid
  obtain ⟨repeated, hscan, hrepeated, -⟩ := h.exists_rules hcheck
  have hscanned := mem_destinationIssues htexts hscan i
  simp only [Nat.zero_add, hwrites, Recorded, List.not_mem_nil, exists_false, false_or] at hscanned
  rw [← hscanned]
  constructor
  · rintro ⟨issue, hissue, hlocation, hcode⟩
    exact ⟨issue, (hrepeated issue hcode).1 hissue, hlocation⟩
  · rintro ⟨issue, hissue, hlocation⟩
    have hcode := code_of_mem_destinationIssues hscan hissue
    exact ⟨issue, (hrepeated issue hcode).2 hissue, hlocation, hcode⟩

/-- **The check reports the references that repeat the text of an earlier destination.**  Take a
document without issues of the schema.  The check stops for nothing but a number with too many
digits in a path.  Where it finds no invalid path, it reports a reference as repeating a destination
exactly if an earlier one has the same text.  So what it reports is written again, and where each
destination is spelled as its segments are written, everything that is written again is reported. -/
theorem check_finds_repeated_destinations (hcheck : ObjectSchema.check document = []) :
    FailsWith (StopsAtDigitsOf document) (check document) ∧
      ∀ report, check document = .ok report →
        (∀ issue ∈ report.issues, issue.code ≠ "FIELD_PATH_INVALID") → ∀ i,
          (ReportsRepeated report i ↔
            ∃ text, Writes document i text ∧ ∃ j < i, Writes document j text) ∧
          (ReportsRepeated report i → WritesAgain document i) ∧
          (DestinationsPlain document → WritesAgain document i → ReportsRepeated report i) := by
  obtain ⟨root, items, rfl, hchecked⟩ := exists_checked hcheck
  refine ⟨hchecked.check_failsWith, fun report hreport hvalid i => ?_⟩
  obtain ⟨-, -, -, hread⟩ := hchecked.exists_destinations hreport hvalid
  have hiff := hchecked.reportsRepeated_iff hreport hvalid i
  refine ⟨hiff, fun hreported => ?_, fun hplain hagain => hiff.2 ?_⟩
  · obtain ⟨text, hi, j, hj, hjtext⟩ := hiff.1 hreported
    obtain ⟨segments, hsegments⟩ := hread i text hi
    exact ⟨segments, ⟨text, hi, hsegments⟩, j, hj, text, hjtext, hsegments⟩
  · obtain ⟨segments, ⟨text, hi, hsegments⟩, j, hj, text', hj', hsegments'⟩ := hagain
    refine ⟨text, hi, j, hj, ?_⟩
    rwa [← hplain i text segments hi hsegments, hplain j text' segments hj' hsegments']

/-- A document that patches from `a` and from `b`, each with its own path. -/
def patchingTwice (first second : Text) : Value := .map [
  (.str "apiVersion", .str ApiGroup.apiVersion), (.str "kind", .str ApiGroup.kind),
  (.str "spec", .map [
    (.str "references", .list [
      .map [(.str "patchesFrom", .map [(.str "name", .str "a"), (.str "fieldPath", .str first)])],
      .map [(.str "patchesFrom", .map [(.str "name", .str "b"), (.str "fieldPath", .str "x")]),
        (.str "toFieldPath", .str second)]]),
    (.str "forProvider", .map [(.str "manifest", .map [])])])]

theorem writes_patchingTwice (first second : Text) :
    Writes (patchingTwice first second) 0 first ∧ Writes (patchingTwice first second) 1 second :=
  ⟨⟨{ patchesFrom := some { name := "a", fieldPath := some first } }, ⟨_, rfl, rfl⟩, rfl⟩,
    ⟨{ patchesFrom := some { name := "b", fieldPath := some "x" }, toFieldPath := some second },
      ⟨_, rfl, rfl⟩, rfl⟩⟩

/-- A destination that is given and one that is not have one text. -/
theorem check_finds_repeated_destinations_default :
    let document := patchingTwice "spec.replicas" "spec.replicas"
    let report : SemanticReport :=
      ⟨[⟨referenceLocation 1, .duplicateDestination 0 1 (.str "spec.replicas")⟩]⟩
    (ObjectSchema.check document = [] ∧ check document = .ok report ∧
      ∀ issue ∈ report.issues, issue.code ≠ "FIELD_PATH_INVALID") ∧
    ReportsRepeated report 1 ∧ WritesAgain document 1 := by
  intro document report
  have hcheck : ObjectSchema.check document = [] := rfl
  have hreport : check document = .ok report := rfl
  have hvalid : ∀ issue ∈ report.issues, issue.code ≠ "FIELD_PATH_INVALID" := by
    simp [report, SemanticIssue.code, SemanticFault.code]
  obtain ⟨hfirst, hsecond⟩ := writes_patchingTwice "spec.replicas" "spec.replicas"
  obtain ⟨hiff, hagain, -⟩ := (check_finds_repeated_destinations hcheck).2 report hreport hvalid 1
  have hreported := hiff.2 ⟨_, hsecond, 0, Nat.one_pos, hfirst⟩
  exact ⟨⟨hcheck, hreport, hvalid⟩, hreported, hagain hreported⟩

/-- A key in brackets is the key: both references write to one place, and nothing is reported. -/
theorem check_misses_other_spelling :
    let document := patchingTwice "spec.replicas" "spec[replicas]"
    ∃ report, ObjectSchema.check document = [] ∧ check document = .ok report ∧
      (∀ issue ∈ report.issues, issue.code ≠ "FIELD_PATH_INVALID") ∧
      WritesAgain document 1 ∧ ¬ ReportsRepeated report 1 := by
  intro document
  obtain ⟨hfirst, hsecond⟩ := writes_patchingTwice "spec.replicas" "spec[replicas]"
  have hdotted : FieldPath.parse "spec.replicas" = .ok [.field "spec", .field "replicas"] := rfl
  have hbracketed : FieldPath.parse "spec[replicas]" = .ok [.field "spec", .field "replicas"] := rfl
  have hreport : check document = .ok ⟨[]⟩ := rfl
  refine ⟨⟨[]⟩, rfl, hreport, nofun, ?_, ?_⟩
  · exact ⟨_, ⟨_, hsecond, hbracketed⟩, 0, Nat.one_pos, _, hfirst, hdotted⟩
  · rintro ⟨issue, hissue, -⟩
    cases hissue

end Semantics
end Patchwork
