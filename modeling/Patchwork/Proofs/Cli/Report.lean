import Patchwork.Proofs.Cli.Validate
import Patchwork.Proofs.Semantics.Rules

/-!
# What the command that validates a file prints

The command goes through the Objects of a file in order and ends at the first one that stops it.
What it says of those before stands in its output, and nothing is said of those behind.

* `Stops` — what it is about an Object document that stops the command, and with which error.
* `stopped_documentReport`, `stopped_fullReport` — a report is stopped by what stops it at one
  document, and by the first document that does.
* `schemaLine_mem_documentReport`, `mem_fullReport` — the issues of the schema are among the lines
  of the report on a document, and those among the lines of the whole report.
* `validate_reports_issues` — what the command prints, and what it ends with.
-/

set_option autoImplicit false

namespace Patchwork
namespace Cli

open Value

/-- What is said of a document behind its name stops the command with an error. -/
inductive FindingStops (entries : List (Value × Value)) : KindError → Prop where
  /-- The words of an issue of the schema have no encoding. -/
  | schemaIssue {issue : SchemaIssue} (hissue : issue ∈ ObjectSchema.check (.map entries))
      (hline : ¬ issue.message.Encodable) : FindingStops entries .notEncodable
  /-- The document fits the schema, and a path of a reference has a number with too many digits. -/
  | longPath {reference : Value} (hschema : ObjectSchema.check (.map entries) = [])
      (hreference : reference ∈ (Value.map entries).referencesOf)
      (hlong : Semantics.HasLongNumber reference) : FindingStops entries (.limit .digits)
  /-- The document fits the schema, and an issue about its references has no encoding. -/
  | semanticIssue {report : SemanticReport} {issue : SemanticIssue}
      (hschema : ObjectSchema.check (.map entries) = [])
      (hcheck : Semantics.check (.map entries) = .ok report) (hissue : issue ∈ report.issues)
      (hline : ¬ issue.Encodable) : FindingStops entries .notEncodable

/-- The command stops with an error at an Object document. -/
inductive Stops (entries : List (Value × Value)) : KindError → Prop where
  /-- The metadata counts as set, but is no map. -/
  | metadata (hset : (field entries "metadata").truthy = true)
      (hkind : ∀ es, field entries "metadata" ≠ .map es) : Stops entries .notAnObject
  /-- The name holds an integer with more digits than are written. -/
  | longName {name : Value}
      (hname : reach? [.field "metadata", .field "name"] (.map entries) = some name)
      (hlong : name.holds isLongInteger = true) : Stops entries (.limit .digits)
  /-- The name is nested too deep to be followed. -/
  | deepName {name : Value}
      (hname : reach? [.field "metadata", .field "name"] (.map entries) = some name)
      (hshort : name.holds isLongInteger = false) (hdeep : name.holds isTooDeep = true) :
      Stops entries (.limit .nesting)
  /-- The name is a text without an encoding. -/
  | name {t : Text}
      (hname : reach? [.field "metadata", .field "name"] (.map entries) = some (.str t))
      (ht : ¬ t.Encodable) : Stops entries .notEncodable
  /-- The name is printed, and what is said behind it stops the command. -/
  | finding {e : KindError}
      (hmetadata : (field entries "metadata").truthy = true →
        ∃ es, field entries "metadata" = .map es)
      (hname : NamePrintable entries) (h : FindingStops entries e) : Stops entries e

/-- Nothing about the Object document stops the command. -/
def Survives (entries : List (Value × Value)) : Prop := ∀ e, ¬ Stops entries e

/-- The line is printed: what the console makes of it is part of the output.  Unless the console
takes some of it for a mark, so are all characters of the line that show. -/
def Outcome.Prints (o : Outcome) (console : Console) (line : Text) : Prop :=
  ∃ s : String, line = s ∧ (∃ before after, o.output = before ++ console.shown s ++ after) ∧
    (Console.isPlain s.toList = true → Console.visible s <:+: Console.visible o.output)

variable {strict : Bool} {entries metadata : List (Value × Value)} {e : KindError} {name : Value}
  {documents objects before after : List (List (Value × Value))} {host : Host} {file : String}
  {line : String} {r s t : Report}

/-! ## Reports in parts -/

theorem andThen_assoc : (r.andThen s).andThen t = r.andThen (s.andThen t) := by
  simp only [Report.andThen]
  cases hr : r.stopped with
  | some e => simp [hr]
  | none =>
    cases hs : s.stopped with
    | some e => simp [hs]
    | none => simp [Bool.or_assoc]

theorem andThen_empty : r.andThen {} = r := by
  obtain ⟨lines, fault, stopped⟩ := r
  cases stopped <;> simp [Report.andThen]

theorem mem_andThen_left (h : line ∈ r.lines) : line ∈ (r.andThen s).lines := by
  rw [Report.andThen]
  split
  · exact h
  · exact List.mem_append_left _ h

theorem mem_andThen_right (hr : r.stopped = none) (h : line ∈ s.lines) :
    line ∈ (r.andThen s).lines := by
  rw [Report.andThen, hr]
  exact List.mem_append_right _ h

theorem stopped_ofLines_eq_some {lines : List Text} :
    (Report.ofLines lines).stopped = some e ↔
      (∃ text ∈ lines, ¬ text.Encodable) ∧ e = .notEncodable := by
  rw [stopped_ofLines]
  split <;> simp_all [eq_comm]

theorem mem_lines_ofLines {lines : List Text} (h : (Report.ofLines lines).stopped = none)
    (hline : .string line ∈ lines) : line ∈ (Report.ofLines lines).lines := by
  induction lines with
  | nil => cases hline
  | cons text rest ih =>
    rw [Report.ofLines, stopped_andThen, Option.or_eq_none_iff] at h
    rw [Report.ofLines]
    rcases List.mem_cons.1 hline with rfl | hline
    · exact mem_andThen_left (List.mem_singleton_self _)
    · exact mem_andThen_right h.1 (ih h.2 hline)

theorem foldl_andThen (start : Report) :
    objects.foldl (fun r entries => r.andThen (documentReport strict entries)) start =
      start.andThen (fullReport strict objects) := by
  induction objects generalizing start with
  | nil => exact andThen_empty.symm
  | cons entries rest ih =>
    have hcons : fullReport strict (entries :: rest) =
        (documentReport strict entries).andThen (fullReport strict rest) := by
      rw [fullReport, List.foldl_cons, ih]
      rfl
    rw [List.foldl_cons, ih, andThen_assoc, hcons]

theorem fullReport_cons :
    fullReport strict (entries :: objects) =
      (documentReport strict entries).andThen (fullReport strict objects) := by
  rw [fullReport, List.foldl_cons, foldl_andThen]
  rfl

theorem fullReport_append :
    fullReport strict (before ++ after) =
      (fullReport strict before).andThen (fullReport strict after) := by
  rw [fullReport, List.foldl_append, foldl_andThen]
  rfl

/-! ## One document -/

theorem entriesIfSet_eq_error {v : Value} :
    v.entriesIfSet = .error e ↔ e = .notAnObject ∧ v.truthy = true ∧ ∀ es, v ≠ .map es := by
  cases htruthy : v.truthy with
  | false => simp [entriesIfSet, htruthy]
  | true => cases v <;> simp [entriesIfSet, htruthy, entriesOf, eq_comm]

theorem shown_of_reach? (h : (field entries "metadata").entriesIfSet = .ok metadata)
    (hname : reach? [.field "metadata", .field "name"] (.map entries) = some name) :
    fieldOr metadata "name" (.str "(unnamed)") = name := by
  rw [reach?_name h] at hname
  rw [fieldOr, hname, Option.getD_some]

theorem reach?_shown (h : (field entries "metadata").entriesIfSet = .ok metadata)
    {p : Value → Bool} (htext : p (.str "(unnamed)") = false)
    (hholds : (fieldOr metadata "name" (.str "(unnamed)")).holds p = true) :
    reach? [.field "metadata", .field "name"] (.map entries) =
      some (fieldOr metadata "name" (.str "(unnamed)")) := by
  rw [reach?_name h]
  rw [fieldOr] at hholds ⊢
  cases hlookup : lookup "name" metadata with
  | some name => rfl
  | none => simp [hlookup, holds, htext] at hholds

/-- What is shown for a name is that of the document if it is a text without an encoding. -/
theorem reach?_shown_text (h : (field entries "metadata").entriesIfSet = .ok metadata) {text : Text}
    (hname : fieldOr metadata "name" (.str "(unnamed)") = .str text) (htext : ¬ text.Encodable) :
    reach? [.field "metadata", .field "name"] (.map entries) = some (.str text) := by
  rw [reach?_name h]
  rw [fieldOr] at hname
  cases hlookup : lookup "name" metadata with
  | some name =>
    rw [hlookup, Option.getD_some] at hname
    rw [hname]
  | none =>
    rw [hlookup, Option.getD_none] at hname
    cases hname
    exact absurd (Text.encodable_string _) htext

/-- What is reported of a document behind its name. -/
def findings (strict : Bool) (entries : List (Value × Value)) : Report :=
  match ObjectSchema.check (.map entries) with
  | [] =>
    let passed : Report := { lines := ["  v Schema validation passed"] }
    passed.andThen (match Semantics.check (.map entries) with
      | .error e => { stopped := some e }
      | .ok report => semanticReport strict report)
  | issues => schemaReport issues

theorem documentReport_eq (h : (field entries "metadata").entriesIfSet = .ok metadata) :
    documentReport strict entries =
      (nameReport (fieldOr metadata "name" (.str "(unnamed)"))).andThen
        (findings strict entries) := by
  rw [documentReport, h, findings]
  cases ObjectSchema.check (.map entries) with
  | nil => exact andThen_assoc
  | cons issue rest => rfl

theorem stopped_nameReport_eq_some :
    (nameReport name).stopped = some e ↔
      name.holds isLongInteger = true ∧ e = .limit .digits ∨
        name.holds isLongInteger = false ∧ name.holds isTooDeep = true ∧ e = .limit .nesting ∨
        (∃ text, name = .str text ∧ ¬ text.Encodable) ∧ e = .notEncodable := by
  have htext : (∃ text, name = .str text ∧ ¬ text.Encodable) ↔ ¬ name.abridged.Encodable := by
    simp [Value.encodable_abridged]
  rw [htext, stopped_nameReport]
  by_cases hshown : name.abridged.Encodable
  · cases name.holds isLongInteger <;> cases name.holds isTooDeep <;> simp [hshown, eq_comm]
  · -- A text holds neither an integer nor anything nested.
    obtain ⟨text, rfl, -⟩ := htext.2 hshown
    simp [holds, isLongInteger, isTooDeep, hshown, eq_comm]

theorem stopped_schemaReport {issues : List SchemaIssue} :
    (schemaReport issues).stopped = some e ↔
      (∃ issue ∈ issues, ¬ issue.message.Encodable) ∧ e = .notEncodable := by
  have hline : ∀ issue : SchemaIssue, (schemaLine issue).Encodable ↔ issue.message.Encodable := by
    intro issue
    rw [schemaLine, Text.encodable_append, and_iff_right (Text.encodable_string _)]
  rw [schemaReport, stopped_andThen, Option.or_none, stopped_ofLines_eq_some]
  simp [hline, Text.encodable_string]

theorem stopped_semanticReport {report : SemanticReport} :
    (semanticReport strict report).stopped = some e ↔
      (∃ issue ∈ report.issues, ¬ issue.Encodable) ∧ e = .notEncodable := by
  have hmem : ∀ issue, issue ∈ report.issues ↔ issue ∈ report.errors ∨ issue ∈ report.warnings := by
    intro issue
    simp only [SemanticReport.errors, SemanticReport.warnings, List.mem_filter, decide_eq_true_eq,
      ← and_or_left]
    cases issue.severity <;> simp
  rw [semanticReport, stopped_andThen, Option.or_none, stopped_ofLines_eq_some]
  simp only [List.mem_append, List.mem_map, hmem, or_and_right, exists_or]
  simp [encodable_issueLine]

/-- **What stops the findings on a document.** -/
theorem stopped_findings :
    (findings strict entries).stopped = some e ↔ FindingStops entries e := by
  rw [findings]
  cases hschema : ObjectSchema.check (.map entries) with
  | cons first rest =>
    rw [stopped_schemaReport, ← hschema]
    constructor
    · rintro ⟨⟨issue, hissue, hline⟩, rfl⟩
      exact .schemaIssue hissue hline
    · intro h
      cases h with
      | schemaIssue hissue hline => exact ⟨⟨_, hissue, hline⟩, rfl⟩
      | longPath hnone | semanticIssue hnone =>
        rw [hschema] at hnone
        cases hnone
  | nil =>
    have hcheck := Semantics.check_eq_error_iff hschema
    rw [stopped_andThen]
    cases hreport : Semantics.check (.map entries) with
    | error e' =>
      obtain ⟨rfl, reference, hreference, hlong⟩ := (hcheck e').1 hreport
      simp only [Option.none_or, Option.some.injEq]
      constructor
      · rintro rfl
        exact .longPath hschema hreference hlong
      · intro h
        cases h with
        | schemaIssue hissue =>
          rw [hschema] at hissue
          cases hissue
        | longPath => rfl
        | semanticIssue _ hok =>
          rw [hreport] at hok
          cases hok
    | ok report =>
      simp only [Option.none_or, stopped_semanticReport]
      constructor
      · rintro ⟨⟨issue, hissue, hline⟩, rfl⟩
        exact .semanticIssue hschema hreport hissue hline
      · intro h
        cases h with
        | schemaIssue hissue =>
          rw [hschema] at hissue
          cases hissue
        | longPath _ hreference hlong =>
          have herror := (hcheck _).2 ⟨rfl, _, hreference, hlong⟩
          rw [hreport] at herror
          cases herror
        | semanticIssue _ hok hissue hline =>
          rw [hreport, Except.ok.injEq] at hok
          subst hok
          exact ⟨⟨_, hissue, hline⟩, rfl⟩

theorem stopped_nameReport_eq_none :
    (nameReport name).stopped = none ↔ (nameReport name).Clean := by
  rw [clean_iff, and_iff_left fault_nameReport]

/-- **A report is stopped by what stops the command at the document.** -/
theorem stopped_documentReport :
    (documentReport strict entries).stopped = some e ↔ Stops entries e := by
  cases hmetadata : (field entries "metadata").entriesIfSet with
  | error e' =>
    have hreport : (documentReport strict entries).stopped = some e' := by
      rw [documentReport, hmetadata]
    obtain ⟨rfl, hset, hkind⟩ := entriesIfSet_eq_error.1 hmetadata
    have hnone : reach? [.field "metadata", .field "name"] (.map entries) = none := by
      rw [reach?_field_cons]
      cases hv : field entries "metadata" <;> first | rfl | exact absurd hv (hkind _)
    rw [hreport, Option.some.injEq]
    constructor
    · rintro rfl
      exact .metadata hset hkind
    · intro hstops
      cases hstops with
      | metadata => rfl
      | longName hname | deepName hname | name hname =>
        rw [hnone] at hname
        cases hname
      | finding hmap =>
        obtain ⟨es, hes⟩ := hmap hset
        exact absurd hes (hkind es)
  | ok metadata =>
    obtain ⟨hmap, -⟩ := entriesIfSet_eq_ok.1 hmetadata
    rw [documentReport_eq hmetadata, stopped_andThen, Option.or_eq_some_iff,
      stopped_nameReport_eq_some, stopped_nameReport_eq_none, clean_nameReport_field hmetadata,
      stopped_findings]
    constructor
    · rintro ((⟨hlong, rfl⟩ | ⟨hshort, hdeep, rfl⟩ | ⟨⟨text, hname, htext⟩, rfl⟩) | ⟨hname, h⟩)
      · exact .longName (reach?_shown hmetadata rfl hlong) hlong
      · exact .deepName (reach?_shown hmetadata rfl hdeep) hshort hdeep
      · exact .name (reach?_shown_text hmetadata hname htext) htext
      · exact .finding (fun hset => ⟨metadata, hmap hset⟩) hname h
    · intro hstops
      cases hstops with
      | metadata hset hkind => exact absurd (hmap hset) (hkind _)
      | longName hreach hlong =>
        obtain rfl := shown_of_reach? hmetadata hreach
        exact .inl (.inl ⟨hlong, rfl⟩)
      | deepName hreach hshort hdeep =>
        obtain rfl := shown_of_reach? hmetadata hreach
        exact .inl (.inr (.inl ⟨hshort, hdeep, rfl⟩))
      | name hreach htext =>
        rw [shown_of_reach? hmetadata hreach]
        exact .inl (.inr (.inr ⟨⟨_, rfl, htext⟩, rfl⟩))
      | finding _ hname h => exact .inr ⟨hname, h⟩

/-- The lines of the issues of the schema are in the report on a document that does not stop it. -/
theorem schemaLine_mem_documentReport (h : Survives entries) {issue : SchemaIssue}
    (hissue : issue ∈ ObjectSchema.check (.map entries)) :
    ∃ line : String, schemaLine issue = line ∧ line ∈ (documentReport strict entries).lines := by
  have hstopped : ∀ e, (documentReport strict entries).stopped ≠ some e := fun e he =>
    h e (stopped_documentReport.1 he)
  cases hmetadata : (field entries "metadata").entriesIfSet with
  | error e =>
    refine absurd ?_ (hstopped e)
    rw [documentReport, hmetadata]
  | ok metadata =>
    rw [← Option.eq_none_iff_forall_ne_some, documentReport_eq hmetadata, stopped_andThen,
      Option.or_eq_none_iff] at hstopped
    obtain ⟨hname, hfindings⟩ := hstopped
    rw [documentReport_eq hmetadata]
    cases hschema : ObjectSchema.check (.map entries) with
    | nil =>
      rw [hschema] at hissue
      cases hissue
    | cons first rest =>
      have hreport : findings strict entries = schemaReport (first :: rest) := by
        rw [findings, hschema]
      rw [hschema] at hissue
      rw [hreport, schemaReport, stopped_andThen, Option.or_none] at hfindings
      have hline : (schemaLine issue).Encodable := by
        refine Decidable.byContradiction fun hno => ?_
        have hmem := List.mem_cons_of_mem ("  Schema validation FAILED:" : Text)
          (List.mem_map_of_mem (f := schemaLine) hissue)
        rw [stopped_ofLines_eq_some.2 ⟨⟨_, hmem, hno⟩, rfl⟩] at hfindings
        cases hfindings
      obtain ⟨line, hline⟩ := hline
      refine ⟨line, hline, mem_andThen_right hname ?_⟩
      rw [hreport, schemaReport]
      refine mem_andThen_left (mem_lines_ofLines hfindings ?_)
      rw [← hline]
      exact List.mem_cons_of_mem _ (List.mem_map_of_mem hissue)

/-! ## All documents -/

/-- **The first document that stops a report decides with what.** -/
theorem stopped_fullReport :
    (fullReport strict objects).stopped =
      objects.findSome? fun entries => (documentReport strict entries).stopped := by
  induction objects with
  | nil => rfl
  | cons entries rest ih =>
    rw [fullReport_cons, stopped_andThen, ih, List.findSome?_cons]
    cases (documentReport strict entries).stopped <;> rfl

theorem stopped_fullReport_eq_none :
    (fullReport strict objects).stopped = none ↔ ∀ entries ∈ objects, Survives entries := by
  rw [stopped_fullReport, List.findSome?_eq_none_iff]
  refine forall₂_congr fun entries _ => ?_
  simp only [Option.eq_none_iff_forall_ne_some, ne_eq, stopped_documentReport, Survives]

/-- Behind documents that do not stop it, the report is that of the next document and what
follows. -/
theorem mem_fullReport (hbefore : ∀ b ∈ before, Survives b)
    (h : line ∈ (documentReport strict entries).lines) :
    line ∈ (fullReport strict (before ++ entries :: after)).lines := by
  rw [fullReport_append, fullReport_cons]
  exact mem_andThen_right (stopped_fullReport_eq_none.2 hbefore) (mem_andThen_left h)

theorem stopped_fullReport_of_stops (hbefore : ∀ b ∈ before, Survives b) (h : Stops entries e) :
    (fullReport strict (before ++ entries :: after)).stopped = some e := by
  rw [fullReport_append, fullReport_cons, stopped_andThen, stopped_andThen,
    stopped_fullReport_eq_none.2 hbefore, stopped_documentReport.2 h]
  rfl

/-! ## The output -/

theorem exists_printed_eq (console : Console) {lines : List String} (h : line ∈ lines) :
    ∃ before after, console.printed lines = before ++ console.shown line ++ after := by
  obtain ⟨before, after, rfl⟩ := List.append_of_mem h
  refine ⟨console.printed before, console.printed after, ?_⟩
  simp only [Console.printed, List.map_append, List.map_cons, String.join_append, String.join_cons,
    String.append_assoc]

theorem prints_of_output_eq {o : Outcome} {console : Console} {before after : String}
    (h : o.output = before ++ console.shown line ++ after) : o.Prints console line := by
  refine ⟨line, rfl, ⟨before, after, h⟩, fun hplain => ?_⟩
  refine ⟨Console.visible before, Console.visible after, ?_⟩
  rw [h, ← console.visible_shown line hplain]
  simp only [Console.visible, String.toList_append, List.filter_append]

/-- The command is stopped by what stops the report, and prints the lines of it first. -/
theorem validateDocuments_report (console : Console) (strict : Bool)
    (documents : List (List (Value × Value))) :
    let report := fullReport strict (documents.filter ApiGroup.isObject)
    let outcome := validateDocuments console strict documents
    outcome.stopped = report.stopped.map .kind ∧
      ∃ ending, outcome.output = console.printed report.lines ++ ending := by
  intro report outcome
  simp only [report, outcome, validateDocuments]
  cases documents.filter ApiGroup.isObject with
  | nil => exact ⟨rfl, console.shown "No Object documents found.", String.empty_append.symm⟩
  | cons first rest =>
    simp only
    generalize fullReport strict (first :: rest) = report
    cases report.stopped with
    | some e => exact ⟨rfl, "", String.append_empty.symm⟩
    | none => cases report.fault <;> exact ⟨rfl, _, rfl⟩

/-- The command on a file prints the lines of the report on its Objects, and is stopped by what
stops that report. -/
theorem run_report [Machine] {flag : Bool} {args : List String} (settings : Settings)
    (hread : read args = .ok (.validate file flag))
    (hload : Loader.documents host.files file = .ok documents) :
    let report := fullReport (flag || settings.strict) (documents.filter ApiGroup.isObject)
    let outcome := run host settings args
    outcome.stopped = report.stopped.map .kind ∧
      ∀ line ∈ report.lines, outcome.Prints host.console line := by
  intro report outcome
  obtain ⟨hstopped, ending, houtput⟩ :=
    validateDocuments_report host.console (flag || settings.strict) documents
  refine ⟨?_, fun line hline => ?_⟩
  · simp only [outcome, run, hread, execute, validate, hload, hstopped, report]
  · obtain ⟨before, after, hprinted⟩ := exists_printed_eq host.console hline
    have houtcome : outcome.output =
        (host.console.shown ("\n" ++ programName ++ " — Validating: " ++ file ++ "\n") ++ before)
          ++ host.console.shown line ++ (after ++ ending) := by
      simp only [outcome, run, hread, execute, validate, hload, houtput, hprinted, report,
        String.append_assoc]
    exact prints_of_output_eq houtcome

/-! ## An Object with a text in the place of a map -/

/-- The text of an Object with a text under a key. -/
def misshapenText (key : String) : String :=
  "apiVersion: kubernetes.crossplane.io/v1alpha1\nkind: Object\n" ++ key ++ ": app\n"

def misshapenTokens (key : String) : List Yaml.Token :=
  [.blockMappingStart, .key, .scalar "apiVersion" true, .value,
    .scalar "kubernetes.crossplane.io/v1alpha1" true, .key, .scalar "kind" true, .value,
    .scalar "Object" true, .key, .scalar key true, .value, .scalar "app" true, .blockEnd,
    .streamEnd]

def misshapenGraph (key : String) : Yaml.Graph where
  nodes := #[⟨.untagged, .mapping [(1, 2), (3, 4), (5, 6)]⟩,
    ⟨.plain, .scalar "apiVersion"⟩, ⟨.plain, .scalar "kubernetes.crossplane.io/v1alpha1"⟩,
    ⟨.plain, .scalar "kind"⟩, ⟨.plain, .scalar "Object"⟩,
    ⟨.plain, .scalar key⟩, ⟨.plain, .scalar "app"⟩]
  root := 0

def misshapenEntries (key : String) : List (Value × Value) :=
  [(.str "apiVersion", .str ApiGroup.apiVersion), (.str "kind", .str ApiGroup.kind),
    (.str key, .str "app")]

theorem value_misshapenGraph {key : String} (hkey : key = "metadata" ∨ key = "spec") :
    (misshapenGraph key).value Yaml.ImplicitRule.manifest = .ok (.map (misshapenEntries key)) := by
  have htags : (misshapenGraph key).nodes.map (·.tag Yaml.ImplicitRule.manifest) =
      #[.map, .str, .str, .str, .str, .str, .str] := by
    rcases hkey with rfl | rfl <;> decide +kernel
  rw [Yaml.Graph.value, Yaml.Assembly.ofGraph, htags]
  rcases hkey with rfl | rfl <;> cbv

theorem documents_misshapen {key : String} (hkey : key = "metadata" ∨ key = "spec") :
    Loader.documents (viewOf (misshapenText key)) "objects.yaml" = .ok [misshapenEntries key] := by
  have htokens : Yaml.tokens (Yaml.normalizeBreaks (misshapenText key).toList) =
      misshapenTokens key := by
    have hmetadata : misshapenText "metadata" =
        "apiVersion: kubernetes.crossplane.io/v1alpha1\nkind: Object\nmetadata: app\n" := by
      decide +kernel
    have hspec : misshapenText "spec" =
        "apiVersion: kubernetes.crossplane.io/v1alpha1\nkind: Object\nspec: app\n" := by
      decide +kernel
    rcases hkey with rfl | rfl
    · rw [hmetadata]
      cbv
    · rw [hspec]
      cbv
  have hdocument : Yaml.readDocument true (misshapenTokens key) =
      .ok (some (misshapenGraph key), [.streamEnd]) := by
    rcases hkey with rfl | rfl <;> cbv
  exact documents_viewOf (Yaml.read_of_readDocument htokens (List.cons_ne_nil _ _) hdocument
    (value_misshapenGraph hkey))

theorem isObject_misshapenEntries {key : String} :
    [misshapenEntries key].filter ApiGroup.isObject = [misshapenEntries key] := by
  have hobject : ApiGroup.isObject (misshapenEntries key) = true := by
    simp [ApiGroup.isObject, misshapenEntries, field, fieldOr, same_str_iff]
  rw [List.filter_cons_of_pos hobject, List.filter_nil]

/-! ## What is reported -/

/-- **Validation reports what is malformed, unless it is stopped.**  The command is stopped exactly
if something about an Object document stops it, and then by the first such document.  Of a document
that comes before, and does not stop it, every issue of the schema is printed. -/
theorem validate_reports_issues [Machine] {flag : Bool} {args : List String} (settings : Settings)
    (hread : read args = .ok (.validate file flag))
    (hload : Loader.documents host.files file = .ok documents) :
    let objects := documents.filter ApiGroup.isObject
    let outcome := run host settings args
    (outcome.stopped = none ↔ ∀ d ∈ objects, Survives d) ∧
    ∀ before d after, objects = before ++ d :: after → (∀ b ∈ before, Survives b) →
      (∀ e, Stops d e → outcome.stopped = some (.kind e)) ∧
      (Survives d → ∀ issue ∈ ObjectSchema.check (.map d),
        outcome.Prints host.console ("    x " ++ issue.message)) := by
  intro objects outcome
  obtain ⟨hstopped, hprints⟩ := run_report settings hread hload
  refine ⟨?_, fun before d after hobjects hbefore => ⟨fun e he => ?_, fun hd issue hissue => ?_⟩⟩
  · rw [hstopped, Option.map_eq_none_iff, stopped_fullReport_eq_none]
  · rw [hstopped, show documents.filter ApiGroup.isObject = _ from hobjects,
      stopped_fullReport_of_stops hbefore he, Option.map_some]
  · obtain ⟨line, hline, hmem⟩ := schemaLine_mem_documentReport hd hissue
    rw [← schemaLine, hline]
    refine hprints _ ?_
    rw [show documents.filter ApiGroup.isObject = _ from hobjects]
    exact mem_fullReport hbefore hmem

open Machine in
/-- A text in the place of the specification is reported. -/
theorem validate_reports_issues_spec :
    let host := hostOf (misshapenText "spec")
    let args := ["validate", "objects.yaml"]
    (read args = .ok (.validate "objects.yaml" false) ∧
      Loader.documents host.files "objects.yaml" = .ok [misshapenEntries "spec"]) ∧
    (run host {} args).stopped = none ∧
    (run host {} args).Prints host.console "    x spec: expected type 'object', got str" := by
  intro host args
  have hfile : "objects.yaml".startsWith "-" = false := by cbv
  have hread : read args = .ok (.validate "objects.yaml" false) := read_validate hfile false
  have hload : Loader.documents host.files "objects.yaml" = .ok [misshapenEntries "spec"] :=
    documents_misshapen (.inr rfl)
  have hissues : ObjectSchema.check (.map (misshapenEntries "spec")) =
      [⟨"spec", .wrongType "object" "str"⟩] := rfl
  have hline : schemaLine ⟨"spec", .wrongType "object" "str"⟩ =
      .string "    x spec: expected type 'object', got str" := by
    decide +kernel
  have hencodable : SchemaIssue.message ⟨"spec", .wrongType "object" "str"⟩ =
      .string "spec: expected type 'object', got str" := by
    decide +kernel
  have hsurvives : Survives (misshapenEntries "spec") := by
    intro e he
    cases he with
    | metadata hset => cases hset
    | longName hname => cases hname
    | deepName hname => cases hname
    | name hname => cases hname
    | finding _ _ h =>
      cases h with
      | schemaIssue hissue hno =>
        rw [hissues, List.mem_singleton] at hissue
        rw [hissue, hencodable] at hno
        exact hno (Text.encodable_string _)
      | longPath hschema => cases hschema
      | semanticIssue hschema => cases hschema
  obtain ⟨hstopped, hprints⟩ := validate_reports_issues {} hread hload
  simp only [isObject_misshapenEntries, List.forall_mem_singleton] at hstopped hprints
  refine ⟨⟨hread, hload⟩, hstopped.2 hsurvives, ?_⟩
  obtain ⟨-, hprints⟩ := hprints [] _ [] rfl (List.forall_mem_nil _)
  rw [← hline]
  refine hprints hsurvives _ ?_
  rw [hissues]
  exact List.mem_singleton_self _

open Machine in
/-- A text in the place of the metadata stops the command, and nothing is said of the document. -/
theorem validate_stops_at_text_metadata :
    let host := hostOf (misshapenText "metadata")
    let args := ["validate", "objects.yaml"]
    let outcome := run host {} args
    (read args = .ok (.validate "objects.yaml" false) ∧
      Loader.documents host.files "objects.yaml" = .ok [misshapenEntries "metadata"]) ∧
    (ApiGroup.isObject (misshapenEntries "metadata") = true ∧
      ∃ issue ∈ ObjectSchema.check (.map (misshapenEntries "metadata")),
        issue.message = "metadata: expected type 'object', got str") ∧
    outcome.stopped = some (.kind .notAnObject) ∧
    outcome.output = host.console.shown "\nkubeobject — Validating: objects.yaml\n" := by
  intro host args outcome
  have hfile : "objects.yaml".startsWith "-" = false := by cbv
  have hread : read args = .ok (.validate "objects.yaml" false) := read_validate hfile false
  have hload : Loader.documents host.files "objects.yaml" = .ok [misshapenEntries "metadata"] :=
    documents_misshapen (.inl rfl)
  have hissues : ObjectSchema.check (.map (misshapenEntries "metadata")) =
      [⟨"", .missing (.str "spec")⟩, ⟨"metadata", .wrongType "object" "str"⟩] := rfl
  have hheading : "\n" ++ programName ++ " — Validating: " ++ "objects.yaml" ++ "\n" =
      "\nkubeobject — Validating: objects.yaml\n" := by
    decide +kernel
  refine ⟨⟨hread, hload⟩, ⟨by cbv, ⟨"metadata", .wrongType "object" "str"⟩, ?_, ?_⟩, ?_, ?_⟩
  · rw [hissues]
    exact List.mem_cons_of_mem _ (List.mem_singleton_self _)
  · decide +kernel
  · simp only [outcome, run, hread, execute, validate, hload, validateDocuments,
      isObject_misshapenEntries]
    rfl
  · simp only [outcome, run, hread, execute, validate, hload, validateDocuments,
      isObject_misshapenEntries, hheading]
    rfl

end Cli
end Patchwork
