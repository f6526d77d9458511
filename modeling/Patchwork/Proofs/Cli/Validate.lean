import Patchwork.Proofs.Cli.Patch
import Patchwork.Proofs.Resolver
import Patchwork.Proofs.Semantics.Checked
import Patchwork.Proofs.Yaml.NamedObject

/-!
# The command that validates a file

What a report says of one document is not taken back by what follows, so the report on many
documents is clean exactly if the one on each of them is.

* `Report.Clean` — nothing was found at fault, and nothing stopped the report.
* `Passes` — a document fits the schema and the rules on references.
* `Printable` — what is said of a document that passes can be printed.
* `clean_documentReport` — the report on an Object is clean if the Object passes and is printable.
* `validate_exit` — when the command ends with exit code zero.
-/

set_option autoImplicit false

namespace Patchwork

/-- The text has an encoding: it is a string, without surrogates. -/
def Text.Encodable (t : Text) : Prop := ∃ s : String, t = s

theorem Text.encodable_iff {t : Text} :
    t.Encodable ↔ ∀ p ∈ t.toList, ∃ c : Char, p = c := by
  constructor
  · rintro ⟨s, rfl⟩ p hp
    obtain ⟨c, -, rfl⟩ := List.mem_map.1 hp
    exact ⟨c, rfl⟩
  · intro h
    obtain ⟨chars, hchars⟩ : ∃ chars, t.toList.mapM CodePoint.char? = some chars := by
      generalize t.toList = points at h
      induction points with
      | nil => exact ⟨[], rfl⟩
      | cons p rest ih =>
        obtain ⟨⟨c, rfl⟩, hrest⟩ := List.forall_mem_cons.1 h
        obtain ⟨tail, htail⟩ := ih hrest
        exact ⟨c :: tail, by simp [htail]⟩
    refine ⟨String.ofList chars, ?_⟩
    rw [← Text.toList_inj, Text.toList_string, String.toList_ofList,
      CodePoint.map_char_of_mapM hchars]

instance (t : Text) : Decidable t.Encodable :=
  match t with
  | .string s => .isTrue ⟨s, rfl⟩
  | .illFormed _ _ => .isFalse fun ⟨_, h⟩ => Text.noConfusion h

theorem Text.encodable_string (s : String) : (Text.string s).Encodable := ⟨s, rfl⟩

theorem Text.toString?_eq_none {t : Text} : t.toString? = none ↔ ¬ t.Encodable := by
  cases t with
  | string s => simp [toString?, encodable_string]
  | illFormed points h => exact iff_of_true rfl fun ⟨_, hs⟩ => Text.noConfusion hs

theorem Text.encodable_append {s t : Text} : (s ++ t).Encodable ↔ s.Encodable ∧ t.Encodable := by
  simp only [Text.encodable_iff, Text.toList_append, List.forall_mem_append]

def SemanticIssue.Encodable (i : SemanticIssue) : Prop := i.location.Encodable ∧ i.message.Encodable

theorem Value.encodable_abridged {v : Value} :
    v.abridged.Encodable ↔ ∀ t, v = .str t → t.Encodable := by
  cases v with
  | str t => simp [abridged, display]
  | _ => exact ⟨fun _ _ => nofun, fun _ => ⟨_, rfl⟩⟩

namespace Cli

open Value

/-- No fault was found, and the report goes to its end. -/
structure Report.Clean (r : Report) : Prop where
  stopped : r.stopped = none
  fault : r.fault = false

/-- The document fits the schema and the rules on references; if `strict`, warnings count as
errors. -/
structure Passes (strict : Prop) (entries : List (Value × Value)) : Prop where
  schema : ObjectSchema.check (.map entries) = []
  references : ∃ report, Semantics.check (.map entries) = .ok report ∧ report.passed = true ∧
    (strict → report.warnings = [])

/-- The name in the metadata of a document, if there is one, can be printed: it holds no integer
with more digits than are written, is not nested too deep to be followed, and is no text with a
surrogate. -/
def NamePrintable (entries : List (Value × Value)) : Prop :=
  ∀ name, reach? [.field "metadata", .field "name"] (.map entries) = some name →
    name.holds isLongInteger = false ∧ name.holds isTooDeep = false ∧
      ∀ t, name = .str t → t.Encodable

/-- What is said of a document that passes can be printed: its name and the warnings. -/
structure Printable (entries : List (Value × Value)) : Prop where
  name : NamePrintable entries
  warnings : ∀ report, Semantics.check (.map entries) = .ok report →
    ∀ i ∈ report.warnings, i.Encodable

/-- The environment asks for warnings to count as errors. -/
def AsksStrict (valueOf : String → Option String) : Prop :=
  ∃ value, valueOf Settings.strictVariable = some value ∧ value.toLower ∈ ["1", "true", "yes"]

variable {strict : Bool} {entries : List (Value × Value)}
  {documents : List (List (Value × Value))} {host : Host} {file : String} {r s : Report}

theorem ofEnvironment_strict {valueOf : String → Option String} :
    (Settings.ofEnvironment valueOf).strict = true ↔ AsksStrict valueOf := by
  have hempty : "".toLower = "" := by cbv
  simp only [Settings.ofEnvironment, Settings.onWords, List.contains_iff_mem, AsksStrict]
  cases valueOf Settings.strictVariable with
  | none => simp [hempty]
  | some value => simp

/-! ## Reports -/

theorem clean_iff : r.Clean ↔ r.stopped = none ∧ r.fault = false :=
  ⟨fun h => ⟨h.stopped, h.fault⟩, fun h => ⟨h.1, h.2⟩⟩

theorem stopped_andThen : (r.andThen s).stopped = r.stopped.or s.stopped := by
  rw [Report.andThen]
  cases hstopped : r.stopped with
  | some e => simp [hstopped]
  | none => rfl

theorem clean_andThen : (r.andThen s).Clean ↔ r.Clean ∧ s.Clean := by
  simp only [clean_iff, Report.andThen]
  cases hstopped : r.stopped with
  | some e => simp [hstopped]
  | none =>
    simp only [Bool.or_eq_false_iff, true_and]
    tauto

theorem clean_foldl {objects : List (List (Value × Value))} {start : Report} :
    (objects.foldl (fun r entries => r.andThen (documentReport strict entries)) start).Clean ↔
      start.Clean ∧ ∀ entries ∈ objects, (documentReport strict entries).Clean := by
  induction objects generalizing start with
  | nil => simp
  | cons entries rest ih => rw [List.foldl_cons, ih, clean_andThen, List.forall_mem_cons, and_assoc]

/-- A line is printed if it has an encoding, and else it stops the report. -/
theorem stopped_line {t : Text} :
    (Report.line t).stopped = if t.Encodable then none else some .notEncodable := by
  rw [Report.line]
  split
  · rename_i s hs
    have ht : t.Encodable := Decidable.byContradiction fun hno => by
      rw [Text.toString?_eq_none.2 hno] at hs
      cases hs
    rw [if_pos ht]
  · rename_i hs
    rw [if_neg (Text.toString?_eq_none.1 hs)]

theorem stopped_ofLines {lines : List Text} :
    (Report.ofLines lines).stopped =
      if ∀ t ∈ lines, t.Encodable then none else some .notEncodable := by
  induction lines with
  | nil => simp [Report.ofLines]
  | cons t rest ih =>
    rw [Report.ofLines, stopped_andThen, stopped_line, ih]
    by_cases ht : t.Encodable <;> simp [ht]

theorem fault_ofLines {lines : List Text} : (Report.ofLines lines).fault = false := by
  have hline : ∀ t, (Report.line t).fault = false := by
    intro t
    rw [Report.line]
    split <;> rfl
  induction lines with
  | nil => rfl
  | cons t rest ih =>
    rw [Report.ofLines, Report.andThen]
    split
    · exact hline t
    · simp [hline, ih]

theorem clean_ofLines {lines : List Text} :
    (Report.ofLines lines).Clean ↔ ∀ t ∈ lines, t.Encodable := by
  simp [clean_iff, stopped_ofLines, fault_ofLines]

theorem encodable_issueLine {mark : String} {i : SemanticIssue} :
    (issueLine mark i).Encodable ↔ i.Encodable := by
  simp [issueLine, SemanticIssue.Encodable, Text.encodable_append, Text.encodable_string]

/-- The first of the three things that can be wrong with a name stops its line. -/
theorem stopped_nameReport {name : Value} :
    (nameReport name).stopped =
      if name.holds isLongInteger then some (.limit .digits)
      else if name.holds isTooDeep then some (.limit .nesting)
      else if name.abridged.Encodable then none else some .notEncodable := by
  rw [← stopped_line, nameReport, Report.line]
  cases name.abridged.toString? <;> split <;> first | rfl | (split <;> rfl)

theorem fault_nameReport {name : Value} : (nameReport name).fault = false := by
  rw [nameReport]
  cases name.abridged.toString? <;> split <;> first | rfl | (split <;> rfl)

theorem clean_nameReport {name : Value} :
    (nameReport name).Clean ↔ name.holds isLongInteger = false ∧ name.holds isTooDeep = false ∧
      ∀ t, name = .str t → t.Encodable := by
  rw [clean_iff, stopped_nameReport, and_iff_left fault_nameReport, ← Value.encodable_abridged]
  cases name.holds isLongInteger <;> cases name.holds isTooDeep <;> simp

theorem clean_semanticReport {report : SemanticReport} :
    (semanticReport strict report).Clean ↔
      (report.passed = true ∧ (strict = true → report.warnings = [])) ∧
        ∀ i ∈ report.warnings, i.Encodable := by
  have hend : ∀ fault : Bool, (({
      lines := if fault then [] else ["  v Semantic validation passed"], fault } : Report)).Clean ↔
        fault = false := fun fault => ⟨Report.Clean.fault, fun h => ⟨rfl, h⟩⟩
  have hfault : (!report.passed || (strict && !report.warnings.isEmpty)) = false ↔
      report.passed = true ∧ (strict = true → report.warnings = []) := by
    cases report.passed <;> cases strict <;> simp
  rw [semanticReport, clean_andThen, hend, clean_ofLines, and_comm, hfault]
  refine and_congr_right fun hpasses => ?_
  have hnone : report.errors = [] := List.isEmpty_iff.1 hpasses.1
  simp [hnone, encodable_issueLine]

/-- What is said of the references of a document is clean if they can be checked and pass, and the
warnings can be printed. -/
theorem clean_references :
    (match Semantics.check (.map entries) with
      | .error e => ({ stopped := some e } : Report)
      | .ok report => semanticReport strict report).Clean ↔
    (∃ report, Semantics.check (.map entries) = .ok report ∧ report.passed = true ∧
      (strict = true → report.warnings = [])) ∧
      ∀ report, Semantics.check (.map entries) = .ok report →
        ∀ i ∈ report.warnings, i.Encodable := by
  cases Semantics.check (.map entries) with
  | error e => simp [clean_iff]
  | ok report => simp [clean_semanticReport]

/-! ## One document -/

theorem reach?_name {metadata : List (Value × Value)}
    (h : (field entries "metadata").entriesIfSet = .ok metadata) :
    reach? [.field "metadata", .field "name"] (.map entries) = lookup "name" metadata := by
  rw [reach?_field_cons, ← child?_of_entriesIfSet h]
  simp [reach?]

theorem clean_nameReport_field {metadata : List (Value × Value)}
    (h : (field entries "metadata").entriesIfSet = .ok metadata) :
    (nameReport (fieldOr metadata "name" (.str "(unnamed)"))).Clean ↔ NamePrintable entries := by
  rw [NamePrintable, reach?_name h, clean_nameReport, fieldOr]
  cases lookup "name" metadata with
  | none => simp [holds, isLongInteger, isTooDeep, Text.encodable_string]
  | some name => simp

/-- **The report on an Object is clean** if the Object passes and is printable. -/
theorem clean_documentReport :
    (documentReport strict entries).Clean ↔
      Passes (strict = true) entries ∧ Printable entries := by
  cases hschema : ObjectSchema.check (.map entries) with
  | nil =>
    obtain ⟨root, items, hroot, hchecked⟩ := Semantics.exists_checked hschema
    cases hroot
    obtain ⟨metadata, hmetadata⟩ := hchecked.metadata
    rw [documentReport, hmetadata.entriesIfSet]
    simp only [hschema]
    rw [clean_andThen, clean_andThen, clean_nameReport_field hmetadata.entriesIfSet]
    constructor
    · rintro ⟨⟨hname, -⟩, hreferences⟩
      obtain ⟨hpasses, hwarnings⟩ := clean_references.1 hreferences
      exact ⟨⟨hschema, hpasses⟩, hname, hwarnings⟩
    · rintro ⟨hpasses, hname, hwarnings⟩
      exact ⟨⟨hname, rfl, rfl⟩, clean_references.2 ⟨hpasses.references, hwarnings⟩⟩
  | cons issue rest =>
    have hfails : ¬ Passes (strict = true) entries := fun h => by
      have hnil := h.schema
      rw [hschema] at hnil
      cases hnil
    simp only [hfails, false_and, iff_false, documentReport, hschema]
    cases (field entries "metadata").entriesIfSet with
    | error e => simp [clean_iff]
    | ok metadata =>
      simp only [schemaReport, clean_andThen, not_and]
      exact fun _ _ h => Bool.noConfusion h.fault

/-! ## All documents of a file -/

/-- The command ends with exit code zero if there is an Object and the report on every Object is
clean, and with exit code one otherwise. -/
theorem validateDocuments_exit (console : Console) (strict : Bool)
    (documents : List (List (Value × Value))) :
    let objects := documents.filter ApiGroup.isObject
    let exit := (validateDocuments console strict documents).exit
    (exit = 0 ↔ objects ≠ [] ∧ ∀ entries ∈ objects, (documentReport strict entries).Clean) ∧
      (exit = 0 ∨ exit = 1) := by
  intro objects exit
  simp only [exit, validateDocuments]
  cases hobjects : documents.filter ApiGroup.isObject with
  | nil => simp [objects, hobjects]
  | cons first rest =>
    have hclean : (fullReport strict (first :: rest)).Clean ↔
        ∀ entries ∈ first :: rest, (documentReport strict entries).Clean := by
      rw [fullReport, clean_foldl]
      exact and_iff_right ⟨rfl, rfl⟩
    simp only [objects, hobjects]
    rw [← hclean, clean_iff]
    cases (fullReport strict (first :: rest)).stopped with
    | some e => simp
    | none => cases (fullReport strict (first :: rest)).fault <;> simp

/-! ## The command line -/

/-- The flag stands behind the file if it is given. -/
theorem read_validate (hfile : file.startsWith "-" = false) (flag : Bool) :
    read ("validate" :: file :: (if flag then ["--strict"] else [])) =
      .ok (.validate file flag) := by
  have hname : "validate".startsWith "-" = false := by cbv
  have hflag : Arguments.readFrom validateOptions true none (if flag then ["--strict"] else []) =
      .ok { options := if flag then [("strict", none)] else [] } := by
    cases flag <;> cbv
  have hlocal : Arguments.read validateOptions true
      (file :: (if flag then ["--strict"] else [])) = .ok {
        options := if flag then [("strict", none)] else []
        positional := [file] } := by
    rw [Arguments.read, Arguments.readFrom, if_neg (ne_dashes hfile), hfile, hflag]
    rfl
  rw [read_cons hname]
  simp only [readCommand, hlocal, ok_bind]
  cases flag <;> rfl

theorem run_exit [Machine] {flag : Bool} {args : List String} {settings : Settings}
    (hread : read args = .ok (.validate file flag))
    (hload : Loader.documents host.files file = .ok documents) :
    (run host settings args).exit =
      (validateDocuments host.console (flag || settings.strict) documents).exit := by
  simp only [run, hread, execute, validate, hload]

/-! ## An Object with a number for a name -/

theorem isObject_named (n : Int) : ApiGroup.isObject (Yaml.namedEntries n) = true := by cbv

theorem passes_named (strict : Prop) (n : Int) : Passes strict (Yaml.namedEntries n) :=
  ⟨rfl, ⟨[]⟩, rfl, rfl, fun _ => rfl⟩

theorem printable_named {n : Int} :
    Printable (Yaml.namedEntries n) ↔ (Value.int n).isLongInteger = false := by
  have hreach : reach? [.field "metadata", .field "name"] (.map (Yaml.namedEntries n)) =
      some (.int n) := rfl
  have hcheck : Semantics.check (.map (Yaml.namedEntries n)) = .ok ⟨[]⟩ := rfl
  constructor
  · intro h
    exact (h.name _ hreach).1
  · intro h
    refine ⟨fun name hname => ?_, fun report hreport => ?_⟩
    · rw [hreach, Option.some.injEq] at hname
      subst hname
      exact ⟨h, rfl, nofun⟩
    · rw [hcheck, Except.ok.injEq] at hreport
      subst hreport
      exact nofun

/-! ## The exit code -/

/-- **Validation ends with exit code zero** exactly if the file has an Object document and every
Object document passes, warnings counting as errors if the flag or the environment asks for it, and
is printable.  Neither other documents nor the order matter. -/
theorem validate_exit [Machine] {flag : Bool} {valueOf : String → Option String}
    {args : List String} (hread : read args = .ok (.validate file flag))
    (hload : Loader.documents host.files file = .ok documents) :
    let strict : Prop := flag = true ∨ AsksStrict valueOf
    let outcome := run host (.ofEnvironment valueOf) args
    (outcome.exit = 0 ↔ (∃ d ∈ documents, ApiGroup.isObject d = true) ∧
      ∀ d ∈ documents, ApiGroup.isObject d = true → Passes strict d ∧ Printable d) ∧
    ∀ (other : Host) others, Loader.documents other.files file = .ok others →
      (others.filter ApiGroup.isObject).Perm (documents.filter ApiGroup.isObject) →
        (run other (.ofEnvironment valueOf) args).exit = outcome.exit := by
  intro strict outcome
  have hstrict : (flag || (Settings.ofEnvironment valueOf).strict) = true ↔ strict := by
    rw [Bool.or_eq_true, ofEnvironment_strict]
  simp only [outcome, run_exit hread hload]
  generalize hasked : (flag || (Settings.ofEnvironment valueOf).strict) = asked at hstrict
  refine ⟨?_, fun other others hothers hperm => ?_⟩
  · obtain ⟨hzero, -⟩ := validateDocuments_exit host.console asked documents
    have hobject : documents.filter ApiGroup.isObject ≠ [] ↔
        ∃ d ∈ documents, ApiGroup.isObject d = true := by
      simp [List.filter_eq_nil_iff]
    simp only [hzero, hobject, clean_documentReport, hstrict, List.mem_filter, and_imp]
  · obtain ⟨hzero, hone⟩ := validateDocuments_exit host.console asked documents
    obtain ⟨hzero', hone'⟩ := validateDocuments_exit other.console asked others
    have hsame : (validateDocuments other.console asked others).exit = 0 ↔
        (validateDocuments host.console asked documents).exit = 0 := by
      rw [hzero, hzero', ne_eq, ne_eq, ← List.length_eq_zero_iff, ← List.length_eq_zero_iff,
        hperm.length_eq]
      simp only [hperm.mem_iff]
    rw [run_exit hread hothers, hasked]
    omega

open Machine in
/-- An Object with a short number for its name and nothing to warn of is valid. -/
theorem validate_exit_short_name :
    let host := hostOf (Yaml.namedText ['1', '6'])
    let args := ["validate", "objects.yaml", "--strict"]
    (read args = .ok (.validate "objects.yaml" true) ∧
      Loader.documents host.files "objects.yaml" = .ok [Yaml.namedEntries 16]) ∧
    (run host (.ofEnvironment fun _ => none) args).exit = 0 := by
  intro host args
  have hfile : "objects.yaml".startsWith "-" = false := by cbv
  have hread : read args = .ok (.validate "objects.yaml" true) := read_validate hfile true
  have hword : Yaml.IsWord ['1', '6'] := ⟨List.all_eq_true.1 rfl, rfl⟩
  have hload : Loader.documents host.files "objects.yaml" = .ok [Yaml.namedEntries 16] :=
    documents_viewOf (Yaml.read_namedText hword rfl (by decide) (by decide) rfl)
  refine ⟨⟨hread, hload⟩, (validate_exit hread hload).1.2 ⟨⟨_, List.mem_singleton_self _,
    isObject_named 16⟩, fun d hd _ => ?_⟩⟩
  obtain rfl := List.mem_singleton.1 hd
  exact ⟨passes_named _ 16, printable_named.2 rfl⟩

open Machine in
/-- A name that is an integer with thousands of digits stops the command, although its Object
passes. -/
theorem validate_stops_at_long_name :
    let host := hostOf (Yaml.namedText longWord)
    let args := ["validate", "objects.yaml"]
    let entries := Yaml.namedEntries (16 ^ 3600)
    (read args = .ok (.validate "objects.yaml" false) ∧
      Loader.documents host.files "objects.yaml" = .ok [entries]) ∧
    (ApiGroup.isObject entries = true ∧ ∀ strict, Passes strict entries) ∧
    (run host (.ofEnvironment fun _ => none) args).exit ≠ 0 := by
  intro host args entries
  have hfile : "objects.yaml".startsWith "-" = false := by cbv
  have hread : read args = .ok (.validate "objects.yaml" false) := read_validate hfile false
  have hload : Loader.documents host.files "objects.yaml" = .ok [entries] :=
    documents_viewOf (Yaml.read_namedText isWord_longWord rfl isFloat_longWord isInteger_longWord
      integerOf_longWord)
  have hobject : ApiGroup.isObject entries = true := isObject_named _
  have hlong : (Value.int (16 ^ 3600)).isLongInteger = true :=
    isLongInteger_int.2 (by decide +kernel)
  refine ⟨⟨hread, hload⟩, ⟨hobject, fun strict => passes_named strict _⟩, fun hzero => ?_⟩
  rw [run_exit hread hload, (validateDocuments_exit _ _ _).1] at hzero
  have hclean := hzero.2 entries (List.mem_filter.2 ⟨List.mem_singleton_self _, hobject⟩)
  have hname := printable_named.1 (clean_documentReport.1 hclean).2
  rw [hlong] at hname
  cases hname

end Cli
end Patchwork
