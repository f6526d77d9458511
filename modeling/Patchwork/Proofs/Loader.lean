import Patchwork.Proofs.Cli.Patch
import Patchwork.Proofs.Yaml.Dateless

/-!
# Timestamps in manifests

The loader reads YAML as the format has it but for one rule: a plain scalar is never a timestamp.

* `documentsWith_congr` — the loader asks its reader for nothing but the text of the file.
* `exists_of_mem_documents` — a document is one of the values that its reader gives.
* `documents_keep_timestamps` — a file is loaded as the format reads it with its plain timestamps in
  quotes, so nothing else in it changes; where no scalar is declared to be one, there is no day or
  moment in any document.
-/

set_option autoImplicit false

namespace Patchwork
namespace Loader

open Yaml (compose IsTimestamp tagOf scalarValue ImplicitRule)

/-! ## Other readers -/

variable {view : FileView} {path : String} {docs : List (List (Value × Value))}

/-- Readers that agree on the text of a file load the same documents. -/
theorem documentsWith_congr {read read' : Reader}
    (h : ∀ text, view.read path = .ok text → read text = read' text) :
    documentsWith read view path = documentsWith read' view path := by
  unfold documentsWith
  cases hread : view.read path with
  | error fault => rfl
  | ok text => simp only [h text hread]

/-! ## Values of documents -/

theorem mem_of_mappings {file : String} {number : Nat} {values : List Value}
    {entries : List (Value × Value)} (h : mappings file number values = .ok docs)
    (hentries : entries ∈ docs) : .map entries ∈ values := by
  fun_induction mappings file number values generalizing docs with
  | case1 =>
    cases h
    cases hentries
  | case2 number first rest ih =>
    obtain ⟨others, hothers, rfl⟩ := map_eq_ok.1 h
    obtain rfl | hentries := List.mem_cons.1 hentries
    · exact List.mem_cons_self
    · exact List.mem_cons_of_mem _ (ih hothers hentries)
  | case3 => cases h

/-- A document of a file is one of the values of its text. -/
theorem exists_of_mem_documents {text : String} {entries : List (Value × Value)}
    (hread : view.read path = .ok text) (h : documents view path = .ok docs)
    (hentries : entries ∈ docs) :
    ∃ values, Yaml.read ImplicitRule.manifest text = .ok values ∧ .map entries ∈ values := by
  rw [documents, documentsWith, hread] at h
  split at h
  · cases h
  · dsimp only at h
    unfold parsed at h
    split at h
    · cases h
    · cases h
    · cases h
    · rename_i values hvalues
      refine ⟨values, hvalues, ?_⟩
      exact List.mem_of_mem_filter (mem_of_mappings (mapError_eq_ok.1 h) hentries)

/-! ## Timestamps -/

/-- A plain scalar has the tag of the first rule that fits among those that are listed under its
first character, with the rule for timestamps left out.  So what has their form stays a text, and
all else means what it means with that rule.  A file is loaded as the format reads it with its plain
timestamps in quotes, which is how the format reads it if there are none.  Where no scalar is
declared to be a timestamp, no document holds a day or a moment. -/
theorem documents_keep_timestamps (view : FileView) (path : String) :
    (∀ text : Text, tagOf ImplicitRule.manifest text .plain =
        ImplicitRule.apply
          ((ImplicitRule.listed text.toList.head?).filter fun rule => rule.tag ≠ .timestamp) text ∧
      tagOf ImplicitRule.standard text .plain =
        ImplicitRule.apply (ImplicitRule.listed text.toList.head?) text ∧
      (IsTimestamp text →
        scalarValue (tagOf ImplicitRule.manifest text .plain) text = .ok (.str text)) ∧
      (¬IsTimestamp text →
        tagOf ImplicitRule.manifest text .plain = tagOf ImplicitRule.standard text .plain)) ∧
    documents view path =
      documentsWith (fun text => (compose text).quoted.values ImplicitRule.standard) view path ∧
    ∀ text, view.read path = .ok text →
      ((∀ word, ⟨.plain, .scalar word⟩ ∈ (compose text).nodes → ¬IsTimestamp word) →
        documents view path = documentsWith (Yaml.read ImplicitRule.standard) view path) ∧
      ((∀ node ∈ (compose text).nodes, ¬node.IsTaggedTimestamp) →
        ∀ docs, documents view path = .ok docs →
          ∀ entries ∈ docs, (Value.map entries).holds Value.isDate = false) := by
  have hquoted : documents view path =
      documentsWith (fun text => (compose text).quoted.values ImplicitRule.standard) view path := by
    exact documentsWith_congr fun text _ => Yaml.read_manifest text
  refine ⟨fun text => ⟨?_, ?_, ?_, ?_⟩, hquoted, fun text hread => ⟨fun hplain => ?_, ?_⟩⟩
  · exact (ImplicitRule.apply_listed_manifest text).symm
  · exact (ImplicitRule.apply_listed text).symm
  · intro htimestamp
    rw [tagOf, ImplicitRule.apply_manifest_of_isTimestamp htimestamp]
    rfl
  · exact ImplicitRule.apply_manifest_of_not_isTimestamp
  · rw [hquoted]
    refine documentsWith_congr fun text' hread' => ?_
    cases hread.symm.trans hread'
    rw [Yaml.Composition.quoted_eq_self hplain, Yaml.read_eq_values]
  · intro huntagged docs hdocs entries hentries
    obtain ⟨values, hvalues, hmem⟩ := exists_of_mem_documents hread hdocs hentries
    rw [Yaml.read_eq_values] at hvalues
    exact Yaml.Composition.values_dateless huntagged hvalues _ hmem

/-! ## A document with one entry -/

/-- The tokens of a document that has a word under a key. -/
def entryTokens (word : Text) : List Yaml.Token :=
  [.blockMappingStart, .key, .scalar "at" true, .value, .scalar word true, .blockEnd, .streamEnd]

def entryGraph (word : Text) : Yaml.Graph where
  nodes := #[⟨.untagged, .mapping [(1, 2)]⟩, ⟨.plain, .scalar "at"⟩, ⟨.plain, .scalar word⟩]
  root := 0

theorem compose_entry :
    compose "at: 2024-01-01\n" = ⟨[entryGraph "2024-01-01"], none⟩ ∧
      compose "at: 12:30:45\n" = ⟨[entryGraph "12:30:45"], none⟩ := by
  constructor
  · have htokens : Yaml.tokens (Yaml.normalizeBreaks "at: 2024-01-01\n".toList) =
        entryTokens "2024-01-01" := by
      cbv
    exact Yaml.compose_of_readDocument htokens (List.cons_ne_nil _ _) (by cbv)
  · have htokens : Yaml.tokens (Yaml.normalizeBreaks "at: 12:30:45\n".toList) =
        entryTokens "12:30:45" := by
      cbv
    exact Yaml.compose_of_readDocument htokens (List.cons_ne_nil _ _) (by cbv)

theorem mem_nodes_entry {word : Text} {node : Yaml.Node}
    (h : node ∈ (⟨[entryGraph word], none⟩ : Yaml.Composition).nodes) :
    node = ⟨.untagged, .mapping [(1, 2)]⟩ ∨ node = ⟨.plain, .scalar "at"⟩ ∨
      node = ⟨.plain, .scalar word⟩ := by
  simpa [Yaml.Composition.nodes, entryGraph] using h

theorem documents_day :
    documents (Cli.viewOf "at: 2024-01-01\n") "objects.yaml" =
      .ok [[(.str "at", .str "2024-01-01")]] := by
  refine Cli.documents_viewOf ?_
  have htags : (entryGraph "2024-01-01").nodes.map (·.tag ImplicitRule.manifest) =
      #[.map, .str, .str] := by
    decide +kernel
  rw [Yaml.read_eq_values, compose_entry.1, Yaml.Composition.values, List.mapM_cons,
    Yaml.Graph.value, Yaml.Assembly.ofGraph, htags]
  cbv

/-- A plain day stays a text in the document of a file, and a number in base sixty is what the
format reads. -/
theorem documents_keep_day :
    let dated := Cli.viewOf "at: 2024-01-01\n"
    let timed := Cli.viewOf "at: 12:30:45\n"
    IsTimestamp "2024-01-01" ∧
      scalarValue (tagOf ImplicitRule.manifest "2024-01-01" .plain) "2024-01-01" =
        .ok (.str "2024-01-01") ∧
      ¬IsTimestamp "12:30:45" ∧
      tagOf ImplicitRule.manifest "12:30:45" .plain =
        tagOf ImplicitRule.standard "12:30:45" .plain ∧
      documents dated "objects.yaml" = .ok [[(.str "at", .str "2024-01-01")]] ∧
      (Value.map [(.str "at", .str "2024-01-01")]).holds Value.isDate = false ∧
      documents timed "objects.yaml" =
        documentsWith (Yaml.read ImplicitRule.standard) timed "objects.yaml" := by
  intro dated timed
  have hday : IsTimestamp "2024-01-01" := by decide +kernel
  have htime : ¬IsTimestamp "12:30:45" := by decide +kernel
  obtain ⟨hscalars, -, hdated⟩ := documents_keep_timestamps dated "objects.yaml"
  obtain ⟨-, -, htimed⟩ := documents_keep_timestamps timed "objects.yaml"
  refine ⟨hday, (hscalars _).2.2.1 hday, htime, (hscalars _).2.2.2 htime, documents_day, ?_, ?_⟩
  · refine (hdated _ rfl).2 ?_ _ documents_day _ List.mem_cons_self
    rw [compose_entry.1]
    rintro node hnode ⟨address, text, rfl, -⟩
    obtain h | h | h := mem_nodes_entry hnode <;> cases h
  · refine (htimed _ rfl).1 ?_
    rw [compose_entry.2]
    intro word hword
    obtain h | h | h := mem_nodes_entry hword
    · cases h
    · cases h
      decide +kernel
    · cases h
      exact htime

end Loader
end Patchwork
