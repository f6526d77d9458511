import Mathlib
import Patchwork.Proofs.Outcome
import Patchwork.Proofs.Yaml.Implicit
import Patchwork.Yaml

/-!
# Graphs and their values

A text is first composed into the graphs of its documents, where the rules for plain scalars play
no part; each graph then has a value under the rules.

* `compose`, `read_eq_values` — the graphs of a text, up to the fault that ends it if there is one;
  reading is composing and evaluating.
* `Node.quoted`, `Composition.quoted` — what has the form of a timestamp, with quotes around it.
* `read_manifest` — a text is read under the rules for manifests as it is read under those of the
  format with its timestamps in quotes.
-/

set_option autoImplicit false

namespace Patchwork
namespace Yaml

/-! ## Composing -/

/-- The graphs of a text, and the fault behind the last one, if there is one. -/
structure Composition where
  graphs : List Graph
  fault : Option ReadError

namespace Composition

/-- The values of the graphs, if all have one and no fault comes behind them. -/
def values (rules : List ImplicitRule) (s : Composition) : Except ReadError (List Value) := do
  let values ← s.graphs.mapM (·.value rules)
  match s.fault with
  | none => return values
  | some e => throw e

def nodes (s : Composition) : List Node := s.graphs.flatMap (·.nodes.toList)

end Composition

/-- The graphs in tokens; `fuel` bounds their number. -/
def composeDocuments : (fuel : Nat) → (first : Bool) → List Token → Composition
  | 0, _, _ => ⟨[], some .invalid⟩
  | fuel + 1, first, tokens =>
    match readDocument first tokens with
    | .error e => ⟨[], some e⟩
    | .ok (none, _) => ⟨[], none⟩
    | .ok (some graph, rest) =>
      let others := composeDocuments fuel false rest
      ⟨graph :: others.graphs, others.fault⟩

/-- The graphs of a text. -/
def compose (text : String) : Composition :=
  let tokens := tokens (normalizeBreaks text.toList)
  composeDocuments (tokens.length + 1) true tokens

theorem readDocuments_eq_values (rules : List ImplicitRule) (fuel : Nat) (first : Bool)
    (tokens : List Token) :
    readDocuments rules fuel first tokens = (composeDocuments fuel first tokens).values rules := by
  induction fuel generalizing first tokens with
  | zero => rfl
  | succ fuel ih =>
    rw [readDocuments, composeDocuments]
    cases hdocument : readDocument first tokens with
    | error e => rfl
    | ok document =>
      obtain ⟨graph?, rest⟩ := document
      cases graph? with
      | none => rfl
      | some graph =>
        simp only [ok_bind, ih, Composition.values, List.mapM_cons, bind_assoc, pure_bind]
        refine bind_congr fun v => bind_congr fun values => ?_
        cases (composeDocuments fuel false rest).fault <;> rfl

/-- A text is read by composing it and evaluating its graphs. -/
theorem read_eq_values (rules : List ImplicitRule) (text : String) :
    read rules text = (compose text).values rules :=
  readDocuments_eq_values rules _ true _

theorem compose_of_readDocument {text : String} {ts : List Token} {g : Graph}
    (htokens : tokens (normalizeBreaks text.toList) = ts) (hne : ts ≠ [])
    (hdocument : readDocument true ts = .ok (some g, [.streamEnd])) :
    compose text = ⟨[g], none⟩ := by
  have hend : readDocument false [.streamEnd] = .ok (none, [.streamEnd]) := by cbv
  obtain ⟨t, rest, rfl⟩ := List.exists_cons_of_ne_nil hne
  simp only [compose, htokens, List.length_cons, composeDocuments, hdocument, hend]

/-! ## Quotes around timestamps -/

/-- The node with quotes around it if it has the form of a timestamp. -/
def Node.quoted (node : Node) : Node :=
  match node.mark, node.content with
  | .plain, .scalar text => if IsTimestamp text then ⟨.untagged, .scalar text⟩ else node
  | _, _ => node

def Graph.quoted (g : Graph) : Graph := { g with nodes := g.nodes.map Node.quoted }

/-- The graphs with quotes around their timestamps. -/
def Composition.quoted (s : Composition) : Composition :=
  { s with graphs := s.graphs.map Graph.quoted }

@[simp] theorem Node.content_quoted (node : Node) : node.quoted.content = node.content := by
  unfold Node.quoted
  split
  · split <;> simp [*]
  · rfl

theorem Node.quoted_of_isTimestamp {text : Text} (h : IsTimestamp text) :
    Node.quoted ⟨.plain, .scalar text⟩ = ⟨.untagged, .scalar text⟩ := if_pos h

theorem Node.quoted_eq_self {node : Node}
    (h : ∀ text, node = ⟨.plain, .scalar text⟩ → ¬IsTimestamp text) : node.quoted = node := by
  unfold Node.quoted
  split
  · rename_i text hmark hcontent
    rw [if_neg (h text (by rw [← hmark, ← hcontent]))]
  · rfl

/-- Quotes do under the rules of the format what the rules for manifests do without. -/
theorem Node.tag_quoted (node : Node) :
    node.quoted.tag ImplicitRule.standard = node.tag ImplicitRule.manifest := by
  obtain ⟨mark, content⟩ := node
  cases mark with
  | tagged address => cases content <;> rfl
  | untagged => cases content <;> rfl
  | plain =>
    cases content with
    | sequence items => rfl
    | mapping entries => rfl
    | scalar text =>
      by_cases h : IsTimestamp text
      · rw [Node.quoted_of_isTimestamp h]
        exact (ImplicitRule.apply_manifest_of_isTimestamp h).symm
      · rw [Node.quoted_eq_self (by rintro _ ⟨⟩; exact h)]
        exact (ImplicitRule.apply_manifest_of_not_isTimestamp h).symm

theorem Graph.value_quoted (g : Graph) :
    g.quoted.value ImplicitRule.standard = g.value ImplicitRule.manifest := by
  have hstart : Assembly.ofGraph ImplicitRule.standard g.quoted =
      Assembly.ofGraph ImplicitRule.manifest g := by
    simp only [Assembly.ofGraph, Graph.quoted, Array.map_map, Function.comp_def, Node.tag_quoted,
      Node.content_quoted]
  rw [Graph.value, Graph.value, hstart]
  rfl

theorem Composition.values_quoted (s : Composition) :
    s.quoted.values ImplicitRule.standard = s.values ImplicitRule.manifest := by
  simp only [Composition.values, Composition.quoted, List.mapM_map, Function.comp_def,
    Graph.value_quoted]

/-- A text is read for manifests as by the format with quotes around its timestamps. -/
theorem read_manifest (text : String) :
    read ImplicitRule.manifest text = (compose text).quoted.values ImplicitRule.standard := by
  rw [read_eq_values, Composition.values_quoted]

theorem Composition.quoted_eq_self {s : Composition}
    (h : ∀ text, ⟨.plain, .scalar text⟩ ∈ s.nodes → ¬IsTimestamp text) : s.quoted = s := by
  have hgraph : ∀ g ∈ s.graphs, g.quoted = g := by
    intro g hg
    have hnode : ∀ node ∈ g.nodes, node.quoted = node := fun node hnode =>
      Node.quoted_eq_self fun text heq => h text
        (List.mem_flatMap.2 ⟨g, hg, heq ▸ Array.mem_toList_iff.2 hnode⟩)
    rw [Graph.quoted, Array.map_congr_left hnode, Array.map_id']
  rw [Composition.quoted, List.map_congr_left hgraph, List.map_id']

end Yaml
end Patchwork
