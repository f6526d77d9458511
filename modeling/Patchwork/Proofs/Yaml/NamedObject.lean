import Patchwork.Proofs.Yaml.PlainWord

/-!
# Reading an Object with a number for a name

The text of an Object without references, in which the name is a word, is read as the document that
it shows; what the word writes is the name, whatever its length.

* `namedAssembly` — the nodes of the document while they are made into parts, round by round.
* `read_namedText` — the integer in the place of the name is read as what it writes.
-/

set_option autoImplicit false

namespace Patchwork
namespace Yaml

variable {word : List Char}

/-! ## From the text to its nodes -/

/-- The text of an Object without references up to the colon behind which its name stands. -/
def namedStart : String :=
  "apiVersion: kubernetes.crossplane.io/v1alpha1\nkind: Object\nspec:\n  forProvider:\n"
    ++ "    manifest: \x7b\x7d\nmetadata:\n  name:"

/-- The text of an Object without references, with a word for its name. -/
def namedText (word : List Char) : String :=
  namedStart ++ String.ofList (' ' :: (word ++ ['\n']))

/-- The tokens before the name, the last one first. -/
def namedStartTokens : List Token :=
  [.value, .scalar "name" true, .key, .blockMappingStart, .value, .scalar "metadata" true, .key,
    .blockEnd, .blockEnd, .flowMappingEnd, .flowMappingStart, .value, .scalar "manifest" true, .key,
    .blockMappingStart, .value, .scalar "forProvider" true, .key, .blockMappingStart, .value,
    .scalar "spec" true, .key, .scalar "Object" true, .value, .scalar "kind" true, .key,
    .scalar "kubernetes.crossplane.io/v1alpha1" true, .value, .scalar "apiVersion" true, .key,
    .blockMappingStart]

set_option maxRecDepth 1000 in
theorem steps?_namedStart (rest : List Char) :
    Lexer.steps? 115 18 { cursor := ⟨namedStart.toList ++ ' ' :: rest, 0, 0, 0⟩ } =
      some ⟨⟨' ' :: rest, 114, 6, 7⟩, namedStartTokens, 31, 0, 2, [0, -1], false, []⟩ := by
  cbv

def namedTokens (word : String) : List Token :=
  namedStartTokens.reverse ++ [.scalar word true, .blockEnd, .blockEnd, .streamEnd]

set_option maxRecDepth 1000 in
theorem tokens_namedText (h : IsWord word) :
    tokens (normalizeBreaks (namedText word).toList) = namedTokens (String.ofList word) := by
  have hstart : namedStart.toList.all (fun c => isAllowed c && c ≠ '\r') = true := by decide
  have hlength : namedStart.toList.length = 114 := by decide
  rw [namedText, String.toList_append, String.toList_ofList]
  exact tokens_append_word h hstart hlength steps?_namedStart (by decide) (by decide) (by decide)

def namedGraph (word : String) : Graph where
  nodes := #[
    ⟨.untagged, .mapping [(1, 2), (3, 4), (5, 6), (11, 12)]⟩,
    ⟨.plain, .scalar "apiVersion"⟩, ⟨.plain, .scalar "kubernetes.crossplane.io/v1alpha1"⟩,
    ⟨.plain, .scalar "kind"⟩, ⟨.plain, .scalar "Object"⟩,
    ⟨.plain, .scalar "spec"⟩, ⟨.untagged, .mapping [(7, 8)]⟩,
    ⟨.plain, .scalar "forProvider"⟩, ⟨.untagged, .mapping [(9, 10)]⟩,
    ⟨.plain, .scalar "manifest"⟩, ⟨.untagged, .mapping []⟩,
    ⟨.plain, .scalar "metadata"⟩, ⟨.untagged, .mapping [(13, 14)]⟩,
    ⟨.plain, .scalar "name"⟩, ⟨.plain, .scalar word⟩]
  root := 0

set_option maxRecDepth 1000 in
theorem readDocument_namedTokens (word : String) :
    readDocument true (namedTokens word) = .ok (some (namedGraph word), [.streamEnd]) := by
  cbv

/-- The document of an Object without references, with a number for its name. -/
def namedEntries (n : Int) : List (Value × Value) :=
  [(.str "apiVersion", .str "kubernetes.crossplane.io/v1alpha1"), (.str "kind", .str "Object"),
    (.str "spec", .map [(.str "forProvider", .map [(.str "manifest", .map [])])]),
    (.str "metadata", .map [(.str "name", .int n)])]

/-! ## From the nodes to the document -/

section Value

variable {word : String} {n : Int}

/-- The state in which some nodes of the Object are made and some have yet to be filled. -/
def namedAssembly (word : String) (parts : List (Option Part)) (pending : List NodeId) :
    Assembly where
  tags := #[.map, .str, .str, .str, .str, .str, .map, .str, .map, .str, .map, .str, .map, .str,
    .int]
  contents := (namedGraph word).nodes.map (·.content)
  parts := parts.toArray
  pending

def textPart (text : String) : Option Part := some (.value (.str text))

/-- What the nodes are made into, given the entries of `spec` and `metadata` and what the nodes
behind each of them are made into. -/
def namedParts (spec metadata : List (Value × NodeId)) (inSpec inMetadata : List (Option Part)) :
    List (Option Part) :=
  [some (.map [(.str "apiVersion", 2), (.str "kind", 4), (.str "spec", 6), (.str "metadata", 12)]),
    textPart "apiVersion", textPart "kubernetes.crossplane.io/v1alpha1", textPart "kind",
    textPart "Object", textPart "spec", some (.map spec)] ++ inSpec ++
  [textPart "metadata", some (.map metadata)] ++ inMetadata

/-- The entries of the document are made. -/
def entriesMade : List (Option Part) :=
  namedParts [] [] [none, none, none, none] [none, none]

/-- Those of `spec` are made, too. -/
def specMade (metadata : List (Value × NodeId)) (inMetadata : List (Option Part)) :
    List (Option Part) :=
  namedParts [(.str "forProvider", 8)] metadata
    [textPart "forProvider", some (.map []), none, none] inMetadata

/-- All nodes are made, the name being an integer. -/
def allMade (n : Int) : List (Option Part) :=
  namedParts [(.str "forProvider", 8)] [(.str "name", 14)]
    [textPart "forProvider", some (.map [(.str "manifest", 10)]), textPart "manifest",
      some (.map [])]
    [textPart "name", some (.value (.int n))]

open Assembly in
theorem forM_fill_nil (s : Assembly) : (([] : List NodeId).forM fill).run s = .ok ((), s) := rfl

open Assembly in
theorem forM_fill_cons (id : NodeId) (rest : List NodeId) (s : Assembly) :
    ((id :: rest).forM fill).run s =
      (fill id).run s >>= fun after => (rest.forM fill).run after.2 :=
  rfl

open Assembly in
theorem run_fillAll (fuel : Nat) (parts : List (Option Part)) (id : NodeId) (rest : List NodeId) :
    (fillAll (fuel + 1)).run (namedAssembly word parts (id :: rest)) =
      ((id :: rest).reverse.forM fill).run (namedAssembly word parts []) >>= fun after =>
        (fillAll fuel).run after.2 :=
  rfl

open Assembly in
/-- The name is made once it is known to be an integer. -/
theorem fill_metadata (hvalue : integerOf word.toList = .ok n) :
    (fill 12).run (namedAssembly word (specMade [] [none, none]) [8]) = .ok ((),
      namedAssembly word
        (specMade [(.str "name", 14)] [textPart "name", some (.value (.int n))]) [8]) := by
  -- The word stays a variable, so this is run by rewriting, the state monad unfolded.
  simp [namedAssembly, specMade, namedParts, textPart, namedGraph, make, tagAt, setPart, fill,
    makeMapping, contentAt, flatten, mergeFuel, entriesAt, takeMerges, setEntries, makeEntries,
    makeKey, scalarPart, textOf, scalarValue, hvalue, putEntry, StateT.run, StateT.bind,
    StateT.pure, StateT.get, StateT.modifyGet, StateT.lift, get, getThe, MonadStateOf.get, modify,
    modifyGet, MonadStateOf.modifyGet, liftM, monadLift, MonadLift.monadLift, bind, pure,
    Except.bind, Except.pure, Except.map, Except.mapError]

open Assembly in
/-- The nodes of the Object once its name is known to be an integer. -/
theorem run_namedGraph (hvalue : integerOf word.toList = .ok n) :
    (Assembly.run 0).run (namedAssembly word (List.replicate 15 none) []) =
      .ok ((), namedAssembly word (allMade n) []) := by
  have hroot : (make 0).run (namedAssembly word (List.replicate 15 none) []) =
      .ok ((), namedAssembly word (some (.map []) :: List.replicate 14 none) [0]) := by cbv
  have hentries :
      (fill 0).run (namedAssembly word (some (.map []) :: List.replicate 14 none) []) =
        .ok ((), namedAssembly word entriesMade [12, 6]) := by cbv
  have hspec : (fill 6).run (namedAssembly word entriesMade []) =
      .ok ((), namedAssembly word (specMade [] [none, none]) [8]) := by cbv
  have hrest : (fillAll 14).run (namedAssembly word
        (specMade [(.str "name", 14)] [textPart "name", some (.value (.int n))]) [8]) =
      .ok ((), namedAssembly word (allMade n) []) := by cbv
  have hrun : (Assembly.run 0).run (namedAssembly word (List.replicate 15 none) []) =
      (make 0).run (namedAssembly word (List.replicate 15 none) []) >>= fun after =>
        (fillAll (after.2.contents.size + 1)).run after.2 := rfl
  have hsize : ∀ parts pending, (namedAssembly word parts pending).contents.size = 15 :=
    fun _ _ => by simp [namedAssembly, namedGraph]
  rw [hrun, hroot, ok_bind, hsize, run_fillAll]
  simp only [List.reverse_cons, List.reverse_nil, List.nil_append, forM_fill_cons, forM_fill_nil,
    hentries, ok_bind]
  rw [run_fillAll]
  simp only [List.reverse_cons, List.reverse_nil, List.nil_append, List.cons_append,
    forM_fill_cons, forM_fill_nil, hspec, fill_metadata hvalue, ok_bind]
  exact hrest

open Assembly in
theorem ofGraph_namedGraph (htag : ImplicitRule.apply ImplicitRule.manifest word = .int) :
    ofGraph ImplicitRule.manifest (namedGraph word) =
      namedAssembly word (List.replicate 15 none) [] := by
  have hwords : ["apiVersion", "kubernetes.crossplane.io/v1alpha1", "kind", "Object", "spec",
      "forProvider", "manifest", "metadata", "name"].all (fun text =>
        ImplicitRule.apply ImplicitRule.manifest text = .str) = true := by
    decide +kernel
  simp only [List.all_cons, List.all_nil, Bool.and_eq_true, decide_eq_true_eq] at hwords
  simp [ofGraph, namedAssembly, namedGraph, Node.tag, tagOf, hwords, htag, List.replicate]

theorem value_namedGraph (htag : ImplicitRule.apply ImplicitRule.manifest word = .int)
    (hvalue : integerOf word.toList = .ok n) :
    (namedGraph word).value ImplicitRule.manifest = .ok (.map (namedEntries n)) := by
  have hroot : (namedGraph word).root = 0 := rfl
  rw [Graph.value, ofGraph_namedGraph htag, hroot, run_namedGraph hvalue, ok_bind]
  cbv

end Value

/-- **The integer that names an Object is read as what it writes, however long it is.** -/
theorem read_namedText {n : Int} (h : IsWord word) (hdigit : word.head?.any Char.isDigit = true)
    (hfloat : isFloat word = false) (hinteger : isInteger word = true)
    (hvalue : integerOf word = .ok n) :
    read ImplicitRule.manifest (namedText word) = .ok [.map (namedEntries n)] :=
  read_of_readDocument (tokens_namedText h) (by simp [namedTokens])
    (readDocument_namedTokens _)
    (value_namedGraph (apply_eq_int h hdigit hfloat hinteger) (by rwa [String.toList_ofList]))

end Yaml
end Patchwork
