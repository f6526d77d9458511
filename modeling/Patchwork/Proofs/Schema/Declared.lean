import Patchwork.Proofs.RoundTrip
import Patchwork.Proofs.Schema.Conversion
import Patchwork.Proofs.Schema.Keeps

/-!
# Declared entries are kept

What the schema of Object documents declares is read and written again: nothing is forgotten on the
way through the typed data.

* `Reference.keeps`, `ObjectSpec.keeps`, `ObjectStatus.keeps`, `Object.keeps` — what each type
  writes of a document keeps what its schema declares.
* `ObjectSchema.check_keeps_declared` — a document without issues keeps all its references,
  conditions, scalars, manifests and metadata.
-/

set_option autoImplicit false

namespace Patchwork

open Value

variable {mayDrop : FieldPath → Prop} {location : Text} {v : Value} {required : List Text}

open Schema

/-! ## References -/

theorem textOr_of_ne_empty {text : Text} (h : text ≠ "") (default : Text) :
    textOr default (some text) = text := by
  simp [textOr, h]

/-- What identifies a resource is kept, whatever is written behind it. -/
theorem DependsOn.keepsEntries {es : List (Value × Value)} {d : DependsOn}
    (h : ofEntries location es = .ok d) (others : List (Value × Value)) :
    KeepsEntries ObjectSchema.descriptor mayDrop es (d.entries ++ others) := by
  simp only [ofEntries, bind_eq_ok] at h
  obtain ⟨name, hname, apiVersion, hapiVersion, kind, hkind, ns, hns, block, hblock, hd⟩ := h
  cases hd
  refine .text rfl hapiVersion (fun text h hne => ?_) ?_
  · subst h
    simp [entries, textOr_of_ne_empty hne]
  refine .text rfl hkind (fun text h hne => ?_) ?_
  · subst h
    simp [entries, textOr_of_ne_empty hne]
  refine .text rfl hname (fun text h _ => ?_) ?_
  · subst h
    simp [entries]
  refine .text rfl hns (fun text h hne => ?_) ?_
  · subst h
    simp [entries, lookup_append, hne]
  refine .leaf rfl Shape.boolean_eq_some hblock (fun b h _ _ => ?_) keepsEntries_nil
  subst h
  simp [entries, lookup_append]

theorem DependsOn.keeps {d : DependsOn} (h : ofValue location v = .ok d) :
    (ObjectSchema.object required ObjectSchema.descriptor).Keeps mayDrop v (some d.toValue) := by
  obtain ⟨es, hes, hd⟩ := bind_eq_ok.1 h
  have hkeeps : KeepsEntries ObjectSchema.descriptor mayDrop es d.entries := by
    rw [← List.append_nil d.entries]
    exact keepsEntries hd []
  rw [expect_object_eq_ok.1 hes]
  exact hkeeps.keeps (List.cons_ne_nil _ _)

theorem PatchesFrom.keeps {p : PatchesFrom} {path : Schema} (hpath : path.declaresNothing = true)
    (h : ofValue location v = .ok p) :
    (ObjectSchema.object required (ObjectSchema.descriptor ++ [(.string "fieldPath", path)])).Keeps
      mayDrop v (some p.toValue) := by
  simp only [ofValue, bind_eq_ok] at h
  obtain ⟨es, hes, d, hd, fieldPath, hfieldPath, hp⟩ := h
  cases hp
  rw [expect_object_eq_ok.1 hes]
  refine ((DependsOn.keepsEntries hd _).append ?_).keeps (List.cons_ne_nil _ _)
  refine .text hpath hfieldPath (fun text h _ => ?_) keepsEntries_nil
  subst h
  simp [DependsOn.entries, lookup_append]

theorem Reference.keeps {r : Reference} (h : ofValue location v = .ok r) :
    ObjectSchema.reference.Keeps mayDrop v (some r.toValue) := by
  simp only [ofValue, bind_eq_ok] at h
  obtain ⟨es, hes, dependsOn, hdependsOn, patchesFrom, hpatchesFrom, path, hpath, hr⟩ := h
  cases hr
  rw [expect_object_eq_ok.1 hes]
  refine KeepsEntries.keeps ?_ (List.cons_ne_nil _ _)
  refine .part (fun d => some d.toValue) hdependsOn (fun d u hu _ _ => DependsOn.keeps hu)
    (fun d h => ?_) ?_
  · simp [lookup_append, h]
  refine .part (fun p => some p.toValue) hpatchesFrom (fun p u hu _ _ => PatchesFrom.keeps rfl hu)
    (fun p h => ?_) ?_
  · simp [lookup_append, h]
  refine .text rfl hpath (fun text h _ => ?_) keepsEntries_nil
  simp [lookup_append, h]

/-! ## Manifests and status -/

/-- Entries that JSON can hold are copied as they were read. -/
theorem unstructuredEntries_optional {es copy : List (Value × Value)} {key place : Text}
    {given : Option (List (Value × Value))} (hjson : entriesJson es = true)
    (hread : Value.optional es key .object place = .ok given)
    (hcopy : unstructuredEntries location (given.getD []) = .ok copy) : copy = given.getD [] := by
  have hfields : entriesJson (given.getD []) = true := by
    rcases optional_eq_ok hread with ⟨rfl, -⟩ | ⟨fields, u, rfl, hu, -, hvalue⟩
    · rfl
    · obtain rfl := Shape.object_eq_some.1 hvalue
      exact isJson_of_lookup hjson hu
  rw [unstructuredEntries_of_entriesJson _ _ hfields] at hcopy
  exact (Except.ok.inj hcopy).symm

theorem manifestOf_eq_ok {manifest : List (Value × Value)} (hjson : v.isJson = true)
    (h : manifestOf location v = .ok manifest) :
    ∃ es given, v = .map es ∧ Value.optional es "manifest" .object location = .ok given ∧
      manifest = given.getD [] := by
  simp only [manifestOf, bind_eq_ok] at h
  obtain ⟨es, hes, given, hgiven, hcopy⟩ := h
  obtain rfl := expect_object_eq_ok.1 hes
  exact ⟨es, given, rfl, hgiven, unstructuredEntries_optional hjson hgiven hcopy⟩

theorem ObjectParameters.keeps {p : ObjectParameters} (hjson : v.isJson = true)
    (h : ofValue location v = .ok p) :
    (ObjectSchema.object required [("manifest", ObjectSchema.manifest)]).Keeps mayDrop v
      (some p.toValue) := by
  obtain ⟨manifest, hmanifest, hp⟩ := bind_eq_ok.1 h
  cases hp
  obtain ⟨es, given, rfl, hgiven, rfl⟩ := manifestOf_eq_ok hjson hmanifest
  refine KeepsEntries.keeps ?_ (List.cons_ne_nil _ _)
  refine .leaf rfl Shape.object_eq_some hgiven (fun fields h _ _ => ?_) keepsEntries_nil
  simp [h]

theorem ObjectObservation.keeps {o : ObjectObservation} (hjson : v.isJson = true)
    (hdrop : mayDrop [.field "manifest"]) (h : ofValue location v = .ok o) :
    (ObjectSchema.object required [("manifest", ObjectSchema.manifest)]).Keeps mayDrop v
      (if o.entries.isEmpty then none else some o.toValue) := by
  obtain ⟨manifest, hmanifest, ho⟩ := bind_eq_ok.1 h
  cases ho
  obtain ⟨es, given, rfl, hgiven, rfl⟩ := manifestOf_eq_ok hjson hmanifest
  refine Keeps.unlessEmpty (KeepsEntries.keeps ?_ (List.cons_ne_nil _ _)) rfl
  refine .leaf rfl Shape.object_eq_some hgiven (fun fields h _ hne => ?_) keepsEntries_nil
  have hfields : fields ≠ [] := by
    rintro rfl
    exact hne hdrop rfl
  simp [entries, h, hfields]

theorem Condition.keeps {c : Condition} (h : ofValue location v = .ok c) :
    ObjectSchema.condition.Keeps mayDrop v (some c.toValue) := by
  simp only [ofValue, bind_eq_ok] at h
  obtain ⟨es, hes, type, htype, status, hstatus, reason, hreason, message, hmessage, time, htime,
    hc⟩ := h
  cases hc
  rw [expect_object_eq_ok.1 hes]
  refine KeepsEntries.keeps ?_ (List.cons_ne_nil _ _)
  refine .text rfl htype (fun text h _ => ?_) ?_
  · simp [h]
  refine .text rfl hstatus (fun text h _ => ?_) ?_
  · simp [h]
  refine .text rfl hreason (fun text h hne => ?_) ?_
  · simp [lookup_append, h, hne]
  refine .text rfl hmessage (fun text h hne => ?_) ?_
  · simp [lookup_append, h, hne]
  refine .text rfl htime (fun text h hne => ?_) keepsEntries_nil
  simp [lookup_append, h, hne]

theorem ObjectStatus.keeps {s : ObjectStatus} (hjson : v.isJson = true)
    (hdrop : mayDrop [.field "atProvider", .field "manifest"]) (h : ofValue location v = .ok s) :
    ObjectSchema.status.Keeps mayDrop v (if s.entries.isEmpty then none else some s.toValue) := by
  simp only [ofValue, bind_eq_ok] at h
  obtain ⟨es, hes, given, hgiven, atProvider, hatProvider, conditions, hconditions, hs⟩ := h
  cases hs
  obtain rfl := expect_object_eq_ok.1 hes
  refine Keeps.unlessEmpty (KeepsEntries.keeps ?_ (List.cons_ne_nil _ _)) rfl
  refine .array hgiven hconditions ?_ (fun _ v c hc _ => Condition.keeps hc) ?_
  · simp [entries, lookup_append]
  refine .part (fun o : ObjectObservation => if o.entries.isEmpty then none else some o.toValue)
    hatProvider (fun o u hu hlookup _ => ?_) (fun o h => ?_) keepsEntries_nil
  · exact ObjectObservation.keeps (isJson_of_lookup hjson hlookup) hdrop hu
  · simp [entries, lookup_append, h]

/-! ## Spec -/

theorem DeletionPolicy.text_of_ofText {name : Text} {p : DeletionPolicy}
    (h : ofText location name = .ok p) : p.text = name := by
  unfold ofText at h
  split at h
  · rename_i hfind
    cases h
    simpa using List.find?_some hfind
  · cases h

theorem ManagementPolicy.text_ofText {name : Text} (h : name ∈ known.map (·.text)) :
    (ofText name).text = name := by
  simp only [known, List.map_cons, List.map_nil, List.mem_cons, List.not_mem_nil, or_false] at h
  rcases h with rfl | rfl | rfl | rfl <;> rfl

/-- A management policy that the schema allows is written by its name. -/
theorem ObjectSpec.text_policyOf {es : List (Value × Value)} {given : Option Text}
    {name : Text} (hcheck : ObjectSchema.spec.check location (.map es) = [])
    (hread : Value.optional es "managementPolicy" .string location = .ok given)
    (hgiven : given = some name) (hne : name ≠ "") :
    (policyOf given).text = name := by
  rcases optional_eq_ok hread with ⟨rfl, -⟩ | ⟨text, u, rfl, hu, hnull, hvalue⟩
  · cases hgiven
  · cases hgiven
    obtain rfl := Shape.string_eq_some.1 hvalue
    have hmem := mem_of_check_eq_nil (check_entry_eq_nil hcheck hu hnull rfl)
    simp only [policyOf, Text.isEmpty_iff, hne, if_false]
    exact ManagementPolicy.text_ofText hmem

theorem SecretReference.keepsEntries {es : List (Value × Value)} {s : SecretReference}
    (h : ofEntries location es = .ok s) :
    KeepsEntries [("name", ObjectSchema.text), ("namespace", ObjectSchema.text)] mayDrop es
      s.entries := by
  simp only [ofEntries, bind_eq_ok] at h
  obtain ⟨name, hname, ns, hns, hs⟩ := h
  cases hs
  refine .text rfl hname (fun text h _ => ?_) ?_
  · simp [entries, h]
  refine .text rfl hns (fun text h _ => ?_) keepsEntries_nil
  simp [entries, h]

theorem ObjectSpec.keeps {s : ObjectSpec} (hjson : v.isJson = true)
    (hcheck : ObjectSchema.spec.check location v = []) (h : ofValue location v = .ok s) :
    ObjectSchema.spec.Keeps mayDrop v (some s.toValue) := by
  simp only [ofValue, bind_eq_ok] at h
  obtain ⟨es, hes, given, hgiven, policy, hpolicy, deletion, hdeletion, deletionPolicy,
    hdeletionPolicy, provider, hprovider, secret, hsecret, forProvider, hforProvider, references,
    hreferences, config, hconfig, connection, hconnection, hs⟩ := h
  cases hs
  obtain rfl := expect_object_eq_ok.1 hes
  refine KeepsEntries.keeps ?_ (List.cons_ne_nil _ _)
  -- A policy that is not known would be written by another name; the check refuses it.
  refine .text rfl hpolicy (fun text h hne => ?_) ?_
  · simp [text_policyOf hcheck hpolicy h hne]
  refine .text rfl hdeletion (fun text h hne => ?_) ?_
  · subst h
    simp [DeletionPolicy.text_of_ofText hdeletionPolicy]
  refine .object (List.cons_ne_nil _ _) hprovider (fun fields h => ?_) ?_
  · subst h
    refine ⟨[(.str "name", .str (config.getD "default"))], by simp, ?_⟩
    refine .text rfl hconfig (fun text h _ => ?_) keepsEntries_nil
    simp [h]
  refine .object (List.cons_ne_nil _ _) hsecret (fun fields h => ?_) ?_
  · subst h
    rw [Option.mapM_some] at hconnection
    obtain ⟨pair, hpair, rfl⟩ := map_eq_ok.1 hconnection
    refine ⟨pair.entries, ?_, SecretReference.keepsEntries hpair⟩
    simp [lookup_append, SecretReference.toValue]
  refine .array hgiven hreferences ?_ (fun _ v r hr _ => Reference.keeps hr) ?_
  · simp [lookup_append]
  refine .part (fun p => some (ObjectParameters.toValue p)) hforProvider
    (fun p u hu hlookup _ => ?_) (fun p h => ?_) keepsEntries_nil
  · exact ObjectParameters.keeps (isJson_of_lookup hjson hlookup) hu
  · simp [lookup_append, h]

/-! ## How many items there are -/

theorem ObjectSpec.itemCount_of_ofValue {s : ObjectSpec} (h : ofValue location v = .ok s) :
    v.itemCount [.field "references"] = s.references.length := by
  simp only [ofValue, bind_eq_ok] at h
  obtain ⟨es, hes, given, hgiven, _, -, _, -, _, -, _, -, _, -, _, -, references, hreferences,
    _, -, _, -, hs⟩ := h
  cases hs
  rw [expect_object_eq_ok.1 hes, itemCount_of_optional hgiven, length_convertItems hreferences]

theorem ObjectSpec.itemCount_toValue (s : ObjectSpec) :
    s.toValue.itemCount [.field "references"] = s.references.length := by
  obtain ⟨written, hwritten⟩ : ∃ w, s.toValue = .map w := ⟨_, rfl⟩
  have hlookup : lookup "references" written =
      if (s.references.map (·.toValue)).isEmpty then none
      else some (.list (s.references.map (·.toValue))) := by
    cases hwritten
    simp [lookup_append]
  rw [hwritten, itemCount_of_unlessEmpty hlookup, List.length_map]

theorem ObjectStatus.itemCount_of_ofValue {s : ObjectStatus} (h : ofValue location v = .ok s) :
    v.itemCount [.field "conditions"] = s.conditions.length := by
  simp only [ofValue, bind_eq_ok] at h
  obtain ⟨es, hes, given, hgiven, _, -, conditions, hconditions, hs⟩ := h
  cases hs
  rw [expect_object_eq_ok.1 hes, itemCount_of_optional hgiven, length_convertItems hconditions]

theorem ObjectStatus.itemCount_toValue (s : ObjectStatus) :
    s.toValue.itemCount [.field "conditions"] = s.conditions.length := by
  have hlookup : lookup "conditions" s.entries =
      if (s.conditions.map (·.toValue)).isEmpty then none
      else some (.list (s.conditions.map (·.toValue))) := by
    simp [entries, lookup_append]
  rw [toValue, itemCount_of_unlessEmpty hlookup, List.length_map]

/-! ## Object documents -/

namespace Object

variable {document : Value} {o : Object}

def observedManifest : FieldPath := [.field "status", .field "atProvider", .field "manifest"]

theorem itemCount_references (h : ofValue document = .ok o) :
    document.itemCount [.field "spec", .field "references"] =
      o.toValue.itemCount [.field "spec", .field "references"] := by
  have hwritten : o.toValue.itemCount [.field "spec", .field "references"] =
      o.spec.references.length := by
    simp [toValue, itemCount_map, ObjectSpec.itemCount_toValue]
  rw [hwritten]
  simp only [ofValue, bind_eq_ok] at h
  obtain ⟨es, hes, _, -, _, -, spec, hspec, _, -, _, -, _, -, ho⟩ := h
  cases ho
  rw [expect_object_eq_ok.1 hes]
  exact itemCount_of_optionalWith (·.references.length) {} hspec
    (fun _ _ hs => ObjectSpec.itemCount_of_ofValue hs) rfl

theorem itemCount_conditions (h : ofValue document = .ok o) :
    document.itemCount [.field "status", .field "conditions"] =
      o.toValue.itemCount [.field "status", .field "conditions"] := by
  have hwritten : o.toValue.itemCount [.field "status", .field "conditions"] =
      o.status.conditions.length := by
    rw [toValue, itemCount_map]
    cases hempty : o.status.entries.isEmpty with
    | true => simp [ObjectStatus.eq_of_isEmpty hempty]
    | false => simp [ObjectStatus.itemCount_toValue]
  rw [hwritten]
  simp only [ofValue, bind_eq_ok] at h
  obtain ⟨es, hes, _, -, _, -, _, -, status, hstatus, _, -, _, -, ho⟩ := h
  cases ho
  rw [expect_object_eq_ok.1 hes]
  exact itemCount_of_optionalWith (·.conditions.length) {} hstatus
    (fun _ _ hs => ObjectStatus.itemCount_of_ofValue hs) rfl

theorem keeps (hjson : document.isJson = true) (hcheck : ObjectSchema.check document = [])
    (h : ofValue document = .ok o) :
    ObjectSchema.schema.Keeps (· = observedManifest) document (some o.toValue) := by
  simp only [ofValue, bind_eq_ok] at h
  obtain ⟨es, hes, given, hgiven, metadata, hmetadata, spec, hspec, status, hstatus, apiVersion,
    hapiVersion, kind, hkind, ho⟩ := h
  cases ho
  obtain rfl := expect_object_eq_ok.1 hes
  refine KeepsEntries.keeps ?_ (List.cons_ne_nil _ _)
  refine .text rfl hapiVersion (fun text h _ => ?_) ?_
  · simp [h]
  refine .text rfl hkind (fun text h _ => ?_) ?_
  · simp [h]
  refine .leaf rfl Shape.object_eq_some hgiven (fun fields h _ _ => ?_) ?_
  · subst h
    obtain rfl := unstructuredEntries_optional hjson hgiven hmetadata
    simp
  refine .part (fun s => some (ObjectSpec.toValue s)) hspec (fun s u hu hlookup hne => ?_)
    (fun s h => ?_) ?_
  · have hspecCheck := check_entry_eq_nil hcheck hlookup hne rfl
    exact ObjectSpec.keeps (isJson_of_lookup hjson hlookup) hspecCheck hu
  · simp [h]
  refine .part (fun s : ObjectStatus => if s.entries.isEmpty then none else some s.toValue)
    hstatus (fun s u hu hlookup _ => ?_) (fun s h => ?_) keepsEntries_nil
  · exact ObjectStatus.keeps (isJson_of_lookup hjson hlookup) rfl hu
  · simp [h]

end Object
namespace ObjectSchema

variable {document : Value}

/-- The schema declares a scalar at the place, or leaves open what the place holds. -/
def Declares (place : FieldPath) : Prop :=
  (∃ leaf, schema.at? place = some leaf ∧ leaf.isScalar = true) ∨ place ∈ openPlaces

theorem Declares.exists_isLeaf {place : FieldPath} (h : Declares place) :
    ∃ leaf, schema.at? place = some leaf ∧ leaf.isLeaf = true := by
  rcases h with ⟨leaf, hleaf, hscalar⟩ | hopen
  · refine ⟨leaf, hleaf, ?_⟩
    rw [isLeaf, hscalar, Bool.true_or]
  · simp only [openPlaces, List.mem_cons, List.not_mem_nil, or_false] at hopen
    rcases hopen with rfl | rfl | rfl <;> exact ⟨_, rfl, rfl⟩

/-- **A document without issues keeps everything that is declared.**  Reading it and writing it
again gives as many references and conditions, and the same at every place of a scalar, a manifest
or the metadata, unless null, an empty text or an empty observed manifest stood there. -/
theorem check_keeps_declared (hjson : document.isJson = true) (hcheck : check document = []) :
    ∃ o, Object.ofValue document = .ok o ∧
      o.toValue.itemCount [.field "spec", .field "references"] =
        document.itemCount [.field "spec", .field "references"] ∧
      o.toValue.itemCount [.field "status", .field "conditions"] =
        document.itemCount [.field "status", .field "conditions"] ∧
      ∀ place v, Declares place → document.reach? place = some v → v ≠ .null → v ≠ .str "" →
        (place = Object.observedManifest → v ≠ .map []) → o.toValue.reach? place = some v := by
  obtain ⟨o, ho⟩ := exists_ofValue_eq_ok hcheck (openIsConvertible_of_isJson hjson)
  refine ⟨o, ho, (Object.itemCount_references ho).symm, (Object.itemCount_conditions ho).symm, ?_⟩
  intro place v hplace hv hnull hempty hdrop
  obtain ⟨leaf, hleaf, hisLeaf⟩ := hplace.exists_isLeaf
  exact Object.keeps hjson hcheck ho place leaf v hleaf hisLeaf hv hnull hempty hdrop

theorem check_keeps_declared_reference :
    let document := Value.map [
      (.str "apiVersion", .str ApiGroup.apiVersion), (.str "kind", .str ApiGroup.kind),
      (.str "spec", .map [
        (.str "references", .list [.map [], .map [
          (.str "patchesFrom", .map [(.str "name", .str "source"),
            (.str "fieldPath", .str "data.port"), (.str "blockOwnerDeletion", .bool false)])]]),
        (.str "forProvider", .map [(.str "manifest", .map [])])])]
    let place : FieldPath := [.field "spec", .field "references", .index 1, .field "patchesFrom",
      .field "blockOwnerDeletion"]
    ∃ o, Object.ofValue document = .ok o ∧ o.toValue.reach? place = some (.bool false) := by
  intro document place
  have hjson : document.isJson = true := rfl
  have hcheck : check document = [] := rfl
  obtain ⟨o, ho, -, -, hkept⟩ := check_keeps_declared hjson hcheck
  have hplace : Declares place := .inl ⟨_, rfl, rfl⟩
  exact ⟨o, ho, hkept place (.bool false) hplace rfl nofun nofun nofun⟩

end ObjectSchema
end Patchwork
