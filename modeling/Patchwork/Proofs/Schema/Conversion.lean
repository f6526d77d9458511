import Patchwork.Proofs.Schema

/-!
# The schema explains conversion

Every error of reading an Object document is explained by the schema of Object documents: it is an
issue at the same location, or names a node that JSON cannot hold in the metadata or one of the two
manifests, whose contents the schema leaves open.

* `Reference.ofValue_failsWith`, `ObjectSpec.ofValue_failsWith`, `ObjectStatus.ofValue_failsWith`,
  `Object.ofValue_failsWith` — what reading each type fails with.
* `ObjectSchema.check_explains_conversion` — the check is at least as strict as reading, and points
  at the same place.
-/

set_option autoImplicit false

namespace Patchwork

open Value Schema

variable {location : Text} {entries : List (Value × Value)} {required : List Text}
  {properties : List (Text × Schema)}

/-! ## References -/

theorem DependsOn.ofEntries_failsWith
    (hproperties : ∀ {key schema}, ObjectSchema.descriptor.lookup key = some schema →
      properties.lookup key = some schema) :
    FailsWith ((ObjectSchema.object required properties).Explains [] location (.map entries))
      (ofEntries location entries) := by
  unfold ofEntries
  refine .bind (optional_failsWith (hproperties rfl) (asks_string rfl)) fun _ _ => ?_
  refine .bind (optional_failsWith (hproperties rfl) (asks_string rfl)) fun _ _ => ?_
  refine .bind (optional_failsWith (hproperties rfl) (asks_string rfl)) fun _ _ => ?_
  refine .bind (optional_failsWith (hproperties rfl) (asks_string rfl)) fun _ _ => ?_
  refine .bind (optional_failsWith (hproperties rfl) (asks_boolean rfl)) fun _ _ => ?_
  exact failsWith_ok _

theorem DependsOn.ofValue_failsWith (location : Text) (v : Value) :
    FailsWith ((ObjectSchema.object required ObjectSchema.descriptor).Explains [] location v)
      (ofValue location v) := by
  refine expect_object_failsWith fun entries hv => ?_
  subst hv
  exact ofEntries_failsWith id

theorem PatchesFrom.ofValue_failsWith
    (hproperties : ∀ {key schema}, ObjectSchema.descriptor.lookup key = some schema →
      properties.lookup key = some schema)
    {path : Schema} (hpath : properties.lookup (.string "fieldPath") = some path)
    (htext : path.type? = some .string) (location : Text) (v : Value) :
    FailsWith ((ObjectSchema.object required properties).Explains [] location v)
      (ofValue location v) := by
  refine expect_object_failsWith fun entries hv => ?_
  subst hv
  refine .bind (DependsOn.ofEntries_failsWith hproperties) fun _ _ => ?_
  refine .bind (optional_failsWith hpath (asks_string htext)) fun _ _ => ?_
  exact failsWith_ok _

theorem Reference.ofValue_failsWith (hlocation : location ≠ "") (v : Value) :
    FailsWith (ObjectSchema.reference.Explains [] location v) (ofValue location v) := by
  refine expect_object_failsWith fun entries hv => ?_
  subst hv
  refine .bind (optionalWith_failsWith [] rfl (fun w => ?_) (List.forall_mem_nil _)) fun _ _ => ?_
  · rw [Location.part_eq_entry hlocation]
    exact DependsOn.ofValue_failsWith _ w
  refine .bind (optionalWith_failsWith [] rfl (fun w => ?_) (List.forall_mem_nil _)) fun _ _ => ?_
  · rw [Location.part_eq_entry hlocation]
    refine PatchesFrom.ofValue_failsWith (fun h => ?_) rfl rfl _ w
    rw [List.lookup_append, h, Option.some_or]
  refine .bind (optional_failsWith rfl (asks_string rfl)) fun _ _ => ?_
  exact failsWith_ok _

/-! ## Manifests and status -/

/-- The contents of a manifest are all that its wrapper leaves open. -/
theorem manifestOf_failsWith (hlocation : location ≠ "") (v : Value) :
    FailsWith ((ObjectSchema.object required [("manifest", ObjectSchema.manifest)]).Explains
        [[.field "manifest"]] location v)
      (manifestOf location v) := by
  refine expect_object_failsWith fun entries hv => ?_
  subst hv
  refine .bind (optional_failsWith rfl (asks_object rfl)) fun given hgiven => ?_
  rw [Location.part_eq_entry hlocation]
  refine failsWith_of_optional [[]] hgiven rfl (fun h => ?_) (fun fields w h hw => ?_) ?_
  · exact ⟨[], by rw [h]; rfl⟩
  · subst h
    obtain rfl := Shape.object_eq_some.1 hw
    exact unstructuredEntries_failsWith _ fields
  · simp

theorem ObjectParameters.ofValue_failsWith (hlocation : location ≠ "") (v : Value) :
    FailsWith ((ObjectSchema.object required [("manifest", ObjectSchema.manifest)]).Explains
        [[.field "manifest"]] location v)
      (ofValue location v) :=
  .bind (manifestOf_failsWith hlocation v) fun _ _ => failsWith_ok _

theorem ObjectObservation.ofValue_failsWith (hlocation : location ≠ "") (v : Value) :
    FailsWith ((ObjectSchema.object required [("manifest", ObjectSchema.manifest)]).Explains
        [[.field "manifest"]] location v)
      (ofValue location v) :=
  .bind (manifestOf_failsWith hlocation v) fun _ _ => failsWith_ok _

theorem Condition.ofValue_failsWith (location : Text) (v : Value) :
    FailsWith (ObjectSchema.condition.Explains [] location v) (ofValue location v) := by
  refine expect_object_failsWith fun entries hv => ?_
  subst hv
  refine .bind (optional_failsWith rfl (asks_string rfl)) fun _ _ => ?_
  refine .bind (optional_failsWith rfl (asks_string rfl)) fun _ _ => ?_
  refine .bind (optional_failsWith rfl (asks_string rfl)) fun _ _ => ?_
  refine .bind (optional_failsWith rfl (asks_string rfl)) fun _ _ => ?_
  refine .bind (optional_failsWith rfl (asks_string rfl)) fun _ _ => ?_
  exact failsWith_ok _

theorem ObjectStatus.ofValue_failsWith (hlocation : location ≠ "") (v : Value) :
    FailsWith (ObjectSchema.status.Explains [[.field "atProvider", .field "manifest"]] location v)
      (ofValue location v) := by
  refine expect_object_failsWith fun entries hv => ?_
  subst hv
  refine .bind (optional_failsWith rfl (asks_array rfl)) fun given hgiven => ?_
  refine .bind (optionalWith_failsWith [[.field "manifest"]] rfl (fun w => ?_) ?_) fun _ _ => ?_
  · rw [Location.part_eq_entry hlocation]
    exact ObjectObservation.ofValue_failsWith (Location.entry_ne_empty hlocation _) w
  · simp
  refine .bind ?_ fun _ _ => failsWith_ok _
  rw [Location.part_eq_entry hlocation]
  refine failsWith_of_optional [] hgiven rfl (fun h => ?_) (fun items w h hw => ?_)
    (List.forall_mem_nil _)
  · exact ⟨[], by rw [h]; rfl⟩
  · subst h
    obtain rfl := Shape.array_eq_some.1 hw
    exact convertItems_failsWith (fun i w => Condition.ofValue_failsWith _ w) items

/-! ## Spec -/

theorem SecretReference.ofEntries_failsWith (location : Text)
    (entries : List (Value × Value)) :
    FailsWith ((ObjectSchema.object required [("name", ObjectSchema.text),
        ("namespace", ObjectSchema.text)]).Explains [] location (.map entries))
      (ofEntries location entries) := by
  refine .bind (optional_failsWith rfl (asks_string rfl)) fun _ _ => ?_
  refine .bind (optional_failsWith rfl (asks_string rfl)) fun _ _ => ?_
  exact failsWith_ok _

/-- A name that is no deletion policy is not among the names that the schema allows. -/
theorem DeletionPolicy.ofText_failsWith {names : List Text} {default? : Option Value}
    (hnames : ∀ name ∈ names, (ofText? name).isSome) (location name : Text) :
    FailsWith (Explains { ObjectSchema.oneOf names with default? } [] location (.str name))
      (ofText location name) := by
  intro e he
  unfold ofText at he
  split at he
  · cases he
  · rename_i hnone
    cases he
    have hnot : name ∉ names := by
      intro hmem
      have hsome := hnames name hmem
      rw [hnone] at hsome
      cases hsome
    exact .inl ⟨rfl, exists_issue_of_not_mem hnot location⟩

def ObjectSpec.openPlaces : List FieldPath := [[.field "forProvider", .field "manifest"]]

theorem ObjectSpec.ofValue_failsWith (hlocation : location ≠ "") (v : Value) :
    FailsWith (ObjectSchema.spec.Explains openPlaces location v) (ofValue location v) := by
  refine expect_object_failsWith fun entries hv => ?_
  subst hv
  -- First come the kinds of the direct entries, with the name of the deletion policy among them.
  refine .bind (optional_failsWith rfl (asks_array rfl)) fun references hreferences => ?_
  refine .bind (optional_failsWith rfl (asks_string rfl)) fun _ _ => ?_
  refine .bind (optional_failsWith rfl (asks_string rfl)) fun deletion hdeletion => ?_
  simp only [Location.part_eq_entry hlocation]
  refine .bind ?_ fun _ _ => ?_
  · refine failsWith_of_optional [] hdeletion rfl (fun h => ?_) (fun name w h hw => ?_)
      (List.forall_mem_nil _)
    · exact ⟨.delete, by rw [h]; rfl⟩
    · subst h
      obtain rfl := Shape.string_eq_some.1 hw
      exact DeletionPolicy.ofText_failsWith (by decide) _ name
  refine .bind (optional_failsWith rfl (asks_object rfl)) fun provider hprovider => ?_
  refine .bind (optional_failsWith rfl (asks_object rfl)) fun secret hsecret => ?_
  -- Then come the parts below them, in an order of their own.
  refine .bind (optionalWith_failsWith [[.field "manifest"]] rfl (fun w => ?_) ?_) fun _ _ => ?_
  · exact ObjectParameters.ofValue_failsWith (Location.entry_ne_empty hlocation _) w
  · simp [openPlaces]
  refine .bind ?_ fun _ _ => ?_
  · refine failsWith_of_optional [] hreferences rfl (fun h => ?_) (fun items w h hw => ?_)
      (List.forall_mem_nil _)
    · exact ⟨[], by rw [h]; rfl⟩
    · subst h
      obtain rfl := Shape.array_eq_some.1 hw
      exact convertItems_failsWith
        (fun i w => Reference.ofValue_failsWith (Location.item_ne_empty _ i) w) items
  refine .bind ?_ fun _ _ => ?_
  · refine failsWith_of_optional [] hprovider rfl (fun h => ?_) (fun fields w h hw => ?_)
      (List.forall_mem_nil _)
    · exact ⟨none, by rw [h]; rfl⟩
    · subst h
      obtain rfl := Shape.object_eq_some.1 hw
      exact optional_failsWith rfl (asks_string rfl)
  refine .bind ?_ fun _ _ => failsWith_ok _
  refine failsWith_of_optional [] hsecret rfl (fun h => ?_) (fun fields w h hw => ?_)
    (List.forall_mem_nil _)
  · exact ⟨none, by rw [h]; rfl⟩
  · subst h
    obtain rfl := Shape.object_eq_some.1 hw
    exact (SecretReference.ofEntries_failsWith _ fields).map _

/-! ## Object documents -/

/-- The metadata and the two manifests, whose contents the schema leaves open. -/
def ObjectSchema.openPlaces : List FieldPath :=
  [[.field "metadata"], [.field "spec", .field "forProvider", .field "manifest"],
    [.field "status", .field "atProvider", .field "manifest"]]

theorem Object.ofValue_failsWith (document : Value) :
    FailsWith (ObjectSchema.schema.Explains ObjectSchema.openPlaces "" document)
      (ofValue document) := by
  refine expect_object_failsWith fun entries hv => ?_
  subst hv
  refine .bind (optional_failsWith rfl (asks_object rfl)) fun metadata hmetadata => ?_
  refine .bind ?_ fun _ _ => ?_
  · refine failsWith_of_optional [[]] hmetadata rfl (fun h => ?_) (fun fields w h hw => ?_) ?_
    · exact ⟨[], by rw [h]; rfl⟩
    · subst h
      obtain rfl := Shape.object_eq_some.1 hw
      exact unstructuredEntries_failsWith _ fields
    · simp [ObjectSchema.openPlaces]
  refine .bind (optionalWith_failsWith ObjectSpec.openPlaces rfl (fun w => ?_) ?_) fun _ _ => ?_
  · exact ObjectSpec.ofValue_failsWith (by decide) w
  · simp [ObjectSpec.openPlaces, ObjectSchema.openPlaces]
  refine .bind (optionalWith_failsWith [[.field "atProvider", .field "manifest"]] rfl
    (fun w => ?_) ?_) fun _ _ => ?_
  · exact ObjectStatus.ofValue_failsWith (by decide) w
  · simp [ObjectSchema.openPlaces]
  refine .bind (optional_failsWith rfl (asks_string rfl)) fun _ _ => ?_
  refine .bind (optional_failsWith rfl (asks_string rfl)) fun _ _ => ?_
  exact failsWith_ok _

namespace ObjectSchema

example : openPlaces.map (Location.below "") =
    ["metadata", "spec.forProvider.manifest", "status.atProvider.manifest"] := by decide

variable {document : Value}

/-- What the schema leaves open of the document holds nothing that JSON cannot hold. -/
def OpenIsConvertible (document : Value) : Prop :=
  ∀ place ∈ openPlaces, ∀ v, document.reach? place = some v → v.IsConvertible

theorem openIsConvertible_of_isJson (h : document.isJson = true) : OpenIsConvertible document :=
  fun _ _ _ hv => isConvertible_of_isJson (isJson_reach? h hv)

theorem exists_ofValue_eq_ok (hcheck : check document = [])
    (hopen : OpenIsConvertible document) : ∃ o, Object.ofValue document = .ok o := by
  cases hread : Object.ofValue document with
  | ok o => exact ⟨o, rfl⟩
  | error e =>
    rcases Object.ofValue_failsWith document e hread with
      ⟨-, issue, hissue, -⟩ | ⟨place, hplace, v, hv, node, hnode, hrefused⟩
    · have hmem : issue ∈ check document := hissue
      rw [hcheck] at hmem
      cases hmem
    · exact absurd hrefused (hopen place hplace v hv _ _ _ _ hnode)

/-- **The check of the schema is at least as strict as reading, and points at the same place.**  An
error of reading is an issue at its location, or names a node that JSON cannot hold in what the
schema leaves open; a limit is met only at such a node.  So a document without issues is read. -/
theorem check_explains_conversion (document : Value) :
    (∀ e, Object.ofValue document = .error e →
      (e.limit? = none ∧ ∃ issue ∈ check document, issue.location = e.location) ∨
      ∃ place ∈ openPlaces, ∃ v, document.reach? place = some v ∧
        v.RefusedWithin (Location.below "" place) e) ∧
    (∀ e limit, Object.ofValue document = .error e → e.limit? = some limit →
      ∃ place ∈ openPlaces, ∃ v node, document.reach? place = some v ∧
        v.Within (Location.below "" place) node e.location ∧ node.MeetsLimit limit) ∧
    (check document = [] → OpenIsConvertible document →
      ∃ o, Object.ofValue document = .ok o) := by
  refine ⟨Object.ofValue_failsWith document, fun e limit he hlimit => ?_, exists_ofValue_eq_ok⟩
  rcases Object.ofValue_failsWith document e he with
    ⟨hnone, -⟩ | ⟨place, hplace, v, hv, node, hnode, hrefused⟩
  · rw [hnone] at hlimit
    cases hlimit
  · exact ⟨place, hplace, v, node, hv, hnode, hrefused.meetsLimit hlimit⟩

/-- A document that is read, and one that is refused for a name in its second reference. -/
theorem check_explains_conversion_name :
    let document := fun name => Value.map [
      (.str "apiVersion", .str ApiGroup.apiVersion), (.str "kind", .str ApiGroup.kind),
      (.str "metadata", .map [(.str "name", .str "settings")]),
      (.str "spec", .map [
        (.str "references", .list [.map [],
          .map [(.str "dependsOn", .map [(.str "name", name)])]]),
        (.str "forProvider", .map [(.str "manifest", .map [])])])]
    (∃ o, Object.ofValue (document (.str "source")) = .ok o) ∧
      ∃ issue ∈ check (document (.int 1)),
        issue.location = "spec.references[1].dependsOn.name" := by
  intro document
  have hcheck : check (document (.str "source")) = [] := by rfl
  have hjson : (document (.str "source")).isJson = true := rfl
  have herror : Object.ofValue (document (.int 1)) =
      .error ⟨"spec.references[1].dependsOn.name", .expected "string" "int"⟩ := by rfl
  obtain ⟨-, -, hread⟩ := check_explains_conversion (document (.str "source"))
  refine ⟨hread hcheck (openIsConvertible_of_isJson hjson), ?_⟩
  obtain ⟨hissue, -, -⟩ := check_explains_conversion (document (.int 1))
  rcases hissue _ herror with ⟨-, h⟩ | ⟨place, hplace, v, hv, node, -, hrefused⟩
  · exact h
  · cases hrefused

/-- A key that is no text but a number too long to be written out is not refused at its location:
naming it meets a limit. -/
theorem check_explains_conversion_long_key :
    let key := Value.int (Int.ofNat (Binary64.tenPow Limit.maxDigits))
    let document := Value.map [
      (.str "apiVersion", .str ApiGroup.apiVersion), (.str "kind", .str ApiGroup.kind),
      (.str "metadata", .map [(key, .bool true)]),
      (.str "spec", .map [(.str "forProvider", .map [(.str "manifest", .map [])])])]
    ∃ e, Object.ofValue document = .error e ∧ e.limit? = some .digits := by
  intro key document
  have hread : Object.ofValue document = .error ⟨"metadata", .keyNotText key⟩ := rfl
  have hlimit : key.limit? = some .digits := by decide +kernel
  exact ⟨_, hread, hlimit⟩

end ObjectSchema
end Patchwork
