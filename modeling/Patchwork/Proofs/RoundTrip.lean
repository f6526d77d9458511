import Patchwork.Object
import Patchwork.Proofs.Conversion

/-!
# Typed data reads back

What was read out of a document is written with defaults filled in and unset parts left out, and
reading that again gives the same.  For each type the statement is about what some reading gave,
since not every member of the type can be written: an empty `apiVersion`, say, reads as the default.

* `Reference.ofValue_toValue`, `ObjectSpec.ofValue_toValue`, `ObjectStatus.ofValue_toValue`,
  `Object.ofValue_toValue` — one statement for each type, from the parts to the whole.
* `roundTrips_document_types` — so every type round-trips, and normalising a document is idempotent.
-/

set_option autoImplicit false

namespace Patchwork

open Value

/-! ## References -/

namespace DependsOn

/-- What was read out of entries is read back, also with the path of a patch behind it. -/
theorem ofEntries_entries {location : Text} {es : List (Value × Value)} {d : DependsOn}
    (h : ofEntries location es = .ok d) (location' : Text) (path : Option Text) :
    ofEntries location' (d.entries ++ entryIfSome "fieldPath" .str path) = .ok d := by
  simp only [ofEntries, bind_eq_ok] at h
  obtain ⟨name, -, apiVersion, -, kind, -, ns, -, block, -, hd⟩ := h
  have hdefault : textOr ApiGroup.apiVersion (some d.apiVersion) = d.apiVersion ∧
      textOr ApiGroup.kind (some d.kind) = d.kind := by
    cases hd
    exact ⟨textOr_textOr _ _, textOr_textOr _ _⟩
  obtain ⟨written, hwritten⟩ : ∃ w, w = d.entries ++ entryIfSome "fieldPath" Value.str path :=
    ⟨_, rfl⟩
  have hname : lookup "name" written = (some d.name).map .str := by
    simp [hwritten, entries]
  have hapiVersion : lookup "apiVersion" written = (some d.apiVersion).map .str := by
    simp [hwritten, entries]
  have hkind : lookup "kind" written = (some d.kind).map .str := by
    simp [hwritten, entries]
  have hns : lookup "namespace" written =
      if d.ns.isEmpty then none else some (.str d.ns) := by
    simp [hwritten, entries, lookup_append]
  have hblock : lookup "blockOwnerDeletion" written = d.blockOwnerDeletion.map .bool := by
    simp [hwritten, entries, lookup_append]
  rw [← hwritten, ofEntries, optional_of_lookup Shape.reads_string hname,
    optional_of_lookup Shape.reads_string hapiVersion,
    optional_of_lookup Shape.reads_string hkind, optional_unlessEmpty hns,
    optional_of_lookup Shape.reads_boolean hblock]
  simp only [ok_bind, hdefault, getD_unlessEmpty]
  rfl

theorem ofValue_toValue {location : Text} {v : Value} {d : DependsOn}
    (h : ofValue location v = .ok d) (location' : Text) :
    ofValue location' d.toValue = .ok d := by
  simp only [ofValue, bind_eq_ok] at h
  obtain ⟨es, -, h⟩ := h
  have hread := ofEntries_entries h location' none
  rw [entryIfSome, List.append_nil] at hread
  exact hread

end DependsOn

theorem PatchesFrom.ofValue_toValue {location : Text} {v : Value} {p : PatchesFrom}
    (h : ofValue location v = .ok p) (location' : Text) :
    ofValue location' p.toValue = .ok p := by
  simp only [ofValue, bind_eq_ok] at h
  obtain ⟨es, -, d, hd, path, -, hp⟩ := h
  cases hp
  have hread := DependsOn.ofEntries_entries hd location' path
  have hpath : lookup "fieldPath" (d.entries ++ entryIfSome "fieldPath" Value.str path) =
      path.map .str := by
    simp [DependsOn.entries, lookup_append]
  simp only [ofValue, toValue, expect_object, ok_bind, hread,
    optional_of_lookup Shape.reads_string hpath]
  rfl

namespace Reference

theorem ofValue_toValue {location : Text} {v : Value} {r : Reference}
    (h : ofValue location v = .ok r) (location' : Text) :
    ofValue location' r.toValue = .ok r := by
  simp only [ofValue, bind_eq_ok] at h
  obtain ⟨es, -, dependsOn, hdependsOn, patchesFrom, hpatchesFrom, toFieldPath, -, hr⟩ := h
  cases hr
  obtain ⟨written, hwritten⟩ : ∃ w, w = entryIfSome "dependsOn" DependsOn.toValue dependsOn ++
      entryIfSome "patchesFrom" PatchesFrom.toValue patchesFrom ++
      entryIfSome "toFieldPath" Value.str toFieldPath := ⟨_, rfl⟩
  have hd : lookup "dependsOn" written = dependsOn.map (·.toValue) := by
    simp [hwritten, lookup_append]
  have hp : lookup "patchesFrom" written = patchesFrom.map (·.toValue) := by
    simp [hwritten, lookup_append]
  have ht : lookup "toFieldPath" written = toFieldPath.map .str := by
    simp [hwritten, lookup_append]
  have hreadD := optionalWith_of_lookup (fun _ => Value.noConfusion) hd fun d hsome =>
    DependsOn.ofValue_toValue (optionalWith_eq_some hdependsOn hsome)
      (Location.part location' "dependsOn")
  have hreadP := optionalWith_of_lookup (fun _ => Value.noConfusion) hp fun p hsome =>
    PatchesFrom.ofValue_toValue (optionalWith_eq_some hpatchesFrom hsome)
      (Location.part location' "patchesFrom")
  simp only [ofValue, toValue, expect_object, ← hwritten, ok_bind, hreadD, hreadP,
    optional_of_lookup Shape.reads_string ht]
  rfl

/-- References that were read out of an array read back, each at any place. -/
theorem ofValue_toValue_of_mem {location : Text} {i : Nat} {items : List Value}
    {references : List Reference} (h : convertItems location ofValue i items = .ok references) :
    ∀ r ∈ references, ∀ location', ofValue location' r.toValue = .ok r := by
  intro r hr location'
  obtain ⟨_, _, -, hread⟩ := exists_of_mem_convertItems h r hr
  exact ofValue_toValue hread location'

end Reference

/-! ## Manifests and status -/

/-- A manifest that was read is written and read back, whether it is left out when empty or not. -/
theorem manifestOf_of_lookup {location : Text} {v : Value} {manifest : List (Value × Value)}
    (h : manifestOf location v = .ok manifest) {es : List (Value × Value)}
    (hes : lookup "manifest" es = some (.map manifest) ∨
      (lookup "manifest" es = none ∧ manifest = [])) (location' : Text) :
    manifestOf location' (.map es) = .ok manifest := by
  simp only [manifestOf, bind_eq_ok] at h
  obtain ⟨fields, -, raw, -, hcopy⟩ := h
  have hread : ∃ a : Option (List (Value × Value)), a.getD [] = manifest ∧
      Value.optional es "manifest" Shape.object location' = .ok a := by
    rcases hes with hsome | ⟨hnone, rfl⟩
    · exact ⟨some manifest, rfl, optional_of_lookup Shape.reads_object hsome location'⟩
    · exact ⟨none, rfl, optional_of_lookup Shape.reads_object hnone location'⟩
  obtain ⟨a, ha, hread⟩ := hread
  rw [manifestOf, expect_object, ok_bind, hread, ok_bind, ha]
  exact unstructuredEntries_of_entriesJson manifest _ (entriesJson_of_unstructured _ hcopy)

theorem ObjectParameters.ofValue_toValue {location : Text} {v : Value} {p : ObjectParameters}
    (h : ofValue location v = .ok p) (location' : Text) :
    ofValue location' p.toValue = .ok p := by
  simp only [ofValue, bind_eq_ok] at h
  obtain ⟨manifest, hmanifest, hp⟩ := h
  cases hp
  rw [ofValue, toValue, manifestOf_of_lookup hmanifest (.inl (by simp))]
  rfl

theorem ObjectObservation.ofValue_toValue {location : Text} {v : Value} {o : ObjectObservation}
    (h : ofValue location v = .ok o) (location' : Text) :
    ofValue location' o.toValue = .ok o := by
  simp only [ofValue, bind_eq_ok] at h
  obtain ⟨manifest, hmanifest, ho⟩ := h
  cases ho
  rw [ofValue, toValue, manifestOf_of_lookup hmanifest]
  · rfl
  · cases manifest with
    | nil => exact .inr ⟨rfl, rfl⟩
    | cons entry rest => exact .inl (by simp [entries])

theorem ObjectObservation.eq_of_isEmpty {o : ObjectObservation} (h : o.entries.isEmpty = true) :
    o = {} := by
  obtain ⟨manifest⟩ := o
  cases manifest with
  | nil => rfl
  | cons entry rest => cases h

theorem Condition.ofValue_toValue (c : Condition) (location : Text) :
    ofValue location c.toValue = .ok c := by
  obtain ⟨written, hwritten⟩ : ∃ w, w = [(.str "type", .str c.type), (.str "status", .str c.status)]
      ++ entryUnlessEmpty "reason" c.reason ++ entryUnlessEmpty "message" c.message
      ++ entryUnlessEmpty "lastTransitionTime" c.lastTransitionTime := ⟨_, rfl⟩
  have htype : lookup "type" written = (some c.type).map .str := by
    simp [hwritten]
  have hstatus : lookup "status" written = (some c.status).map .str := by
    simp [hwritten]
  have hreason : lookup "reason" written =
      if c.reason.isEmpty then none else some (.str c.reason) := by
    simp [hwritten, lookup_append]
  have hmessage : lookup "message" written =
      if c.message.isEmpty then none else some (.str c.message) := by
    simp [hwritten, lookup_append]
  have htime : lookup "lastTransitionTime" written =
      if c.lastTransitionTime.isEmpty then none else some (.str c.lastTransitionTime) := by
    simp [hwritten, lookup_append]
  rw [toValue, ← hwritten]
  simp only [ofValue, expect_object, ok_bind]
  rw [optional_of_lookup Shape.reads_string htype, optional_of_lookup Shape.reads_string hstatus,
    optional_unlessEmpty hreason, optional_unlessEmpty hmessage, optional_unlessEmpty htime]
  simp only [ok_bind, getD_unlessEmpty]
  rfl

theorem ObjectStatus.ofValue_toValue {location : Text} {v : Value} {s : ObjectStatus}
    (h : ofValue location v = .ok s) (location' : Text) :
    ofValue location' s.toValue = .ok s := by
  simp only [ofValue, bind_eq_ok] at h
  obtain ⟨es, -, _, -, atProvider, hatProvider, conditions, -, hs⟩ := h
  obtain ⟨_, hobserved⟩ := optionalWith_getD hatProvider rfl
  have hobserved := ObjectObservation.ofValue_toValue hobserved
    (Location.part location' "atProvider")
  have hconditions := convertItems_map (fun c (_ : c ∈ conditions) => Condition.ofValue_toValue c)
    (Location.part location' "conditions") 0
  obtain ⟨written, hwritten⟩ : ∃ w, w = s.entries := ⟨_, rfl⟩
  have hlookupC : lookup "conditions" written =
      if (conditions.map (·.toValue)).isEmpty then none
      else some (.list (conditions.map (·.toValue))) := by
    cases hs
    simp [hwritten, entries, lookup_append]
  have hlookupA : lookup "atProvider" written =
      if (atProvider.getD {}).entries.isEmpty then none else some (atProvider.getD {}).toValue := by
    cases hs
    simp [hwritten, entries, lookup_append]
  obtain ⟨items, hitems, hgetD⟩ := optional_array_unlessEmpty hlookupC location'
  obtain ⟨observed, hread, hsame⟩ := optionalWith_unless (fun _ => Value.noConfusion) hlookupA
    ObjectObservation.eq_of_isEmpty hobserved
  cases hs
  simp only [ofValue, toValue, expect_object, ← hwritten, ok_bind, hitems, hread, hgetD,
    hconditions, hsame]
  rfl

/-! ## Spec -/

theorem DeletionPolicy.ofText_text (location : Text) (p : DeletionPolicy) :
    ofText location p.text = .ok p := by
  cases p <;> rfl

theorem ObjectSpec.policyOf_text (p : ManagementPolicy) : policyOf (some p.text) = p := by
  cases p <;> rfl

theorem SecretReference.ofEntries_entries (location : Text) (s : SecretReference) :
    ofEntries location s.entries = .ok s := by
  have hname : lookup "name" s.entries = (some s.name).map .str := by simp [entries]
  have hns : lookup "namespace" s.entries = (some s.ns).map .str := by simp [entries]
  rw [ofEntries, optional_of_lookup Shape.reads_string hname,
    optional_of_lookup Shape.reads_string hns]
  rfl

theorem SecretReference.mapM_entries (location : Text) (s : Option SecretReference) :
    (s.map (·.entries)).mapM (ofEntries location) = .ok s := by
  cases s with
  | none => rfl
  | some s => rw [Option.map_some, Option.mapM_some, ofEntries_entries, map_ok]

theorem ObjectSpec.ofValue_toValue {location : Text} {v : Value} {s : ObjectSpec}
    (h : ofValue location v = .ok s) (location' : Text) :
    ofValue location' s.toValue = .ok s := by
  simp only [ofValue, bind_eq_ok] at h
  obtain ⟨es, -, _, -, policy, -, _, -, deletionPolicy, -, _, -, _, -, forProvider, hforProvider,
    references, hreferences, providerConfig, -, secret, -, hs⟩ := h
  obtain ⟨_, hdesired⟩ := optionalWith_getD hforProvider rfl
  obtain ⟨written, hwritten⟩ : ∃ w, s.toValue = .map w := ⟨_, rfl⟩
  have hreferencesW : lookup "references" written =
      if (references.map (·.toValue)).isEmpty then none
      else some (.list (references.map (·.toValue))) := by
    cases hs; cases hwritten
    simp [lookup_append]
  have hpolicyW : lookup "managementPolicy" written =
      (some (s.managementPolicy.text : Text)).map .str := by
    cases hwritten
    simp
  have hdeletionW : lookup "deletionPolicy" written =
      (some (s.deletionPolicy.text : Text)).map .str := by
    cases hwritten
    simp
  have hproviderW : lookup "providerConfigRef" written =
      (some [(.str "name", .str s.providerConfig)]).map .map := by
    cases hwritten
    simp
  have hsecretW : lookup "writeConnectionSecretToRef" written =
      (s.connectionSecret.map (·.entries)).map .map := by
    cases hwritten
    simp [lookup_append, Function.comp_def, SecretReference.toValue]
  have hforProviderW : lookup "forProvider" written =
      (some (forProvider.getD {})).map (·.toValue) := by
    cases hs; cases hwritten
    simp [lookup_append]
  obtain ⟨items, hitems, hgetD⟩ := optional_array_unlessEmpty hreferencesW location'
  have hitemsR := convertItems_map (Reference.ofValue_toValue_of_mem hreferences)
    (Location.part location' "references") 0
  have hforProviderR := optionalWith_of_lookup (fun _ => Value.noConfusion) hforProviderW
    fun p hp => by
      cases hp
      exact ObjectParameters.ofValue_toValue hdesired (Location.part location' "forProvider")
  have hname : lookup "name" [(.str "name", .str s.providerConfig)] =
      (some s.providerConfig).map .str := by simp
  simp only [ofValue, hwritten, expect_object, ok_bind, hitems, hgetD, hitemsR,
    hforProviderR, optional_of_lookup Shape.reads_string hpolicyW,
    optional_of_lookup Shape.reads_string hdeletionW,
    optional_of_lookup Shape.reads_object hproviderW,
    optional_of_lookup Shape.reads_object hsecretW, Option.getD_some,
    optional_of_lookup Shape.reads_string hname, DeletionPolicy.ofText_text, policyOf_text,
    SecretReference.mapM_entries]
  cases hs
  rfl

/-! ## The Object -/

theorem ObjectStatus.eq_of_isEmpty {s : ObjectStatus} (h : s.entries.isEmpty = true) : s = {} := by
  obtain ⟨o, conditions⟩ := s
  simp only [entries, List.isEmpty_iff, List.append_eq_nil_iff] at h
  obtain ⟨hconditions, hobserved⟩ := h
  have ho : o.entries.isEmpty = true := by
    cases hne : o.entries with
    | nil => rfl
    | cons entry rest => simp [hne] at hobserved
  rw [ObjectObservation.eq_of_isEmpty ho]
  cases conditions with
  | nil => rfl
  | cons c rest => simp at hconditions

/-- **An Object that was read out of a document is written and read back as it is.** -/
theorem Object.ofValue_toValue {v : Value} {o : Object} (h : ofValue v = .ok o) :
    ofValue o.toValue = .ok o := by
  simp only [ofValue, bind_eq_ok] at h
  obtain ⟨es, -, _, -, metadata, hmetadata, spec, hspec, status, hstatus, _, -, _, -, ho⟩ := h
  obtain ⟨_, hdesired⟩ := optionalWith_getD hspec rfl
  have hdesired := ObjectSpec.ofValue_toValue hdesired ObjectSpec.defaultLocation
  obtain ⟨_, hobserved⟩ := optionalWith_getD hstatus rfl
  have hobserved := ObjectStatus.ofValue_toValue hobserved ObjectStatus.defaultLocation
  have hcopy := unstructuredEntries_of_entriesJson metadata "metadata"
    (entriesJson_of_unstructured _ hmetadata)
  obtain ⟨written, hwritten⟩ : ∃ w, o.toValue = .map w := ⟨_, rfl⟩
  have hmetadataW : lookup "metadata" written = (some metadata).map .map := by
    cases ho; cases hwritten
    simp
  have hspecW : lookup "spec" written = (some (spec.getD {})).map (·.toValue) := by
    cases ho; cases hwritten
    simp
  have hstatusW : lookup "status" written =
      if (status.getD {}).entries.isEmpty then none else some (status.getD {}).toValue := by
    cases ho; cases hwritten
    simp
  have hapiVersionW : lookup "apiVersion" written = (some o.apiVersion).map .str := by
    cases hwritten
    simp
  have hkindW : lookup "kind" written = (some o.kind).map .str := by
    cases hwritten
    simp
  have hspecR := optionalWith_of_lookup (fun _ => Value.noConfusion) hspecW
    fun s hs => by
      cases hs
      exact hdesired
  obtain ⟨_, hstatusR, hsame⟩ := optionalWith_unless (fun _ => Value.noConfusion) hstatusW
    ObjectStatus.eq_of_isEmpty hobserved
  simp only [ofValue, hwritten, expect_object, ok_bind, Option.getD_some, hcopy, hspecR, hstatusR,
    hsame, optional_of_lookup Shape.reads_object hmetadataW,
    optional_of_lookup Shape.reads_string hapiVersionW,
    optional_of_lookup Shape.reads_string hkindW]
  cases ho
  rfl

/-! ## Normal forms -/

/-- What is read is written in a form that reads back as it is, wherever that form stands, and that
is its own normal form. -/
structure RoundTrips {α : Type} (read : Text → Value → Except ConversionError α)
    (write : α → Value) : Prop where
  reads_back : ∀ {location v a}, read location v = .ok a →
    ∀ location', read location' (write a) = .ok a
  normal : ∀ {location v w}, write <$> read location v = .ok w →
    ∀ location', write <$> read location' w = .ok w

theorem RoundTrips.of_reads_back {α : Type} {read : Text → Value → Except ConversionError α}
    {write : α → Value} (h : ∀ {location v a}, read location v = .ok a →
      ∀ location', read location' (write a) = .ok a) : RoundTrips read write where
  reads_back := h
  normal := by
    intro location v w hw location'
    obtain ⟨a, ha, rfl⟩ := map_eq_ok.1 hw
    rw [h ha location', map_ok]

/-- **Every type of the document form round-trips**: what was read out of some document is written
and read back as it is, and writing that again changes nothing. -/
theorem roundTrips_document_types :
    RoundTrips (fun _ => Object.ofValue) Object.toValue ∧
      RoundTrips ObjectSpec.ofValue ObjectSpec.toValue ∧
      RoundTrips ObjectStatus.ofValue ObjectStatus.toValue ∧
      RoundTrips Reference.ofValue Reference.toValue ∧
      RoundTrips DependsOn.ofValue DependsOn.toValue ∧
      RoundTrips PatchesFrom.ofValue PatchesFrom.toValue ∧
      RoundTrips ObjectParameters.ofValue ObjectParameters.toValue ∧
      RoundTrips ObjectObservation.ofValue ObjectObservation.toValue ∧
      RoundTrips Condition.ofValue Condition.toValue := by
  refine ⟨.of_reads_back ?_, .of_reads_back ?_, .of_reads_back ?_, .of_reads_back ?_,
    .of_reads_back ?_, .of_reads_back ?_, .of_reads_back ?_, .of_reads_back ?_, .of_reads_back ?_⟩
  · intro _ v o h _
    exact Object.ofValue_toValue h
  · exact ObjectSpec.ofValue_toValue
  · exact ObjectStatus.ofValue_toValue
  · exact Reference.ofValue_toValue
  · exact DependsOn.ofValue_toValue
  · exact PatchesFrom.ofValue_toValue
  · exact ObjectParameters.ofValue_toValue
  · exact ObjectObservation.ofValue_toValue
  · intro _ v c _ location
    exact Condition.ofValue_toValue c location

/-- A spec with an unknown policy and an empty `apiVersion` is not written as it was read, but its
normal form is. -/
theorem roundTrips_document_types_unknown :
    let given := Value.map [(.str "managementPolicy", .str "Never"),
      (.str "references", .list [.map [(.str "dependsOn", .map [
        (.str "apiVersion", .str ""), (.str "name", .str "source"), (.str "kind", .null)])]])]
    let normal := Value.map [(.str "deletionPolicy", .str "Delete"),
      (.str "providerConfigRef", .map [(.str "name", .str "default")]),
      (.str "managementPolicy", .str "Unknown"),
      (.str "references", .list [.map [(.str "dependsOn", .map [
        (.str "apiVersion", .str ApiGroup.apiVersion), (.str "kind", .str ApiGroup.kind),
        (.str "name", .str "source")])]]),
      (.str "forProvider", .map [(.str "manifest", .map [])])]
    ObjectSpec.toValue <$> ObjectSpec.ofValue "spec" given = .ok normal ∧
      ObjectSpec.toValue <$> ObjectSpec.ofValue "other" normal = .ok normal := by
  intro given normal
  have hgiven : ObjectSpec.toValue <$> ObjectSpec.ofValue "spec" given = .ok normal := rfl
  obtain ⟨-, hspec, -⟩ := roundTrips_document_types
  exact ⟨hgiven, hspec.normal hgiven "other"⟩

end Patchwork
