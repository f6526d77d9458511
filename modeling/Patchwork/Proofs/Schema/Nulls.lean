import Mathlib.Data.List.Forall2
import Mathlib.Logic.Relation
import Patchwork.Proofs.Schema.Conversion

/-!
# Null entries

Null counts as absent: a null entry can be dropped without a difference for the check of a schema or
for reading, outside of what the schema of Object documents leaves open.  Both laws are about one
entry that is dropped, and carry over to any number of them.

* `Value.DropsNull` — a value with one null entry dropped somewhere outside of the open places, or
  the value itself.
* `Value.EntriesDropNull` — how the entries of a map then compare, key by key, with one lemma for
  each way of reading an entry.
* `Schema.check_dropsNull` — the check of a schema finds the same issues, if the schema lists
  allowed values for texts only.
* `Reference.ofValue_dropsNull`, `ObjectSpec.ofValue_dropsNull`, `ObjectStatus.ofValue_dropsNull`,
  `Object.ofValue_dropsNull` — reading each type gives the same.
* `ObjectSchema.null_is_absent` — the two laws for any set of null entries.
-/

set_option autoImplicit false

namespace Patchwork

open Value

variable {isOpen : FieldPath → Prop} {v w : Value} {es fs : List (Value × Value)}
  {key location : Text}

/-! ## Dropping an entry -/

/-- No map, array or tuple has the shape. -/
structure Value.Shape.IsScalar {α : Type} (shape : Shape α) : Prop where
  map : ∀ entries, shape.ofValue? (.map entries) = none
  list : ∀ items, shape.ofValue? (.list items) = none
  tuple : ∀ items, shape.ofValue? (.tuple items) = none

theorem Value.Shape.isScalar_string : Shape.string.IsScalar :=
  ⟨fun _ => rfl, fun _ => rfl, fun _ => rfl⟩

theorem Value.Shape.isScalar_boolean : Shape.boolean.IsScalar :=
  ⟨fun _ => rfl, fun _ => rfl, fun _ => rfl⟩

namespace Value

/-- The open places of a map, as seen from the entry under a key. -/
def openBelow (isOpen : FieldPath → Prop) : Value → FieldPath → Prop
  | .str text, rest => isOpen (.field text :: rest)
  | _, _ => False

instance [DecidablePred isOpen] (key : Value) : DecidablePred (openBelow isOpen key) := fun rest =>
  match key with
  | .str text => inferInstanceAs (Decidable (isOpen (.field text :: rest)))
  | .null | .bool _ | .int _ | .float _ | .list _ | .tuple _ | .map _ | .date _ | .datetime _
  | .bytes _ | .set _ | .endless => instDecidableFalse

/-- `DropsNull isOpen v w`: the value `w` is `v`, or `v` with one null entry dropped in a map that
neither is an open place nor lies inside one.  A map has each key once, so nothing else stands under
the key of the entry. -/
inductive DropsNull : (FieldPath → Prop) → Value → Value → Prop where
  | same {isOpen : FieldPath → Prop} (v : Value) : DropsNull isOpen v v
  | drop {isOpen : FieldPath → Prop} {before after : List (Value × Value)} {key : Value}
      (hopen : ¬ isOpen []) (honce : ∀ text, key = .str text → lookup text after = none) :
      DropsNull isOpen (.map (before ++ (key, .null) :: after)) (.map (before ++ after))
  | entry {isOpen : FieldPath → Prop} {before after : List (Value × Value)} {key v w : Value}
      (hopen : ¬ isOpen []) (h : DropsNull (openBelow isOpen key) v w) :
      DropsNull isOpen (.map (before ++ (key, v) :: after)) (.map (before ++ (key, w) :: after))
  | item {isOpen : FieldPath → Prop} {before after : List Value} {v w : Value}
      (hopen : ¬ isOpen [])
      (h : DropsNull (fun rest => isOpen (.index before.length :: rest)) v w) :
      DropsNull isOpen (.list (before ++ v :: after)) (.list (before ++ w :: after))
  | tupleItem {isOpen : FieldPath → Prop} {before after : List Value} {v w : Value}
      (hopen : ¬ isOpen []) (h : DropsNull (fun _ => False) v w) :
      DropsNull isOpen (.tuple (before ++ v :: after)) (.tuple (before ++ w :: after))

namespace DropsNull

theorem eq_of_open (h : DropsNull isOpen v w) (hopen : isOpen []) : v = w := by
  cases h with
  | same => rfl
  | drop h | entry h | item h | tupleItem h => exact absurd hopen h

theorem eq_null_iff (h : DropsNull isOpen v w) : v = .null ↔ w = .null := by
  cases h with
  | same => exact Iff.rfl
  | drop | entry | item | tupleItem => exact ⟨Value.noConfusion, Value.noConfusion⟩

theorem isNull_eq (h : DropsNull isOpen v w) : v.isNull = w.isNull := by
  cases h <;> rfl

/-- Kinds of values that are neither maps, arrays nor tuples are read as they were. -/
theorem expect_scalar {α : Type} {shape : Shape α} (h : DropsNull isOpen v w)
    (hshape : shape.IsScalar) (location : Text) :
    expect shape location v = expect shape location w := by
  obtain ⟨hmap, hlist, htuple⟩ := hshape
  cases h with
  | same => rfl
  | drop | entry | item | tupleItem => simp only [expect, hmap, hlist, htuple, kindName]

end DropsNull

/-! ## The entries of a map -/

/-- Under every key of two maps stands the same, or the same with a null entry dropped in it.
Null stands under a key that is absent. -/
def EntriesDropNull (isOpen : FieldPath → Prop) (es fs : List (Value × Value)) : Prop :=
  ∀ key, DropsNull (openBelow isOpen (.str key)) (field es key) (field fs key)

theorem field_append (es fs : List (Value × Value)) (key : Text) :
    field (es ++ fs) key = (lookup key es).getD (field fs key) := by
  rw [field, fieldOr, lookup_append]
  cases lookup key es <;> rfl

theorem field_cons_self (key : Text) (v : Value) (es : List (Value × Value)) :
    field ((.str key, v) :: es) key = v := by
  rw [field, fieldOr, lookup_cons, if_pos rfl, Option.getD_some]

theorem field_cons_of_ne {k : Value} (h : k ≠ .str key) (v : Value) (es : List (Value × Value)) :
    field ((k, v) :: es) key = field es key := by
  cases k
  case str text =>
    have hne : text ≠ key := fun heq => h (congrArg Value.str heq)
    rw [field, fieldOr, lookup_cons, if_neg hne]
    rfl
  all_goals rfl

/-- What becomes of a map. -/
theorem DropsNull.map (h : DropsNull isOpen (.map es) w) :
    ∃ fs, w = .map fs ∧ EntriesDropNull isOpen es fs := by
  cases h with
  | same => exact ⟨es, rfl, fun key => .same _⟩
  | @drop _ before after k hopen honce =>
    refine ⟨_, rfl, fun key => ?_⟩
    have hfield : field ((k, .null) :: after) key = field after key := by
      by_cases hk : k = .str key
      · rw [hk, field_cons_self, field, fieldOr, honce key hk]
        rfl
      · rw [field_cons_of_ne hk]
    rw [field_append, field_append, hfield]
    exact .same _
  | @entry _ before after k v w hopen h =>
    refine ⟨_, rfl, fun key => ?_⟩
    rw [field_append, field_append]
    cases lookup key before with
    | some u => exact .same u
    | none =>
      by_cases hk : k = .str key
      · subst hk
        rw [field_cons_self, field_cons_self]
        exact h
      · rw [field_cons_of_ne hk, field_cons_of_ne hk]
        exact .same _

/-! ## The items of an array -/

/-- The items of two arrays are the same, place by place, or the same with a null entry dropped in
them. -/
def ItemsDropNull : List Value → List Value → Prop :=
  List.Forall₂ fun v w => ∃ isOpen, DropsNull isOpen v w

theorem itemsDropNull_same (items : List Value) : ItemsDropNull items items :=
  List.forall₂_same.2 fun v _ => ⟨fun _ => False, .same v⟩

theorem DropsNull.list {items : List Value} (h : DropsNull isOpen (.list items) w) :
    ∃ others, w = .list others ∧ ItemsDropNull items others := by
  cases h with
  | same => exact ⟨items, rfl, itemsDropNull_same items⟩
  | @item _ before after v w hopen h =>
    exact ⟨_, rfl, List.rel_append (itemsDropNull_same before) (.cons ⟨_, h⟩
      (itemsDropNull_same after))⟩

/-- Items that are read as they were are read so in an array. -/
theorem ItemsDropNull.convertItems_eq {α : Type} {items others : List Value}
    (h : ItemsDropNull items others) {convert : Text → Value → Except ConversionError α}
    (hconvert : ∀ {isOpen v w} location, DropsNull isOpen v w →
      convert location v = convert location w) (location : Text) (i : Nat) :
    convertItems location convert i items = convertItems location convert i others := by
  induction h generalizing i with
  | nil => rfl
  | cons hitem _ ih =>
    obtain ⟨_, hitem⟩ := hitem
    rw [convertItems, convertItems, hconvert _ hitem, ih]

/-! ## Reading -/

theorem DropsNull.expect_object (h : DropsNull isOpen v w) (location : Text) :
    Agree (EntriesDropNull isOpen) (expect .object location v) (expect .object location w) := by
  cases v
  case map es =>
    obtain ⟨fs, rfl, hfs⟩ := h.map
    exact .ok hfs
  all_goals cases h <;> exact .error _

theorem DropsNull.expect_array (h : DropsNull isOpen v w) (location : Text) :
    Agree ItemsDropNull (expect .array location v) (expect .array location w) := by
  cases v
  case list items =>
    obtain ⟨others, rfl, hothers⟩ := h.list
    exact .ok hothers
  all_goals cases h <;> exact .error _

/-- A map is read as it was, if what is read of its entries is. -/
theorem DropsNull.expect_object_bind {α : Type}
    {f : List (Value × Value) → Except ConversionError α}
    (h : DropsNull isOpen v w) (hf : ∀ {es fs}, EntriesDropNull isOpen es fs → f es = f fs) :
    (expect .object location v >>= f) = (expect .object location w >>= f) :=
  ((h.expect_object location).bind fun _ _ hes => hf hes ▸ Agree.refl _).eq

namespace EntriesDropNull

variable {α : Type}

/-- What is read under a key compares as it does where it stands. -/
theorem agree (h : EntriesDropNull isOpen es fs) {R : α → α → Prop}
    {convert : Value → Except ConversionError α} (key : Text)
    (hconvert : ∀ {v w}, DropsNull (openBelow isOpen (.str key)) v w →
      Agree R (convert v) (convert w)) :
    Agree (Option.Rel R) (optionalWith es key convert) (optionalWith fs key convert) := by
  by_cases hnull : field es key = .null
  · rw [optionalWith_of_field_eq_null hnull,
      optionalWith_of_field_eq_null ((h key).eq_null_iff.1 hnull)]
    exact .ok .none
  · rw [optionalWith_of_field_ne_null hnull,
      optionalWith_of_field_ne_null (mt (h key).eq_null_iff.2 hnull)]
    exact (hconvert (h key)).map fun _ _ => .some

theorem object (h : EntriesDropNull isOpen es fs) (key location : Text) :
    Agree (Option.Rel (EntriesDropNull (openBelow isOpen (.str key))))
      (optional es key .object location) (optional fs key .object location) :=
  h.agree key fun h => h.expect_object _

theorem array (h : EntriesDropNull isOpen es fs) (key location : Text) :
    Agree (Option.Rel ItemsDropNull)
      (optional es key .array location) (optional fs key .array location) :=
  h.agree key fun h => h.expect_array _

theorem optionalWith_eq (h : EntriesDropNull isOpen es fs)
    {convert : Value → Except ConversionError α} (key : Text)
    (hconvert : ∀ {v w}, DropsNull (openBelow isOpen (.str key)) v w → convert v = convert w) :
    optionalWith es key convert = optionalWith fs key convert := by
  refine ((h.agree (R := (· = ·)) key fun h => hconvert h ▸ Agree.refl _).imp ?_).eq
  rintro _ _ (rfl | _) <;> rfl

theorem text (h : EntriesDropNull isOpen es fs) (key location : Text) :
    optional es key .string location = optional fs key .string location :=
  h.optionalWith_eq key fun h => h.expect_scalar Shape.isScalar_string _

theorem truth (h : EntriesDropNull isOpen es fs) (key location : Text) :
    optional es key .boolean location = optional fs key .boolean location :=
  h.optionalWith_eq key fun h => h.expect_scalar Shape.isScalar_boolean _

/-- A map at an open place is read as it was. -/
theorem openObject (h : EntriesDropNull isOpen es fs) {key : Text}
    (hopen : isOpen [.field key]) (location : Text) :
    optional es key .object location = optional fs key .object location :=
  h.optionalWith_eq key fun h => by rw [h.eq_of_open hopen]

end EntriesDropNull
end Value

/-! ## The types of the document form -/

theorem DependsOn.ofEntries_dropsNull (h : EntriesDropNull isOpen es fs) (location : Text) :
    ofEntries location es = ofEntries location fs := by
  simp only [ofEntries, h.text, h.truth]

theorem DependsOn.ofValue_dropsNull (location : Text) (h : DropsNull isOpen v w) :
    ofValue location v = ofValue location w :=
  h.expect_object_bind fun hes => ofEntries_dropsNull hes location

theorem PatchesFrom.ofValue_dropsNull (location : Text) (h : DropsNull isOpen v w) :
    ofValue location v = ofValue location w :=
  h.expect_object_bind fun hes => by
    simp only [DependsOn.ofEntries_dropsNull hes, hes.text]

theorem Reference.ofValue_dropsNull (location : Text) (h : DropsNull isOpen v w) :
    ofValue location v = ofValue location w :=
  h.expect_object_bind fun hes => by
    simp only [hes.text, hes.optionalWith_eq "dependsOn" (DependsOn.ofValue_dropsNull _),
      hes.optionalWith_eq "patchesFrom" (PatchesFrom.ofValue_dropsNull _)]

theorem Condition.ofValue_dropsNull (location : Text) (h : DropsNull isOpen v w) :
    ofValue location v = ofValue location w :=
  h.expect_object_bind fun hes => by simp only [hes.text]

theorem manifestOf_dropsNull (hopen : isOpen [.field "manifest"]) (location : Text)
    (h : DropsNull isOpen v w) : manifestOf location v = manifestOf location w :=
  h.expect_object_bind fun hes => by simp only [hes.openObject hopen]

theorem SecretReference.ofEntries_dropsNull (h : EntriesDropNull isOpen es fs) (location : Text) :
    ofEntries location es = ofEntries location fs := by
  simp only [ofEntries, h.text]

/-- The items under a key, none where it is absent, are read as they were. -/
theorem convertItems_getD_dropsNull {α : Type} {items others : Option (List Value)}
    (h : Option.Rel ItemsDropNull items others)
    {convert : Text → Value → Except ConversionError α}
    (hconvert : ∀ {isOpen v w} location, DropsNull isOpen v w →
      convert location v = convert location w) (location : Text) :
    convertItems location convert 0 (items.getD []) =
      convertItems location convert 0 (others.getD []) := by
  cases h with
  | none => rfl
  | some h => exact h.convertItems_eq hconvert location 0

theorem ObjectParameters.ofValue_dropsNull (hopen : isOpen [.field "manifest"]) (location : Text)
    (h : DropsNull isOpen v w) : ofValue location v = ofValue location w := by
  rw [ofValue, manifestOf_dropsNull hopen location h]
  rfl

theorem ObjectObservation.ofValue_dropsNull (hopen : isOpen [.field "manifest"])
    (location : Text) (h : DropsNull isOpen v w) : ofValue location v = ofValue location w := by
  rw [ofValue, manifestOf_dropsNull hopen location h]
  rfl

theorem ObjectStatus.ofValue_dropsNull (hopen : isOpen [.field "atProvider", .field "manifest"])
    (location : Text) (h : DropsNull isOpen v w) : ofValue location v = ofValue location w := by
  refine h.expect_object_bind fun {es fs} hes => Agree.eq ?_
  refine (hes.array "conditions" location).bind fun items others hitems => ?_
  rw [hes.optionalWith_eq "atProvider" fun h => ObjectObservation.ofValue_dropsNull hopen _ h,
    convertItems_getD_dropsNull hitems Condition.ofValue_dropsNull]
  exact .refl _

theorem ObjectSpec.ofValue_dropsNull (hopen : isOpen [.field "forProvider", .field "manifest"])
    (location : Text) (h : DropsNull isOpen v w) : ofValue location v = ofValue location w := by
  refine h.expect_object_bind fun {es fs} hes => Agree.eq ?_
  refine (hes.array "references" location).bind fun items others hitems => ?_
  rw [hes.text]
  refine (Agree.refl _).bind fun policy _ hpolicy => ?_
  rw [hes.text, hpolicy]
  refine (Agree.refl _).bind fun deletion _ hdeletion => ?_
  rw [hdeletion]
  refine (Agree.refl _).bind fun deletionPolicy _ hdeletionPolicy => ?_
  refine (hes.object "providerConfigRef" location).bind fun provider provider' hprovider => ?_
  refine (hes.object "writeConnectionSecretToRef" location).bind fun secret secret' hsecret => ?_
  have hname : ∀ place, Value.optional (provider.getD []) "name" .string place =
      Value.optional (provider'.getD []) "name" .string place := by
    intro place
    cases hprovider with
    | none => rfl
    | some h => exact h.text _ _
  have hread : ∀ place, secret.mapM (SecretReference.ofEntries place) =
      secret'.mapM (SecretReference.ofEntries place) := by
    intro place
    cases hsecret with
    | none => rfl
    | some h => rw [Option.mapM_some, Option.mapM_some, SecretReference.ofEntries_dropsNull h]
  rw [hes.optionalWith_eq "forProvider" fun h => ObjectParameters.ofValue_dropsNull hopen _ h,
    convertItems_getD_dropsNull hitems Reference.ofValue_dropsNull, hname, hread, hdeletionPolicy]
  exact .refl _

/-- Reading an Object gives the same. -/
theorem Object.ofValue_dropsNull (h : DropsNull (· ∈ ObjectSchema.openPlaces) v w) :
    ofValue v = ofValue w := by
  refine h.expect_object_bind fun {es fs} hes => ?_
  rw [hes.openObject (by simp [ObjectSchema.openPlaces]),
    hes.optionalWith_eq "spec" fun h => ObjectSpec.ofValue_dropsNull
      (by simp [openBelow, ObjectSchema.openPlaces]) _ h,
    hes.optionalWith_eq "status" fun h => ObjectStatus.ofValue_dropsNull
      (by simp [openBelow, ObjectSchema.openPlaces]) _ h]
  simp only [hes.text]

/-! ## Schemas -/

namespace Schema

mutual

/-- The schema and those of its parts list allowed values for texts only. -/
def enumsOnTexts : Schema → Bool
  | ⟨type?, enum?, _, _, _, _, properties, items?, _, _, _⟩ =>
    (enum?.isNone || type? = some .string) && propertyEnumsOnTexts properties
      && itemEnumsOnTexts items?

def propertyEnumsOnTexts : List (Text × Schema) → Bool
  | [] => true
  | (_, schema) :: rest => enumsOnTexts schema && propertyEnumsOnTexts rest

def itemEnumsOnTexts : Option Schema → Bool
  | some schema => enumsOnTexts schema
  | none => true

end

variable {schema child : Schema}

theorem enumsOnTexts_eq (schema : Schema) :
    schema.enumsOnTexts = ((schema.enum?.isNone || schema.type? = some .string)
      && propertyEnumsOnTexts schema.properties && itemEnumsOnTexts schema.items?) := by
  cases schema
  rw [enumsOnTexts]

theorem enumsOnTexts_of_lookup {properties : List (Text × Schema)}
    (h : propertyEnumsOnTexts properties = true) (hchild : properties.lookup key = some child) :
    child.enumsOnTexts = true := by
  induction properties with
  | nil => cases hchild
  | cons property rest ih =>
    obtain ⟨name, schema⟩ := property
    simp only [propertyEnumsOnTexts, Bool.and_eq_true] at h
    rw [List.lookup_cons] at hchild
    split at hchild
    · cases hchild
      exact h.1
    · exact ih h.2 hchild

/-- Where a value that is no text fits, no allowed values are listed. -/
theorem enum?_eq_none (h : schema.enumsOnTexts = true) (hfits : schema.typeFits v = true)
    (htext : SchemaType.string.admits v = false) : schema.enum? = none := by
  simp only [enumsOnTexts_eq, Bool.and_eq_true, Bool.or_eq_true, Option.isNone_iff_eq_none,
    decide_eq_true_eq] at h
  rcases h.1.1 with hnone | hstring
  · exact hnone
  · rw [typeFits, hstring, Option.all_some, htext] at hfits
    cases hfits

/-- A value that fits has the same own faults, whatever null entries there are in it. -/
theorem ownFaults_dropsNull (h : schema.enumsOnTexts = true) (hfits : schema.typeFits v = true)
    (hdrops : DropsNull isOpen v w) : schema.ownFaults v = schema.ownFaults w := by
  cases hv : v
  case map es =>
    subst hv
    obtain ⟨fs, rfl, hfs⟩ := hdrops.map
    have hnull : ∀ key, (field es key).isNull = (field fs key).isNull := fun key =>
      (hfs key).isNull_eq
    simp only [ownFaults, enum?_eq_none h hfits rfl, hnull]
  all_goals
    subst hv
    cases hdrops <;> first | rfl | simp only [ownFaults, enum?_eq_none h hfits rfl]

theorem typeFits_dropsNull (schema : Schema) (h : DropsNull isOpen v w) :
    schema.typeFits v = schema.typeFits w := by
  unfold typeFits
  cases schema.type? with
  | none => rfl
  | some t => cases h <;> cases t <;> rfl

theorem typeFault_dropsNull (schema : Schema) (h : DropsNull isOpen v w) :
    schema.typeFault v = schema.typeFault w := by
  cases h <;> rfl

/-- The check finds the same issues, if it does in the parts. -/
theorem check_of_checkParts (h : schema.enumsOnTexts = true) (hdrops : DropsNull isOpen v w)
    (hparts : schema.checkParts location v = schema.checkParts location w) :
    schema.check location v = schema.check location w := by
  rw [check_eq, check_eq, ← typeFits_dropsNull schema hdrops, ← typeFault_dropsNull schema hdrops,
    hparts]
  split
  · rename_i hfits
    rw [ownFaults_dropsNull h hfits hdrops]
  · rfl

/-- **Dropping a null entry makes no difference for the check of a schema.** -/
theorem check_dropsNull (hdrops : DropsNull isOpen v w) (h : schema.enumsOnTexts = true)
    (location : Text) : schema.check location v = schema.check location w := by
  induction hdrops generalizing schema location with
  | same => rfl
  | @drop isOpen before after key hopen honce =>
    refine check_of_checkParts h (.drop hopen honce) ?_
    have hentry : checkEntries location schema.properties ((key, .null) :: after) =
        checkEntries location schema.properties after := by
      cases key
      case str text =>
        rw [checkEntries_cons]
        rfl
      all_goals rfl
    rw [checkParts, checkParts, checkEntries_append, checkEntries_append, hentry]
  | @entry isOpen before after key v w hopen hdrops ih =>
    refine check_of_checkParts h (.entry hopen hdrops) ?_
    rw [enumsOnTexts_eq, Bool.and_eq_true, Bool.and_eq_true] at h
    have hentry : checkEntries location schema.properties ((key, v) :: after) =
        checkEntries location schema.properties ((key, w) :: after) := by
      cases key
      case str text =>
        rw [checkEntries_cons, checkEntries_cons, hdrops.isNull_eq]
        cases hchild : schema.properties.lookup text with
        | none => rfl
        | some child =>
          rw [Option.elim_some, Option.elim_some, ih (enumsOnTexts_of_lookup h.1.2 hchild)]
      all_goals rfl
    rw [checkParts, checkParts, checkEntries_append, checkEntries_append, hentry]
  | @item isOpen before after v w hopen hdrops ih =>
    refine check_of_checkParts h (.item hopen hdrops) ?_
    rw [enumsOnTexts_eq, Bool.and_eq_true, Bool.and_eq_true] at h
    rw [checkParts, checkParts]
    cases hitems : schema.items? with
    | none => rfl
    | some child =>
      have hchild : child.enumsOnTexts = true := by
        rw [hitems] at h
        exact h.2
      rw [Option.elim_some, Option.elim_some, checkItems_append, checkItems_append, checkItems,
        checkItems, ih hchild]
  | tupleItem hopen hdrops => exact check_of_checkParts h (.tupleItem hopen hdrops) rfl

end Schema

/-! ## Any number of null entries -/

namespace ObjectSchema

theorem enumsOnTexts_schema : schema.enumsOnTexts = true := rfl

/-- **Null means absent.**  The check of the schema and reading give the same when any number of
null entries are dropped, wherever they stand outside of the metadata and the manifests. -/
theorem null_is_absent {document other : Value}
    (h : Relation.ReflTransGen (DropsNull (· ∈ openPlaces)) document other) :
    check other = check document ∧ Object.ofValue other = Object.ofValue document := by
  induction h with
  | refl => exact ⟨rfl, rfl⟩
  | tail _ hstep ih =>
    obtain ⟨hcheck, hread⟩ := ih
    exact ⟨(Schema.check_dropsNull hstep enumsOnTexts_schema "").symm.trans hcheck,
      (Object.ofValue_dropsNull hstep).symm.trans hread⟩

/-- A null policy, and a null kind in a reference, can be dropped; the null entry of the metadata
stays, and so does the null item, which is refused either way. -/
theorem null_is_absent_kind :
    let head := [(.str "apiVersion", .str ApiGroup.apiVersion), (.str "kind", .str ApiGroup.kind),
      (.str "metadata", .map [(.str "labels", .null)])]
    let document := fun policy kind => Value.map (head ++ (.str "spec", .map ([] ++ (policy ++
      [(.str "references", .list ([] ++ .map ([] ++ (.str "dependsOn", .map
        ([(.str "name", .str "source")] ++ (kind ++ []))) :: []) :: [.null])),
      (.str "forProvider", .map [(.str "manifest", .map [])])]))) :: [])
    let given := document [(.str "managementPolicy", .null)] [(.str "kind", .null)]
    check (document [] []) = check given ∧ (check given).map (·.location) = ["spec.references[1]"] ∧
      Object.ofValue (document [] []) = Object.ofValue given := by
  intro head document given
  have hpolicy : DropsNull (· ∈ openPlaces) given (document [] [(.str "kind", .null)]) :=
    .entry (by decide) (.drop (by decide) (by simp))
  have hkind : DropsNull (· ∈ openPlaces) (document [] [(.str "kind", .null)]) (document [] []) :=
    .entry (by decide) (.entry (by decide) (.item (by decide)
      (.entry (by decide) (.drop (by decide) (by simp)))))
  have hdrops : Relation.ReflTransGen (DropsNull (· ∈ openPlaces)) given (document [] []) :=
    .tail (.single hpolicy) hkind
  obtain ⟨hcheck, hread⟩ := null_is_absent hdrops
  exact ⟨hcheck, rfl, hread⟩

end ObjectSchema
end Patchwork
