import Patchwork.Proofs.Schema
import Patchwork.Proofs.WellFormed
import Patchwork.Schema.Document

/-!
# Schemas and their documents

A schema and a document in the form of one are checked by different code: of a document nothing is
known before it is used, so its check can stop.  On the form of a schema it never does, and it
finds what the schema finds.

* `Schema.Form` — entries that say the same as a schema; others among them do not matter.
* `Schema.isNamed` — a schema whose kinds are called by their names.
* `Schema.check_form` — the two checks agree on every value.
* `ObjectSchema.check_document` — so do the schema of Objects and its published form.
-/

set_option autoImplicit false

namespace Patchwork

open Value

/-- The value is a map with a key that cannot be one. -/
def Value.isUnkeyed : Value → Bool
  | .map entries => entries.any fun e => !e.1.hashable
  | _ => false

theorem Value.keyed_of_cons {k v : Value} {rest : List (Value × Value)}
    (h : (Value.map ((k, v) :: rest)).holds isUnkeyed = false) :
    k.hashable = true ∧ v.holds isUnkeyed = false ∧
      (Value.map rest).holds isUnkeyed = false := by
  simp only [holds_map_eq_false, isUnkeyed, List.any_cons, Bool.or_eq_false_iff,
    Bool.not_eq_false', List.forall_mem_cons] at h ⊢
  obtain ⟨⟨hkey, hkeys⟩, ⟨-, hv⟩, hrest⟩ := h
  exact ⟨hkey, hv, hkeys, hrest⟩

namespace Schema

/-- The entries say of a value what a schema says. -/
structure Form (schema : Schema) (es : List (Value × Value)) : Prop where
  type : lookup "type" es = schema.type?.map (.str ·.text)
  enum : lookup "enum" es = schema.enum?.map .list
  minLength : lookup "minLength" es =
    if schema.minLength = 0 then none else some (.int schema.minLength)
  pattern : lookup "pattern" es = schema.pattern?.map .str
  required : lookup "required" es =
    if schema.required = [] then none else some (.list (schema.required.map .str))
  preserveUnknown : lookup "x-kubernetes-preserve-unknown-fields" es =
    if schema.preserveUnknown then some (.bool true) else none
  properties : lookup "properties" es =
    if schema.properties = [] then none else some (.map (propertyValues schema.properties))
  items : lookup "items" es = schema.items?.map toValue

mutual

/-- Every kind that is asked for is the one of its name. -/
def isNamed : Schema → Bool
  | ⟨type?, _, _, _, _, _, properties, items?, _, _, _⟩ =>
    type?.all (fun t => SchemaType.ofText t.text = t) && propertiesNamed properties
      && itemsNamed items?

def propertiesNamed : List (Text × Schema) → Bool
  | [] => true
  | (_, schema) :: rest => isNamed schema && propertiesNamed rest

def itemsNamed : Option Schema → Bool
  | some schema => isNamed schema
  | none => true

end

variable {schema child : Schema} {es entries : List (Value × Value)} {v : Value}
  {location key : Text} {properties : List (Text × Schema)}

theorem isNamed_iff : schema.isNamed = true ↔
    (∀ t, schema.type? = some t → SchemaType.ofText t.text = t) ∧
      propertiesNamed schema.properties = true ∧ itemsNamed schema.items? = true := by
  cases schema with
  | mk type? =>
    cases type? <;> simp [isNamed, and_assoc]

theorem isNamed_of_lookup (h : propertiesNamed properties = true)
    (hchild : properties.lookup key = some child) : child.isNamed = true := by
  induction properties with
  | nil => cases hchild
  | cons property rest ih =>
    obtain ⟨name, schema⟩ := property
    simp only [propertiesNamed, Bool.and_eq_true] at h
    rw [List.lookup_cons] at hchild
    split at hchild
    · cases hchild
      exact h.1
    · exact ih h.2 hchild

/-! ## The form of a schema -/

theorem toValue_eq : schema.toValue = .map schema.entries := by
  cases schema
  rfl

theorem lookup_entryOf (key k : Text) (v : Option Value) :
    lookup key (entryOf k v) = if k = key then v else none := by
  cases v <;> simp [entryOf]

theorem lookup_entryIf (key k : Text) (condition : Bool) (v : Value) :
    lookup key (entryIf condition k v) = if k = key ∧ condition = true then some v else none := by
  cases condition <;> simp [entryIf]

theorem lookup_itemsEntry (key : Text) (items? : Option Schema) :
    lookup key (itemsEntry items?) = if "items" = key then items?.map toValue else none := by
  cases items? <;> simp [itemsEntry]

theorem form_entries (schema : Schema) : schema.Form schema.entries := by
  cases schema
  constructor <;>
    simp [entries, toValue, lookup_append, lookup_entryOf, lookup_entryIf, lookup_itemsEntry]

/-- The keys that say something of a value. -/
def keywords : List Text :=
  ["type", "enum", "minLength", "pattern", "required", "x-kubernetes-preserve-unknown-fields",
    "properties", "items"]

theorem Form.cons (h : schema.Form es) (key : Text) (hkey : key ∉ keywords) (v : Value) :
    schema.Form ((.str key, v) :: es) := by
  have hlookup : ∀ k ∈ keywords, lookup k ((.str key, v) :: es) = lookup k es := by
    intro k hk
    rw [lookup_cons, if_neg]
    rintro rfl
    exact hkey hk
  obtain ⟨htype, henum, hleast, hpattern, hrequired, hpreserve, hproperties, hitems⟩ := h
  constructor <;> rw [hlookup _ (by simp [keywords])] <;> assumption

/-! ## Entries under a key -/

theorem entryAt?_str (key : Text) (entries : List (Value × Value)) :
    SchemaDocument.entryAt? (.str key) entries = lookup key entries := by
  unfold SchemaDocument.entryAt?
  induction entries with
  | nil => rfl
  | cons entry rest ih =>
    obtain ⟨k, w⟩ := entry
    rw [List.find?_cons]
    cases hsame : (Value.str key).same k with
    | true =>
      obtain rfl := str_same_iff.1 hsame
      rw [lookup_cons, if_pos rfl]
      rfl
    | false =>
      have hne : k ≠ .str key := fun heq => by
        rw [str_same_iff.2 heq] at hsame
        cases hsame
      rw [ih]
      cases k with
      | str text =>
        rw [lookup_cons, if_neg]
        exact fun heq => hne (congrArg Value.str heq)
      | _ => rfl

theorem contains_map (hkey : v.hashable = true) (entries : List (Value × Value)) :
    SchemaDocument.contains v (.map entries) =
      .ok (SchemaDocument.entryAt? v entries).isSome := by
  rw [SchemaDocument.contains, if_pos hkey, SchemaDocument.entryAt?, Option.isSome_map,
    List.isSome_find?]

theorem lookup_propertyValues (key : Text) (properties : List (Text × Schema)) :
    lookup key (propertyValues properties) = (properties.lookup key).map toValue := by
  induction properties with
  | nil => rfl
  | cons property rest ih =>
    obtain ⟨name, schema⟩ := property
    rw [propertyValues, lookup_cons, ih, List.lookup_cons]
    by_cases hname : name = key
    · simp [hname]
    · have hkey : (key == name) = false := beq_false_of_ne (Ne.symm hname)
      simp [hname, hkey]

/-- A key that is no text is not among the names of schemas. -/
theorem entryAt?_propertyValues_of_ne (h : ∀ text, v ≠ .str text)
    (properties : List (Text × Schema)) :
    SchemaDocument.entryAt? v (propertyValues properties) = none := by
  unfold SchemaDocument.entryAt?
  induction properties with
  | nil => rfl
  | cons property rest ih =>
    obtain ⟨name, schema⟩ := property
    rw [propertyValues, List.find?_cons]
    cases hsame : v.same (.str name) with
    | true => exact absurd (same_str_iff.1 hsame) (h name)
    | false => exact ih

/-! ## The value itself -/

section Form

variable (hform : schema.Form es)
include hform

theorem Form.kindFault? (hnamed : schema.isNamed = true) :
    SchemaDocument.kindFault? es v =
      .ok (if schema.typeFits v then none else (schema.typeFault v).head?) := by
  have htype : field es "type" = (schema.type?.map (.str ·.text)).getD .null := by
    rw [field, fieldOr, hform.type]
  rw [SchemaDocument.kindFault?, htype]
  cases hkind : schema.type? with
  | none => simp [typeFits, hkind, truthy]
  | some t =>
    have hname := (isNamed_iff.1 hnamed).1 t hkind
    simp only [Option.map_some, Option.getD_some, typeFits, typeFault, hkind, Option.all_some,
      hname, List.head?_cons]
    cases t with
    | other name =>
      have hadmits : (SchemaType.other name).admits v = true := rfl
      simp [hadmits]
    | _ => cases SchemaType.admits _ v <;> simp [SchemaType.text]

theorem Form.enumFaults : SchemaDocument.enumFaults es v = .ok (match schema.enum? with
    | some allowed => if allowed.any v.same then [] else [.notAllowed v (.list allowed)]
    | none => []) := by
  rw [SchemaDocument.enumFaults, hform.enum]
  cases schema.enum? <;> rfl

theorem Form.textFaults (s : Text) : SchemaDocument.textFaults es s = .ok
    ((if s.length < schema.minLength then
      [SchemaFault.tooShort (.int schema.minLength) s.length] else [])
    ++ (match schema.pattern? with
      | some pattern => if s.startsWith pattern then [] else [.mismatch s pattern]
      | none => [])) := by
  have hleast : fieldOr es "minLength" (.int 0) = .int schema.minLength := by
    rw [fieldOr, hform.minLength]
    split
    · rename_i hzero
      rw [hzero]
      rfl
    · rfl
  rw [SchemaDocument.textFaults, hleast, hform.pattern]
  cases schema.pattern? <;> simp [SchemaDocument.isBelow, whole?, pure, Except.pure]

theorem Form.missingFaults : SchemaDocument.missingFaults es entries = .ok
    ((schema.required.filter fun key => (field entries key).isNull).map fun key =>
      .missing (.str key)) := by
  have hkeys : fieldOr es "required" (.list []) = .list (schema.required.map .str) := by
    rw [fieldOr, hform.required]
    split
    · rename_i hnone
      rw [hnone]
      rfl
    · rfl
  have hfaults : ∀ keys : List Text,
      (keys.map fun key => if (field entries key).isNull then [SchemaFault.missing (.str key)]
        else []).flatten =
      (keys.filter fun key => (field entries key).isNull).map fun key => .missing (.str key) := by
    intro keys
    induction keys with
    | nil => rfl
    | cons key rest ih =>
      rw [List.map_cons, List.flatten_cons, ih, List.filter_cons]
      split <;> rfl
  have hmissing : ∀ key, (SchemaDocument.entryAt? (.str key) entries).getD .null =
      field entries key := fun key => by rw [entryAt?_str, field, fieldOr]
  simp only [SchemaDocument.missingFaults, hkeys, SchemaDocument.membersOf, ok_bind, List.mapM_map,
    Function.comp_def, hashable, if_true, hmissing]
  have hmap : schema.required.mapM (fun key => (.ok (if (field entries key).isNull then
      [SchemaFault.missing (.str key)] else []) : Except KindError _)) = .ok _ := List.mapM_pure
  rw [hmap, ok_bind, hfaults]
  rfl

theorem Form.ownFaults : SchemaDocument.ownFaults es v = .ok (schema.ownFaults v) := by
  rw [SchemaDocument.ownFaults, hform.enumFaults, ok_bind]
  cases v with
  | str s =>
    simp only [hform.textFaults, ok_bind, Schema.ownFaults, List.append_nil]
    rfl
  | map entries =>
    simp only [hform.missingFaults, ok_bind, Schema.ownFaults, List.append_nil]
    rfl
  | _ =>
    simp only [Schema.ownFaults, List.append_nil]
    rfl

/-- What the form of a schema says of a value itself is what the schema says. -/
theorem Form.issues (hnamed : schema.isNamed = true)
    (below : List (Value × Value) → Except KindError (List SchemaIssue)) :
    SchemaDocument.issues (.str location) (.map es) v below =
      if schema.typeFits v then
        ((schema.ownFaults v).map (⟨location, ·⟩) ++ ·) <$> below es
      else .ok ((schema.typeFault v).map (⟨location, ·⟩)) := by
  have hissue : SchemaDocument.issueAt (.str location) = (⟨location, ·⟩) := by
    funext fault
    rw [SchemaDocument.issueAt, displayIfSet]
    cases hset : (Value.str location).truthy with
    | true => rfl
    | false =>
      have hempty : location = "" := by simpa [truthy] using hset
      rw [hempty]
      rfl
  simp only [SchemaDocument.issues, entriesOf, hform.kindFault? hnamed, ok_bind, hform.ownFaults,
    hissue]
  cases hfits : schema.typeFits v with
  | true =>
    simp only [if_true]
    cases below es <;> rfl
  | false =>
    have htype : schema.type? ≠ none := by
      intro hnone
      rw [typeFits, hnone] at hfits
      cases hfits
    obtain ⟨t, htype⟩ := Option.ne_none_iff_exists'.1 htype
    simp only [Bool.false_eq_true, if_false, typeFault, htype, List.head?_cons]
    rfl

theorem Form.properties_eq :
    fieldOr es "properties" (.map []) = .map (propertyValues schema.properties) := by
  rw [fieldOr, hform.properties]
  split
  · rename_i hnone
    rw [hnone]
    rfl
  · rfl

end Form

/-! ## All of the value -/

theorem entryLocation_str (location key : Text) :
    SchemaDocument.entryLocation (.str location) (.str key) =
      .str (Location.entry location key) := by
  unfold SchemaDocument.entryLocation Location.entry
  cases hempty : location.isEmpty <;> simp [truthy, hempty, display]

/-- An entry is checked with the schema of its name, if there is one. -/
theorem checkEntries_propertyValues_cons {k : Value} {rest : List (Value × Value)}
    (hkey : k.hashable = true)
    (h : ∀ text, k = .str text → ∀ child, properties.lookup text = some child →
      SchemaDocument.check (.str (Location.entry location text)) child.toValue v =
        .ok (child.check (Location.entry location text) v))
    (hrest : SchemaDocument.checkEntries (.str location) (.map (propertyValues properties)) rest =
      .ok (checkEntries location properties rest)) :
    SchemaDocument.checkEntries (.str location) (.map (propertyValues properties))
        ((k, v) :: rest) = .ok (checkEntries location properties ((k, v) :: rest)) := by
  rw [SchemaDocument.checkEntries, contains_map hkey, ok_bind, hrest]
  by_cases htext : ∃ text, k = .str text
  · obtain ⟨text, rfl⟩ := htext
    rw [entryAt?_str, lookup_propertyValues, Option.isSome_map, checkEntries_cons]
    cases hchild : properties.lookup text with
    | none => simp [pure, Except.pure]
    | some child =>
      have hmember : SchemaDocument.memberAt (.str text) (.map (propertyValues properties)) =
          .ok child.toValue := by
        rw [SchemaDocument.memberAt, entryAt?_str, lookup_propertyValues, hchild]
        rfl
      cases hnull : v.isNull <;>
        simp [hmember, entryLocation_str, h text rfl child hchild, pure, Except.pure]
  · have hne : ∀ text, k ≠ .str text := fun text heq => htext ⟨text, heq⟩
    rw [entryAt?_propertyValues_of_ne hne, checkEntries_cons_of_ne properties hne]
    rfl

mutual

/-- **The check of a form finds what the check of its schema finds**, and is never stopped. -/
theorem check_form : ∀ (v : Value) {schema : Schema} {es : List (Value × Value)} {location : Text},
    v.holds isUnkeyed = false → schema.Form es → schema.isNamed = true →
      SchemaDocument.check (.str location) (.map es) v = .ok (schema.check location v)
  | .map entries, schema, es, location, hkeys, hform, hnamed => by
    have hpreserve : (field es "x-kubernetes-preserve-unknown-fields").truthy =
        schema.preserveUnknown := by
      rw [field, fieldOr, hform.preserveUnknown]
      cases schema.preserveUnknown <;> rfl
    rw [SchemaDocument.check, hform.issues hnamed, check_eq, checkParts, hpreserve,
      hform.properties_eq, checkEntries_form entries hkeys (isNamed_iff.1 hnamed).2.1]
    cases schema.preserveUnknown <;> split <;> rfl
  | .list items, schema, es, location, hkeys, hform, hnamed => by
    rw [SchemaDocument.check, hform.issues hnamed, check_eq, checkParts, hform.items]
    cases hitems : schema.items? with
    | none => split <;> rfl
    | some child =>
      have hchild := (isNamed_iff.1 hnamed).2.2
      rw [hitems] at hchild
      rw [Option.map_some]
      simp only [checkItems_form items 0 hkeys hchild]
      split <;> rfl
  | .null, _, _, _, _, hform, hnamed | .bool _, _, _, _, _, hform, hnamed
  | .int _, _, _, _, _, hform, hnamed | .float _, _, _, _, _, hform, hnamed
  | .str _, _, _, _, _, hform, hnamed | .tuple _, _, _, _, _, hform, hnamed
  | .date _, _, _, _, _, hform, hnamed | .datetime _, _, _, _, _, hform, hnamed
  | .bytes _, _, _, _, _, hform, hnamed | .set _, _, _, _, _, hform, hnamed
  | .endless, _, _, _, _, hform, hnamed => by
    rw [SchemaDocument.check, hform.issues hnamed, check_eq]
    · split <;> rfl
    all_goals exact nofun

theorem checkEntries_form : ∀ (entries : List (Value × Value)) {properties : List (Text × Schema)}
    {location : Text}, (Value.map entries).holds isUnkeyed = false →
      propertiesNamed properties = true →
      SchemaDocument.checkEntries (.str location) (.map (propertyValues properties)) entries =
        .ok (checkEntries location properties entries)
  | [], _, _, _, _ => rfl
  | (k, v) :: rest, properties, location, hkeys, hnamed => by
    obtain ⟨hkey, hv, hrest⟩ := keyed_of_cons hkeys
    refine checkEntries_propertyValues_cons hkey (fun text _ child hchild => ?_)
      (checkEntries_form rest hrest hnamed)
    rw [toValue_eq]
    exact check_form v hv (form_entries child) (isNamed_of_lookup hnamed hchild)

theorem checkItems_form : ∀ (items : List Value) (i : Nat) {child : Schema} {location : Text},
    (Value.list items).holds isUnkeyed = false → child.isNamed = true →
      SchemaDocument.checkItems (.str location) child.toValue i items =
        .ok (checkItems location child i items)
  | [], _, _, _, _, _ => rfl
  | v :: rest, i, child, location, hkeys, hnamed => by
    obtain ⟨-, hitems⟩ := holds_list_eq_false.1 hkeys
    obtain ⟨hv, hrest⟩ := List.forall_mem_cons.1 hitems
    have hlocation : SchemaDocument.itemLocation (.str location) i =
        .str (Location.item location i) := rfl
    rw [SchemaDocument.checkItems, hlocation, checkItems,
      checkItems_form rest (i + 1) (holds_list_eq_false.2 ⟨rfl, hrest⟩) hnamed, toValue_eq,
      check_form v hv (form_entries child) hnamed]
    rfl

end

end Schema

/-- The published schema of Objects finds in a value what the schema of Objects finds. -/
theorem ObjectSchema.check_document {v : Value} (h : v.holds isUnkeyed = false) :
    SchemaDocument.check (.str "") document v = .ok (check v) := by
  refine Schema.check_form v h ?_ rfl
  refine .cons (.cons (.cons (.cons schema.form_entries _ ?_ _) _ ?_ _) _ ?_ _) _ ?_ _ <;>
    decide +kernel

end Patchwork
