import Patchwork.Proofs.Document.Copy
import Patchwork.Proofs.Conversion
import Patchwork.Proofs.Json.Refused
import Patchwork.Proofs.Location
import Patchwork.Schema.ObjectSchema

/-!
# Reading beside a schema

Typed data is read by code, and a schema says what is read.  This module relates one step of the
reading to one step of the check.

* `Schema.mem_check_entry`, `Schema.mem_check_item` — issues of a part are issues of the whole.
* `Schema.Explains` — an error of reading is an issue at the same location, or comes out of a place
  that the schema leaves open.
* `Value.optional_failsWith`, `Value.optionalWith_failsWith`, `Value.convertItems_failsWith` — what
  one step of reading fails with is explained by the schema of the part that it reads.
-/

set_option autoImplicit false

namespace Patchwork

open Value

/-! ## Issues of parts -/

namespace Schema

variable {schema : Schema} {v : Value} {location key : Text} {issue : SchemaIssue}
  {entries : List (Value × Value)} {items : List Value}

/-- The issues of the entries or the items of a value. -/
def checkParts (location : Text) (schema : Schema) : Value → List SchemaIssue
  | .map es => if schema.preserveUnknown then [] else checkEntries location schema.properties es
  | .list items => schema.items?.elim [] fun itemSchema => checkItems location itemSchema 0 items
  | _ => []

/-- The issues of a value are those of the value itself and those of its parts, if its kind fits. -/
theorem check_eq (schema : Schema) (location : Text) (v : Value) :
    schema.check location v =
      if schema.typeFits v then
        (schema.ownFaults v).map (⟨location, ·⟩) ++ schema.checkParts location v
      else (schema.typeFault v).map (⟨location, ·⟩) := by
  cases v
  case map es => rw [check, checkParts]
  case list items =>
    rw [check, checkParts]
    cases schema.items? <;> rfl
  all_goals
    simp only [check, checkParts, List.append_nil]
    split <;> rfl

theorem checkEntries_cons (properties : List (Text × Schema)) (text : Text) (v : Value)
    (rest : List (Value × Value)) :
    checkEntries location properties ((.str text, v) :: rest) =
      (if v.isNull then [] else (properties.lookup text).elim [] fun schema =>
        schema.check (Location.entry location text) v)
        ++ checkEntries location properties rest := by
  rw [checkEntries]
  cases properties.lookup text <;> rfl

theorem checkEntries_cons_of_ne (properties : List (Text × Schema)) {k : Value}
    (h : ∀ text, k ≠ .str text) (v : Value) (rest : List (Value × Value)) :
    checkEntries location properties ((k, v) :: rest) = checkEntries location properties rest := by
  cases k
  case str text => exact absurd rfl (h text)
  all_goals rfl

theorem checkEntries_append (properties : List (Text × Schema)) (es fs : List (Value × Value)) :
    checkEntries location properties (es ++ fs) =
      checkEntries location properties es ++ checkEntries location properties fs := by
  induction es with
  | nil => rfl
  | cons entry rest ih =>
    obtain ⟨k, v⟩ := entry
    cases k <;> simp only [List.cons_append, checkEntries, ih, List.append_assoc]

theorem checkItems_append (i : Nat) (items others : List Value) :
    checkItems location schema i (items ++ others) =
      checkItems location schema i items ++
        checkItems location schema (i + items.length) others := by
  induction items generalizing i with
  | nil => rfl
  | cons v rest ih =>
    have hplace : i + 1 + rest.length = i + (v :: rest).length := by
      rw [List.length_cons]
      omega
    rw [List.cons_append, checkItems, checkItems, ih, List.append_assoc, hplace]

/-- A value of the wrong kind gives an issue where it stands. -/
theorem exists_issue_of_not_typeFits (h : schema.typeFits v = false) (location : Text) :
    ∃ issue ∈ schema.check location v, issue.location = location := by
  have hfault : ∃ fault, fault ∈ schema.typeFault v := by
    unfold typeFits at h
    unfold typeFault
    cases htype : schema.type? with
    | none => rw [htype] at h; cases h
    | some t => exact ⟨_, List.mem_singleton_self _⟩
  obtain ⟨fault, hfault⟩ := hfault
  refine ⟨⟨location, fault⟩, ?_, rfl⟩
  cases v <;> simp only [check, h, Bool.false_eq_true, if_false] <;>
    exact List.mem_map_of_mem hfault

theorem mem_check_of_mem_ownFaults {fault : SchemaFault} (hfits : schema.typeFits v = true)
    (h : fault ∈ schema.ownFaults v) (location : Text) :
    ⟨location, fault⟩ ∈ schema.check location v := by
  have hmem : (⟨location, fault⟩ : SchemaIssue) ∈ (schema.ownFaults v).map (⟨location, ·⟩) :=
    List.mem_map_of_mem h
  cases v <;> simp only [check, hfits, if_true] <;>
    first | exact hmem | exact List.mem_append_left _ hmem

/-- A text that is not among the allowed ones gives an issue where it stands. -/
theorem exists_issue_of_not_mem {names : List Text} {default? : Option Value} {name : Text}
    (h : name ∉ names) (location : Text) :
    ∃ issue ∈ check location { ObjectSchema.oneOf names with default? } (.str name),
      issue.location = location := by
  have hnot : (names.map Value.str).any (same (.str name)) = false := by
    rw [List.any_eq_false]
    intro v hv hsame
    obtain ⟨known, hknown, rfl⟩ := List.mem_map.1 hv
    have heq : name = known := by simpa [same, sameScalar] using hsame
    rw [heq] at h
    exact h hknown
  refine ⟨⟨location, .notAllowed (.str name) (.list (names.map .str))⟩, ?_, rfl⟩
  refine mem_check_of_mem_ownFaults rfl (List.mem_append_left _ (List.mem_append_left _ ?_)) _
  simp only [ObjectSchema.oneOf, hnot]
  exact List.mem_singleton_self _

theorem mem_of_check_eq_nil {names : List Text} {default? : Option Value} {name : Text}
    (h : check location { ObjectSchema.oneOf names with default? } (.str name) = []) :
    name ∈ names := by
  refine Decidable.byContradiction fun hnot => ?_
  obtain ⟨issue, hissue, -⟩ := exists_issue_of_not_mem hnot location
  rw [h] at hissue
  cases hissue

/-- The issues of entries are those that their schemas find in them, unless they are null. -/
theorem mem_checkEntries_iff {properties : List (Text × Schema)} :
    issue ∈ checkEntries location properties entries ↔
      ∃ key w child, (.str key, w) ∈ entries ∧ w ≠ .null ∧ properties.lookup key = some child ∧
        issue ∈ child.check (Location.entry location key) w := by
  induction entries with
  | nil => simp [checkEntries]
  | cons entry rest ih =>
    obtain ⟨k, w⟩ := entry
    by_cases hk : ∃ text, k = .str text
    · obtain ⟨text, rfl⟩ := hk
      have hhead : issue ∈ (if w.isNull then [] else (properties.lookup text).elim [] fun schema =>
            schema.check (Location.entry location text) w) ↔
          w ≠ .null ∧ ∃ child, properties.lookup text = some child ∧
            issue ∈ child.check (Location.entry location text) w := by
        have hnull : w ≠ .null ↔ w.isNull = false := by rw [← Bool.not_eq_true, isNull_iff]
        rw [hnull]
        cases w.isNull <;> cases properties.lookup text <;> simp
      rw [checkEntries_cons, List.mem_append, hhead, ih]
      constructor
      · rintro (⟨hne, child, hchild, hissue⟩ | ⟨key, w, child, hmem, h⟩)
        · exact ⟨text, w, child, List.mem_cons_self, hne, hchild, hissue⟩
        · exact ⟨key, w, child, List.mem_cons_of_mem _ hmem, h⟩
      · rintro ⟨key, w, child, hmem, hne, hchild, hissue⟩
        rcases List.mem_cons.1 hmem with heq | hmem
        · cases heq
          exact .inl ⟨hne, child, hchild, hissue⟩
        · exact .inr ⟨key, w, child, hmem, hne, hchild, hissue⟩
    · have hne : ∀ text, k ≠ .str text := fun text heq => hk ⟨text, heq⟩
      rw [checkEntries_cons_of_ne _ hne, ih]
      simp [(hne _).symm]

/-- An issue of an entry is one of the map. -/
theorem mem_check_entry {required : List Text} {properties : List (Text × Schema)}
    (hlookup : lookup key entries = some v) (hne : v ≠ .null)
    (hproperty : properties.lookup key = some schema)
    (h : issue ∈ schema.check (Location.entry location key) v) :
    issue ∈ (ObjectSchema.object required properties).check location (.map entries) := by
  have hmem : issue ∈ checkEntries location properties entries :=
    mem_checkEntries_iff.2 ⟨key, v, schema, mem_of_lookup hlookup, hne, hproperty, h⟩
  have hfits : (ObjectSchema.object required properties).typeFits (.map entries) = true := rfl
  rw [check, if_pos hfits]
  exact List.mem_append_right _ hmem

theorem check_entry_eq_nil {required : List Text} {properties : List (Text × Schema)}
    (h : (ObjectSchema.object required properties).check location (.map entries) = [])
    (hlookup : lookup key entries = some v) (hne : v ≠ .null)
    (hproperty : properties.lookup key = some schema) :
    schema.check (Location.entry location key) v = [] := by
  rw [List.eq_nil_iff_forall_not_mem]
  intro issue hissue
  have hmem : issue ∈ (ObjectSchema.object required properties).check location (.map entries) :=
    mem_check_entry hlookup hne hproperty hissue
  rw [h] at hmem
  cases hmem

/-- The issues of items, counted from `j` on, are those of each item. -/
theorem mem_checkItems_iff {j : Nat} :
    issue ∈ checkItems location schema j items ↔
      ∃ i w, items[i]? = some w ∧ issue ∈ schema.check (Location.item location (j + i)) w := by
  induction items generalizing j with
  | nil => simp [checkItems]
  | cons v rest ih =>
    rw [checkItems, List.mem_append, ih]
    constructor
    · rintro (h | ⟨i, w, hi, h⟩)
      · exact ⟨0, v, rfl, h⟩
      · refine ⟨i + 1, w, hi, ?_⟩
        rwa [← Nat.add_assoc, Nat.add_right_comm]
    · rintro ⟨i, w, hi, h⟩
      cases i with
      | zero =>
        cases hi
        exact .inl h
      | succ i =>
        rw [← Nat.add_assoc, Nat.add_right_comm] at h
        exact .inr ⟨i, w, hi, h⟩

/-- An issue of an item is one of the array. -/
theorem mem_check_item {i : Nat} (hi : items[i]? = some v)
    (h : issue ∈ schema.check (Location.item location i) v) :
    issue ∈ (ObjectSchema.arrayOf schema).check location (.list items) := by
  have hfits : (ObjectSchema.arrayOf schema).typeFits (.list items) = true := rfl
  rw [check, if_pos hfits]
  refine List.mem_append_right _ (mem_checkItems_iff.2 ⟨i, v, hi, ?_⟩)
  rwa [Nat.zero_add]

/-! ## Errors that a schema explains -/

/-- The error of reading `v` is reported by the schema at the same location, or names a node that
JSON cannot hold inside one of the places that the schema leaves open. -/
def Explains (schema : Schema) (openPlaces : List FieldPath) (location : Text) (v : Value)
    (e : ConversionError) : Prop :=
  (e.limit? = none ∧ ∃ issue ∈ schema.check location v, issue.location = e.location) ∨
  ∃ place ∈ openPlaces, ∃ w, v.reach? place = some w ∧
    RefusedWithin w (Location.below location place) e

variable {openPlaces : List FieldPath} {e : ConversionError} {required : List Text}
  {properties : List (Text × Schema)} {α : Type}

theorem Explains.entry {inner : List FieldPath}
    (h : schema.Explains inner (Location.entry location key) v e)
    (hlookup : lookup key entries = some v) (hne : v ≠ .null)
    (hproperty : properties.lookup key = some schema)
    (hopen : ∀ place ∈ inner, .field key :: place ∈ openPlaces) :
    (ObjectSchema.object required properties).Explains openPlaces location (.map entries) e := by
  rcases h with ⟨hlimit, issue, hissue, hlocation⟩ | ⟨place, hplace, w, hw, hrefused⟩
  · exact .inl ⟨hlimit, issue, mem_check_entry hlookup hne hproperty hissue, hlocation⟩
  · refine .inr ⟨.field key :: place, hopen place hplace, w, ?_, hrefused⟩
    rw [reach?, child?, hlookup, Option.bind_some, hw]

theorem Explains.item {i : Nat} (h : schema.Explains [] (Location.item location i) v e)
    (hi : items[i]? = some v) :
    (ObjectSchema.arrayOf schema).Explains openPlaces location (.list items) e := by
  rcases h with ⟨hlimit, issue, hissue, hlocation⟩ | ⟨place, hplace, -⟩
  · exact .inl ⟨hlimit, issue, mem_check_item hi hissue, hlocation⟩
  · cases hplace

/-- The schema refuses what a reading that wants values of a shape refuses. -/
def Asks (schema : Schema) (shape : Shape α) : Prop :=
  ∀ v, shape.ofValue? v = none → schema.typeFits v = false

theorem asks_string (h : schema.type? = some .string) : schema.Asks Shape.string := by
  intro v hv
  rw [typeFits, h]
  cases v <;> first | rfl | cases hv

theorem asks_boolean (h : schema.type? = some .boolean) : schema.Asks Shape.boolean := by
  intro v hv
  rw [typeFits, h]
  cases v <;> first | rfl | cases hv

theorem asks_array (h : schema.type? = some .array) : schema.Asks Shape.array := by
  intro v hv
  rw [typeFits, h]
  cases v <;> first | rfl | cases hv

theorem asks_object (h : schema.type? = some .object) : schema.Asks Shape.object := by
  intro v hv
  rw [typeFits, h]
  cases v <;> first | rfl | cases hv

theorem expect_failsWith {shape : Shape α} (h : schema.Asks shape) (location : Text)
    (v : Value) :
    FailsWith (schema.Explains openPlaces location v) (Value.expect shape location v) := by
  unfold Value.expect
  split
  · exact failsWith_ok _
  · rename_i hnone
    rintro e ⟨⟩
    exact .inl ⟨rfl, exists_issue_of_not_typeFits (h v hnone) location⟩

theorem expect_object_failsWith {f : List (Value × Value) → Except ConversionError α}
    (h : ∀ entries, v = .map entries →
      FailsWith ((ObjectSchema.object required properties).Explains openPlaces location v)
        (f entries)) :
    FailsWith ((ObjectSchema.object required properties).Explains openPlaces location v)
      (Value.expect .object location v >>= f) := by
  have hasks : (ObjectSchema.object required properties).Asks Shape.object := asks_object rfl
  refine (expect_failsWith hasks location v).bind fun entries hentries => ?_
  exact h entries (expect_object_eq_ok.1 hentries)

theorem optionalWith_failsWith (inner : List FieldPath)
    {convert : Value → Except ConversionError α} (hproperty : properties.lookup key = some schema)
    (hconvert : ∀ v, FailsWith (schema.Explains inner (Location.entry location key) v)
      (convert v))
    (hopen : ∀ place ∈ inner, .field key :: place ∈ openPlaces) :
    FailsWith ((ObjectSchema.object required properties).Explains openPlaces location
        (.map entries))
      (Value.optionalWith entries key convert) := by
  unfold Value.optionalWith
  split
  · exact failsWith_ok _
  · rename_i hne
    have hlookup := lookup_of_field_ne_null hne
    exact ((hconvert _).imp fun e h => h.entry hlookup hne hproperty hopen).map _

theorem optional_failsWith {shape : Shape α} (hproperty : properties.lookup key = some schema)
    (h : schema.Asks shape) :
    FailsWith ((ObjectSchema.object required properties).Explains openPlaces location
        (.map entries))
      (Value.optional entries key shape location) :=
  optionalWith_failsWith [] hproperty (fun v => expect_failsWith h _ v) (List.forall_mem_nil _)

theorem convertItems_failsWith {convert : Text → Value → Except ConversionError α}
    (hconvert : ∀ i v, FailsWith (schema.Explains [] (Location.item location i) v)
      (convert (Location.item location i) v)) (items : List Value) :
    FailsWith ((ObjectSchema.arrayOf schema).Explains openPlaces location (.list items))
      (Value.convertItems location convert 0 items) := by
  refine (convertItems_failsWith_item convert location 0 items).imp ?_
  rintro e ⟨i, v, hi, he⟩
  rw [Nat.zero_add] at he
  exact (hconvert i v e he).item hi

theorem unstructuredEntries_failsWith (location : Text) (entries : List (Value × Value)) :
    FailsWith (schema.Explains [[]] location (.map entries))
      (unstructuredEntries location entries) := by
  intro e he
  have hrefused := Value.unstructuredEntries_failsWith entries location e he
  exact .inr ⟨[], List.mem_singleton_self _, .map entries, rfl, hrefused.within⟩

/-- What is done with an entry that was read fails as the schema of the entry explains, if it cannot
fail without the entry. -/
theorem failsWith_of_optional {β : Type} {shape : Shape β} {given : Option β} {place : Text}
    (inner : List FieldPath) {x : Except ConversionError α}
    (h : Value.optional entries key shape place = .ok given)
    (hproperty : properties.lookup key = some schema) (hnone : given = none → ∃ a, x = .ok a)
    (hsome : ∀ b v, given = some b → shape.ofValue? v = some b →
      FailsWith (schema.Explains inner (Location.entry location key) v) x)
    (hopen : ∀ place ∈ inner, .field key :: place ∈ openPlaces) :
    FailsWith ((ObjectSchema.object required properties).Explains openPlaces location
        (.map entries)) x := by
  rcases optional_eq_ok h with ⟨hgiven, -⟩ | ⟨b, v, hgiven, hlookup, hne, hv⟩
  · obtain ⟨a, rfl⟩ := hnone hgiven
    exact failsWith_ok a
  · exact (hsome b v hgiven hv).imp fun e h => h.entry hlookup hne hproperty hopen

end Schema
end Patchwork
