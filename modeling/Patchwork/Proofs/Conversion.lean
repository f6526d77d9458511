import Patchwork.Reference
import Patchwork.Proofs.Json

/-!
# Reading entries back

What typed data reads depends only on what stands under its own keys.  So an entry that was written
from a value reads back as that value, and a change under one key leaves the others alone.

* `Value.optional_of_lookup`, `Value.optionalWith_of_lookup` — an entry that was written is read
  back, and one that was left out is absent.
* `Value.optional_insert_of_ne`, `Value.optionalWith_insert_of_ne` — entries under other keys do not
  matter.
* `Value.convertItems_map` — an array of things that read back reads back.
-/

set_option autoImplicit false

namespace Patchwork
namespace Value

variable {α : Type}

/-- Values written by `write` have the shape, and none is null. -/
def Shape.Reads (shape : Shape α) (write : α → Value) : Prop :=
  ∀ a, shape.ofValue? (write a) = some a ∧ write a ≠ .null

theorem Shape.reads_string : Shape.string.Reads .str := fun _ => ⟨rfl, Value.noConfusion⟩

theorem Shape.reads_boolean : Shape.boolean.Reads .bool := fun _ => ⟨rfl, Value.noConfusion⟩

theorem Shape.reads_array : Shape.array.Reads .list := fun _ => ⟨rfl, Value.noConfusion⟩

theorem Shape.reads_object : Shape.object.Reads .map := fun _ => ⟨rfl, Value.noConfusion⟩

theorem Shape.string_eq_some {v : Value} {text : Text} :
    Shape.string.ofValue? v = some text ↔ v = .str text := by
  cases v <;> simp [Shape.string]

theorem Shape.boolean_eq_some {v : Value} {b : Bool} :
    Shape.boolean.ofValue? v = some b ↔ v = .bool b := by
  cases v <;> simp [Shape.boolean]

theorem Shape.array_eq_some {v : Value} {items : List Value} :
    Shape.array.ofValue? v = some items ↔ v = .list items := by
  cases v <;> simp [Shape.array]

theorem Shape.object_eq_some {v : Value} {entries : List (Value × Value)} :
    Shape.object.ofValue? v = some entries ↔ v = .map entries := by
  cases v <;> simp [Shape.object]

@[simp] theorem expect_object (location : Text) (entries : List (Value × Value)) :
    expect Shape.object location (.map entries) = .ok entries := rfl

theorem expect_object_eq_ok {location : Text} {v : Value} {entries : List (Value × Value)} :
    expect Shape.object location v = .ok entries ↔ v = .map entries := by
  cases v <;> simp [expect, Shape.object]

/-! ## One entry -/

theorem isNull_iff {v : Value} : v.isNull = true ↔ v = .null := by
  cases v <;> simp [isNull]

theorem field_of_lookup {entries : List (Value × Value)} {key : Text} {v : Option Value}
    (h : lookup key entries = v) : field entries key = v.getD .null := by
  rw [field, fieldOr, h]

theorem field_insert_of_ne {key other : Text} (h : other ≠ key) (v : Value)
    (entries : List (Value × Value)) :
    field (insert key v entries) other = field entries other := by
  rw [field, fieldOr, lookup_insert_of_ne h]
  rfl

@[simp] theorem field_insert_self (key : Text) (v : Value) (entries : List (Value × Value)) :
    field (insert key v entries) key = v := by
  simp [field, fieldOr]

/-- An entry of a wanted kind reads back. -/
theorem optional_of_lookup {shape : Shape α} {write : α → Value} (hshape : shape.Reads write)
    {entries : List (Value × Value)} {key : Text} {a : Option α}
    (h : lookup key entries = a.map write) (location : Text) :
    Value.optional entries key shape location = .ok a := by
  rw [Value.optional, field_of_lookup h]
  cases a with
  | none => rfl
  | some a =>
    obtain ⟨hread, hne⟩ := hshape a
    simp only [Option.map_some, Option.getD_some, expect, hread, map_ok]

theorem lookup_of_field_ne_null {entries : List (Value × Value)} {key : Text}
    (h : field entries key ≠ .null) : lookup key entries = some (field entries key) := by
  unfold field fieldOr at h ⊢
  cases hlookup : lookup key entries with
  | none => rw [hlookup] at h; exact absurd rfl h
  | some v => rfl

/-- What was read of an entry: nothing of one that is absent, and otherwise what it has of the
shape. -/
theorem optional_eq_ok {shape : Shape α} {entries : List (Value × Value)} {key location : Text}
    {a : Option α} (h : Value.optional entries key shape location = .ok a) :
    (a = none ∧ field entries key = .null) ∨
      ∃ b v, a = some b ∧ lookup key entries = some v ∧ v ≠ .null ∧ shape.ofValue? v = some b := by
  unfold Value.optional at h
  split at h
  · rename_i hnull
    cases h
    exact .inl ⟨rfl, hnull⟩
  · rename_i hne
    obtain ⟨b, hb, rfl⟩ := map_eq_ok.1 h
    refine .inr ⟨b, _, rfl, lookup_of_field_ne_null hne, hne, ?_⟩
    unfold expect at hb
    split at hb
    · rename_i hshape
      cases hb
      exact hshape
    · cases hb

/-- An entry that is not null was read for what it has of the shape. -/
theorem optional_of_lookup_eq_some {shape : Shape α} {entries : List (Value × Value)}
    {key location : Text} {a : Option α} {v : Value}
    (h : Value.optional entries key shape location = .ok a) (hv : lookup key entries = some v)
    (hne : v ≠ .null) : ∃ b, a = some b ∧ shape.ofValue? v = some b := by
  rcases optional_eq_ok h with ⟨-, hnull⟩ | ⟨b, w, hb, hw, -, hvalue⟩
  · rw [field_of_lookup hv] at hnull
    exact absurd hnull hne
  · rw [hv] at hw
    cases hw
    exact ⟨b, hb, hvalue⟩

theorem optional_unlessEmpty {entries : List (Value × Value)} {key text : Text}
    (h : lookup key entries = if text.isEmpty then none else some (.str text))
    (location : Text) :
    Value.optional entries key Shape.string location =
      .ok (if text.isEmpty then none else some text) := by
  apply optional_of_lookup Shape.reads_string
  rw [h]
  split <;> rfl

theorem getD_unlessEmpty (text : Text) :
    (if text.isEmpty then none else some text).getD "" = text := by
  split <;> simp_all

theorem optional_array_unlessEmpty {entries : List (Value × Value)} {key : Text}
    {items : List Value}
    (h : lookup key entries = if items.isEmpty then none else some (.list items))
    (location : Text) :
    ∃ a, Value.optional entries key Shape.array location = .ok a ∧ a.getD [] = items := by
  cases items with
  | nil => exact ⟨none, optional_of_lookup Shape.reads_array h location, rfl⟩
  | cons v rest => exact ⟨some (v :: rest), optional_of_lookup Shape.reads_array h location, rfl⟩

/-- An entry that `convert` reads back is read back. -/
theorem optionalWith_of_lookup {write : α → Value} {convert : Value → Except ConversionError α}
    {entries : List (Value × Value)} {key : Text} {a : Option α}
    (hne : ∀ b, write b ≠ .null) (h : lookup key entries = a.map write)
    (hconvert : ∀ b, a = some b → convert (write b) = .ok b) :
    Value.optionalWith entries key convert = .ok a := by
  rw [Value.optionalWith, field_of_lookup h]
  cases a with
  | none => rfl
  | some b =>
    simp only [Option.map_some, Option.getD_some]
    split
    · rename_i hnull
      exact absurd hnull (hne b)
    · rw [hconvert b rfl, map_ok]

/-- A part that is left out when it is the default reads back as the part. -/
theorem optionalWith_unless {write : α → Value} {convert : Value → Except ConversionError α}
    {entries : List (Value × Value)} {key : Text} {default a : α} {isDefault : Bool}
    (hne : ∀ b, write b ≠ .null)
    (h : lookup key entries = if isDefault then none else some (write a))
    (hdefault : isDefault = true → a = default) (hconvert : convert (write a) = .ok a) :
    ∃ b, Value.optionalWith entries key convert = .ok b ∧ b.getD default = a := by
  cases hcase : isDefault with
  | true =>
    have hnone : lookup key entries = (none : Option α).map write := by
      rw [h, hcase]
      rfl
    exact ⟨none, optionalWith_of_lookup hne hnone nofun, (hdefault hcase).symm⟩
  | false =>
    have hsome : lookup key entries = (some a).map write := by
      rw [h, hcase]
      rfl
    refine ⟨some a, optionalWith_of_lookup hne hsome ?_, rfl⟩
    rintro _ ⟨⟩
    exact hconvert

theorem optional_insert_of_ne {key other : Text} (h : other ≠ key) (v : Value)
    (entries : List (Value × Value)) (shape : Shape α) (location : Text) :
    Value.optional (insert key v entries) other shape location =
      Value.optional entries other shape location := by
  rw [Value.optional, field_insert_of_ne h]
  rfl

theorem optionalWith_insert_of_ne {key other : Text} (h : other ≠ key) (v : Value)
    (entries : List (Value × Value)) (convert : Value → Except ConversionError α) :
    Value.optionalWith (insert key v entries) other convert =
      Value.optionalWith entries other convert := by
  rw [Value.optionalWith, field_insert_of_ne h]
  rfl

theorem optional_insert_self (key : Text) (fields entries : List (Value × Value))
    (location : Text) :
    Value.optional (insert key (.map fields) entries) key Shape.object location =
      .ok (some fields) := by
  rw [Value.optional, field_insert_self]
  rfl

theorem optionalWith_insert_self (key : Text) (fields entries : List (Value × Value))
    (convert : Value → Except ConversionError α) :
    Value.optionalWith (insert key (.map fields) entries) key convert =
      some <$> convert (.map fields) := by
  rw [Value.optionalWith, field_insert_self]

theorem optionalWith_of_field_eq_null {entries : List (Value × Value)} {key : Text}
    {convert : Value → Except ConversionError α} (h : field entries key = .null) :
    Value.optionalWith entries key convert = .ok none := by
  rw [Value.optionalWith, h]

theorem optionalWith_of_field_ne_null {entries : List (Value × Value)} {key : Text}
    {convert : Value → Except ConversionError α} (h : field entries key ≠ .null) :
    Value.optionalWith entries key convert = some <$> convert (field entries key) := by
  unfold Value.optionalWith
  split
  · rename_i hnull
    exact absurd hnull h
  · rfl

/-- What `convert` read is what stands in the entry. -/
theorem optionalWith_eq_some {entries : List (Value × Value)} {key : Text}
    {convert : Value → Except ConversionError α} {a : Option α} {b : α}
    (h : Value.optionalWith entries key convert = .ok a) (ha : a = some b) :
    convert (field entries key) = .ok b := by
  subst ha
  unfold Value.optionalWith at h
  split at h
  · cases h
  · obtain ⟨c, hc, heq⟩ := map_eq_ok.1 h
    cases heq
    exact hc

theorem optionalWith_eq_ok {entries : List (Value × Value)} {key : Text}
    {convert : Value → Except ConversionError α} {a : Option α}
    (h : Value.optionalWith entries key convert = .ok a) :
    (a = none ∧ field entries key = .null) ∨
      ∃ b v, a = some b ∧ lookup key entries = some v ∧ v ≠ .null ∧ convert v = .ok b := by
  unfold Value.optionalWith at h
  split at h
  · rename_i hnull
    cases h
    exact .inl ⟨rfl, hnull⟩
  · rename_i hne
    obtain ⟨b, hb, rfl⟩ := map_eq_ok.1 h
    exact .inr ⟨b, _, rfl, lookup_of_field_ne_null hne, hne, hb⟩

theorem optionalWith_of_lookup_eq_some {entries : List (Value × Value)} {key : Text}
    {convert : Value → Except ConversionError α} {a : Option α} {v : Value}
    (h : Value.optionalWith entries key convert = .ok a) (hv : lookup key entries = some v)
    (hne : v ≠ .null) : ∃ b, a = some b ∧ convert v = .ok b := by
  rcases optionalWith_eq_ok h with ⟨-, hnull⟩ | ⟨b, w, hb, hw, -, hconvert⟩
  · rw [field_of_lookup hv] at hnull
    exact absurd hnull hne
  · rw [hv] at hw
    cases hw
    exact ⟨b, hb, hconvert⟩

/-- The default, which `convert` reads out of no entries, is something that was read too. -/
theorem optionalWith_getD {entries : List (Value × Value)} {key : Text}
    {convert : Value → Except ConversionError α} {a : Option α} {default : α}
    (h : Value.optionalWith entries key convert = .ok a)
    (hdefault : convert (.map []) = .ok default) : ∃ v, convert v = .ok (a.getD default) := by
  cases a with
  | none => exact ⟨.map [], hdefault⟩
  | some b => exact ⟨field entries key, optionalWith_eq_some h rfl⟩

/-! ## Arrays -/

/-- What is among the converted items was read of one of the items. -/
theorem exists_of_mem_convertItems {convert : Text → Value → Except ConversionError α}
    {location : Text} {i : Nat} {items : List Value} {as : List α}
    (h : convertItems location convert i items = .ok as) :
    ∀ a ∈ as, ∃ location v, v ∈ items ∧ convert location v = .ok a := by
  induction items generalizing i as with
  | nil =>
    cases h
    nofun
  | cons v rest ih =>
    simp only [convertItems, bind_eq_ok] at h
    obtain ⟨a, ha, as', has, h⟩ := h
    cases h
    refine List.forall_mem_cons.2 ⟨⟨_, v, List.mem_cons_self, ha⟩, fun b hb => ?_⟩
    obtain ⟨location', w, hw, hread⟩ := ih has b hb
    exact ⟨location', w, List.mem_cons_of_mem v hw, hread⟩

/-- The converted items are those of the array, place by place. -/
theorem convertItems_getElem? {convert : Text → Value → Except ConversionError α}
    {location : Text} {i j : Nat} {items : List Value} {as : List α} {v : Value}
    (h : convertItems location convert i items = .ok as) (hj : items[j]? = some v) :
    ∃ a, as[j]? = some a ∧ convert (Location.item location (i + j)) v = .ok a := by
  induction items generalizing i j as with
  | nil => cases hj
  | cons w rest ih =>
    simp only [convertItems, bind_eq_ok] at h
    obtain ⟨a, ha, as', has, h⟩ := h
    cases h
    cases j with
    | zero =>
      cases hj
      exact ⟨a, rfl, ha⟩
    | succ j =>
      obtain ⟨b, hb, hread⟩ := ih has hj
      have hplace : i + 1 + j = i + (j + 1) := by omega
      rw [hplace] at hread
      exact ⟨b, hb, hread⟩

theorem length_convertItems {convert : Text → Value → Except ConversionError α}
    {location : Text} {i : Nat} {items : List Value} {as : List α}
    (h : convertItems location convert i items = .ok as) : as.length = items.length := by
  induction items generalizing i as with
  | nil =>
    cases h
    rfl
  | cons v rest ih =>
    simp only [convertItems, bind_eq_ok] at h
    obtain ⟨a, -, as', has, h⟩ := h
    cases h
    rw [List.length_cons, List.length_cons, ih has]

/-- An array is refused for one of its items. -/
theorem convertItems_failsWith_item (convert : Text → Value → Except ConversionError α)
    (location : Text) (i : Nat) (items : List Value) :
    FailsWith (fun e => ∃ j v, items[j]? = some v ∧
      convert (Location.item location (i + j)) v = .error e)
      (convertItems location convert i items) := by
  induction items generalizing i with
  | nil => exact failsWith_ok _
  | cons v rest ih =>
    rw [convertItems]
    refine .bind (fun e he => ⟨0, v, rfl, he⟩) fun _ _ => .bind ((ih (i + 1)).imp ?_)
      fun _ _ => failsWith_ok _
    rintro e ⟨j, w, hj, he⟩
    have hplace : i + 1 + j = i + (j + 1) := by omega
    rw [hplace] at he
    exact ⟨j + 1, w, hj, he⟩

/-- An array of things that read back reads back. -/
theorem convertItems_map {convert : Text → Value → Except ConversionError α} {write : α → Value}
    {as : List α} (hread : ∀ a ∈ as, ∀ location, convert location (write a) = .ok a)
    (location : Text) (i : Nat) :
    convertItems location convert i (as.map write) = .ok as := by
  induction as generalizing i with
  | nil => rfl
  | cons a rest ih =>
    obtain ⟨ha, hrest⟩ := List.forall_mem_cons.1 hread
    rw [List.map_cons, convertItems, ha, ok_bind, ih hrest, ok_bind]
    rfl

end Value
end Patchwork
