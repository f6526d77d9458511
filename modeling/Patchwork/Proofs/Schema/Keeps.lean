import Patchwork.Proofs.Conversion
import Patchwork.Proofs.Document.Reach
import Patchwork.Schema.ObjectSchema

/-!
# What a schema declares

A schema has a schema for each place that it knows of.  At the leaves it asks for a scalar or leaves
open what stands there.  A document is kept by what is written of it if the same stands at every
leaf.

* `Schema.at?` — the schema of a place; `Schema.isLeaf` — the schema is one of a leaf.
* `Schema.Keeps` — what stands at the leaves stands there after writing.
* `Schema.KeepsEntries` — the same for the entries of a map, with one lemma for each way of reading
  an entry.
* `Value.itemCount` — how many items an array has.
-/

set_option autoImplicit false

namespace Patchwork

open Value

/-! ## Places of a schema -/

namespace Schema

/-- The schema of the child that a segment selects. -/
def declared? : Segment → Schema → Option Schema
  | .field key, schema =>
    if schema.preserveUnknown then none else schema.properties.lookup key
  | .index _, schema => schema.items?

/-- The schema of a place. -/
def at? : FieldPath → Schema → Option Schema
  | [], schema => some schema
  | s :: rest, schema => (declared? s schema).bind (at? rest)

/-- The schema asks for a text, a number or a truth value. -/
def isScalar (schema : Schema) : Bool :=
  match schema.type? with
  | some .string | some .integer | some .number | some .boolean => true
  | _ => false

/-- The schema has nothing to say about entries or items. -/
def declaresNothing (schema : Schema) : Bool := schema.properties.isEmpty && schema.items?.isNone

/-- The schema is one of a scalar, or of a map or an array that it leaves open. -/
def isLeaf (schema : Schema) : Bool := schema.isScalar || schema.declaresNothing

variable {schema child : Schema} {mayDrop : FieldPath → Prop} {v u : Value} {w? : Option Value}

theorem declared?_of_declaresNothing (h : schema.declaresNothing = true) (s : Segment) :
    schema.declared? s = none := by
  simp only [declaresNothing, Bool.and_eq_true, List.isEmpty_iff,
    Option.isNone_iff_eq_none] at h
  obtain ⟨hproperties, hitems⟩ := h
  cases s with
  | field key => simp [declared?, hproperties]
  | index i => exact hitems

/-- What stands in `v` at the leaves of the schema stands in `w?`, apart from null, empty texts and
the empty maps that may be dropped. -/
def Keeps (schema : Schema) (mayDrop : FieldPath → Prop) (v : Value) (w? : Option Value) : Prop :=
  ∀ place leaf x, schema.at? place = some leaf → leaf.isLeaf = true → v.reach? place = some x →
    x ≠ .null → x ≠ .str "" → (mayDrop place → x ≠ .map []) → w?.bind (reach? place) = some x

theorem keeps_of_declaresNothing (hleaf : schema.declaresNothing = true)
    (h : v ≠ .null → v ≠ .str "" → (mayDrop [] → v ≠ .map []) → w? = some v) :
    schema.Keeps mayDrop v w? := by
  intro place leaf x hplace _ hx hnull hempty hdrop
  cases place with
  | nil =>
    cases hx
    rw [h hnull hempty hdrop]
    rfl
  | cons s rest =>
    rw [at?, declared?_of_declaresNothing hleaf] at hplace
    cases hplace

theorem keeps_null : schema.Keeps mayDrop .null w? := by
  intro place leaf x _ _ hx hnull
  cases place with
  | nil =>
    cases hx
    exact absurd rfl hnull
  | cons s rest =>
    rw [reach?, child?_null] at hx
    cases hx

/-- What has children is kept child by child. -/
theorem keeps_of_children (hleaf : schema.isLeaf = false)
    (h : ∀ s child u, schema.declared? s = some child → v.child? s = some u →
      child.Keeps (fun rest => mayDrop (s :: rest)) u (w?.bind (Value.child? s))) :
    schema.Keeps mayDrop v w? := by
  intro place leaf x hplace hleaf' hx hnull hempty hdrop
  cases place with
  | nil =>
    cases hplace
    rw [hleaf] at hleaf'
    cases hleaf'
  | cons s rest =>
    obtain ⟨child, hchild, hrest⟩ := Option.bind_eq_some_iff.1 hplace
    obtain ⟨u, hu, hx⟩ := Option.bind_eq_some_iff.1 hx
    have hkept := h s child u hchild hu rest leaf x hrest hleaf' hx hnull hempty hdrop
    rw [Option.bind_assoc] at hkept
    exact hkept

/-- Leaving out what is empty drops nothing that an empty map would hold. -/
theorem Keeps.unlessEmpty {written : List (Value × Value)}
    (h : schema.Keeps mayDrop v (some (.map written))) (hleaf : schema.isLeaf = false) :
    schema.Keeps mayDrop v (if written.isEmpty then none else some (.map written)) := by
  cases written with
  | cons entry rest => exact h
  | nil =>
    -- Below an empty map there is nothing that could have been kept.
    refine keeps_of_children hleaf fun s child u hchild hu rest leaf x hrest hleaf' hx hnull
      hempty hdrop => ?_
    have hplace : schema.at? (s :: rest) = some leaf := by rw [at?, hchild, Option.bind_some, hrest]
    have hreach : v.reach? (s :: rest) = some x := by rw [reach?, hu, Option.bind_some, hx]
    have hkept := h (s :: rest) leaf x hplace hleaf' hreach hnull hempty hdrop
    cases s <;> cases hkept

/-! ## Entries -/

/-- Every declared entry of `es` is kept in `fs`. -/
def KeepsEntries (properties : List (Text × Schema)) (mayDrop : FieldPath → Prop)
    (es fs : List (Value × Value)) : Prop :=
  ∀ p ∈ properties, ∀ u, lookup p.1 es = some u → u ≠ .null →
    p.2.Keeps (fun rest => mayDrop (.field p.1 :: rest)) u (lookup p.1 fs)

variable {es fs : List (Value × Value)} {key location : Text}
  {properties : List (Text × Schema)} {required : List Text} {β : Type}

theorem keepsEntries_nil : KeepsEntries [] mayDrop es fs := List.forall_mem_nil _

theorem KeepsEntries.append {others : List (Text × Schema)}
    (h : KeepsEntries properties mayDrop es fs) (hothers : KeepsEntries others mayDrop es fs) :
    KeepsEntries (properties ++ others) mayDrop es fs :=
  List.forall_mem_append.2 ⟨h, hothers⟩

theorem KeepsEntries.keeps (h : KeepsEntries properties mayDrop es fs) (hne : properties ≠ []) :
    (ObjectSchema.object required properties).Keeps mayDrop (.map es) (some (.map fs)) := by
  have hleaf : (ObjectSchema.object required properties).isLeaf = false := by
    cases properties with
    | nil => exact absurd rfl hne
    | cons p rest => rfl
  refine keeps_of_children hleaf fun s child u hchild hu => ?_
  cases s with
  | index i => cases hu
  | field key =>
    obtain ⟨before, after, rfl, -⟩ := List.lookup_eq_some_iff.1 hchild
    -- Null counts as absent, and nothing stands below it.
    by_cases hnull : u = .null
    · subst hnull
      exact keeps_null
    · exact h (key, child) (List.mem_append_right _ List.mem_cons_self) u hu hnull

theorem KeepsEntries.leaf {shape : Shape β} {write : β → Value} {given : Option β}
    (hleaf : child.declaresNothing = true)
    (hshape : ∀ {v b}, shape.ofValue? v = some b ↔ v = write b)
    (hread : Value.optional es key shape location = .ok given)
    (hwritten : ∀ b, given = some b → write b ≠ .str "" →
      (mayDrop [.field key] → write b ≠ .map []) → lookup key fs = some (write b))
    (h : KeepsEntries properties mayDrop es fs) :
    KeepsEntries ((key, child) :: properties) mayDrop es fs := by
  refine List.forall_mem_cons.2 ⟨fun u hu hne => ?_, h⟩
  obtain ⟨b, hb, hvalue⟩ := optional_of_lookup_eq_some hread hu hne
  obtain rfl := hshape.1 hvalue
  exact keeps_of_declaresNothing hleaf fun _ hempty hdrop => hwritten b hb hempty hdrop

theorem KeepsEntries.text {given : Option Text} (hleaf : child.declaresNothing = true)
    (hread : Value.optional es key .string location = .ok given)
    (hwritten : ∀ text, given = some text → text ≠ "" → lookup key fs = some (.str text))
    (h : KeepsEntries properties mayDrop es fs) :
    KeepsEntries ((key, child) :: properties) mayDrop es fs := by
  refine .leaf hleaf Shape.string_eq_some hread (fun text htext hne _ => ?_) h
  refine hwritten text htext ?_
  rintro rfl
  exact hne rfl

theorem KeepsEntries.part {convert : Value → Except ConversionError β} {given : Option β}
    (written : β → Option Value) (hread : Value.optionalWith es key convert = .ok given)
    (hkeeps : ∀ b u, convert u = .ok b → lookup key es = some u → u ≠ .null →
      child.Keeps (fun rest => mayDrop (.field key :: rest)) u (written b))
    (hwritten : ∀ b, given = some b → lookup key fs = written b)
    (h : KeepsEntries properties mayDrop es fs) :
    KeepsEntries ((key, child) :: properties) mayDrop es fs := by
  refine List.forall_mem_cons.2 ⟨fun u hu hne => ?_, h⟩
  obtain ⟨b, hb, hconvert⟩ := optionalWith_of_lookup_eq_some hread hu hne
  simp only [hwritten b hb]
  exact hkeeps b u hconvert hu hne

/-- A map that is read entry by entry is kept if its entries are. -/
theorem KeepsEntries.object {given : Option (List (Value × Value))}
    {inner : List (Text × Schema)} (hne : inner ≠ [])
    (hread : Value.optional es key .object location = .ok given)
    (hentries : ∀ fields, given = some fields → ∃ out, lookup key fs = some (.map out) ∧
      KeepsEntries inner (fun rest => mayDrop (.field key :: rest)) fields out)
    (h : KeepsEntries properties mayDrop es fs) :
    KeepsEntries ((key, ObjectSchema.object required inner) :: properties) mayDrop es fs := by
  refine List.forall_mem_cons.2 ⟨fun u hu hnull => ?_, h⟩
  obtain ⟨fields, hfields, hvalue⟩ := optional_of_lookup_eq_some hread hu hnull
  obtain rfl := Shape.object_eq_some.1 hvalue
  obtain ⟨out, hout, hkeeps⟩ := hentries fields hfields
  simp only [hout]
  exact hkeeps.keeps hne

/-- An array that is read item by item is kept if its items are. -/
theorem KeepsEntries.array {given : Option (List Value)} {inner : Text}
    {convert : Text → Value → Except ConversionError β} {write : β → Value} {as : List β}
    (hread : Value.optional es key .array location = .ok given)
    (hitems : convertItems inner convert 0 (given.getD []) = .ok as)
    (hwritten : lookup key fs =
      if (as.map write).isEmpty then none else some (.list (as.map write)))
    (hitem : ∀ location v a, convert location v = .ok a → ∀ mayDrop,
      child.Keeps mayDrop v (some (write a)))
    (h : KeepsEntries properties mayDrop es fs) :
    KeepsEntries ((key, ObjectSchema.arrayOf child) :: properties) mayDrop es fs := by
  refine List.forall_mem_cons.2 ⟨fun u hu hnull => ?_, h⟩
  obtain ⟨items, rfl, hvalue⟩ := optional_of_lookup_eq_some hread hu hnull
  obtain rfl := Shape.array_eq_some.1 hvalue
  refine keeps_of_children rfl fun s c v hc hv => ?_
  cases s with
  | field key => cases hv
  | index i =>
    cases hc
    obtain ⟨a, ha, hconvert⟩ := convertItems_getElem? hitems hv
    -- There is an item, so the array is not one that is left out.
    have hne : (as.map write).isEmpty = false := by
      cases as with
      | nil => cases ha
      | cons a rest => rfl
    have hchild : (lookup key fs).bind (Value.child? (.index i)) = some (write a) := by
      rw [hwritten, hne]
      simp [Value.child?, ha]
    rw [hchild]
    exact hitem _ v a hconvert _

end Schema

/-! ## Items -/

namespace Value

/-- The number of items of the array at a place, none where there is no array. -/
def itemCount (place : FieldPath) (v : Value) : Nat :=
  match v.reach? place with
  | some (.list items) => items.length
  | _ => 0

variable {es : List (Value × Value)} {key : Text} {place : FieldPath} {α : Type}

theorem itemCount_map (es : List (Value × Value)) (key : Text) (place : FieldPath) :
    (Value.map es).itemCount (.field key :: place) =
      (lookup key es).elim 0 (itemCount place) := by
  rw [itemCount, reach?, child?]
  cases lookup key es <;> rfl

theorem itemCount_of_field_eq_null (h : field es key = .null) :
    (Value.map es).itemCount (.field key :: place) = 0 := by
  rw [itemCount_map]
  cases hlookup : lookup key es with
  | none => rfl
  | some u =>
    rw [field_of_lookup hlookup] at h
    cases h
    cases place with
    | nil => rfl
    | cons s rest => rw [Option.elim_some, itemCount, reach?, child?_null]; rfl

theorem itemCount_of_optional {given : Option (List Value)} {location : Text}
    (h : Value.optional es key .array location = .ok given) :
    (Value.map es).itemCount [.field key] = (given.getD []).length := by
  rcases optional_eq_ok h with ⟨rfl, hnull⟩ | ⟨items, u, rfl, hu, -, hvalue⟩
  · rw [itemCount_of_field_eq_null hnull]
    rfl
  · obtain rfl := Shape.array_eq_some.1 hvalue
    rw [itemCount_map, hu]
    rfl

theorem itemCount_of_unlessEmpty {items : List Value}
    (h : lookup key es = if items.isEmpty then none else some (.list items)) :
    (Value.map es).itemCount [.field key] = items.length := by
  rw [itemCount_map, h]
  cases items <;> rfl

/-- What is counted in a part is counted in the whole. -/
theorem itemCount_of_optionalWith {convert : Value → Except ConversionError α} {given : Option α}
    (count : α → Nat) (default : α) (h : Value.optionalWith es key convert = .ok given)
    (hcount : ∀ u b, convert u = .ok b → u.itemCount place = count b)
    (hdefault : count default = 0) :
    (Value.map es).itemCount (.field key :: place) = count (given.getD default) := by
  rcases optionalWith_eq_ok h with ⟨rfl, hnull⟩ | ⟨b, u, rfl, hu, -, hconvert⟩
  · rw [itemCount_of_field_eq_null hnull]
    exact hdefault.symm
  · rw [itemCount_map, hu]
    exact hcount u b hconvert

end Value
end Patchwork
