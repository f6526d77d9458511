import Patchwork.Proofs.Json

/-!
# Where a value is refused

Conversion refuses a value for a node somewhere inside it, and names the location of that node.

* `Value.Within` — a node stands at a location inside a value.
* `Value.Refused` — JSON cannot hold a node, whatever its parts are, and why.
* `Value.unstructured_failsWith` — conversion refuses nothing else, and nowhere else.
-/

set_option autoImplicit false

namespace Patchwork
namespace Value

/-- The values of the kinds that JSON does not know. -/
def isForeign : Value → Bool
  | .date _ | .datetime _ | .bytes _ | .set _ => true
  | _ => false

def items? : Value → Option (List Value)
  | .list items | .tuple items => some items
  | _ => none

/-- JSON cannot hold the node itself: it is of a kind that JSON does not know, has a key that is no
text, or is nested without end. -/
inductive Refused : Value → ConversionFault → Prop where
  | kind {v : Value} (h : v.isForeign = true) : Refused v (.unsupported v.kindName)
  | key {entries : List (Value × Value)} {key v : Value} (h : (key, v) ∈ entries)
      (hkey : ∀ text, key ≠ .str text) : Refused (.map entries) (.keyNotText key)
  | endless : Refused .endless .endless

/-- Refusing the node meets a limit: its key cannot be written out, or it has no end. -/
inductive MeetsLimit : Value → Limit → Prop where
  | key {entries : List (Value × Value)} {key v : Value} {limit : Limit}
      (h : (key, v) ∈ entries) (hkey : ∀ text, key ≠ .str text) (hlimit : key.limit? = some limit) :
      MeetsLimit (.map entries) limit
  | endless : MeetsLimit .endless .nesting

theorem Refused.meetsLimit {node : Value} {e : ConversionError} {limit : Limit}
    (h : node.Refused e.fault) (hlimit : e.limit? = some limit) : node.MeetsLimit limit := by
  obtain ⟨location, fault⟩ := e
  cases h with
  | kind _ => cases hlimit
  | key hmem hkey => exact .key hmem hkey hlimit
  | endless =>
    cases hlimit
    exact .endless

/-- `Within v location node place`: inside `v`, which stands at `location`, the node stands at
`place`. -/
inductive Within : Value → Text → Value → Text → Prop where
  | here (v : Value) (location : Text) : Within v location v location
  | entry {entries : List (Value × Value)} {key location place : Text} {v node : Value}
      (h : (.str key, v) ∈ entries) (hv : Within v (Location.entry location key) node place) :
      Within (.map entries) location node place
  | item {sequence : Value} {items : List Value} {i : Nat} {location place : Text}
      {v node : Value} (hitems : sequence.items? = some items) (h : items[i]? = some v)
      (hv : Within v (Location.item location i) node place) : Within sequence location node place

/-- The error names a node inside the value that JSON cannot hold. -/
def RefusedWithin (v : Value) (location : Text) (e : ConversionError) : Prop :=
  ∃ node, Within v location node e.location ∧ node.Refused e.fault

/-- The error names an entry whose key is no text, or a node inside what stands under a text. -/
def EntryRefused (entries : List (Value × Value)) (location : Text) (e : ConversionError) :
    Prop :=
  ∃ key v, (key, v) ∈ entries ∧
    ((∃ text, key = .str text ∧ RefusedWithin v (Location.entry location text) e) ∨
      ((∀ text, key ≠ .str text) ∧ e = ⟨location, .keyNotText key⟩))

variable {entries : List (Value × Value)} {location : Text} {e : ConversionError}

theorem EntryRefused.within (h : EntryRefused entries location e) :
    RefusedWithin (.map entries) location e := by
  obtain ⟨key, v, hmem, ⟨text, rfl, node, hnode, hrefused⟩ | ⟨hkey, rfl⟩⟩ := h
  · exact ⟨node, .entry hmem hnode, hrefused⟩
  · exact ⟨.map entries, .here _ _, .key hmem hkey⟩

theorem EntryRefused.cons (h : EntryRefused entries location e) (entry : Value × Value) :
    EntryRefused (entry :: entries) location e := by
  obtain ⟨key, v, hmem, h⟩ := h
  exact ⟨key, v, List.mem_cons_of_mem _ hmem, h⟩

/-- The error names a node inside an item; the items are counted from `i` on. -/
def ItemRefused (items : List Value) (location : Text) (i : Nat) (e : ConversionError) : Prop :=
  ∃ j v, items[j]? = some v ∧ RefusedWithin v (Location.item location (i + j)) e

theorem ItemRefused.cons {items : List Value} {i : Nat}
    (h : ItemRefused items location (i + 1) e) (v : Value) :
    ItemRefused (v :: items) location i e := by
  obtain ⟨j, w, hj, h⟩ := h
  have hplace : i + 1 + j = i + (j + 1) := by omega
  rw [hplace] at h
  exact ⟨j + 1, w, hj, h⟩

theorem ItemRefused.within {sequence : Value} {items : List Value}
    (hitems : sequence.items? = some items) (h : ItemRefused items location 0 e) :
    RefusedWithin sequence location e := by
  obtain ⟨i, v, hi, node, hnode, hrefused⟩ := h
  rw [Nat.zero_add] at hnode
  exact ⟨node, .item hitems hi hnode, hrefused⟩

mutual

/-- **Conversion refuses a value for a node inside it that JSON cannot hold**, and for nothing
else. -/
theorem unstructured_failsWith : ∀ (v : Value) (location : Text),
    FailsWith (RefusedWithin v location) (unstructured location v)
  | .null, _ | .bool _, _ | .int _, _ | .float _, _ | .str _, _ => failsWith_ok _
  | .map entries, location => by
    have hentries := unstructuredEntries_failsWith entries location
    exact (hentries.imp fun _ => EntryRefused.within).map _
  | .list items, location | .tuple items, location => by
    have hitems := unstructuredItems_failsWith items location 0
    exact (hitems.imp fun _ => ItemRefused.within rfl).map _
  | .date d, location => by
    rintro e ⟨⟩
    exact ⟨.date d, .here _ _, .kind rfl⟩
  | .datetime t, location => by
    rintro e ⟨⟩
    exact ⟨.datetime t, .here _ _, .kind rfl⟩
  | .bytes bs, location => by
    rintro e ⟨⟩
    exact ⟨.bytes bs, .here _ _, .kind rfl⟩
  | .set members, location => by
    rintro e ⟨⟩
    exact ⟨.set members, .here _ _, .kind rfl⟩
  | .endless, location => by
    rintro e ⟨⟩
    exact ⟨.endless, .here _ _, .endless⟩

theorem unstructuredItems_failsWith : ∀ (items : List Value) (location : Text) (i : Nat),
    FailsWith (ItemRefused items location i) (unstructuredItems location i items)
  | [], _, _ => failsWith_ok _
  | v :: rest, location, i => by
    have hv := unstructured_failsWith v (Location.item location i)
    have hrest := unstructuredItems_failsWith rest location (i + 1)
    rw [unstructuredItems]
    refine (hv.imp fun e he => ⟨0, v, rfl, he⟩).bind fun _ _ => ?_
    exact (hrest.imp fun e he => he.cons v).bind fun _ _ => failsWith_ok _

theorem unstructuredEntries_failsWith : ∀ (entries : List (Value × Value)) (location : Text),
    FailsWith (EntryRefused entries location) (unstructuredEntries location entries)
  | [], _ => failsWith_ok _
  | (key, v) :: rest, location => by
    have hrest := unstructuredEntries_failsWith rest location
    cases key
    case str text =>
      have hv := unstructured_failsWith v (Location.entry location text)
      rw [unstructuredEntries]
      refine (hv.imp fun e he => ⟨_, v, List.mem_cons_self, .inl ⟨text, rfl, he⟩⟩).bind
        fun _ _ => ?_
      exact (hrest.imp fun e he => he.cons _).bind fun _ _ => failsWith_ok _
    all_goals
      rintro e ⟨⟩
      exact ⟨_, v, List.mem_cons_self, .inr ⟨fun _ => Value.noConfusion, rfl⟩⟩

end

/-! ## Values that JSON can hold -/

/-- No node inside the value is refused; tuples are not, as they can be copied to arrays. -/
def IsConvertible (v : Value) : Prop :=
  ∀ location node place fault, Within v location node place → ¬ node.Refused fault

theorem allJson_items? {sequence : Value} {items : List Value} (h : sequence.isJson = true)
    (hitems : sequence.items? = some items) : allJson items = true := by
  cases sequence <;> cases hitems
  case list => exact h
  case tuple => cases h

theorem Within.isJson {v node : Value} {place : Text} (h : Within v location node place)
    (hv : v.isJson = true) : node.isJson = true := by
  induction h with
  | here => exact hv
  | entry hmem _ ih => exact ih (entry_of_entriesJson hv hmem).2
  | item hitems hi _ ih =>
    have hjson := allJson_items? hv hitems
    exact ih (allJson_iff.1 hjson _ (List.mem_of_getElem? hi))

theorem isConvertible_of_isJson {v : Value} (h : v.isJson = true) : v.IsConvertible := by
  intro location node place fault hnode hrefused
  have hjson := hnode.isJson h
  cases hrefused with
  | kind hforeign => cases node <;> simp_all [isForeign, Value.isJson]
  | key hmem hkey =>
    obtain ⟨text, htext⟩ := (entry_of_entriesJson hjson hmem).1
    exact hkey text htext
  | endless => cases hjson

end Value
end Patchwork
